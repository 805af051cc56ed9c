import YkLock.Library.WaitingLine
import YkLock.Model.Button

/-! `rt_sem_take` and `rt_sem_release` of `ipc.c`, with the threads that are suspended on the
semaphore. -/

namespace YkLock

open Library.WaitingLine

inductive IpcFlag
  | fifo | prio
  deriving DecidableEq, Repr

def rtSemValueMax : ℕ := 0xFFFF

structure RtSemaphore (T : Type) where
  value : ℕ
  flag : IpcFlag
  suspendThread : List T

inductive SemPc
  | idle
  | suspended (timer : Bool)
  | resumed (error : ℤ)
  deriving DecidableEq, Repr

/-- The semaphore and the threads. The time at which each of them was suspended, the permits in
their order and what `rt_sem_take` returned are kept beside. -/
structure SemSystem (T : Type) where
  sem : RtSemaphore T
  currentPriority : T → ℕ
  pc : T → SemPc
  now : ℕ
  since : T → ℕ
  log : List (Permit T)
  returned : T → List ℤ

variable {T : Type}

def rtSemInit (value : ℕ) (flag : IpcFlag) (currentPriority : T → ℕ) : SemSystem T :=
  ⟨⟨value, flag, []⟩, currentPriority, fun _ => .idle, 0, fun _ => 0, [], fun _ => []⟩

variable [DecidableEq T]

def ipcListSuspend (flag : IpcFlag) (currentPriority : T → ℕ) (t : T) (list : List T) : List T :=
  match flag with
  | .fifo => list ++ [t]
  | .prio => list.orderedInsert (fun a b => currentPriority a < currentPriority b) t

def SemSystem.returns (t : T) (error : ℤ) (s : SemSystem T) : SemSystem T :=
  { s with
    pc := Function.update s.pc t .idle
    returned := Function.update s.returned t (s.returned t ++ [error]) }

def SemSystem.suspend (t : T) (timer : Bool) (s : SemSystem T) : SemSystem T :=
  { s with
    sem := { s.sem with
      suspendThread := ipcListSuspend s.sem.flag s.currentPriority t s.sem.suspendThread }
    pc := Function.update s.pc t (.suspended timer)
    now := s.now + 1
    since := Function.update s.since t s.now }

def rtSemTake (t : T) (timeout : ℤ) (s : SemSystem T) : SemSystem T :=
  if s.pc t ≠ .idle then s
  else if 0 < s.sem.value then
    SemSystem.returns t rtEok
      { s with sem := { s.sem with value := s.sem.value - 1 }, log := s.log ++ [.take t] }
  else if timeout = 0 then s.returns t (-rtEtimeout)
  else s.suspend t (0 < timeout)

/-- `rt_sem_release`; a value at its largest stays. -/
def rtSemRelease (s : SemSystem T) : SemSystem T :=
  match s.sem.suspendThread with
  | t :: rest => { s with
    sem := { s.sem with suspendThread := rest }
    pc := Function.update s.pc t (.resumed rtEok)
    log := s.log ++ [.release, .take t] }
  | [] =>
    if s.sem.value < rtSemValueMax then
      { s with sem := { s.sem with value := s.sem.value + 1 }, log := s.log ++ [.release] }
    else s

def threadTimeout (t : T) (s : SemSystem T) : SemSystem T :=
  match s.pc t with
  | .suspended true => { s with
    sem := { s.sem with suspendThread := s.sem.suspendThread.erase t }
    pc := Function.update s.pc t (.resumed (-rtEtimeout)) }
  | _ => s

def semSchedule (t : T) (s : SemSystem T) : SemSystem T :=
  match s.pc t with
  | .resumed error => s.returns t error
  | _ => s

inductive SemAction (T : Type)
  | take (t : T) (timeout : ℤ)
  | release
  | timeout (t : T)
  | schedule (t : T)

def semStep (a : SemAction T) (s : SemSystem T) : SemSystem T :=
  match a with
  | .take t timeout => rtSemTake t timeout s
  | .release => rtSemRelease s
  | .timeout t => threadTimeout t s
  | .schedule t => semSchedule t s

end YkLock
