import YkLock.Model.Semaphore

/-! `rt_mutex_take` and `rt_mutex_release` of `ipc.c` with the threads that are suspended on the
mutex and the priority that its owner inherits from them. -/

namespace YkLock.Ipc

/-- The mutex, which no thread holds next to another one, and the threads. The time at which each of
them was suspended, what `rt_mutex_take` returned and the releases are kept beside. -/
structure MutexSystem (T : Type) where
  owner : Option T
  hold : ℕ
  priority : ℕ
  suspendThread : List T
  initPriority : T → ℕ
  currentPriority : T → ℕ
  pc : T → SemPc
  now : ℕ
  since : T → ℕ
  returned : T → List ℤ
  released : T → ℕ

variable {T : Type}

def rtMutexInit (initPriority : T → ℕ) : MutexSystem T :=
  ⟨none, 0, 0xff, [], initPriority, initPriority, fun _ => .idle, 0, fun _ => 0, fun _ => [],
    fun _ => 0⟩

def pendingPriority (currentPriority : T → ℕ) (list : List T) : ℕ :=
  match list with
  | th :: _ => currentPriority th
  | [] => 0xff

variable [DecidableEq T]

def MutexSystem.returns (t : T) (error : ℤ) (s : MutexSystem T) : MutexSystem T :=
  { s with
    pc := Function.update s.pc t .idle
    returned := Function.update s.returned t (s.returned t ++ [error]) }

def MutexSystem.suspend (t owner : T) (timer : Bool) (s : MutexSystem T) : MutexSystem T :=
  { s with
    priority := if s.currentPriority t < s.priority then s.currentPriority t else s.priority
    suspendThread := ipcListSuspend .prio s.currentPriority t s.suspendThread
    currentPriority :=
      if s.currentPriority t < s.priority ∧ s.currentPriority t < s.currentPriority owner then
        Function.update s.currentPriority owner (s.currentPriority t)
      else s.currentPriority
    pc := Function.update s.pc t (.suspended timer)
    now := s.now + 1
    since := Function.update s.since t s.now }

def rtMutexTake (t : T) (timeout : ℤ) (s : MutexSystem T) : MutexSystem T :=
  if s.pc t ≠ .idle then s
  else
    match s.owner with
    | none =>
      MutexSystem.returns t rtEok { s with owner := some t, priority := 0xff, hold := 1 }
    | some owner =>
      if owner = t then
        if s.hold < rtMutexHoldMax then
          MutexSystem.returns t rtEok { s with hold := s.hold + 1 }
        else s.returns t (-rtEfull)
      else if timeout = 0 then s.returns t (-rtEtimeout)
      else s.suspend t owner (0 < timeout)

def MutexSystem.pass (t : T) (s : MutexSystem T) : MutexSystem T :=
  let currentPriority :=
    if s.currentPriority t = s.priority then
      Function.update s.currentPriority t (s.initPriority t)
    else s.currentPriority
  match s.suspendThread with
  | next :: rest => { s with
    owner := some next
    hold := 1
    priority := pendingPriority currentPriority rest
    suspendThread := rest
    currentPriority := currentPriority
    pc := Function.update s.pc next (.resumed rtEok)
    released := Function.update s.released t (s.released t + 1) }
  | [] => { s with
    owner := none
    hold := 0
    priority := 0xff
    currentPriority := currentPriority
    released := Function.update s.released t (s.released t + 1) }

def rtMutexRelease (t : T) (s : MutexSystem T) : MutexSystem T :=
  if s.pc t ≠ .idle ∨ s.owner ≠ some t then s
  else if s.hold - 1 = 0 then s.pass t
  else { s with
    hold := s.hold - 1
    released := Function.update s.released t (s.released t + 1) }

def mutexTimeout (t : T) (s : MutexSystem T) : MutexSystem T :=
  match s.pc t with
  | .suspended true => { s with
    suspendThread := s.suspendThread.erase t
    pc := Function.update s.pc t (.resumed (-rtEtimeout)) }
  | _ => s

def MutexSystem.detach (t : T) (s : MutexSystem T) : MutexSystem T :=
  let priority := pendingPriority s.currentPriority s.suspendThread
  { s with
    priority := priority
    currentPriority :=
      match s.owner with
      | some owner =>
        if s.currentPriority owner = s.currentPriority t then
          Function.update s.currentPriority owner (min (s.initPriority owner) priority)
        else s.currentPriority
      | none => s.currentPriority }

def mutexSchedule (t : T) (s : MutexSystem T) : MutexSystem T :=
  match s.pc t with
  | .resumed error => if error = rtEok then s.returns t error else (s.detach t).returns t error
  | _ => s

inductive MutexAction (T : Type)
  | take (t : T) (timeout : ℤ)
  | release (t : T)
  | timeout (t : T)
  | schedule (t : T)

def mutexStep (a : MutexAction T) (s : MutexSystem T) : MutexSystem T :=
  match a with
  | .take t timeout => rtMutexTake t timeout s
  | .release t => rtMutexRelease t s
  | .timeout t => mutexTimeout t s
  | .schedule t => mutexSchedule t s

end YkLock.Ipc
