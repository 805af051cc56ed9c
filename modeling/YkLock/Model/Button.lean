import YkLock.Model.Device

/-! The button of `button.c` and `main.c`: its callback on the scan thread, the threads it starts,
and the mutex of `ipc.c` between them. -/

namespace YkLock

inductive FlexButtonEvent
  | pressDown | pressClick | pressDoubleClick | pressRepeatClick | pressShortStart | pressShortUp
  | pressLongStart | pressLongUp | pressLongHold | pressLongHoldUp | pressMax | pressNone
  deriving DecidableEq, Repr

inductive ThreadId
  | scan | can | btn (n : ℕ)
  deriving DecidableEq, Repr

structure RtMutex where
  owner : Option ThreadId
  hold : ℕ
  deriving DecidableEq, Repr

def rtMutexHoldMax : ℕ := 255

def rtEok : ℤ := 0
def rtError : ℤ := 1
def rtEtimeout : ℤ := 2
def rtEfull : ℤ := 3

/-- `rt_mutex_take` with `RT_WAITING_NO`; with `RT_WAITING_FOREVER` a thread that would get
`-RT_ETIMEOUT` waits instead. -/
def rtMutexTake (self : ThreadId) (mutex : RtMutex) : ℤ × RtMutex :=
  if mutex.owner = some self then
    if mutex.hold < rtMutexHoldMax then (rtEok, { mutex with hold := mutex.hold + 1 })
    else (-rtEfull, mutex)
  else if mutex.owner = none then (rtEok, ⟨some self, 1⟩)
  else (-rtEtimeout, mutex)

def rtMutexRelease (self : ThreadId) (mutex : RtMutex) : ℤ × RtMutex :=
  if mutex.owner ≠ some self then (-rtError, mutex)
  else if mutex.hold - 1 = 0 then (rtEok, ⟨none, 0⟩)
  else (rtEok, { mutex with hold := mutex.hold - 1 })

variable {D : Type} (b : Board D)

def btnFrame : Fw D (List Byte) := do
  let addr ← getAddr b
  let check ← avcRelayCheck b
  return withCrc [0, 0, 0, 0x03, 0x32, addr, if check then 0x01 else 0x10]

def threadBtnPress : Fw D Bool := do
  if (← get).info.lockType ≠ .avcSwitch then return false
  else
    let buff ← btnFrame b
    channelWrite buff
    return true

inductive BtnPc
  | entry | build | takeTx | write | releaseTx | release | ended
  deriving DecidableEq, Repr

structure BtnThread where
  pc : BtnPc
  buff : List Byte

def BtnThread.alive (t : BtnThread) : Bool := t.pc != .ended

structure BtnSystem (D : Type) where
  world : World D
  mutex : RtMutex
  txLock : RtMutex
  threads : List BtnThread

def btnStart (w : World D) : BtnSystem D := ⟨w, ⟨none, 0⟩, ⟨none, 0⟩, []⟩

def btnPressCb (s : BtnSystem D) : BtnSystem D :=
  if (rtMutexTake .scan s.mutex).1 = rtError then { s with mutex := (rtMutexTake .scan s.mutex).2 }
  else
    { s with
      mutex := (rtMutexTake .scan s.mutex).2
      threads := s.threads ++ [⟨.entry, []⟩] }

def buttonEventCb (event : FlexButtonEvent) (s : BtnSystem D) : BtnSystem D :=
  match event with
  | .pressDown => btnPressCb s
  | _ => s

def btnThreadStep (n : ℕ) (t : BtnThread) (s : BtnSystem D) : BtnThread × BtnSystem D :=
  match t.pc with
  | .entry => ({ t with pc := if s.world.info.lockType ≠ .avcSwitch then .ended else .build }, s)
  | .build =>
    (⟨.takeTx, ((btnFrame b).run s.world).1⟩, { s with world := ((btnFrame b).run s.world).2 })
  | .takeTx =>
    if (rtMutexTake (.btn n) s.txLock).1 = rtEok then
      ({ t with pc := .write }, { s with txLock := (rtMutexTake (.btn n) s.txLock).2 })
    else (t, s)
  | .write =>
    ({ t with pc := .releaseTx }, { s with world := ((channelWrite t.buff).run s.world).2 })
  | .releaseTx =>
    ({ t with pc := .release }, { s with txLock := (rtMutexRelease (.btn n) s.txLock).2 })
  | .release =>
    ({ t with pc := .ended }, { s with mutex := (rtMutexRelease (.btn n) s.mutex).2 })
  | .ended => (t, s)

/-- Besides the scan thread and the threads it starts, the others may change the world between any
two steps, and the receive thread sends replies of its own. -/
inductive BtnAction (D : Type)
  | scan (event : FlexButtonEvent)
  | btn (n : ℕ)
  | others (f : World D → World D)
  | canTake
  | canRelease

def btnStep (a : BtnAction D) (s : BtnSystem D) : BtnSystem D :=
  match a with
  | .scan event => buttonEventCb event s
  | .btn n =>
    match s.threads[n]? with
    | none => s
    | some t =>
      { (btnThreadStep b n t s).2 with threads := s.threads.set n (btnThreadStep b n t s).1 }
  | .others f => { s with world := f s.world }
  | .canTake => { s with txLock := (rtMutexTake .can s.txLock).2 }
  | .canRelease => { s with txLock := (rtMutexRelease .can s.txLock).2 }

end YkLock
