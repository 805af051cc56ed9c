import YkLock.Model.Device

/-! The CAN channel of `can_channel.c` above `drv_can.c` and `can.c`: both directions of a frame,
and the receive thread behind the driver's queue. -/

namespace YkLock

structure CanRxHeader where
  ide : Bool
  rtr : Bool
  stdId : BitVec 11
  extId : BitVec 29
  dlc : BitVec 4

/-- `behind` is what memory holds behind the eight bytes of `data`. -/
def canRecvmsg (rxheader : CanRxHeader) (data : Vector Byte 8) (behind : ℕ → Byte) : CanMsg where
  id := if rxheader.ide = false then rxheader.stdId.setWidth 29 else rxheader.extId
  ide := rxheader.ide
  rtr := rxheader.rtr
  len := rxheader.dlc.setWidth 8
  data i := data.toList.getD i (behind i)

inductive Access
  | writeBuff (i : ℕ)
  | readBuff (i : ℕ)
  | readData (i : ℕ)
  deriving DecidableEq, Repr

abbrev Traced := StateM (List Access)

def storeBuff (i : ℕ) (x : Byte) : Traced Byte := fun t => (x, .writeBuff i :: t)

def printBuff (i : ℕ) : Traced Unit := fun t => ((), .readBuff i :: t)

def CanMsg.at (rxMsg : CanMsg) (i : ℕ) : Traced Byte := fun t =>
  (rxMsg.data i, .readData i :: t)

def canCopyTraced (rxMsg : CanMsg) (len size : ℕ) : ℕ → Traced (List Byte)
  | 0 => return []
  | n + 1 =>
    if size < len ∧ size < rxMsg.len.toNat + 3 then do
      let x ← rxMsg.at (size - 3)
      let x ← storeBuff size x
      return x :: (← canCopyTraced rxMsg len (size + 1) n)
    else return []

def canChannelReadTraced (rxMsg : CanMsg) (len : ℕ) : Traced (List Byte) := do
  if len < 3 then return []
  else
    let id := rxMsg.id.setWidth 32
    let h0 ← storeBuff 0 (byteAt id 16)
    let h1 ← storeBuff 1 (byteAt id 8)
    let h2 ← storeBuff 2 (byteAt id 0)
    let data ← canCopyTraced rxMsg len 3 len
    let _ ← (List.range (len - 3)).mapM rxMsg.at
    return h0 :: h1 :: h2 :: data

variable {D : Type}

/-- The call `thread_can_rx` makes for a message: `rx_cb` up to its handler, which gets the buffer
the parser was given. -/
def rxCbTraced (w : World D) (rxMsg : CanMsg) (tail : ℕ → Byte) : Traced Buffer := do
  let len := rxMsg.len.toNat + 3
  let buff : Buffer := ⟨← canChannelReadTraced rxMsg len, tail⟩
  if w.installed = true ∧ ((protocolParser buff).run w).1.isSome = true then
    let _ ← (List.range' 3 (len - 3)).mapM printBuff
    return buff
  else return buff

def canTxDefaultMessage : CanMsg := ⟨0, true, false, 0, fun _ => 0⟩

def canChannelWrite (data : List Byte) : Option CanMsg :=
  if data.length < 3 then none
  else
    let id : Word := (data.getD 0 0).setWidth 32 <<< 16 + (data.getD 1 0).setWidth 32 <<< 8 +
      (data.getD 2 0).setWidth 32 <<< 0
    some { canTxDefaultMessage with
      id := canTxDefaultMessage.id + id.setWidth 29
      len := BitVec.ofNat 8 (data.length - 3)
      data := fun i =>
        if i < data.length - 3 then data.getD (3 + i) 0 else canTxDefaultMessage.data i }

def rtCanmsgBoxSz : ℕ := 16

inductive RxPc
  | take | read | call
  deriving DecidableEq, Repr

abbrev Arrival := ℕ × CanMsg

/-- The driver's queue, the semaphore, and `thread_can_rx` with its buffer (zeroed before the first
read), next to the frames that have arrived and those `rx_callback` was called for. -/
structure RxState where
  uselist : List Arrival
  sem : ℕ
  pc : RxPc
  msgBuff : Option Arrival
  arrived : List CanMsg
  delivered : List (Option Arrival)

def rxStart : RxState := ⟨[], 0, .take, none, [], []⟩

def canRxCall (s : RxState) : RxState := { s with sem := s.sem + 1 }

/-- With no free entry left the oldest used one is taken. -/
def rtHwCanIsr (msg : CanMsg) (s : RxState) : RxState :=
  let uselist := if s.uselist.length < rtCanmsgBoxSz then s.uselist else s.uselist.tail
  canRxCall { s with
    uselist := uselist ++ [(s.arrived.length, msg)]
    arrived := s.arrived ++ [msg] }

def sizeofCanMsg : ℕ := 16

def rtDeviceRead (s : RxState) : ℕ × RxState :=
  match s.uselist with
  | [] => (0, s)
  | msg :: rest => (sizeofCanMsg, { s with uselist := rest, msgBuff := some msg })

/-- One step of `thread_can_rx`, which does not look at what `rt_device_read` returns. -/
def threadCanRx (s : RxState) : RxState :=
  match s.pc with
  | .take => if s.sem = 0 then s else { s with sem := s.sem - 1, pc := .read }
  | .read => { (rtDeviceRead s).2 with pc := .call }
  | .call => { s with delivered := s.delivered ++ [s.msgBuff], pc := .take }

inductive RxAction
  | arrive (msg : CanMsg)
  | thread

def rxStep (a : RxAction) (s : RxState) : RxState :=
  match a with
  | .arrive msg => rtHwCanIsr msg s
  | .thread => threadCanRx s

end YkLock
