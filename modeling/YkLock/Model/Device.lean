import YkLock.Model.Protocol

/-! Start-up, reception and the shell commands: `lock.c`, `main.c`, `can_channel.c`, `command.c`. -/

namespace YkLock

/-- A received message; behind `data[8]` lies whatever follows it in memory. -/
structure CanMsg where
  id : BitVec 29
  ide : Bool
  rtr : Bool
  len : Byte
  data : ℕ → Byte

def canCopy (rxMsg : CanMsg) (len size : ℕ) : ℕ → List Byte
  | 0 => []
  | n + 1 =>
    if size < len ∧ size < rxMsg.len.toNat + 3 then
      rxMsg.data (size - 3) :: canCopy rxMsg len (size + 1) n
    else []

def canChannelRead (rxMsg : CanMsg) (len : ℕ) : List Byte :=
  if len < 3 then []
  else
    let id := rxMsg.id.setWidth 32
    byteAt id 16 :: byteAt id 8 :: byteAt id 0 :: canCopy rxMsg len 3 len

def CanMsg.bytes (rxMsg : CanMsg) : List Byte := canChannelRead rxMsg (rxMsg.len.toNat + 3)

def CanFilterItem.passes (item : CanFilterItem) (rxMsg : CanMsg) : Prop :=
  item.ide = rxMsg.ide ∧ item.rtr = rxMsg.rtr ∧
    (item.id ^^^ rxMsg.id) &&& item.mask.setWidth 29 = 0

instance (item : CanFilterItem) (rxMsg : CanMsg) : Decidable (item.passes rxMsg) :=
  inferInstanceAs (Decidable (_ ∧ _ ∧ _))

def rtCanFilterExtInit (id : Word) : CanFilterItem := ⟨id.setWidth 29, true, false, 0xFFFFFFFF⟩

variable {D : Type} (b : Board D)

def filterId (addr netId devId : Byte) : Word :=
  addr.setWidth 32 <<< 0 + netId.setWidth 32 <<< 8 + devId.setWidth 32 <<< 16

def mainFilter (info : LockInfo) : List CanFilterItem :=
  let mask : Word :=
    if info.lockType = .avcColdLock ∨ info.lockType = .ykColdLock then 0xFFFFFFFF <<< 8
    else 0xFFFFFFFF
  if info.hardwareType = .hwAvcSwitch then
    [{ rtCanFilterExtInit
        (filterId info.addr info.netId (getDeviceIdByLockType b .ykLock)) with mask := mask },
      rtCanFilterExtInit (filterId info.addr info.netId (getDeviceIdByLockType b .avcSwitch))]
  else [{ rtCanFilterExtInit (filterId info.addr info.netId info.devId) with mask := mask }]

def lockPinInit : Fw D Unit := do
  match (← get).info.hardwareType with
  | .hwYk =>
    rtPinMode pinYkRelayCt1 .output
    rtPinMode pinYkRelayCt2 .output
    rtPinMode pinYkRelayCt3 .output
    rtPinMode pinYkD5v0Out .output
    rtPinMode pinYkDout .output
  | .hwYkColdLock => pure ()
  | .hwAvcColdLock => pure ()
  | .hwAvcSwitch =>
    rtPinMode pinAvcCt1 .output
    rtPinMode pinAvcCt2 .output
    rtPinMode pinAvcK1 .output
    rtPinMode pinAvcK1 .output
    rtPinMode pinAvcRelayCheck .input

/-- `channel_init` finds the CAN controller that the board's start-up code registered. -/
def lockInit : Fw D RtErr := do
  lockInfoUpdate b
  lockPinInit
  protocolInit

def World.cleared (w : World D) : World D where
  dev := w.dev
  cache := ⟨0, 0, 0, 0, 0, 0⟩
  info := ⟨0, 0, 0, 0, .ykLock, .hwYk, .hwUsingCan⟩
  avcState := ⟨false, false, false⟩
  set := []
  installed := false
  filter := []
  pins := .reset :: w.pins
  sent := w.sent
  reads := w.reads
  reset := false

def main : Fw D Unit := do
  configInit b
  let _ ← lockInit b
  modify fun w => { w with filter := mainFilter b w.info }

def boot (w : World D) : World D := ((main b).run w.cleared).2

/-- `rx_cb` on a message whose bytes were read into `buff`. Where no parser is installed the source
calls a null pointer. -/
def rxCb (buff : Buffer) : Fw D RtErr := do
  if buff.len = 0 then return .error
  else if (← get).installed = false then return .error
  else
    match ← protocolParser buff with
    | none => return .error
    | some data => protocolHandler b data

def afterReset (w : World D) : World D := if w.reset = true then boot b w else w

def deliver (buff : Buffer) (w : World D) : World D := afterReset b ((rxCb b buff).run w).2

def cmdModifyDevice (type : Option Word) : Fw D RtErr := do
  match type with
  | none => return .error
  | some type =>
    if type.toNat < 5 then
      let _ ← modifyDevice b (type.setWidth 8)
      return .eok
    else return .eok

def cmdModifyAddr (addr : Option Word) : Fw D RtErr := do
  match addr with
  | none => return .error
  | some addr =>
    let _ ← modifyAddr b (addr.setWidth 8)
    return .eok

def cmdModifySn (sn : Option Word) : Fw D RtErr := do
  match sn with
  | none => return .error
  | some sn =>
    let _ ← modifySn b sn
    return .eok

inductive Event
  | frame (rxMsg : CanMsg) (tail : ℕ → Byte)
  | cmdModifyDevice (type : Option Word)
  | cmdModifyAddr (addr : Option Word)
  | cmdModifySn (sn : Option Word)

def event (e : Event) (w : World D) : World D :=
  match e with
  | .frame rxMsg tail => deliver b ⟨rxMsg.bytes, tail⟩ w
  | .cmdModifyDevice type => ((cmdModifyDevice b type).run w).2
  | .cmdModifyAddr addr => ((cmdModifyAddr b addr).run w).2
  | .cmdModifySn sn => ((cmdModifySn b sn).run w).2

end YkLock
