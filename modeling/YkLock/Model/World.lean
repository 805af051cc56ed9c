import YkLock.Model.Record
import YkLock.Library.CachedStore

/-! The state of the device, its surroundings, and the primitives the firmware is written in. -/

namespace YkLock

open Library.Storage

inductive RtErr
  | eok | error
  deriving DecidableEq, Repr

/-- `lock_type_t`; its last constant counts the ones before it and is stored by `get_device` too. -/
inductive LockType
  | ykLock | ykColdLock | avc | avcColdLock | avcSwitch | deviceTypeMax
  deriving DecidableEq, Repr

inductive HwType
  | hwYk | hwYkColdLock | hwAvcColdLock | hwAvcSwitch
  deriving DecidableEq, Repr

inductive ChannelType
  | hwUsingCan | hwUsingUart
  deriving DecidableEq, Repr

structure LockInfo where
  devId : Byte
  netId : Byte
  addr : Byte
  sn : Word
  lockType : LockType
  hardwareType : HwType
  channelType : ChannelType
  deriving DecidableEq, Repr

structure AvcState where
  isAction : Bool
  isSet : Bool
  isSave : Bool
  deriving DecidableEq, Repr

inductive HandlerIndex
  | ykQueryState | ykControl | ykModifyAddr | ykReportState | ykProductionModifySn
  | avcQueryState | avcControlCommand | avcControlRequest | avcModifyAddrType | avcModifySn
  | avcProductionQuery
  | coldLockQueryAll | coldLockControl | coldLockModifyTimeout | coldLockModifyAddr
  | coldLockModifySn | coldLockProductionQuery
  deriving DecidableEq, Repr

structure HandlerIndexTable where
  funcCode : Byte
  index : HandlerIndex
  deriving DecidableEq, Repr

structure CanFilterItem where
  id : BitVec 29
  ide : Bool
  rtr : Bool
  mask : Word
  deriving DecidableEq, Repr

inductive PinMode
  | output | input
  deriving DecidableEq, Repr

inductive PinEvent
  | mode (pin : ℕ) (mode : PinMode)
  | write (pin : ℕ) (level : Bool)
  | read (pin : ℕ) (level : Bool)
  | delay (ticks : ℕ)
  | reset
  deriving DecidableEq, Repr

/-- Everything outside the firmware's own code: the EEPROM driver, the levels read on the pins
(any function of what was done to the pins before), and what unwritten memory holds. -/
structure Board (D : Type) where
  at24cxx : Device D Image
  feedback : ℕ → List PinEvent → Bool
  stack : D → (n : ℕ) → BitVec n
  stackInfo : D → Info
  afterTable : Byte

/-- The static variables of the modules, the EEPROM behind its driver, and the log of what the
firmware did, newest first. -/
structure World (D : Type) where
  dev : D
  cache : Info
  info : LockInfo
  avcState : AvcState
  set : List HandlerIndexTable
  installed : Bool
  filter : List CanFilterItem
  pins : List PinEvent
  sent : List (List Byte)
  reads : List ℕ
  reset : Bool

abbrev Fw (D : Type) := StateM (World D)

variable {D : Type} (b : Board D)

def at24cxxRead : Fw D (Option Image) := fun w =>
  ((b.at24cxx.read w.dev).1, { w with dev := (b.at24cxx.read w.dev).2 })

def at24cxxWrite (image : Image) : Fw D Bool := fun w =>
  ((b.at24cxx.write w.dev image).1, { w with dev := (b.at24cxx.write w.dev image).2 })

def uninit (n : ℕ) : Fw D (BitVec n) := fun w => (b.stack w.dev n, w)

def rtPinMode (pin : ℕ) (mode : PinMode) : Fw D Unit :=
  modify fun w => { w with pins := .mode pin mode :: w.pins }

def rtPinWrite (pin : ℕ) (level : Bool) : Fw D Unit :=
  modify fun w => { w with pins := .write pin level :: w.pins }

def rtPinRead (pin : ℕ) : Fw D Bool := fun w =>
  (b.feedback pin w.pins, { w with pins := .read pin (b.feedback pin w.pins) :: w.pins })

def rtThreadDelay (ticks : ℕ) : Fw D Unit :=
  modify fun w => { w with pins := .delay ticks :: w.pins }

def rtHwCpuReset : Fw D Unit := modify fun w => { w with reset := true }

def channelWrite (buff : List Byte) : Fw D Unit :=
  modify fun w => { w with sent := buff :: w.sent }

def Buffer.at (d : Buffer) (i : ℕ) : Fw D Byte := fun w =>
  (d.get i, { w with reads := i :: w.reads })

def Buffer.crc8 (d : Buffer) (len : ℕ) : Fw D Byte := do
  let bytes ← (List.range len).mapM (d.at (D := D))
  return YkLock.crc8 bytes

@[simp] lemma at24cxxRead_run (w : World D) : (at24cxxRead b).run w =
    ((b.at24cxx.read w.dev).1, { w with dev := (b.at24cxx.read w.dev).2 }) := rfl

@[simp] lemma at24cxxWrite_run (image : Image) (w : World D) : (at24cxxWrite b image).run w =
    ((b.at24cxx.write w.dev image).1, { w with dev := (b.at24cxx.write w.dev image).2 }) := rfl

@[simp] lemma uninit_run (n : ℕ) (w : World D) : (uninit b n).run w = (b.stack w.dev n, w) := rfl

@[simp] lemma rtPinMode_run (pin : ℕ) (mode : PinMode) (w : World D) :
    (rtPinMode pin mode).run w = ((), { w with pins := .mode pin mode :: w.pins }) := rfl

@[simp] lemma rtPinWrite_run (pin : ℕ) (level : Bool) (w : World D) :
    (rtPinWrite pin level).run w = ((), { w with pins := .write pin level :: w.pins }) := rfl

@[simp] lemma rtPinRead_run (pin : ℕ) (w : World D) : (rtPinRead b pin).run w =
    (b.feedback pin w.pins, { w with pins := .read pin (b.feedback pin w.pins) :: w.pins }) := rfl

@[simp] lemma rtThreadDelay_run (ticks : ℕ) (w : World D) :
    (rtThreadDelay ticks).run w = ((), { w with pins := .delay ticks :: w.pins }) := rfl

@[simp] lemma rtHwCpuReset_run (w : World D) :
    (rtHwCpuReset).run w = ((), { w with reset := true }) := rfl

@[simp] lemma channelWrite_run (buff : List Byte) (w : World D) :
    (channelWrite buff).run w = ((), { w with sent := buff :: w.sent }) := rfl

@[simp] lemma Buffer.at_run (d : Buffer) (i : ℕ) (w : World D) :
    (d.at i).run w = (d.get i, { w with reads := i :: w.reads }) := rfl

lemma Buffer.mapM_at_run (d : Buffer) (l : List ℕ) (w : World D) :
    (l.mapM (d.at (D := D))).run w = (l.map d.get, { w with reads := l.reverse ++ w.reads }) := by
  induction l generalizing w with
  | nil => rfl
  | cons i l ih => simp [List.mapM_cons, ih]

@[simp] lemma Buffer.crc8_run (d : Buffer) (len : ℕ) (w : World D) : (d.crc8 len).run w =
    (YkLock.crc8 ((List.range len).map d.get),
      { w with reads := (List.range len).reverse ++ w.reads }) := by
  simp [Buffer.crc8, Buffer.mapM_at_run]

end YkLock
