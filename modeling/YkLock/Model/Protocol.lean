import YkLock.Model.Handler

/-! Frame parsing and dispatch of `protocol.c`. -/

namespace YkLock

def funcCodeYkQueryState : Byte := 0x01
def funcCodeYkControl : Byte := 0x02
def funcCodeYkModifyAddr : Byte := 0x03
def funcCodeYkReportState : Byte := 0x04
def funcCodeYkProductionModifySn : Byte := 0x07
def funcCodeAvcQueryState : Byte := 0x31
def funcCodeAvcControlCommand : Byte := 0x35
def funcCodeAvcControlRequest : Byte := 0x32
def funcCodeAvcModifyDevice : Byte := 0x33
def funcCodeAvcModifySn : Byte := 0x37
def funcCodeAvcProductionQuery : Byte := 0x3F
def funcCodeColdLockQueryAll : Byte := 0x21
def funcCodeColdLockControl : Byte := 0x25
def funcCodeColdLockModifyTimeout : Byte := 0x2A
def funcCodeColdLockModifyAddr : Byte := 0x23
def funcCodeColdLockModifySn : Byte := 0x27
def funcCodeColdLockProductionQuery : Byte := 0x2F

def protocolSetYk : List HandlerIndexTable := [
  ⟨funcCodeYkQueryState, .ykQueryState⟩,
  ⟨funcCodeYkControl, .ykControl⟩,
  ⟨funcCodeYkModifyAddr, .ykModifyAddr⟩,
  ⟨funcCodeYkReportState, .ykReportState⟩,
  ⟨funcCodeYkProductionModifySn, .ykProductionModifySn⟩,
  ⟨funcCodeAvcModifySn, .avcModifySn⟩]

def protocolSetAvcSwitch : List HandlerIndexTable := [
  ⟨funcCodeAvcQueryState, .avcQueryState⟩,
  ⟨funcCodeAvcControlCommand, .avcControlCommand⟩,
  ⟨funcCodeAvcControlRequest, .avcControlRequest⟩,
  ⟨funcCodeAvcModifyDevice, .avcModifyAddrType⟩,
  ⟨funcCodeAvcModifySn, .avcModifySn⟩,
  ⟨funcCodeAvcProductionQuery, .avcProductionQuery⟩,
  ⟨funcCodeYkProductionModifySn, .ykProductionModifySn⟩]

def protocolSetColdLock : List HandlerIndexTable := [
  ⟨funcCodeColdLockQueryAll, .coldLockQueryAll⟩,
  ⟨funcCodeColdLockControl, .coldLockControl⟩,
  ⟨funcCodeColdLockModifyTimeout, .coldLockModifyTimeout⟩,
  ⟨funcCodeColdLockModifyAddr, .coldLockModifyAddr⟩,
  ⟨funcCodeColdLockModifySn, .coldLockModifySn⟩,
  ⟨funcCodeColdLockProductionQuery, .coldLockProductionQuery⟩]

def protocolSet : LockType → Option (List HandlerIndexTable)
  | .ykLock | .avc => some protocolSetYk
  | .ykColdLock | .avcColdLock => some protocolSetColdLock
  | .avcSwitch => some protocolSetAvcSwitch
  | .deviceTypeMax => none

structure ParsedData where
  index : HandlerIndex
  data : Buffer

variable {D : Type} (b : Board D)

def protocolParser (data : Buffer) : Fw D (Option ParsedData) := do
  let last ← data.at (sizeSub data.len 1)
  let crc ← data.crc8 (sizeSub data.len 1)
  if last ≠ crc then return none
  else
    let length ← data.at 3
    if length.toNat ≠ sizeSub data.len 5 then return none
    else
      let devId ← data.at 0
      let _addr ← data.at 2
      let funcCode ← data.at 4
      let self ← get
      if self.info.hardwareType = .hwAvcSwitch ∧ devId ≠ self.info.devId ∧
          funcCode ≠ funcCodeAvcModifySn ∧ funcCode ≠ funcCodeYkProductionModifySn then
        return none
      else
        return (self.set.find? (fun e => funcCode == e.funcCode)).map (fun e => ⟨e.index, data⟩)

def protocolHandler (data : ParsedData) : Fw D RtErr :=
  (handler b).getD data.index.ctorIdx (fun _ => return .error) data.data

def protocolInit : Fw D RtErr := do
  match protocolSet (← get).info.lockType with
  | none => return .error
  | some set =>
    modify fun w => { w with set := set, installed := true }
    return .eok

end YkLock
