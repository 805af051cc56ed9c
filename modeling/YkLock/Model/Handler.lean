import YkLock.Model.Operation

/-! The command handlers of `handler.c`, in the order of its table. -/

namespace YkLock

variable {D : Type} (b : Board D)

def Buffer.snAt (data : Buffer) (i : ℕ) : Fw D Word := do
  let high ← data.at i
  let middle ← data.at (i + 1)
  let low ← data.at (i + 2)
  return high.setWidth 32 <<< 16 + middle.setWidth 32 <<< 8 + low.setWidth 32

def replyState (code : Byte) (type : QueryState) : Fw D RtErr := do
  let addr ← getAddr b
  let sn ← getSn b
  let state ← queryState b type
  channelWrite (withCrc
    [0, 0, 0, 0x06, code, addr, byteAt sn 16, byteAt sn 8, byteAt sn 0, state])
  return .eok

def funcYkQueryState (_ : Buffer) : Fw D RtErr := replyState b 0x01 .ykPortState

def funcYkControl (data : Buffer) : Fw D RtErr := do
  let port ← data.at 5
  let opt ← data.at 6
  let _ ← control b (if opt = 0x00 then .ykClose else .ykOpen) port
  let addr ← getAddr b
  let state ← queryState b .ykPortState
  channelWrite (withCrc [0, 0, 0, 0x03, 0x02, addr, state])
  return .eok

def funcYkModifyAddr (data : Buffer) : Fw D RtErr := do
  let addr ← data.at 5
  let sn ← data.snAt 6
  if sn ≠ (← getSn b) then return .error
  else
    let _ ← modifyAddr b addr
    rtHwCpuReset
    return .eok

def funcYkReportState (_ : Buffer) : Fw D RtErr := replyState b 0x04 .ykPortState

def followDevice (type : LockType) : Fw D Unit := do
  let info := (← get).info
  if info.hardwareType = .hwAvcSwitch ∧ info.lockType ≠ type then
    let _ ← modifyDevice b type.toByte
    pure ()
  else pure ()

def funcYkProductionModifySn (data : Buffer) : Fw D RtErr := do
  let sn ← data.snAt 6
  let _ ← modifySn b sn
  followDevice b .ykLock
  let sn ← getSn b
  channelWrite (withCrc [0, 0, 0, 0x05, 0x07, 0x00, byteAt sn 16, byteAt sn 8, byteAt sn 0])
  return .eok

def funcAvcQueryState (_ : Buffer) : Fw D RtErr := replyState b 0x31 .avcSwitchLedRelayState

def replyOperation : Fw D RtErr := do
  let addr ← getAddr b
  let relay ← queryState b .avcSwitchRelayState
  let result ← queryState b .avcSwitchOperationResult
  channelWrite (withCrc [0, 0, 0, 0x05, 0x35, 0x03, addr, relay, result])
  return .eok

def funcAvcControlCommand (data : Buffer) : Fw D RtErr := do
  let opt ← data.at 5
  if opt = 0x10 then
    let _ ← control b .avcSwitchEngage 0
    replyOperation b
  else if opt = 0x01 then
    let _ ← control b .avcSwitchDisengage 0
    replyOperation b
  else return .error

def engageAndReply : Fw D RtErr := do
  let _ ← control b .avcSwitchEngage 0
  replyOperation b

def funcAvcControlRequest (data : Buffer) : Fw D RtErr := do
  let answer ← data.at 5
  let opt ← data.at 6
  if answer = 0x10 then
    if opt = 0x10 then
      let _ ← control b .avcSwitchEngage 0
      engageAndReply b
    else if opt = 0x01 then
      let _ ← control b .avcSwitchDisengage 0
      engageAndReply b
    else return .error
  else return .error

def modifyDeviceAndAddr (type addr : Byte) : Fw D RtErr := do
  if (← modifyDevice b type) = .eok then modifyAddr b addr else return .error

def funcAvcModifyDevice (data : Buffer) : Fw D RtErr := do
  let type ← data.at 1
  let addr ← data.at 2
  let sn ← data.snAt 3
  let stored ← getSn b
  let result ← (if sn = stored then modifyDeviceAndAddr b type addr else pure .error)
  let device ← getDevice b
  let addr ← getAddr b
  channelWrite (withCrc
    [0, 0, 0, 0x04, 0x33, device.toByte, addr, if result = .eok then 0x10 else 0x01])
  return .eok

def funcAvcModifySn (data : Buffer) : Fw D RtErr := do
  let sn ← data.snAt 6
  let result ← modifySn b sn
  followDevice b .avcSwitch
  let addr ← getAddr b
  let sn ← getSn b
  channelWrite (withCrc [0, 0, 0, 0x06, 0x37, addr, byteAt sn 16, byteAt sn 8, byteAt sn 0,
    if result = .eok then 0x10 else 0x01])
  return .eok

def funcAvcProductionQuery (_ : Buffer) : Fw D RtErr := replyState b 0x31 .avcSwitchLedRelayState

def funcColdLockQueryAll (_ : Buffer) : Fw D RtErr := replyState b 0x21 .coldLockState

def funcColdLockControl (data : Buffer) : Fw D RtErr := do
  let opt ← data.at 5
  let _ ← (if opt = 0x00 then control b .coldLockPowerOff 0
    else if opt = 0x01 then control b .coldLockPowerOn 0
    else pure .eok)
  replyState b 0x25 .coldLockState

def funcColdLockModifyTimeout (data : Buffer) : Fw D RtErr := do
  let execBefore ← getTimeoutExec b
  let cmdBefore ← getTimeoutCmd b
  let _ ← modifyTimeoutExec b (← data.at 5)
  let _ ← modifyTimeoutCmd b (← data.at 6)
  let execAfter ← getTimeoutExec b
  let cmdAfter ← getTimeoutCmd b
  let addr ← getAddr b
  channelWrite (withCrc
    [0, 0, 0, 0x06, 0x2A, addr, execBefore, cmdBefore, execAfter, cmdAfter])
  return .eok

def funcColdLockModifyAddr (data : Buffer) : Fw D RtErr := do
  let addr ← data.at 5
  let sn ← data.snAt 6
  let stored ← getSn b
  let _ ← (if sn = stored then modifyAddr b addr else pure .error)
  let addr ← getAddr b
  let state ← queryState b .coldLockState
  channelWrite (withCrc
    [0, 0, 0, 0x06, 0x23, addr, byteAt sn 16, byteAt sn 8, byteAt sn 0, state])
  return .eok

def funcColdLockModifySn (_ : Buffer) : Fw D RtErr := return .eok

def funcColdLockProductionQuery (_ : Buffer) : Fw D RtErr := return .eok

def handler : List (Buffer → Fw D RtErr) := [
  funcYkQueryState b, funcYkControl b, funcYkModifyAddr b, funcYkReportState b,
  funcYkProductionModifySn b,
  funcAvcQueryState b, funcAvcControlCommand b, funcAvcControlRequest b, funcAvcModifyDevice b,
  funcAvcModifySn b, funcAvcProductionQuery b,
  funcColdLockQueryAll b, funcColdLockControl b, funcColdLockModifyTimeout b,
  funcColdLockModifyAddr b, funcColdLockModifySn, funcColdLockProductionQuery]

end YkLock
