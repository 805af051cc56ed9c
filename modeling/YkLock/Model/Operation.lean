import YkLock.Model.Hardware

/-! Queries and relay control of `operation.c`. -/

namespace YkLock

inductive LockControl
  | ykOpen | ykClose | avcSwitchEngage | avcSwitchDisengage | coldLockPowerOn | coldLockPowerOff
  deriving DecidableEq, Repr

inductive QueryState
  | ykPortState | avcSwitchLedRelayState | avcSwitchRelayState | avcSwitchOperationResult
  | coldLockState
  deriving DecidableEq, Repr

variable {D : Type} (b : Board D)

/-- The loop of `avc_relay_state_save`; a failing read leaves `state` as it was. -/
def avcRelayStateVerify (avcRelayState : AvcRelayState) : ℕ → Byte → Fw D RtErr
  | 0, _ => return .error
  | n + 1, state => do
    let state := (← configGet b .avcSwitchState).getD state
    if state = avcRelayState.toByte then return .eok
    else
      rtThreadDelay 1
      avcRelayStateVerify avcRelayState n state

def avcRelayStateSave (avcRelayState : AvcRelayState) : Fw D RtErr := do
  match ← configGet b .avcSwitchState with
  | none => return .error
  | some state =>
    if state = avcRelayState.toByte then return .eok
    else if (← configModify b .avcSwitchState avcRelayState.toByte) ≠ .eok then return .error
    else avcRelayStateVerify b avcRelayState 10 state

def levelBit (level : Bool) (shift : ℕ) : Byte := (BitVec.ofBool level).setWidth 8 <<< shift

def queryState : QueryState → Fw D Byte
  | .ykPortState => do
    let k2 ← ykRealyK2State b
    let k1 ← ykRealyK1State b
    let k0 ← ykRelayK0State b
    let input ← ykInputState b
    return levelBit false 7 ||| levelBit k2 6 ||| levelBit k1 5 ||| levelBit k0 4 ||| levelBit input 0
  | .avcSwitchLedRelayState => do
    let ct1 ← rtPinRead b pinAvcLedCt1
    let ct2 ← rtPinRead b pinAvcLedCt2
    let check ← avcRelayCheck b
    return levelBit ct1 5 ||| levelBit ct2 4 ||| (if check then 0x10 else 0x01)
  | .avcSwitchRelayState => do
    let check ← avcRelayCheck b
    return if check then 0x10 else 0x01
  | .avcSwitchOperationResult => do
    let avcState := (← get).avcState
    return levelBit avcState.isSet 4 ||| levelBit avcState.isSave 1 ||| levelBit avcState.isAction 0
  | .coldLockState => return 0

def ykRelayK0Wait (state : Bool) : ℕ → Fw D Unit
  | 0 => return ()
  | n + 1 => do
    if (← ykRelayK0State b) ≠ state then
      rtThreadDelay 1
      ykRelayK0Wait state n
    else return ()

def setResult (isAction isSet : Bool) : Fw D Unit :=
  modify fun w => { w with avcState := { w.avcState with isAction := isAction, isSet := isSet } }

def setSave (result : RtErr) : Fw D Unit :=
  modify fun w => { w with avcState := { w.avcState with isSave := decide (result = .eok) } }

def controlAvcSwitch (state : AvcRelayState) (pulse : Fw D Unit) : Fw D Unit := do
  if (← avcRelayCheck b) = state.level then
    setResult false true
    setSave (← avcRelayStateSave b state)
  else
    pulse
    let check ← avcRelayCheck b
    (if check = state.level then setResult true true else setResult false false)
    setSave (← avcRelayStateSave b state)

def portBit (port : Byte) (k : ℕ) : Bool := port.getLsbD k

def whenPort (port : Byte) (k : ℕ) (m : Fw D Unit) : Fw D Unit :=
  if portBit port k = true then m else pure ()

def controlYk (port : Byte) (state : Bool) (k0 k1 k2 k3 : Fw D Unit) : Fw D Unit := do
  whenPort port 0 do
    k0
    ykRelayK0Wait b state 50
  whenPort port 1 k1
  whenPort port 2 k2
  whenPort port 3 k3

def control (type : LockControl) (parameter : Byte) : Fw D RtErr := do
  (match type with
  | .ykOpen =>
    controlYk b parameter ykRealyStateOpen ykRelayK0Open ykRelayK1Open ykRelayK2Open ykRelayK3Open
  | .ykClose =>
    controlYk b parameter ykRealyStateClose ykRelayK0Close ykRelayK1Close ykRelayK2Close
      ykRelayK3Close
  | .avcSwitchEngage => controlAvcSwitch b .stateClose avcRelayEngage
  | .avcSwitchDisengage => controlAvcSwitch b .stateOpen avcRelayDisengage
  | .coldLockPowerOn => pure ()
  | .coldLockPowerOff => pure ())
  return .eok

end YkLock
