import YkLock.Model.Config

/-! The pins and macros of `hw_define.h`, in the branch the preprocessor takes
(`DEFAULT_HARDWARE_TYPE` names an enumeration constant, which `#if` evaluates to 0). -/

namespace YkLock

inductive GpioPort
  | a | b | c
  deriving DecidableEq, Repr

def getPin (port : GpioPort) (pin : ℕ) : ℕ :=
  match port with
  | .a => pin
  | .b => 16 + pin
  | .c => 32 + pin

def pinYkRelayCt1 : ℕ := getPin .c 6
def pinYkRelayCt2 : ℕ := getPin .b 15
def pinYkRelayCt3 : ℕ := getPin .b 14
def pinYkDout : ℕ := getPin .b 12
def pinYkD5v0Out : ℕ := getPin .b 13

def pinAvcLedCt1 : ℕ := getPin .c 12
def pinAvcLedCt2 : ℕ := getPin .c 11
def pinAvcLedCt3 : ℕ := getPin .c 10
def pinAvcLedCt4 : ℕ := getPin .a 15
def pinAvcCt1 : ℕ := pinAvcLedCt1
def pinAvcK1 : ℕ := pinAvcLedCt2
def pinAvcCt2 : ℕ := pinAvcLedCt4
def pinAvcK2 : ℕ := pinAvcLedCt3
def pinAvcRelayClose : ℕ := getPin .c 9
def pinAvcRelayOpen : ℕ := getPin .c 8
def pinAvcRelayCheck : ℕ := getPin .b 0
def pinAvcDin : ℕ := getPin .b 1
def timeRelayControl : ℕ := 10

def pinLow : Bool := false
def pinHigh : Bool := true

inductive AvcRelayState
  | stateOpen | stateClose
  deriving DecidableEq, Repr

def AvcRelayState.toByte : AvcRelayState → Byte
  | .stateOpen => 0
  | .stateClose => 1

def AvcRelayState.level : AvcRelayState → Bool
  | .stateOpen => false
  | .stateClose => true

def ykRealyStateOpen : Bool := true
def ykRealyStateClose : Bool := false

variable {D : Type} (b : Board D)

def avcRelayControl (pin t : ℕ) : Fw D Unit := do
  rtPinWrite pin pinHigh
  rtThreadDelay t
  rtPinWrite pin pinLow

def avcRelayEngage : Fw D Unit := avcRelayControl pinAvcRelayClose timeRelayControl

def avcRelayDisengage : Fw D Unit := avcRelayControl pinAvcRelayOpen timeRelayControl

def avcRelayCheck : Fw D Bool := rtPinRead b pinAvcRelayCheck

def ykInputState : Fw D Bool := rtPinRead b pinAvcDin

def ykRelayK0State : Fw D Bool := avcRelayCheck b

def ykRealyK1State : Fw D Bool := rtPinRead b pinAvcCt1

def ykRealyK2State : Fw D Bool := rtPinRead b pinAvcCt2

def ykRelayK0Open : Fw D Unit := avcRelayDisengage

/-- Unlike every other coil macro, this one does not return the coil to low. -/
def ykRelayK0Close : Fw D Unit := do
  rtPinWrite pinAvcRelayClose pinHigh
  rtPinWrite pinAvcRelayOpen pinLow

def ykLinePair (ct k : ℕ) (level : Bool) : Fw D Unit := do
  rtPinWrite ct level
  rtPinWrite k (!level)

def ykRelayK1Open : Fw D Unit := ykLinePair pinAvcCt1 pinAvcK1 pinHigh

def ykRelayK1Close : Fw D Unit := ykLinePair pinAvcCt1 pinAvcK1 pinLow

def ykRelayK2Open : Fw D Unit := ykLinePair pinAvcCt2 pinAvcK2 pinHigh

def ykRelayK2Close : Fw D Unit := ykLinePair pinAvcCt2 pinAvcK2 pinLow

def ykRelayK3Open : Fw D Unit := pure ()

def ykRelayK3Close : Fw D Unit := pure ()

end YkLock
