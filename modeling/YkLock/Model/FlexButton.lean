import YkLock.Model.Button

/-! The scan of `flexible_button.c` and the button `button.c` registers with it. -/

namespace YkLock

inductive FlexBtnStage
  | stageDefault | stageDown | stageMultipleClick
  deriving DecidableEq, Repr

/-- `flex_button_t`; `usrButtonRead` and `cb` say whether the function pointers are set. -/
structure FlexButton where
  usrButtonRead : Bool
  cb : Bool
  scanCnt : BitVec 16
  clickCnt : BitVec 16
  maxMultipleClicksInterval : BitVec 16
  shortPressStartTick : BitVec 16
  longPressStartTick : BitVec 16
  longHoldStartTick : BitVec 16
  id : Byte
  pressedLogicLevel : Bool
  event : FlexButtonEvent
  status : FlexBtnStage
  deriving DecidableEq, Repr

/-- The list from `btn_head` on; the number of an entry is the address of the object. -/
structure FlexButtons where
  list : List (ℕ × FlexButton)
  gLogicLevel : BitVec 32
  gBtnStatusReg : BitVec 32
  buttonCnt : Byte

def flexBtnScanFreqHz : ℕ := 50

def flexMsToScanCnt (ms : ℕ) : ℕ := ms / (1000 / flexBtnScanFreqHz)

def maxMultipleClicksIntervalCnt : ℕ := flexMsToScanCnt 300

def flexButtons : FlexButtons := ⟨[], 0, 0, 0⟩

def registered (button : FlexButton) : FlexButton :=
  { button with
    status := .stageDefault
    event := .pressNone
    scanCnt := 0
    clickCnt := 0
    maxMultipleClicksInterval := BitVec.ofNat 16 maxMultipleClicksIntervalCnt }

def flexButtonRegister (button : Option (ℕ × FlexButton)) (s : FlexButtons) : ℤ × FlexButtons :=
  match button with
  | none => (-1, s)
  | some (p, button) =>
    if s.buttonCnt.toNat > 32 then (-1, s)
    else if p ∈ s.list.map Prod.fst then (-1, s)
    else
      let level : BitVec 32 := if button.pressedLogicLevel then 1 else 0
      ((s.buttonCnt + 1).toNat,
        { s with
          list := (p, registered button) :: s.list
          gLogicLevel := s.gLogicLevel ||| (level <<< s.buttonCnt.toNat)
          buttonCnt := s.buttonCnt + 1 })

/-- The loop ends early at a button without a read function. -/
def readLoop (read : ℕ → Byte) : List (ℕ × FlexButton) → Byte → BitVec 32 → BitVec 32
  | [], _, rawData => rawData
  | (p, target) :: rest, i, rawData =>
    if target.usrButtonRead = true then
      readLoop read rest (i - 1) (rawData ||| ((read p).setWidth 32 <<< i.toNat))
    else rawData

def flexButtonRead (read : ℕ → Byte) (s : FlexButtons) : FlexButtons :=
  { s with gBtnStatusReg := ~~~ readLoop read s.list (s.buttonCnt - 1) 0 ^^^ s.gLogicLevel }

def btnIsPressed (gBtnStatusReg : BitVec 32) (i : Byte) : Bool :=
  gBtnStatusReg &&& (1 <<< i.toNat) != 0

abbrev Called := FlexButton × List FlexButtonEvent

def eventSetAndExecCb (btn : FlexButton) (evt : FlexButtonEvent) : Called :=
  ({ btn with event := evt }, if btn.cb then [evt] else [])

def switchTo (status : FlexBtnStage) (c : Called) : Called := ({ c.1 with status := status }, c.2)

def clearCounts (c : Called) : Called := ({ c.1 with scanCnt := 0, clickCnt := 0 }, c.2)

def countScan (target : FlexButton) : FlexButton :=
  if target.status = .stageDefault then target
  else if (target.scanCnt + 1).toNat ≥ 2 ^ 16 - 1 then
    { target with scanCnt := target.longHoldStartTick }
  else { target with scanCnt := target.scanCnt + 1 }

def clickEvent (clickCnt : BitVec 16) : FlexButtonEvent :=
  if clickCnt < 3 then
    if clickCnt = 0 then .pressDown else if clickCnt = 1 then .pressClick else .pressDoubleClick
  else .pressRepeatClick

def startEvent (evt : FlexButtonEvent) (target : FlexButton) : Called :=
  if target.event ≠ evt then eventSetAndExecCb target evt else (target, [])

def processStage (pressed : Bool) (target : FlexButton) : Called :=
  match target.status with
  | .stageDefault =>
    if pressed then
      switchTo .stageDown (eventSetAndExecCb { target with scanCnt := 0, clickCnt := 0 } .pressDown)
    else ({ target with event := .pressNone }, [])
  | .stageDown =>
    if pressed then
      if target.clickCnt > 0 then
        if target.scanCnt > target.maxMultipleClicksInterval then
          clearCounts (switchTo .stageDown (eventSetAndExecCb target (clickEvent target.clickCnt)))
        else (target, [])
      else if target.scanCnt ≥ target.longHoldStartTick then startEvent .pressLongHold target
      else if target.scanCnt ≥ target.longPressStartTick then startEvent .pressLongStart target
      else if target.scanCnt ≥ target.shortPressStartTick then startEvent .pressShortStart target
      else (target, [])
    else if target.scanCnt ≥ target.longHoldStartTick then
      switchTo .stageDefault (eventSetAndExecCb target .pressLongHoldUp)
    else if target.scanCnt ≥ target.longPressStartTick then
      switchTo .stageDefault (eventSetAndExecCb target .pressLongUp)
    else if target.scanCnt ≥ target.shortPressStartTick then
      switchTo .stageDefault (eventSetAndExecCb target .pressShortUp)
    else ({ target with status := .stageMultipleClick, clickCnt := target.clickCnt + 1 }, [])
  | .stageMultipleClick =>
    if pressed then ({ target with status := .stageDown, scanCnt := 0 }, [])
    else if target.scanCnt > target.maxMultipleClicksInterval then
      switchTo .stageDefault (eventSetAndExecCb target (clickEvent target.clickCnt))
    else (target, [])

def processButton (pressed : Bool) (target : FlexButton) : Called :=
  processStage pressed (countScan target)

structure Processed where
  list : List (ℕ × FlexButton)
  calls : List (ℕ × FlexButtonEvent)
  activeBtnCnt : Byte

def processLoop (gBtnStatusReg : BitVec 32) : List (ℕ × FlexButton) → Byte → Byte → Processed
  | [], _, activeBtnCnt => ⟨[], [], activeBtnCnt⟩
  | (p, target) :: rest, i, activeBtnCnt =>
    let c := processButton (btnIsPressed gBtnStatusReg i) target
    let r := processLoop gBtnStatusReg rest (i - 1)
      (if c.1.status ≠ .stageDefault then activeBtnCnt + 1 else activeBtnCnt)
    ⟨(p, c.1) :: r.list, c.2.map (Prod.mk p) ++ r.calls, r.activeBtnCnt⟩

def flexButtonProcess (s : FlexButtons) : FlexButtons × List (ℕ × FlexButtonEvent) × Byte :=
  let r := processLoop s.gBtnStatusReg s.list (s.buttonCnt - 1) 0
  ({ s with list := r.list }, r.calls, r.activeBtnCnt)

def flexButtonScan (read : ℕ → Byte) (s : FlexButtons) :
    FlexButtons × List (ℕ × FlexButtonEvent) × Byte :=
  flexButtonProcess (flexButtonRead read s)

def userButton0 : ℕ := 0

def userButton : FlexButton where
  usrButtonRead := true
  cb := true
  scanCnt := 0
  clickCnt := 0
  maxMultipleClicksInterval := 0
  shortPressStartTick := BitVec.ofNat 16 (flexMsToScanCnt 1500)
  longPressStartTick := BitVec.ofNat 16 (flexMsToScanCnt 3000)
  longHoldStartTick := BitVec.ofNat 16 (flexMsToScanCnt 4500)
  id := 0
  pressedLogicLevel := false
  event := .pressDown
  status := .stageDefault

def userButtonInit : FlexButtons := (flexButtonRegister (some (userButton0, userButton)) flexButtons).2

end YkLock
