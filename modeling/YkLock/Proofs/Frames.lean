import YkLock.Model.Device

/-! Rules for relations between the states before and after the functions of the firmware. -/

namespace YkLock

open Library.StatePrograms

variable {D : Type} {R : World D → World D → Prop} {b : Board D}

def AllowsConfig (R : World D → World D → Prop) : Prop :=
  ∀ w d c i, R w { w with dev := d, cache := c, info := i }

def AllowsPinRead (R : World D → World D → Prop) : Prop :=
  ∀ w pin level, R w { w with pins := .read pin level :: w.pins }

def AllowsDelay (R : World D → World D → Prop) : Prop :=
  ∀ w ticks, R w { w with pins := .delay ticks :: w.pins }

def AllowsAvcState (R : World D → World D → Prop) : Prop :=
  ∀ w a, R w { w with avcState := a }

def AllowsReads (R : World D → World D → Prop) : Prop :=
  ∀ w indices, R w { w with reads := indices }

structure Quiet (R : World D → World D → Prop) : Prop where
  config : AllowsConfig R
  pinRead : AllowsPinRead R
  delay : AllowsDelay R
  avcState : AllowsAvcState R

def LockControl.saved : LockControl → Option AvcRelayState
  | .avcSwitchEngage => some .stateClose
  | .avcSwitchDisengage => some .stateOpen
  | _ => none

def AvcRelayState.request : AvcRelayState → LockControl
  | .stateOpen => .avcSwitchDisengage
  | .stateClose => .avcSwitchEngage

def AvcRelayState.coil : AvcRelayState → ℕ
  | .stateOpen => pinAvcRelayOpen
  | .stateClose => pinAvcRelayClose

structure Stores (b : Board D) (R : World D → World D → Prop) (allowed : ConfigWrite → Prop) :
    Prop where
  get : ∀ k, Moves R (configGet b k)
  modify : ∀ c, allowed c → Moves R (configModify b c.1 c.2)

lemma Stores.modify_moves {allowed : ConfigWrite → Prop} (hs : Stores b R allowed) {k : ConfigT}
    {v : k.Value} (ha : allowed ⟨k, v⟩) : Moves R (configModify b k v) := hs.modify ⟨k, v⟩ ha

structure Wired (R : World D → World D → Prop) : Prop where
  pinRead : AllowsPinRead R
  delay : AllowsDelay R
  avcState : AllowsAvcState R
  pinWrite : ∀ w pin level, R w { w with pins := .write pin level :: w.pins }
  reads : AllowsReads R
  reset : ∀ w, R w { w with reset := true }

lemma rtPinRead_moves (hR : AllowsPinRead R) (pin : ℕ) : Moves R (rtPinRead b pin) :=
  fun w => hR w pin _

lemma configGet_moves (hR : AllowsConfig R) (k : ConfigT) : Moves R (configGet b k) := by
  intro w
  rw [configGet_run]
  rcases b.at24cxx.read w.dev with ⟨_ | image, d⟩
  · exact hR w d w.cache w.info
  · exact hR w d _ w.info

lemma getConfig_moves (hR : AllowsConfig R) (k : ConfigT) : Moves R (getConfig b k) := by
  intro w
  rw [getConfig_run]
  rcases b.at24cxx.read w.dev with ⟨_ | image, d⟩
  · exact hR w d w.cache w.info
  · exact hR w d _ w.info

lemma whenPort_moves [Std.Refl R] {m : Fw D Unit} {port : Byte} {k : ℕ}
    (hm : portBit port k = true → Moves R m) : Moves R (whenPort port k m) :=
  Moves.ite hm fun _ => Moves.pure _

lemma at_moves (hR : AllowsReads R) (d : Buffer) (i : ℕ) : Moves R (d.at i) := fun w => hR w _

lemma snAt_moves (hR : AllowsReads R) (d : Buffer) (i : ℕ) : Moves R (d.snAt i) := fun w => hR w _

section Wires

variable [IsTrans (World D) R]

lemma ykLinePair_moves (hR : Wired R) (ct k : ℕ) (level : Bool) :
    Moves R (ykLinePair ct k level) :=
  Moves.bind (fun w => hR.pinWrite w ct level) fun _ w => hR.pinWrite w k _

lemma avcRelayControl_moves (hR : Wired R) (pin t : ℕ) : Moves R (avcRelayControl pin t) :=
  Moves.bind (fun w => hR.pinWrite w pin _) fun _ =>
    Moves.bind (fun w => hR.delay w t) fun _ w => hR.pinWrite w pin _

lemma ykRelayK0Close_moves (hR : Wired R) : Moves R ykRelayK0Close :=
  Moves.bind (fun w => hR.pinWrite w _ _) fun _ w => hR.pinWrite w _ _

end Wires

section Rules

variable [Std.Refl R] [IsTrans (World D) R]

lemma getDevice_moves (hR : AllowsConfig R) : Moves R (getDevice b) :=
  Moves.bind (getConfig_moves hR _) fun _ => Moves.pure _

lemma lockInfoUpdate_moves (hR : AllowsConfig R) : Moves R (lockInfoUpdate b) :=
  Moves.bind (getConfig_moves hR _) fun _ =>
    Moves.bind (getConfig_moves hR _) fun _ =>
      Moves.bind (getDevice_moves hR) fun _ w => hR w w.dev w.cache _

lemma configModify_moves (hR : AllowsConfig R) (k : ConfigT) (v : k.Value) :
    Moves R (configModify b k v) := by
  refine Moves.bind Moves.get fun info => Moves.bind (fun w => hR w _ w.cache w.info) fun ok => ?_
  refine Moves.ite (fun _ => ?_) fun _ => Moves.pure _
  exact Moves.bind (fun w => hR w w.dev _ w.info) fun _ =>
    Moves.bind (lockInfoUpdate_moves hR) fun _ => Moves.pure _

lemma AllowsConfig.stores (hR : AllowsConfig R) : Stores b R fun _ => True :=
  ⟨configGet_moves hR, fun c _ => configModify_moves hR c.1 c.2⟩

section Allowed

variable {allowed : ConfigWrite → Prop} (hs : Stores b R allowed)
include hs

lemma Stores.getConfig_moves (k : ConfigT) : Moves R (getConfig b k) := by
  refine Moves.bind (hs.get k) fun v => ?_
  cases v with
  | none => exact fun w => Std.Refl.refl w
  | some v => exact Moves.pure _

lemma avcRelayStateVerify_moves (hd : AllowsDelay R) (s : AvcRelayState) (n : ℕ) (state : Byte) :
    Moves R (avcRelayStateVerify b s n state) := by
  induction n generalizing state with
  | zero => exact Moves.pure _
  | succ n ih =>
    refine Moves.bind (hs.get _) fun v => Moves.ite (fun _ => Moves.pure _) fun _ => ?_
    exact Moves.bind (fun w => hd w 1) fun _ => ih _

lemma avcRelayStateSave_moves (hd : AllowsDelay R) {s : AvcRelayState}
    (ha : allowed ⟨.avcSwitchState, s.toByte⟩) : Moves R (avcRelayStateSave b s) := by
  refine Moves.bind (hs.get _) fun v => ?_
  cases v with
  | none => exact Moves.pure _
  | some state =>
    refine Moves.ite (fun _ => Moves.pure _) fun _ => ?_
    refine Moves.bind (hs.modify_moves ha) fun r => Moves.ite (fun _ => Moves.pure _) fun _ => ?_
    exact avcRelayStateVerify_moves hs hd s 10 state

lemma controlAvcSwitch_stores (hr : AllowsPinRead R) (hd : AllowsDelay R) (hv : AllowsAvcState R)
    {s : AvcRelayState} (ha : allowed ⟨.avcSwitchState, s.toByte⟩) {pulse : Fw D Unit}
    (hp : Moves R pulse) : Moves R (controlAvcSwitch b s pulse) := by
  have hresult (x y : Bool) : Moves R (setResult (D := D) x y) := fun w => hv w _
  have hsave : Moves R (avcRelayStateSave b s >>= setSave) :=
    Moves.bind (avcRelayStateSave_moves hs hd ha) fun r w => hv w _
  refine Moves.bind (rtPinRead_moves hr _) fun v => Moves.ite (fun _ => ?_) fun _ => ?_
  · exact Moves.bind (hresult _ _) fun _ => hsave
  · refine Moves.bind hp fun _ => Moves.bind (rtPinRead_moves hr _) fun v => ?_
    exact Moves.bind (Moves.ite (fun _ => hresult _ _) fun _ => hresult _ _) fun _ => hsave

lemma followDevice_stores {type : LockType} (ha : allowed ⟨.deviceType, type.toByte⟩) :
    Moves R (followDevice b type) := by
  refine Moves.bind Moves.get fun w => Moves.ite (fun _ => ?_) fun _ => Moves.pure _
  exact Moves.bind (hs.modify_moves ha) fun _ => Moves.pure _

lemma modifyDeviceAndAddr_stores {type addr : Byte} (htype : allowed ⟨.deviceType, type⟩)
    (haddr : allowed ⟨.addr, addr⟩) : Moves R (modifyDeviceAndAddr b type addr) := by
  refine Moves.bind (hs.modify_moves htype) fun _ => Moves.ite (fun _ => ?_) fun _ => Moves.pure _
  exact hs.modify_moves haddr

end Allowed

lemma queryState_moves (hR : AllowsPinRead R) (type : QueryState) : Moves R (queryState b type) := by
  have hread (pin : ℕ) : Moves R (rtPinRead b pin) := rtPinRead_moves hR pin
  cases type with
  | ykPortState =>
    exact Moves.bind (hread _) fun _ => Moves.bind (hread _) fun _ => Moves.bind (hread _) fun _ =>
      Moves.bind (hread _) fun _ => Moves.pure _
  | avcSwitchLedRelayState =>
    exact Moves.bind (hread _) fun _ => Moves.bind (hread _) fun _ => Moves.bind (hread _) fun _ =>
      Moves.pure _
  | avcSwitchRelayState => exact Moves.bind (hread _) fun _ => Moves.pure _
  | avcSwitchOperationResult => exact Moves.bind Moves.get fun _ => Moves.pure _
  | coldLockState => exact Moves.pure _

lemma ykRelayK0Wait_moves (hr : AllowsPinRead R) (hd : AllowsDelay R) (state : Bool) (n : ℕ) :
    Moves R (ykRelayK0Wait b state n) := by
  induction n with
  | zero => exact Moves.pure _
  | succ n ih =>
    refine Moves.bind (rtPinRead_moves hr _) fun v => Moves.ite (fun _ => ?_) fun _ => Moves.pure _
    exact Moves.bind (fun w => hd w 1) fun _ => ih

lemma controlAvcSwitch_moves (hR : Quiet R) (s : AvcRelayState) {pulse : Fw D Unit}
    (hp : Moves R pulse) : Moves R (controlAvcSwitch b s pulse) :=
  controlAvcSwitch_stores hR.config.stores hR.pinRead hR.delay hR.avcState trivial hp

lemma controlYk_moves (hr : AllowsPinRead R) (hd : AllowsDelay R) {port : Byte} {state : Bool}
    {k0 k1 k2 k3 : Fw D Unit} (h0 : portBit port 0 = true → Moves R k0) (h1 : Moves R k1)
    (h2 : Moves R k2) (h3 : Moves R k3) : Moves R (controlYk b port state k0 k1 k2 k3) := by
  refine Moves.bind (whenPort_moves fun hp => ?_) fun _ => ?_
  · exact Moves.bind (h0 hp) fun _ => ykRelayK0Wait_moves hr hd state 50
  · exact Moves.bind (whenPort_moves fun _ => h1) fun _ =>
      Moves.bind (whenPort_moves fun _ => h2) fun _ => whenPort_moves fun _ => h3

lemma control_stores {allowed : ConfigWrite → Prop} (hs : Stores b R allowed) (hR : Wired R)
    {type : LockControl}
    (ha : ∀ s, type.saved = some s → allowed ⟨.avcSwitchState, s.toByte⟩) (port : Byte) :
    Moves R (control b type port) := by
  have hpair (ct k : ℕ) (level : Bool) : Moves R (ykLinePair ct k level) :=
    ykLinePair_moves hR ct k level
  have hswitch {s : AvcRelayState} (hsaved : type.saved = some s) (pin : ℕ) :
      Moves R (controlAvcSwitch b s (avcRelayControl pin timeRelayControl)) :=
    controlAvcSwitch_stores hs hR.pinRead hR.delay hR.avcState (ha s hsaved)
      (avcRelayControl_moves hR _ _)
  refine Moves.bind ?_ fun _ => Moves.pure _
  cases type with
  | ykOpen =>
    exact controlYk_moves hR.pinRead hR.delay (fun _ => avcRelayControl_moves hR _ _) (hpair _ _ _)
      (hpair _ _ _) (Moves.pure _)
  | ykClose =>
    exact controlYk_moves hR.pinRead hR.delay (fun _ => ykRelayK0Close_moves hR) (hpair _ _ _)
      (hpair _ _ _) (Moves.pure _)
  | avcSwitchEngage => exact hswitch rfl _
  | avcSwitchDisengage => exact hswitch rfl _
  | coldLockPowerOn => exact Moves.pure _
  | coldLockPowerOff => exact Moves.pure _

end Rules

section Sent

lemma wired_sent : Wired (Same (World.sent (D := D))) :=
  ⟨fun _ _ _ => rfl, fun _ _ => rfl, fun _ _ => rfl, fun _ _ _ => rfl, fun _ _ => rfl, fun _ => rfl⟩

lemma stores_sent : Stores b (Same World.sent) fun _ => True :=
  AllowsConfig.stores fun _ _ _ _ => rfl

lemma getConfig_sent (k : ConfigT) : Keeps World.sent (getConfig b k) := stores_sent.getConfig_moves k

lemma queryState_sent (type : QueryState) : Keeps World.sent (queryState b type) :=
  queryState_moves wired_sent.pinRead type

lemma control_sent (type : LockControl) (port : Byte) : Keeps World.sent (control b type port) :=
  control_stores stores_sent wired_sent (fun _ _ => trivial) port

end Sent

end YkLock
