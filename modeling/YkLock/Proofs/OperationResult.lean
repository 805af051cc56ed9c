import YkLock.Proofs.FaultyTransfers
import YkLock.Proofs.Frames

/-! What an AVC operation reports about the relay and about the stored relay state. -/

namespace YkLock

open Library.StatePrograms Library.Storage Library.Runs

variable {D : Type} {b : Board D} {content : D → Image}

def relayCheck : PinEvent → Option Bool
  | .read pin level => if pin = pinAvcRelayCheck then some level else none
  | _ => none

def relayChecks (events : List PinEvent) : List Bool := events.reverse.filterMap relayCheck

structure ReportsChecks (s : AvcRelayState) (checks : List Bool) (result : AvcState) : Prop where
  isSet : result.isSet = true ↔ checks.getLast? = some s.level
  isAction : result.isAction = true ↔
    checks.head? = some (!s.level) ∧ checks.getLast? = some s.level

structure ReportsSave (s : AvcRelayState) (saved : Bool) (r r' : Info) : Prop where
  isSave : saved = true → r'.avcRelayState = s.toByte
  others : ∀ k, k ≠ .avcSwitchState → r'.get k = r.get k

def Truthful (content : D → Image) (s : AvcRelayState) (w w' : World D) : Prop :=
  ∃ events, w'.pins = events ++ w.pins ∧ ReportsChecks s (relayChecks events) w'.avcState ∧
    ReportsSave s w'.avcState.isSave (w.record content) (w'.record content)

section Checks

def Unchecked (w w' : World D) : Prop :=
  w'.avcState = w.avcState ∧ ∃ events, w'.pins = events ++ w.pins ∧ relayChecks events = []

lemma relayChecks_append (later events : List PinEvent) :
    relayChecks (later ++ events) = relayChecks events ++ relayChecks later := by
  simp [relayChecks]

lemma unchecked_of_same {w w' : World D} (ha : w'.avcState = w.avcState) (hp : w'.pins = w.pins) :
    Unchecked w w' := ⟨ha, [], hp, rfl⟩

instance : Std.Refl (Unchecked (D := D)) := ⟨fun _ => unchecked_of_same rfl rfl⟩

instance : IsTrans (World D) Unchecked where
  trans w w' w'' := by
    rintro ⟨ha, events, hp, hc⟩ ⟨ha', later, hp', hc'⟩
    refine ⟨ha'.trans ha, later ++ events, by rw [hp', hp, List.append_assoc], ?_⟩
    rw [relayChecks_append, hc, hc']
    rfl

lemma avcRelayStateSave_unchecked (s : AvcRelayState) : Moves Unchecked (avcRelayStateSave b s) := by
  have hconfig : AllowsConfig (Unchecked (D := D)) := fun _ _ _ _ => unchecked_of_same rfl rfl
  exact avcRelayStateSave_moves hconfig.stores (fun _ n => ⟨rfl, [.delay n], rfl, rfl⟩) trivial

lemma reportsChecks_one {s : AvcRelayState} {first : Bool} (hfirst : first = s.level) (saved : Bool) :
    ReportsChecks s [first] ⟨false, true, saved⟩ := by
  refine ⟨iff_of_true rfl (congrArg some hfirst), iff_of_false Bool.false_ne_true fun h => ?_⟩
  have hne : first = !s.level := Option.some.inj h.1
  exact absurd hfirst (Bool.eq_not.mp hne)

lemma reportsChecks_two {s : AvcRelayState} {first last : Bool} (hfirst : first ≠ s.level)
    (saved : Bool) : ReportsChecks s [first, last]
      ⟨decide (last = s.level), decide (last = s.level), saved⟩ := by
  have hne : first = !s.level := Bool.eq_not.mpr hfirst
  constructor
  · simp
  · simp [hne]

lemma controlAvcSwitch_run (s : AvcRelayState) (pin t : ℕ) (w : World D) : ∃ v : World D,
    v.dev = w.dev ∧ v.cache = w.cache ∧
      (∃ events, v.pins = events ++ w.pins ∧ ReportsChecks s (relayChecks events) v.avcState) ∧
      ((controlAvcSwitch b s (avcRelayControl pin t)).run w).2 =
        ((avcRelayStateSave b s >>= setSave).run v).2 := by
  let checked (w : World D) : World D :=
    { w with pins := .read pinAvcRelayCheck (b.feedback pinAvcRelayCheck w.pins) :: w.pins }
  by_cases hfirst : b.feedback pinAvcRelayCheck w.pins = s.level
  · refine ⟨((setResult false true).run (checked w)).2, rfl, rfl, ⟨[_], rfl, ?_⟩, ?_⟩
    · exact reportsChecks_one hfirst _
    · rw [controlAvcSwitch, run_bind, avcRelayCheck, rtPinRead_run, run_ite, if_pos hfirst]
      rfl
  · let pulsed : World D := ((avcRelayControl pin t).run (checked w)).2
    let last : Bool := b.feedback pinAvcRelayCheck pulsed.pins
    refine ⟨((setResult (decide (last = s.level)) (decide (last = s.level))).run (checked pulsed)).2,
      rfl, rfl, ⟨[_, .write pin pinLow, .delay t, .write pin pinHigh, _], rfl, ?_⟩, ?_⟩
    · exact reportsChecks_two hfirst _
    · rw [controlAvcSwitch, run_bind, avcRelayCheck, rtPinRead_run, run_ite, if_neg hfirst]
      have hresult : (if last = s.level then setResult true true else setResult false false) =
          setResult (D := D) (decide (last = s.level)) (decide (last = s.level)) := by
        by_cases hlast : last = s.level
        · simp [hlast]
        · simp [hlast]
      change (((if last = s.level then setResult true true else setResult false false) >>= fun _ =>
        avcRelayStateSave b s >>= setSave).run (checked pulsed)).2 = _
      rw [hresult]
      rfl

end Checks

section Save

variable (h : b.at24cxx.Faulty content)
include h

lemma verify_saved {s : AvcRelayState} (n : ℕ) {state : Byte} (hstate : state ≠ s.toByte)
    (w : World D) :
    ((avcRelayStateVerify b s n state).run w).2.record content = w.record content ∧
      (((avcRelayStateVerify b s n state).run w).1 = .eok →
        (w.record content).avcRelayState = s.toByte) := by
  induction n generalizing state w with
  | zero => exact ⟨rfl, fun he => by cases he⟩
  | succ n ih =>
    have hrecord := get_record h .avcSwitchState w
    rw [avcRelayStateVerify, run_bind]
    by_cases hnext : (((configGet b .avcSwitchState).run w).1).getD state = s.toByte
    · rw [run_ite, if_pos hnext]
      refine ⟨hrecord, fun _ => ?_⟩
      rcases hread : ((configGet b .avcSwitchState).run w).1 with _ | x
      · rw [hread] at hnext
        exact absurd hnext hstate
      · rw [hread] at hnext
        exact (get_value h hread).symm.trans hnext
    · rw [run_ite, if_neg hnext]
      obtain ⟨hkept, hsaved⟩ := ih hnext
        ((rtThreadDelay 1).run ((configGet b .avcSwitchState).run w).2).2
      have hdelay : ((rtThreadDelay 1).run ((configGet b .avcSwitchState).run w).2).2.record content =
          w.record content := hrecord
      rw [hdelay] at hkept hsaved
      exact ⟨hkept, hsaved⟩

def modifyAndVerify (b : Board D) (s : AvcRelayState) (state : Byte) : Fw D RtErr := do
  if (← configModify b .avcSwitchState s.toByte) ≠ .eok then return .error
  else avcRelayStateVerify b s 10 state

lemma modifyAndVerify_reports {s : AvcRelayState} {state : Byte} (hstate : state ≠ s.toByte)
    {v : World D} (hv : v.Synced content) :
    ReportsSave s (decide (((modifyAndVerify b s state).run v).1 = .eok)) (v.record content)
      (((modifyAndVerify b s state).run v).2.record content) := by
  have hothers (k : ConfigT) (hk : k ≠ .avcSwitchState) :
      ((configStep b (.modify .avcSwitchState s.toByte) v).record content).get k =
        (v.record content).get k :=
    step_get_of_ne h (fun u hu => hk (by cases hu; rfl)) hv
  rw [modifyAndVerify, run_bind, run_ite]
  by_cases hmodify : ((configModify b .avcSwitchState s.toByte).run v).1 = .eok
  · rw [if_neg (not_not.mpr hmodify)]
    obtain ⟨hkept, hsaved⟩ := verify_saved h 10 hstate
      (configStep b (.modify .avcSwitchState s.toByte) v)
    exact ⟨fun he => (congrArg Info.avcRelayState hkept).trans (hsaved (of_decide_eq_true he)),
      fun k hk => (congrArg (Info.get k) hkept).trans (hothers k hk)⟩
  · rw [if_pos hmodify]
    exact ⟨fun he => absurd he (by simp), hothers⟩

lemma avcRelayStateSave_reports (s : AvcRelayState) (w : World D) :
    ReportsSave s (decide (((avcRelayStateSave b s).run w).1 = .eok)) (w.record content)
      (((avcRelayStateSave b s).run w).2.record content) := by
  have hrecord : ((configGet b .avcSwitchState).run w).2.record content = w.record content :=
    get_record h .avcSwitchState w
  have hothers (k : ConfigT) : (((configGet b .avcSwitchState).run w).2.record content).get k =
      (w.record content).get k := congrArg (Info.get k) hrecord
  rw [avcRelayStateSave, run_bind]
  rcases hread : ((configGet b .avcSwitchState).run w).1 with _ | state
  · exact ⟨fun he => absurd he (by simp), fun k _ => hothers k⟩
  · have hstate : state = (w.record content).avcRelayState := get_value h hread
    have hsynced : ((configGet b .avcSwitchState).run w).2.Synced content :=
      step_synced_of_succeeds h (.get .avcSwitchState) w
        (by rw [Succeeds, ConfigCall.run, hread]; rfl)
    simp only [run_ite]
    by_cases hsame : state = s.toByte
    · rw [if_pos hsame]
      exact ⟨fun _ => (hothers .avcSwitchState).trans (hstate.symm.trans hsame), fun k _ => hothers k⟩
    · rw [if_neg hsame]
      obtain ⟨hsave, hkept⟩ := modifyAndVerify_reports h hsame hsynced
      exact ⟨hsave, fun k hk => (hkept k hk).trans (hothers k)⟩

end Save

def operate (b : Board D) (s : AvcRelayState) (w : World D) : World D :=
  ((control b s.request 0).run w).2

lemma operate_truthful (h : b.at24cxx.Faulty content) (s : AvcRelayState) (w : World D) :
    Truthful content s w (operate b s w) := by
  have hcontrol (pin t : ℕ) :
      Truthful content s w ((controlAvcSwitch b s (avcRelayControl pin t)).run w).2 := by
    obtain ⟨v, hdev, -, ⟨events, hpins, hchecks⟩, hrun⟩ :=
      controlAvcSwitch_run (b := b) s pin t w
    obtain ⟨hstate, later, hlater, hnone⟩ := avcRelayStateSave_unchecked (b := b) s v
    have hsave := avcRelayStateSave_reports h s v
    have hrecord : v.record content = w.record content := congrArg (fun d => Info.decode (content d)) hdev
    rw [hrun]
    refine ⟨later ++ events, ?_, ?_, hrecord ▸ hsave⟩
    · exact hlater.trans (by rw [hpins, List.append_assoc])
    · rw [relayChecks_append, hnone, List.append_nil]
      rw [← hstate] at hchecks
      exact ⟨hchecks.isSet, hchecks.isAction⟩
  cases s with
  | stateOpen => exact hcontrol _ _
  | stateClose => exact hcontrol _ _

def OperationsTruthful (b : Board D) (content : D → Image) (requests : List AvcRelayState)
    (w : World D) : Prop :=
  ∀ pre s, pre ++ [s] <+: requests →
    Truthful content s (run (operate b) pre w) (run (operate b) (pre ++ [s]) w)

theorem operations_truthful (b : Board D) (content : D → Image) (requests : List AvcRelayState)
    (w : World D) (h : b.at24cxx.Faulty content) : OperationsTruthful b content requests w := by
  intro pre s _
  rw [run_append]
  exact operate_truthful h s _

theorem operations_truthful_flaky : OperationsTruthful flakyBoard Prod.fst
    [.stateClose, .stateClose, .stateOpen]
    (poweredOn (Info.encode ⟨0, 4, 5, 5, 1, 1⟩, [true, true, false, true, true])) :=
  operations_truthful flakyBoard Prod.fst _ _ Device.flaky_faulty

end YkLock
