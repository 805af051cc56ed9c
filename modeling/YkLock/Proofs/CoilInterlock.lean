import YkLock.Proofs.Frames
import YkLock.Model.Bench
import YkLock.Library.Runs

/-! The two coil pins of the relay over runs of `control`. -/

namespace YkLock

open Library.StatePrograms Library.Runs

variable {D : Type} {b : Board D}

def level (pin : ℕ) : List PinEvent → Bool
  | [] => false
  | .write p v :: t => if p = pin then v else level pin t
  | .reset :: _ => false
  | _ :: t => level pin t

def CoilsLow (t : List PinEvent) : Prop :=
  level pinAvcRelayClose t = false ∧ level pinAvcRelayOpen t = false

def BothHigh (t : List PinEvent) : Prop :=
  level pinAvcRelayClose t = true ∧ level pinAvcRelayOpen t = true

instance : DecidablePred BothHigh := fun _ => inferInstanceAs (Decidable (_ ∧ _))

def Interlock (w w' : World D) : Prop :=
  w.pins <:+ w'.pins ∧ (CoilsLow w.pins → CoilsLow w'.pins ∧
    ∀ t, w.pins <:+ t → t <:+ w'.pins → ¬ BothHigh t)

lemma CoilsLow.not_bothHigh {t : List PinEvent} (h : CoilsLow t) : ¬ BothHigh t := by
  rintro ⟨hc, -⟩
  simp [h.1] at hc

instance : Std.Refl (Interlock (D := D)) where
  refl w := by
    refine ⟨List.suffix_rfl, fun hw => ⟨hw, fun t h h' => ?_⟩⟩
    rw [h'.eq_of_length (le_antisymm h'.length_le h.length_le)]
    exact hw.not_bothHigh

instance : IsTrans (World D) Interlock where
  trans w w' w'' := by
    rintro ⟨hs, hi⟩ ⟨hs', hi'⟩
    refine ⟨hs.trans hs', fun hw => ?_⟩
    obtain ⟨hw', hsafe⟩ := hi hw
    obtain ⟨hw'', hsafe'⟩ := hi' hw'
    refine ⟨hw'', fun t h h' => ?_⟩
    rcases List.suffix_or_suffix_of_suffix h' hs' with ht | ht
    · exact hsafe t h ht
    · exact hsafe' t ht h'

lemma interlock_event (e : PinEvent) (hc : ∀ t, CoilsLow t → CoilsLow (e :: t)) (w : World D) :
    Interlock w { w with pins := e :: w.pins } := by
  refine ⟨List.suffix_cons _ _, fun hw => ⟨hc _ hw, fun t h h' => ?_⟩⟩
  rcases List.suffix_cons_iff.mp h' with rfl | ht
  · exact (hc _ hw).not_bothHigh
  · rw [ht.eq_of_length (le_antisymm ht.length_le h.length_le)]
    exact hw.not_bothHigh

lemma interlock_quiet : Quiet (Interlock (D := D)) where
  config w _ _ _ := Std.Refl.refl (r := Interlock) w
  pinRead w pin v := interlock_event (.read pin v) (fun _ h => h) w
  delay w n := interlock_event (.delay n) (fun _ h => h) w
  avcState w _ := Std.Refl.refl (r := Interlock) w

lemma pulse_interlock {pin : ℕ} (hp : pin = pinAvcRelayClose ∨ pin = pinAvcRelayOpen) (t : ℕ) :
    Moves (Interlock (D := D)) (avcRelayControl pin t) := by
  intro w
  change Interlock w { w with
    pins := .write pin pinLow :: .delay t :: .write pin pinHigh :: w.pins }
  have hne : pinAvcRelayClose ≠ pinAvcRelayOpen := by decide
  refine ⟨⟨[.write pin pinLow, .delay t, .write pin pinHigh], rfl⟩, fun hw => ⟨?_, fun u h h' => ?_⟩⟩
  · rcases hp with rfl | rfl <;> simp [CoilsLow, level, pinLow, hne, hne.symm, hw.1, hw.2]
  · have hhigh : ¬ BothHigh (.write pin pinHigh :: w.pins) := by
      rcases hp with rfl | rfl <;> simp [BothHigh, level, hne, hne.symm, hw.1, hw.2]
    rcases List.suffix_cons_iff.mp h' with rfl | h'
    · rcases hp with rfl | rfl <;> simp [BothHigh, level, pinLow, hne, hne.symm, hw.1, hw.2]
    · rcases List.suffix_cons_iff.mp h' with rfl | h'
      · exact hhigh
      · rcases List.suffix_cons_iff.mp h' with rfl | h'
        · exact hhigh
        · rw [h'.eq_of_length (le_antisymm h'.length_le h.length_le)]
          exact hw.not_bothHigh

lemma linePair_interlock {ct k : ℕ} (hct : ct ≠ pinAvcRelayClose ∧ ct ≠ pinAvcRelayOpen)
    (hk : k ≠ pinAvcRelayClose ∧ k ≠ pinAvcRelayOpen) (v : Bool) :
    Moves (Interlock (D := D)) (ykLinePair ct k v) := by
  have hw (p : ℕ) (hp : p ≠ pinAvcRelayClose ∧ p ≠ pinAvcRelayOpen) (v : Bool) :
      Moves (Interlock (D := D)) (rtPinWrite p v) :=
    fun w => interlock_event _ (fun t h => by simpa [CoilsLow, level, hp.1, hp.2] using h) w
  exact Moves.bind (hw ct hct v) fun _ => hw k hk _

def ClosesK0 (c : LockControl × Byte) : Prop := c.1 = .ykClose ∧ portBit c.2 0 = true

instance : DecidablePred ClosesK0 := fun _ => inferInstanceAs (Decidable (_ ∧ _))

lemma control_interlock {c : LockControl × Byte} (hc : ¬ ClosesK0 c) :
    Moves Interlock (control b c.1 c.2) := by
  have hq := interlock_quiet (D := D)
  have h1 (v : Bool) : Moves (Interlock (D := D)) (ykLinePair pinAvcCt1 pinAvcK1 v) :=
    linePair_interlock (by decide) (by decide) v
  have h2 (v : Bool) : Moves (Interlock (D := D)) (ykLinePair pinAvcCt2 pinAvcK2 v) :=
    linePair_interlock (by decide) (by decide) v
  obtain ⟨type, port⟩ := c
  refine Moves.bind ?_ fun _ => Moves.pure _
  cases type with
  | ykOpen =>
    exact controlYk_moves hq.pinRead hq.delay (fun _ => pulse_interlock (Or.inr rfl) _) (h1 _)
      (h2 _) (Moves.pure _)
  | ykClose =>
    exact controlYk_moves hq.pinRead hq.delay (fun hp => (hc ⟨rfl, hp⟩).elim) (h1 _)
      (h2 _) (Moves.pure _)
  | avcSwitchEngage => exact controlAvcSwitch_moves hq _ (pulse_interlock (Or.inl rfl) _)
  | avcSwitchDisengage => exact controlAvcSwitch_moves hq _ (pulse_interlock (Or.inr rfl) _)
  | coldLockPowerOn => exact Moves.pure _
  | coldLockPowerOff => exact Moves.pure _

abbrev closeLevel (w : World D) : Bool := level pinAvcRelayClose w.pins

lemma closesK0_level {c : LockControl × Byte} (hc : ClosesK0 c) (w : World D) :
    closeLevel ((control b c.1 c.2).run w).2 = true := by
  have hread : AllowsPinRead (Same (closeLevel (D := D))) := fun _ _ _ => rfl
  have hdelay : AllowsDelay (Same (closeLevel (D := D))) := fun _ _ => rfl
  have hwrite (p : ℕ) (hp : p ≠ pinAvcRelayClose) (v : Bool) :
      Keeps (closeLevel (D := D)) (rtPinWrite p v) :=
    fun w => by simp [Same, closeLevel, level, hp]
  have hpair (ct k : ℕ) (hct : ct ≠ pinAvcRelayClose) (hk : k ≠ pinAvcRelayClose) (v : Bool)
      (port : Byte) (n : ℕ) : Keeps (closeLevel (D := D)) (whenPort port n (ykLinePair ct k v)) :=
    whenPort_moves fun _ => Moves.bind (hwrite ct hct v) fun _ => hwrite k hk _
  obtain ⟨type, port⟩ := c
  obtain ⟨rfl, hp⟩ := hc
  have hrest : Keeps (closeLevel (D := D)) (do
      ykRelayK0Wait b ykRealyStateClose 50
      whenPort port 1 ykRelayK1Close
      whenPort port 2 ykRelayK2Close
      whenPort port 3 ykRelayK3Close) :=
    Moves.bind (ykRelayK0Wait_moves hread hdelay _ 50) fun _ =>
      Moves.bind (hpair _ _ (by decide) (by decide) _ port 1) fun _ =>
        Moves.bind (hpair _ _ (by decide) (by decide) _ port 2) fun _ =>
          whenPort_moves fun _ => Moves.pure _
  have hk := hrest ((ykRelayK0Close (D := D)).run w).2
  have hrun : ((control b .ykClose port).run w).2 = ((do
      ykRelayK0Wait b ykRealyStateClose 50
      whenPort port 1 ykRelayK1Close
      whenPort port 2 ykRelayK2Close
      whenPort port 3 ykRelayK3Close : Fw D Unit).run ((ykRelayK0Close (D := D)).run w).2).2 := by
    simp [control, controlYk, whenPort, hp]
  rw [hrun]
  exact hk.trans (by simp [closeLevel, ykRelayK0Close, level, pinHigh, show
    pinAvcRelayOpen ≠ pinAvcRelayClose by decide])

def runControl (b : Board D) (cs : List (LockControl × Byte)) (w : World D) : World D :=
  run (fun c w => ((control b c.1 c.2).run w).2) cs w

def CoilsInterlocked (b : Board D) (cs : List (LockControl × Byte)) (w : World D) : Prop :=
  (∀ t, w.pins <:+ t → t <:+ (runControl b cs w).pins → ¬ BothHigh t) ∧
    ∀ pre, pre <+: cs → CoilsLow (runControl b pre w).pins

lemma runControl_interlock {cs : List (LockControl × Byte)} (hcs : ∀ c ∈ cs, ¬ ClosesK0 c)
    (w : World D) : Interlock w (runControl b cs w) :=
  run_relates (fun c hc w => control_interlock (hcs c hc) w) w

theorem coils_interlocked_iff (b : Board D) (cs : List (LockControl × Byte)) (w : World D)
    (hw : CoilsLow w.pins) : CoilsInterlocked b cs w ↔ ∀ c ∈ cs, ¬ ClosesK0 c := by
  constructor
  · rintro ⟨-, hlow⟩ c hc hk
    obtain ⟨pre, post, rfl⟩ := List.append_of_mem hc
    have hl := hlow (pre ++ [c]) ⟨post, by simp⟩
    have hr : runControl b (pre ++ [c]) w = ((control b c.1 c.2).run (runControl b pre w)).2 := by
      simp [runControl]
    have hh := closesK0_level (b := b) hk (runControl b pre w)
    rw [hr] at hl
    exact absurd (hl.1.symm.trans hh) (by decide)
  · intro hcs
    refine ⟨((runControl_interlock hcs w).2 hw).2, fun pre hpre => ?_⟩
    exact ((runControl_interlock (fun c hc => hcs c (hpre.subset hc)) w).2 hw).1

theorem coils_interlocked_bench :
    CoilsInterlocked (bench followingRelay)
      [(.avcSwitchEngage, 0), (.ykOpen, 0x0f), (.avcSwitchDisengage, 0)] (powered ⟨0, 4, 0, 0, 1, 1⟩) :=
  (coils_interlocked_iff _ _ _ ⟨rfl, rfl⟩).mpr (by decide)

theorem coils_interlocked_fails :
    ¬ ∀ cs, CoilsInterlocked (bench followingRelay) cs (powered ⟨0, 4, 0, 0, 1, 1⟩) := by
  intro h
  have hrun := (h [(.ykClose, 0x01), (.avcSwitchDisengage, 0)]).1
  exact hrun _ List.nil_suffix (List.drop_suffix 3 _) (by decide +kernel)

end YkLock
