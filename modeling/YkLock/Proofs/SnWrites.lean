import YkLock.Proofs.MultiWrites

/-! What an acknowledged change of the SN leaves in the record. -/

namespace YkLock

open Library.Storage Library.StatePrograms Library.Runs Library.Records

variable {D : Type}

def snWritten (b : Board D) (s : Word) (w : World D) : World D := ((modifySn b s).run w).2

/-- An error and the record as it was, or the SN as it was asked for beside the old address. -/
def ExactSn (b : Board D) (content : D → Image) (s : Word) (w : World D) : Prop :=
  (((modifySn b s).run w).1 = .error ∧ (snWritten b s w).record content = w.record content) ∨
    (((modifySn b s).run w).1 = .eok ∧ ((getSn b).run (snWritten b s w)).1 = s ∧
      ((snWritten b s w).record content).addr = (w.record content).addr)

lemma setWidth_word_eq_iff (s : Word) : (s.setWidth 24).setWidth 32 = s ↔ s.toNat < 2 ^ 24 := by
  constructor
  · intro h
    rw [← h]
    exact (BitVec.toNat_setWidth_of_le (by norm_num)).trans_lt (s.setWidth 24).isLt
  · intro h
    exact (Info.fits_sn_iff s).mpr h ⟨0, 0, 0, 0, 0, 0⟩

section Mirrored

variable {b : Board D} {content : D → Image} {pattern : D → ℕ → Bool}
  (h : b.at24cxx.Failing content pattern) {w : World D} (hw : Mirrored b content w)
include h hw

lemma snWritten_of_ok (s : Word) (hok : pattern w.dev 0 = true) :
    ((modifySn b s).run w).1 = .eok ∧
      ((getSn b).run (snWritten b s w)).1 = (s.setWidth 24).setWidth 32 ∧
      ((snWritten b s w).record content).addr = (w.record content).addr := by
  obtain ⟨hresult, hv⟩ := configModify_mirrors h .sn s w hw.mirrors
  rw [if_pos hok] at hresult
  rw [Fields.attempt, Fields.attempt, if_pos hok] at hv
  have hrecord : (snWritten b s w).record content = (w.record content).set .sn s := hv.record
  refine ⟨hresult, (getSn_mirrors h _ hv).1, ?_⟩
  rw [hrecord]
  rfl

lemma snWritten_of_fail (s : Word) (hfail : pattern w.dev 0 = false) :
    ((modifySn b s).run w).1 = .error ∧ (snWritten b s w).record content = w.record content := by
  obtain ⟨hresult, hv⟩ := configModify_mirrors h .sn s w hw.mirrors
  have hno : ¬ pattern w.dev 0 = true := by simp [hfail]
  rw [if_neg hno] at hresult
  rw [Fields.attempt, Fields.attempt, if_neg hno] at hv
  exact ⟨hresult, hv.record⟩

lemma exactSn_iff (s : Word) :
    ExactSn b content s w ↔ s.toNat < 2 ^ 24 ∨ pattern w.dev 0 = false := by
  rcases Bool.eq_false_or_eq_true (pattern w.dev 0) with hok | hfail
  · obtain ⟨hresult, hsn, haddr⟩ := snWritten_of_ok h hw s hok
    constructor
    · rintro (⟨he, -⟩ | ⟨-, hexact, -⟩)
      · cases hresult.symm.trans he
      · exact Or.inl ((setWidth_word_eq_iff s).mp (hsn.symm.trans hexact))
    · rintro (hs | hf)
      · exact Or.inr ⟨hresult, hsn.trans ((setWidth_word_eq_iff s).mpr hs), haddr⟩
      · cases hok.symm.trans hf
  · exact iff_of_true (Or.inl (snWritten_of_fail h hw s hfail)) (Or.inr hfail)

end Mirrored

theorem sn_write_exact_iff (b : Board D) (content : D → Image) (pattern : D → ℕ → Bool)
    (w : World D) (as : List Event) (s : Word) (h : b.at24cxx.Failing content pattern) :
    ExactSn b content s (run (event b) as (boot b w)) ↔
      s.toNat < 2 ^ 24 ∨ pattern (run (event b) as (boot b w)).dev 0 = false :=
  exactSn_iff h (run_mirrored h as w) s

theorem sn_write_exact_bench : ExactSn failingBench Prod.fst 0x00FFFFFF
    (run (event failingBench) [.cmdModifyAddr (some 7)]
      (boot failingBench (poweredOn (Info.encode ⟨0, 0, 5, 5, 0xD6, 1⟩, fun _ => true)))) :=
  (sn_write_exact_iff failingBench Prod.fst Prod.snd _ _ _ Device.scripted_failing).mpr
    (Or.inl (by decide))

theorem sn_write_not_exact : ¬ ∀ s, ExactSn failingBench Prod.fst s
    (boot failingBench (poweredOn (Info.encode ⟨0, 0, 5, 5, 0xD6, 1⟩, fun _ => true))) := by
  intro h
  have hstart := boot_mirrored Device.scripted_failing (b := failingBench)
    (poweredOn (Info.encode ⟨0, 0, 5, 5, 0xD6, 1⟩, fun _ => true))
  rcases (exactSn_iff Device.scripted_failing hstart _).mp (h 0x01000001) with hs | hf
  · exact absurd hs (by decide)
  · exact Bool.noConfusion (hf : true = false)

end YkLock
