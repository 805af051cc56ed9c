import YkLock.Library.Parties
import YkLock.Library.Runs
import YkLock.Model.CanTransmit

/-! Which thread has which send box, and what the semaphore counts. -/

namespace YkLock

open Library.Parties

variable {T : Type}

def TxPc.owns : TxPc → Option ℕ
  | .init no | .send no | .wait no | .suspended no | .resumed no | .collect no | .refused no => some no
  | .idle | .take | .pop | .release _ | .account _ => none

def TxPc.permit : TxPc → ℕ
  | .pop | .release _ => 1
  | .idle | .take | .init _ | .send _ | .wait _ | .suspended _ | .resumed _ | .collect _ | .refused _
  | .account _ => 0

def TxSystem.pcs (s : TxSystem T) (t : T) : TxPc := (s.sender t).pc

structure Boxes [Fintype T] (n sem : ℕ) (freelist : List ℕ) (pc : T → TxPc) : Prop where
  nodup : freelist.Nodup
  sole : ∀ t u no, (pc t).owns = some no → (pc u).owns = some no → t = u
  owned : ∀ t no, (pc t).owns = some no → no < n ∧ no ∉ freelist
  all : ∀ no, no < n → no ∈ freelist ∨ ∃ t, (pc t).owns = some no
  lt : ∀ no ∈ freelist, no < n
  permits : freelist.length = sem + total TxPc.permit pc

section Boxes

variable [Fintype T] [DecidableEq T] {n sem no : ℕ} {freelist : List ℕ} {pc : T → TxPc} {t : T}
  {pc' : TxPc}

omit [DecidableEq T] in
lemma boxes_rtCanOpenTx (n : ℕ) : Boxes n n (List.range n) fun _ : T => TxPc.idle := by
  constructor
  · exact List.nodup_range
  · intro t u no ht
    cases ht
  · intro t no ht
    cases ht
  · exact fun no hno => Or.inl (List.mem_range.mpr hno)
  · exact fun no hno => List.mem_range.mp hno
  · have hnone : total TxPc.permit (fun _ : T => TxPc.idle) = 0 := total_eq_zero fun _ => rfl
    rw [List.length_range, hnone, Nat.add_zero]

lemma Boxes.pass (h : Boxes n sem freelist pc) (sem' : ℕ) (howns : pc'.owns = (pc t).owns)
    (hpermit : sem' + pc'.permit = sem + (pc t).permit) :
    Boxes n sem' freelist (Function.update pc t pc') := by
  have hsame (u : T) : (Function.update pc t pc' u).owns = (pc u).owns := by
    by_cases hu : u = t
    · rw [hu, Function.update_self, howns]
    · rw [Function.update_of_ne hu]
  constructor
  · exact h.nodup
  · intro u v no hu hv
    exact h.sole u v no ((hsame u).symm.trans hu) ((hsame v).symm.trans hv)
  · intro u no hu
    exact h.owned u no ((hsame u).symm.trans hu)
  · intro no hno
    exact (h.all no hno).imp_right fun ⟨u, hu⟩ => ⟨u, (hsame u).trans hu⟩
  · exact h.lt
  · have htotal := total_update TxPc.permit pc t pc'
    have hpermits := h.permits
    omega

lemma Boxes.pop (h : Boxes n sem (no :: freelist) pc) (ht : pc t = .pop) :
    Boxes n sem freelist (Function.update pc t (.init no)) := by
  have hnot : no ∉ freelist := (List.nodup_cons.mp h.nodup).1
  have hnone (u : T) : (pc u).owns ≠ some no := fun hu =>
    (h.owned u no hu).2 List.mem_cons_self
  have hcases (u : T) (k : ℕ) (hu : (Function.update pc t (.init no) u).owns = some k) :
      (u = t ∧ k = no) ∨ (u ≠ t ∧ (pc u).owns = some k) := by
    by_cases hut : u = t
    · rw [hut, Function.update_self] at hu
      exact Or.inl ⟨hut, (Option.some.inj hu).symm⟩
    · rw [Function.update_of_ne hut] at hu
      exact Or.inr ⟨hut, hu⟩
  constructor
  · exact (List.nodup_cons.mp h.nodup).2
  · intro u v k hu hv
    rcases hcases u k hu with ⟨hut, hk⟩ | ⟨-, hu'⟩
    · rcases hcases v k hv with ⟨hvt, -⟩ | ⟨-, hv'⟩
      · rw [hut, hvt]
      · rw [hk] at hv'
        exact absurd hv' (hnone v)
    · rcases hcases v k hv with ⟨-, hk⟩ | ⟨-, hv'⟩
      · rw [hk] at hu'
        exact absurd hu' (hnone u)
      · exact h.sole u v k hu' hv'
  · intro u k hu
    rcases hcases u k hu with ⟨-, hk⟩ | ⟨-, hu'⟩
    · rw [hk]
      exact ⟨h.lt no List.mem_cons_self, hnot⟩
    · exact (h.owned u k hu').imp_right fun hk hmem => hk (List.mem_cons_of_mem _ hmem)
  · intro k hk
    rcases h.all k hk with hmem | ⟨u, hu⟩
    · rcases List.mem_cons.mp hmem with rfl | hmem
      · exact Or.inr ⟨t, by rw [Function.update_self]; rfl⟩
      · exact Or.inl hmem
    · refine Or.inr ⟨u, ?_⟩
      rw [Function.update_of_ne, hu]
      rintro rfl
      rw [ht] at hu
      cases hu
  · exact fun k hk => h.lt k (List.mem_cons_of_mem _ hk)
  · have htotal := total_update TxPc.permit pc t (.init no)
    have hpermits := h.permits
    rw [ht] at htotal
    simp only [List.length_cons, TxPc.permit] at hpermits htotal
    omega

lemma Boxes.giveBack (h : Boxes n sem freelist pc) (ht : (pc t).owns = some no) (ok : Bool) :
    Boxes n sem (freelist ++ [no]) (Function.update pc t (.release ok)) := by
  obtain ⟨hlt, hnot⟩ := h.owned t no ht
  have hcases (u : T) (k : ℕ) (hu : (Function.update pc t (.release ok) u).owns = some k) :
      u ≠ t ∧ (pc u).owns = some k := by
    by_cases hut : u = t
    · rw [hut, Function.update_self] at hu
      cases hu
    · rw [Function.update_of_ne hut] at hu
      exact ⟨hut, hu⟩
  constructor
  · refine List.nodup_append.mpr ⟨h.nodup, List.nodup_singleton no, fun k hk m hm => ?_⟩
    rw [List.mem_singleton.mp hm]
    rintro rfl
    exact hnot hk
  · exact fun u v k hu hv => h.sole u v k (hcases u k hu).2 (hcases v k hv).2
  · intro u k hu
    obtain ⟨hut, hu'⟩ := hcases u k hu
    obtain ⟨hk, hfree⟩ := h.owned u k hu'
    refine ⟨hk, fun hmem => ?_⟩
    rcases List.mem_append.mp hmem with hmem | hmem
    · exact hfree hmem
    · rw [List.mem_singleton.mp hmem] at hu'
      exact hut (h.sole u t no hu' ht)
  · intro k hk
    rcases h.all k hk with hmem | ⟨u, hu⟩
    · exact Or.inl (List.mem_append_left _ hmem)
    · by_cases hut : u = t
      · rw [hut, ht] at hu
        exact Or.inl (List.mem_append_right _ (List.mem_singleton.mpr (Option.some.inj hu).symm))
      · refine Or.inr ⟨u, ?_⟩
        rw [Function.update_of_ne hut, hu]
  · intro k hk
    rcases List.mem_append.mp hk with hk | hk
    · exact h.lt k hk
    · rw [List.mem_singleton.mp hk]
      exact hlt
  · have htotal := total_update TxPc.permit pc t (.release ok)
    have hpermits := h.permits
    have hzero : (pc t).permit = 0 := by
      cases hpc : pc t <;> rw [hpc] at ht <;> first | rfl | cases ht
    rw [hzero] at htotal
    simp only [List.length_append, List.length_singleton, TxPc.permit] at hpermits htotal ⊢
    omega

end Boxes

end YkLock
