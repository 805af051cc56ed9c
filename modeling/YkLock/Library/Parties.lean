import Mathlib

/-! A finite set of parties, each at a place of its own: what they hold together, and their parts of
a common log. -/

namespace YkLock.Library.Parties

variable {T L E : Type}

section Totals

variable [Fintype T]

def total (weight : L → ℕ) (place : T → L) : ℕ := ∑ t, weight (place t)

lemma total_update [DecidableEq T] (weight : L → ℕ) (place : T → L) (t : T) (l : L) :
    total weight (Function.update place t l) + weight (place t) =
      total weight place + weight l := by
  have hrest : ∑ u ∈ Finset.univ.erase t, weight (Function.update place t l u) =
      ∑ u ∈ Finset.univ.erase t, weight (place u) := by
    refine Finset.sum_congr rfl fun u hu => ?_
    rw [Function.update_of_ne (Finset.ne_of_mem_erase hu)]
  have hnew := Finset.add_sum_erase Finset.univ (fun u => weight (Function.update place t l u))
    (Finset.mem_univ t)
  have hold := Finset.add_sum_erase Finset.univ (fun u => weight (place u)) (Finset.mem_univ t)
  simp only [Function.update_self] at hnew
  rw [total, total, ← hnew, ← hold, hrest]
  omega

lemma le_total (weight : L → ℕ) (place : T → L) (t : T) : weight (place t) ≤ total weight place :=
  Finset.single_le_sum (f := fun u => weight (place u)) (fun _ _ => Nat.zero_le _)
    (Finset.mem_univ t)

lemma total_eq_zero {weight : L → ℕ} {place : T → L} (h : ∀ t, weight (place t) = 0) :
    total weight place = 0 :=
  Finset.sum_eq_zero fun t _ => h t

end Totals

section Logs

variable [DecidableEq T]

def mine (t : T) (log : List (T × E)) : List E := (log.filter fun e => e.1 = t).map Prod.snd

@[simp] lemma mine_append (t : T) (log log' : List (T × E)) :
    mine t (log ++ log') = mine t log ++ mine t log' := by
  rw [mine, List.filter_append, List.map_append]
  rfl

lemma mine_own (t : T) (l : List E) : mine t (l.map (Prod.mk t)) = l := by
  rw [mine, List.filter_map, List.map_map]
  simp [Function.comp_def]

lemma mine_other {t u : T} (h : t ≠ u) (l : List E) : mine u (l.map (Prod.mk t)) = [] := by
  rw [mine, List.filter_map]
  simp [Function.comp_def, h]

end Logs

end YkLock.Library.Parties
