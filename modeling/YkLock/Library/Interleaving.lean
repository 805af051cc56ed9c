import YkLock.Library.Runs

/-! Two threads over a shared state: schedules, the order of steps in them, and simulations. -/

namespace YkLock.Library.Interleaving

open Runs

variable {S L S' L' : Type}

structure Pool (S L : Type) where
  shared : S
  thread : Bool → L

def Pool.step (f : Bool → L → S → L × S) (x : Bool) (p : Pool S L) : Pool S L where
  shared := (f x (p.thread x) p.shared).2
  thread := Function.update p.thread x (f x (p.thread x) p.shared).1

def position : List Bool → Bool → ℕ → ℕ
  | [], _, _ => 0
  | y :: s, x, i =>
    if y = x then
      match i with
      | 0 => 0
      | i + 1 => position s x i + 1
    else position s x i + 1

def Before (s : List Bool) (x : Bool) (i : ℕ) (y : Bool) (j : ℕ) : Prop :=
  position s x i < position s y j

instance (s : List Bool) (x : Bool) (i : ℕ) (y : Bool) (j : ℕ) : Decidable (Before s x i y j) :=
  inferInstanceAs (Decidable (_ < _))

lemma forall_length_zero {P : List Bool → Prop} : (∀ s, s.length = 0 → P s) ↔ P [] := by
  simp [List.length_eq_zero_iff]

lemma forall_length_succ {P : List Bool → Prop} {n : ℕ} : (∀ s, s.length = n + 1 → P s) ↔
    (∀ s, s.length = n → P (true :: s)) ∧ ∀ s, s.length = n → P (false :: s) := by
  constructor
  · exact fun h => ⟨fun s hs => h _ (by simp [hs]), fun s hs => h _ (by simp [hs])⟩
  · rintro ⟨ht, hf⟩ (_ | ⟨_ | _, s⟩) hs
    · cases hs
    · exact hf s (Nat.succ.inj hs)
    · exact ht s (Nat.succ.inj hs)

instance decideSchedules : (n : ℕ) → (P : List Bool → Prop) → [DecidablePred P] →
    Decidable (∀ s, s.length = n → P s)
  | 0, _, _ => decidable_of_iff' _ forall_length_zero
  | n + 1, P, _ =>
    have := decideSchedules n fun s => P (true :: s)
    have := decideSchedules n fun s => P (false :: s)
    decidable_of_iff' _ forall_length_succ

def Simulates (f : Bool → L → S → L × S) (f' : Bool → L' → S' → L' × S') (Q : L' → L → Prop)
    (R : S' → S → Prop) : Prop :=
  ∀ x l' s' l s, Q l' l → R s' s → Q (f' x l' s').1 (f x l s).1 ∧ R (f' x l' s').2 (f x l s).2

lemma Simulates.run {f : Bool → L → S → L × S} {f' : Bool → L' → S' → L' × S'} {Q : L' → L → Prop}
    {R : S' → S → Prop} (h : Simulates f f' Q R) (s : List Bool) {p' : Pool S' L'} {p : Pool S L}
    (hq : ∀ x, Q (p'.thread x) (p.thread x)) (hr : R p'.shared p.shared) :
    R (run (Pool.step f') s p').shared (run (Pool.step f) s p).shared := by
  induction s generalizing p p' with
  | nil => exact hr
  | cons x s ih =>
    obtain ⟨hl, hs⟩ := h x _ _ _ _ (hq x) hr
    refine ih (fun y => ?_) hs
    by_cases hy : y = x
    · subst hy
      simpa [Pool.step] using hl
    · simpa [Pool.step, hy] using hq y

end YkLock.Library.Interleaving
