import Mathlib

/-! Permits that are taken and given back, and lines in which those wait who find none. -/

namespace YkLock.Library.WaitingLine

variable {T : Type}

inductive Permit (T : Type)
  | take (t : T)
  | release
  deriving DecidableEq, Repr

def permits (n : ℕ) : List (Permit T) → Option ℕ
  | [] => some n
  | .release :: log => permits (n + 1) log
  | .take _ :: log => if n = 0 then none else permits (n - 1) log

lemma permits_append {n m : ℕ} {log log' : List (Permit T)} (h : permits n log = some m) :
    permits n (log ++ log') = permits m log' := by
  induction log generalizing n with
  | nil =>
    obtain rfl := Option.some.inj h
    rfl
  | cons e log ih =>
    cases e with
    | release => exact ih h
    | take t =>
      rw [permits] at h
      by_cases hn : n = 0
      · rw [if_pos hn] at h
        cases h
      · rw [if_neg hn] at h
        rw [List.cons_append, permits, if_neg hn]
        exact ih h

section Lines

variable {R p : T → T → Prop} [DecidableRel p] {a : T} {l : List T}

lemma mem_orderedInsert_iff {b : T} : b ∈ l.orderedInsert p a ↔ b = a ∨ b ∈ l := by
  rw [(l.perm_orderedInsert p a).mem_iff, List.mem_cons]

lemma pairwise_orderedInsert (hl : l.Pairwise R) (hfront : ∀ b ∈ l, p a b → R a b)
    (hbehind : ∀ b ∈ l, ¬ p a b → R b a)
    (hpass : ∀ b ∈ l, ∀ c ∈ l, p a b → R b c → R a c) : (l.orderedInsert p a).Pairwise R := by
  induction l with
  | nil => exact List.pairwise_singleton R a
  | cons b l ih =>
    obtain ⟨hb, htail⟩ := List.pairwise_cons.mp hl
    rw [List.orderedInsert_cons]
    by_cases hp : p a b
    · rw [if_pos hp]
      refine List.pairwise_cons.mpr ⟨?_, hl⟩
      intro c hc
      rcases List.mem_cons.mp hc with rfl | hc'
      · exact hfront c List.mem_cons_self hp
      · exact hpass b List.mem_cons_self c hc hp (hb c hc')
    · rw [if_neg hp]
      refine List.pairwise_cons.mpr ⟨?_, ?_⟩
      · intro c hc
        rcases mem_orderedInsert_iff.mp hc with rfl | hc'
        · exact hbehind b List.mem_cons_self hp
        · exact hb c hc'
      · apply ih htail
        · exact fun c hc => hfront c (List.mem_cons_of_mem b hc)
        · exact fun c hc => hbehind c (List.mem_cons_of_mem b hc)
        · exact fun c hc d hd =>
            hpass c (List.mem_cons_of_mem b hc) d (List.mem_cons_of_mem b hd)

end Lines

end YkLock.Library.WaitingLine
