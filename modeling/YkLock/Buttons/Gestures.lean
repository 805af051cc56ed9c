import YkLock.Library.Transducers

/-! What a button reports: gestures on one key, in scans. A press is reported once and at once;
holding it on is reported when it becomes a short, long and held one, and letting go of it with
the kind it had reached; quick presses are counted and reported together. -/

namespace YkLock

open Library.Transducers

/-- The counter of a held press stays below the largest value of its 16 bits. -/
structure Tuning where
  interval : ℕ
  short : ℕ
  long : ℕ
  hold : ℕ
  interval_lt : interval + 1 < short
  short_lt : short < long
  long_lt : long < hold
  hold_lt : hold < 2 ^ 16 - 1

inductive Gesture
  | down | clicks (k : ℕ)
  | shortStart | shortUp | longStart | longUp | longHold | longHoldUp
  deriving DecidableEq, Repr

inductive Phase
  | up | held (n k : ℕ) | between (n k : ℕ)
  deriving DecidableEq, Repr

def clickModulus : ℕ := 2 ^ 16

namespace Tuning

variable (c : Tuning)

def start (n : ℕ) : List Gesture :=
  if n = c.hold then [.longHold] else if n = c.long then [.longStart]
  else if n = c.short then [.shortStart] else []

def release (n k : ℕ) : Phase × List Gesture :=
  if c.hold ≤ n then (.up, [.longHoldUp]) else if c.long ≤ n then (.up, [.longUp])
  else if c.short ≤ n then (.up, [.shortUp]) else (.between n ((k + 1) % clickModulus), [])

def step (pressed : Bool) (phase : Phase) : Phase × List Gesture :=
  match phase with
  | .up => if pressed then (.held 0 0, [.down]) else (.up, [])
  | .held n k =>
    if pressed then
      if 0 < k then if c.interval < n + 1 then (.held 0 0, [.clicks k]) else (.held (n + 1) k, [])
      else (.held (n + 1) 0, c.start (n + 1))
    else c.release (n + 1) k
  | .between n k =>
    if pressed then (.held 0 k, [])
    else if c.interval < n + 1 then (.up, [.clicks k]) else (.between (n + 1) k, [])

def Opens : Gesture → Prop
  | .down | .clicks _ => True
  | _ => False

def Closes : Gesture → Prop
  | .clicks _ | .shortUp | .longUp | .longHoldUp => True
  | _ => False

/-- Which gesture may follow which, and how many scans later. Only where the click counter has
overflowed may a count be 0, and may quick taps run into a longer press. -/
def Follows (wrapped : Prop) (x y : ℕ × Gesture) : Prop :=
  match x.2, y.2 with
  | .down, .clicks k | .clicks _, .clicks k =>
    (0 < k ∧ x.1 + 2 * (k - 1) + c.interval + 1 ≤ y.1) ∨
      wrapped ∧ k = 0 ∧ x.1 + 2 * (clickModulus - 1) + c.interval + 1 ≤ y.1
  | .down, .shortStart | .clicks _, .shortStart | .down, .shortUp | .clicks _, .shortUp =>
    y.1 = x.1 + c.short ∨ wrapped ∧ x.1 + 2 * clickModulus + c.short ≤ y.1
  | .shortStart, .longStart | .shortStart, .longUp => y.1 = x.1 + (c.long - c.short)
  | .shortStart, .shortUp => x.1 < y.1 ∧ y.1 < x.1 + (c.long - c.short)
  | .longStart, .longHold | .longStart, .longHoldUp => y.1 = x.1 + (c.hold - c.long)
  | .longStart, .longUp => x.1 < y.1 ∧ y.1 < x.1 + (c.hold - c.long)
  | .longHold, .longHoldUp => x.1 < y.1
  | .clicks _, .down | .shortUp, .down | .longUp, .down | .longHoldUp, .down => x.1 < y.1
  | _, _ => False

def Since (wrapped : Prop) (x : ℕ × Gesture) (t : ℕ) (phase : Phase) : Prop :=
  match phase with
  | .up => Closes x.2 ∧ x.1 < t
  | .held n 0 =>
    (n < c.short ∧ Opens x.2 ∧
      (t = x.1 + n + 1 ∨ wrapped ∧ x.1 + 2 * clickModulus + n + 1 ≤ t)) ∨
    (x.2 = .shortStart ∧ c.short ≤ n ∧ n < c.long ∧ t + c.short = x.1 + n + 1) ∨
    (x.2 = .longStart ∧ c.long ≤ n ∧ n < c.hold ∧ t + c.long = x.1 + n + 1) ∨
    (x.2 = .longHold ∧ c.hold ≤ n ∧ x.1 < t)
  | .held n (k + 1) => n ≤ c.interval ∧ Opens x.2 ∧ k + 1 < clickModulus ∧
      x.1 + 2 * (k + 1) + n + 1 ≤ t
  | .between n k => 0 < n ∧ n < c.short ∧ Opens x.2 ∧ k < clickModulus ∧
      ((0 < k ∧ x.1 + 2 * (k - 1) + n + 1 ≤ t) ∨
        wrapped ∧ k = 0 ∧ x.1 + 2 * (clickModulus - 1) + n + 1 ≤ t)

def Continues (wrapped : Prop) (x : ℕ × Gesture) (t : ℕ) (p : Phase × List Gesture) : Prop :=
  (p.2 = [] ∧ c.Since wrapped x (t + 1) p.1) ∨
    ∃ e, p.2 = [e] ∧ c.Follows wrapped x (t, e) ∧ c.Since wrapped (t, e) (t + 1) p.1

end Tuning

def Phase.Overflown (phase : Phase) : Prop := ∃ n, phase = .between n 0

section Steps

variable {c : Tuning} {wrapped : Prop} {x : ℕ × Gesture} {t n k : ℕ}

lemma follows_clicks (hx : Tuning.Opens x.2)
    (h : (0 < k ∧ x.1 + 2 * (k - 1) + c.interval + 1 ≤ t) ∨
      wrapped ∧ k = 0 ∧ x.1 + 2 * (clickModulus - 1) + c.interval + 1 ≤ t) :
    c.Follows wrapped x (t, .clicks k) := by
  obtain ⟨s, g⟩ := x
  cases g with
  | down => exact h
  | clicks j => exact h
  | _ => exact hx.elim

lemma follows_short (hx : Tuning.Opens x.2)
    (h : t = x.1 + c.short ∨ wrapped ∧ x.1 + 2 * clickModulus + c.short ≤ t) :
    c.Follows wrapped x (t, .shortStart) ∧ c.Follows wrapped x (t, .shortUp) := by
  obtain ⟨s, g⟩ := x
  cases g with
  | down => exact ⟨h, h⟩
  | clicks j => exact ⟨h, h⟩
  | _ => exact hx.elim

lemma follows_down (hx : Tuning.Closes x.2) (ht : x.1 < t) : c.Follows wrapped x (t, .down) := by
  obtain ⟨s, g⟩ := x
  cases g with
  | down | shortStart | longStart | longHold => exact hx.elim
  | _ => exact ht

lemma since_held_zero {e : Gesture} (he : Tuning.Opens e) :
    c.Since wrapped (t, e) (t + 1) (.held 0 0) := by
  have hinterval := c.interval_lt
  exact Or.inl ⟨by omega, he, Or.inl rfl⟩

lemma continues_up (h : c.Since wrapped x t .up) (pressed : Bool) :
    c.Continues wrapped x t (c.step pressed .up) := by
  obtain ⟨hcloses, hlt⟩ := h
  cases pressed with
  | false => exact Or.inl ⟨rfl, hcloses, Nat.lt_succ_of_lt hlt⟩
  | true => exact Or.inr ⟨.down, rfl, follows_down hcloses hlt, since_held_zero trivial⟩

lemma continues_start (h : c.Since wrapped x t (.held n 0)) :
    c.Continues wrapped x t (.held (n + 1) 0, c.start (n + 1)) := by
  have hshort := c.short_lt
  have hlong := c.long_lt
  unfold Tuning.start
  rcases h with ⟨hn, hopens, hx⟩ | ⟨hx, hle, hn, ht⟩ | ⟨hx, hle, hn, ht⟩ | ⟨hx, hle, ht⟩
  · rw [if_neg (by omega), if_neg (by omega)]
    rcases Nat.lt_or_ge (n + 1) c.short with hlt | hge
    · rw [if_neg (by omega)]
      refine Or.inl ⟨rfl, Or.inl ⟨hlt, hopens, ?_⟩⟩
      exact hx.imp (fun ht => by omega) fun hw => ⟨hw.1, by omega⟩
    · rw [if_pos (by omega)]
      refine Or.inr ⟨.shortStart, rfl, (follows_short hopens ?_).1,
        Or.inr (Or.inl ⟨rfl, by omega, by omega, by omega⟩)⟩
      exact hx.imp (fun ht => by omega) fun hw => ⟨hw.1, by omega⟩
  · rw [if_neg (by omega)]
    rcases Nat.lt_or_ge (n + 1) c.long with hlt | hge
    · rw [if_neg (by omega), if_neg (by omega)]
      exact Or.inl ⟨rfl, Or.inr (Or.inl ⟨hx, by omega, hlt, by omega⟩)⟩
    · rw [if_pos (by omega)]
      refine Or.inr ⟨.longStart, rfl, ?_, ?_⟩
      · obtain ⟨s, g⟩ := x
        obtain rfl : g = .shortStart := hx
        change t = s + (c.long - c.short)
        omega
      · exact Or.inr (Or.inr (Or.inl ⟨rfl, by omega, by omega, by omega⟩))
  · rcases Nat.lt_or_ge (n + 1) c.hold with hlt | hge
    · rw [if_neg (by omega), if_neg (by omega), if_neg (by omega)]
      exact Or.inl ⟨rfl, Or.inr (Or.inr (Or.inl ⟨hx, by omega, hlt, by omega⟩))⟩
    · rw [if_pos (by omega)]
      refine Or.inr ⟨.longHold, rfl, ?_, ?_⟩
      · obtain ⟨s, g⟩ := x
        obtain rfl : g = .longStart := hx
        change t = s + (c.hold - c.long)
        omega
      · exact Or.inr (Or.inr (Or.inr ⟨rfl, by omega, Nat.lt_succ_self t⟩))
  · rw [if_neg (by omega), if_neg (by omega), if_neg (by omega)]
    exact Or.inl ⟨rfl, Or.inr (Or.inr (Or.inr ⟨hx, by omega, Nat.lt_succ_of_lt ht⟩))⟩

lemma continues_release_zero (h : c.Since wrapped x t (.held n 0)) :
    c.Continues wrapped x t (c.release (n + 1) 0) := by
  have hshort := c.short_lt
  have hlong := c.long_lt
  have hclosed (e : Gesture) (he : Tuning.Closes e) : c.Since wrapped (t, e) (t + 1) .up :=
    ⟨he, Nat.lt_succ_self t⟩
  unfold Tuning.release
  rcases h with ⟨hn, hopens, hx⟩ | ⟨hx, hle, hn, ht⟩ | ⟨hx, hle, hn, ht⟩ | ⟨hx, hle, ht⟩
  · rw [if_neg (by omega), if_neg (by omega)]
    rcases Nat.lt_or_ge (n + 1) c.short with hlt | hge
    · rw [if_neg (by omega)]
      refine Or.inl ⟨rfl, Nat.succ_pos n, hlt, hopens, by decide, Or.inl ⟨by decide, ?_⟩⟩
      rw [show (0 + 1) % clickModulus = 1 from rfl]
      omega
    · rw [if_pos (by omega)]
      refine Or.inr ⟨.shortUp, rfl, (follows_short hopens ?_).2, hclosed _ trivial⟩
      exact hx.imp (fun ht => by omega) fun hw => ⟨hw.1, by omega⟩
  · rw [if_neg (by omega)]
    obtain ⟨s, g⟩ := x
    obtain rfl : g = .shortStart := hx
    change t + c.short = s + n + 1 at ht
    rcases Nat.lt_or_ge (n + 1) c.long with hlt | hge
    · rw [if_neg (by omega), if_pos (by omega)]
      refine Or.inr ⟨.shortUp, rfl, ⟨?_, ?_⟩, hclosed _ trivial⟩
      · change s < t
        omega
      · change t < s + (c.long - c.short)
        omega
    · rw [if_pos (by omega)]
      refine Or.inr ⟨.longUp, rfl, ?_, hclosed _ trivial⟩
      change t = s + (c.long - c.short)
      omega
  · obtain ⟨s, g⟩ := x
    obtain rfl : g = .longStart := hx
    change t + c.long = s + n + 1 at ht
    rcases Nat.lt_or_ge (n + 1) c.hold with hlt | hge
    · rw [if_neg (by omega), if_pos (by omega)]
      refine Or.inr ⟨.longUp, rfl, ⟨?_, ?_⟩, hclosed _ trivial⟩
      · change s < t
        omega
      · change t < s + (c.hold - c.long)
        omega
    · rw [if_pos (by omega)]
      refine Or.inr ⟨.longHoldUp, rfl, ?_, hclosed _ trivial⟩
      change t = s + (c.hold - c.long)
      omega
  · rw [if_pos (by omega)]
    obtain ⟨s, g⟩ := x
    obtain rfl : g = .longHold := hx
    exact Or.inr ⟨.longHoldUp, rfl, ht, hclosed _ trivial⟩

lemma continues_clicks (h : c.Since wrapped x t (.held n (k + 1))) (pressed : Bool)
    (hw : (c.step pressed (.held n (k + 1))).1.Overflown → wrapped) :
    c.Continues wrapped x t (c.step pressed (.held n (k + 1))) := by
  have hinterval := c.interval_lt
  have hshort := c.short_lt
  have hlong := c.long_lt
  obtain ⟨hn, hopens, hk, ht⟩ := h
  cases pressed with
  | true =>
    rw [Tuning.step, if_pos rfl, if_pos (Nat.succ_pos k)]
    rcases Nat.lt_or_ge c.interval (n + 1) with hlt | hge
    · rw [if_pos hlt]
      refine Or.inr ⟨.clicks (k + 1), rfl, follows_clicks hopens ?_, since_held_zero trivial⟩
      exact Or.inl ⟨Nat.succ_pos k, by omega⟩
    · rw [if_neg (by omega)]
      exact Or.inl ⟨rfl, hge, hopens, hk, by omega⟩
  | false =>
    have hstep : c.step false (.held n (k + 1)) =
        (.between (n + 1) ((k + 1 + 1) % clickModulus), []) := by
      rw [Tuning.step, if_neg Bool.false_ne_true, Tuning.release, if_neg (by omega),
        if_neg (by omega), if_neg (by omega)]
    rw [hstep] at hw ⊢
    refine Or.inl ⟨rfl, Nat.succ_pos n, by omega, hopens, Nat.mod_lt _ (by decide), ?_⟩
    rcases Nat.lt_or_ge (k + 1 + 1) clickModulus with hlt | hge
    · rw [Nat.mod_eq_of_lt hlt]
      exact Or.inl ⟨by omega, by omega⟩
    · -- the next click is the one that the 16 bits do not hold
      have hmod : (k + 1 + 1) % clickModulus = 0 := by
        rw [le_antisymm hk hge]
        exact Nat.mod_self _
      exact Or.inr ⟨hw ⟨n + 1, by rw [hmod]⟩, hmod, by omega⟩

lemma continues_between (h : c.Since wrapped x t (.between n k)) (pressed : Bool) :
    c.Continues wrapped x t (c.step pressed (.between n k)) := by
  have hinterval := c.interval_lt
  have hmodulus : 1 ≤ clickModulus := by decide
  obtain ⟨hpos, hn, hopens, hk, hx⟩ := h
  cases pressed with
  | true =>
    rw [Tuning.step, if_pos rfl]
    refine Or.inl ⟨rfl, ?_⟩
    rcases hx with ⟨hkpos, ht⟩ | ⟨hw, rfl, ht⟩
    · obtain ⟨k, rfl⟩ := Nat.exists_eq_succ_of_ne_zero hkpos.ne'
      exact ⟨Nat.zero_le _, hopens, hk, by omega⟩
    · exact Or.inl ⟨by omega, hopens, Or.inr ⟨hw, by omega⟩⟩
  | false =>
    rw [Tuning.step, if_neg Bool.false_ne_true]
    rcases Nat.lt_or_ge c.interval (n + 1) with hlt | hge
    · rw [if_pos hlt]
      refine Or.inr ⟨.clicks k, rfl, follows_clicks hopens ?_, trivial, Nat.lt_succ_self t⟩
      exact hx.imp (fun hx => ⟨hx.1, by omega⟩) fun hx => ⟨hx.1, hx.2.1, by omega⟩
    · rw [if_neg (by omega)]
      refine Or.inl ⟨rfl, Nat.succ_pos n, by omega, hopens, hk, ?_⟩
      exact hx.imp (fun hx => ⟨hx.1, by omega⟩) fun hx => ⟨hx.1, hx.2.1, by omega⟩

lemma continues_step (phase : Phase) (h : c.Since wrapped x t phase) (pressed : Bool)
    (hw : (c.step pressed phase).1.Overflown → wrapped) :
    c.Continues wrapped x t (c.step pressed phase) := by
  cases phase with
  | up => exact continues_up h pressed
  | held n k =>
    rcases k with _ | k
    · cases pressed with
      | true => exact continues_start h
      | false => exact continues_release_zero h
    · exact continues_clicks h pressed hw
  | between n k => exact continues_between h pressed

end Steps

lemma gestures_isChain (c : Tuning) {wrapped : Prop} {as : List Bool}
    (hw : ∀ pre, pre <+: as → (final c.step pre Phase.up).Overflown → wrapped) {x : ℕ × Gesture} {t : ℕ}
    (hx : Tuning.Closes x.2) (ht : x.1 < t) :
    List.IsChain (c.Follows wrapped) (x :: trace c.step t as .up) := by
  refine trace_isChain (I := c.Since wrapped) (fun pre pressed hpre x t h => ?_) ⟨hx, ht⟩
  have hnext : final c.step (pre ++ [pressed]) Phase.up = (c.step pressed (final c.step pre .up)).1 :=
    final_append pre [pressed] Phase.up
  rw [hnext]
  refine continues_step _ h pressed fun hover => hw _ hpre ?_
  rw [hnext]
  exact hover

end YkLock
