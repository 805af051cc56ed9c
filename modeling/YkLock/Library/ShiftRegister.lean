import Mathlib

/-! Feedback shift registers that divide a stream of bits by a polynomial: linearity, and the
streams they tell from zero. -/

namespace YkLock.Library.ShiftRegister

variable {w : ℕ}

def shift (g c : BitVec w) : BitVec w := c <<< 1 ^^^ if c.msb = true then g else 0#w

def feed (g c : BitVec w) (bit : Bool) : BitVec w := shift g c ^^^ if bit = true then g else 0#w

def feedAll (g c : BitVec w) (bits : List Bool) : BitVec w := bits.foldl (feed g) c

def register (g : BitVec w) (bits : List Bool) : BitVec w := feedAll g 0#w bits

def bitsOf (x : BitVec w) : List Bool := (List.range w).map x.getMsbD

/-- The textbook step for the next bit of a message: the register moves up, and takes in the
polynomial when the bit moved out differs from the next one. -/
def serialStep (g c : BitVec w) (bit : Bool) : BitVec w :=
  if c.msb ≠ bit then c <<< 1 ^^^ g else c <<< 1

def bitSerialCrc (g start final : BitVec w) (data : List (BitVec 8)) : BitVec w :=
  (data.flatMap bitsOf).foldl (serialStep g) start ^^^ final

variable {g : BitVec w}

lemma ite_xor (p q : Bool) : (if (p ^^ q) = true then g else 0#w) =
    (if p = true then g else 0#w) ^^^ if q = true then g else 0#w := by
  cases p <;> cases q <;> simp

lemma xor_xor_comm (a b c d : BitVec w) : a ^^^ b ^^^ (c ^^^ d) = a ^^^ c ^^^ (b ^^^ d) := by
  ac_rfl

lemma shift_xor (a b : BitVec w) : shift g (a ^^^ b) = shift g a ^^^ shift g b := by
  rw [shift, BitVec.shiftLeft_xor_distrib, BitVec.msb_xor, ite_xor]
  exact xor_xor_comm _ _ _ _

@[simp] lemma shift_zero : shift g 0#w = 0#w := by simp [shift]

lemma iterate_shift_xor (n : ℕ) (a b : BitVec w) :
    (shift g)^[n] (a ^^^ b) = (shift g)^[n] a ^^^ (shift g)^[n] b := by
  induction n generalizing a b with
  | zero => rfl
  | succ n ih => rw [Function.iterate_succ_apply, shift_xor, ih]; rfl

@[simp] lemma iterate_shift_zero (n : ℕ) : (shift g)^[n] 0#w = 0#w := Function.iterate_fixed shift_zero n

lemma eq_zero_of_shift (hg : g.getLsbD 0 = true) {c : BitVec w} (h : shift g c = 0#w) : c = 0#w := by
  have hbit (i : ℕ) : (c <<< 1).getLsbD i = (if c.msb = true then g else 0#w).getLsbD i :=
    congrArg (fun x => x.getLsbD i) (BitVec.xor_eq_zero_iff.mp h)
  have hmsb : c.msb = false := by
    by_contra hc
    have h0 := hbit 0
    rw [if_pos (Bool.not_eq_false _ ▸ hc), hg] at h0
    simp at h0
  apply BitVec.eq_of_getLsbD_eq
  intro i hi
  by_cases hlast : i + 1 < w
  · have hnext := hbit (i + 1)
    rw [hmsb] at hnext
    rw [if_neg Bool.false_ne_true, BitVec.getLsbD_shiftLeft] at hnext
    simpa [hlast] using hnext
  · have hw : i = w - 1 := by omega
    rw [hw, ← BitVec.msb_eq_getLsbD_last, hmsb]
    simp

lemma shift_injective (hg : g.getLsbD 0 = true) : Function.Injective (shift g) := by
  intro a b hab
  apply BitVec.xor_eq_zero_iff.mp
  apply eq_zero_of_shift hg
  rw [shift_xor, hab, BitVec.xor_self]

lemma iterate_shift_ne_zero (hg : g.getLsbD 0 = true) (n : ℕ) {c : BitVec w} (hc : c ≠ 0#w) :
    (shift g)^[n] c ≠ 0#w := by
  intro h
  apply hc
  apply (shift_injective hg).iterate n
  rw [h, iterate_shift_zero]

section Streams

lemma feedAll_append (c : BitVec w) (xs ys : List Bool) :
    feedAll g c (xs ++ ys) = feedAll g (feedAll g c xs) ys := List.foldl_append

lemma feedAll_xor (a b : BitVec w) {xs ys : List Bool} (h : xs.length = ys.length) :
    feedAll g (a ^^^ b) (List.zipWith (· ^^ ·) xs ys) = feedAll g a xs ^^^ feedAll g b ys := by
  induction xs generalizing a b ys with
  | nil =>
    rw [List.length_nil, eq_comm, List.length_eq_zero_iff] at h
    rw [h]
    rfl
  | cons x xs ih =>
    cases ys with
    | nil => cases h
    | cons y ys =>
      have hfeed : feed g (a ^^^ b) (x ^^ y) = feed g a x ^^^ feed g b y := by
        rw [feed, shift_xor, ite_xor]
        exact xor_xor_comm _ _ _ _
      have hrest := ih (feed g a x) (feed g b y) (Nat.succ.inj h)
      rw [← hfeed] at hrest
      exact hrest

lemma feedAll_zeros (c : BitVec w) (n : ℕ) :
    feedAll g c (List.replicate n false) = (shift g)^[n] c := by
  induction n generalizing c with
  | zero => rfl
  | succ n ih =>
    have hfeed : feed g c false = shift g c := by simp [feed]
    rw [List.replicate_succ, Function.iterate_succ_apply, ← ih, ← hfeed]
    rfl

lemma feedAll_eq (c : BitVec w) (bits : List Bool) :
    feedAll g c bits = (shift g)^[bits.length] c ^^^ register g bits := by
  have hzip : List.zipWith (· ^^ ·) (List.replicate bits.length false) bits = bits := by
    apply List.ext_getElem
    · simp
    · intro i _ _
      simp
  have hxor := feedAll_xor (g := g) c 0#w (List.length_replicate (n := bits.length) (a := false))
  rwa [hzip, BitVec.xor_zero, feedAll_zeros] at hxor

lemma register_cons (x : Bool) (bits : List Bool) : register g (x :: bits) =
    (if x = true then (shift g)^[bits.length] g else 0#w) ^^^ register g bits := by
  have hfeed : feed g 0#w x = if x = true then g else 0#w := by simp [feed]
  have hcons : register g (x :: bits) = feedAll g (feed g 0#w x) bits := rfl
  rw [hcons, feedAll_eq, hfeed]
  cases x with
  | true => rfl
  | false => simp

lemma feedAll_take_bitsOf (x : BitVec w) {n : ℕ} (hn : n ≤ w) :
    register g ((bitsOf x).take n) = (shift g)^[n] x ^^^ x <<< n := by
  induction n with
  | zero => simp [register, feedAll]
  | succ n ih =>
    have htake : (bitsOf x).take (n + 1) = (bitsOf x).take n ++ [x.getMsbD n] := by
      rw [List.take_add_one]
      simp [bitsOf, Nat.lt_of_succ_le hn]
    have hshift : shift g (x <<< n) = x <<< (n + 1) ^^^ if x.getMsbD n = true then g else 0#w := by
      have hmsb : (x <<< n).msb = x.getMsbD n := by
        rw [BitVec.msb, BitVec.getMsbD_shiftLeft, Nat.zero_add]
      rw [shift, hmsb, BitVec.shiftLeft_add]
    have hfeed : register g ((bitsOf x).take (n + 1)) =
        feed g (register g ((bitsOf x).take n)) (x.getMsbD n) := by
      rw [htake]
      exact feedAll_append _ _ _
    rw [hfeed, ih (Nat.le_of_succ_le hn), feed, shift_xor, hshift, Function.iterate_succ_apply',
      BitVec.xor_assoc, BitVec.xor_assoc, BitVec.xor_self, BitVec.xor_zero]

lemma register_bitsOf (x : BitVec w) : register g (bitsOf x) = (shift g)^[w] x := by
  have htake : (bitsOf x).take w = bitsOf x := List.take_of_length_le (by simp [bitsOf])
  have h := feedAll_take_bitsOf (g := g) x le_rfl
  rwa [htake, BitVec.shiftLeft_eq_zero le_rfl, BitVec.xor_zero] at h

lemma feed_eq_serialStep : feed g = serialStep g := by
  funext c bit
  rw [feed, shift, serialStep]
  cases c.msb <;> cases bit <;> simp

lemma bitSerialCrc_eq (c final : BitVec w) (data : List (BitVec 8)) :
    bitSerialCrc g c final data = feedAll g c (data.flatMap bitsOf) ^^^ final := by
  rw [bitSerialCrc, feedAll, feed_eq_serialStep]

lemma exists_bitsOf (bits : List Bool) (h : bits.length = w) : ∃ x : BitVec w, bitsOf x = bits := by
  subst h
  refine ⟨BitVec.ofBoolListBE bits, List.ext_getElem (by simp [bitsOf]) fun i _ hi => ?_⟩
  simp [bitsOf, hi]

end Streams

section Patterns

def SetAt (bits : List Bool) (i : ℕ) : Prop := bits[i]? = some true

variable {bits : List Bool}

@[simp] lemma not_setAt_nil (i : ℕ) : ¬ SetAt [] i := by simp [SetAt]

@[simp] lemma setAt_cons_zero (x : Bool) : SetAt (x :: bits) 0 ↔ x = true := by simp [SetAt]

@[simp] lemma setAt_cons_succ (x : Bool) (i : ℕ) : SetAt (x :: bits) (i + 1) ↔ SetAt bits i := by
  simp [SetAt]

lemma register_of_none (h : ∀ i, ¬ SetAt bits i) : register g bits = 0#w := by
  induction bits with
  | nil => rfl
  | cons x bits ih =>
    have hx : ¬ x = true := fun hx => h 0 ((setAt_cons_zero x).mpr hx)
    have hrest := ih fun i hi => h (i + 1) ((setAt_cons_succ x i).mpr hi)
    rw [register_cons, if_neg hx, hrest, BitVec.xor_zero]

lemma register_of_single {i : ℕ} (h : ∀ k, SetAt bits k ↔ k = i) :
    register g bits = (shift g)^[bits.length - 1 - i] g := by
  induction bits generalizing i with
  | nil => exact (not_setAt_nil i ((h i).mpr rfl)).elim
  | cons x bits ih =>
    have h0 := h 0
    rw [setAt_cons_zero] at h0
    have hsucc (k : ℕ) : SetAt bits k ↔ k + 1 = i := (setAt_cons_succ x k).symm.trans (h (k + 1))
    rw [register_cons]
    cases i with
    | zero =>
      have hnone := register_of_none (g := g) fun k hk => Nat.succ_ne_zero k ((hsucc k).mp hk)
      rw [if_pos (h0.mpr rfl), hnone, BitVec.xor_zero]
      rfl
    | succ i =>
      have hx : ¬ x = true := fun hx => Nat.succ_ne_zero i (h0.mp hx).symm
      have hlen : (x :: bits).length - 1 - (i + 1) = bits.length - 1 - i := by
        rw [List.length_cons]
        omega
      rw [if_neg hx, BitVec.zero_xor, hlen]
      exact ih fun k => (hsucc k).trans Nat.succ_inj

lemma register_of_pair {i j : ℕ} (hij : i < j) (h : ∀ k, SetAt bits k ↔ k = i ∨ k = j) :
    register g bits =
      (shift g)^[bits.length - 1 - i] g ^^^ (shift g)^[bits.length - 1 - j] g := by
  obtain ⟨j, rfl⟩ := Nat.exists_eq_add_one_of_ne_zero (Nat.ne_zero_of_lt hij)
  induction bits generalizing i j with
  | nil => exact (not_setAt_nil i ((h i).mpr (Or.inl rfl))).elim
  | cons x bits ih =>
    have h0 := h 0
    rw [setAt_cons_zero] at h0
    have hsucc (k : ℕ) : SetAt bits k ↔ k + 1 = i ∨ k = j := by
      rw [← setAt_cons_succ x k, h (k + 1), Nat.succ_inj]
    have hlen (n : ℕ) : (x :: bits).length - 1 - (n + 1) = bits.length - 1 - n := by
      rw [List.length_cons]
      omega
    rw [register_cons, hlen j]
    cases i with
    | zero =>
      have hsingle := register_of_single (g := g) (i := j) fun k =>
        (hsucc k).trans (or_iff_right (Nat.succ_ne_zero k))
      rw [if_pos (h0.mpr (Or.inl rfl)), hsingle]
      rfl
    | succ i =>
      have hx : ¬ x = true := fun hx =>
        (h0.mp hx).elim (fun he => Nat.succ_ne_zero i he.symm) fun he => Nat.succ_ne_zero j he.symm
      obtain ⟨j, rfl⟩ := Nat.exists_eq_add_one_of_ne_zero (show j ≠ 0 by omega)
      rw [if_neg hx, BitVec.zero_xor, hlen i]
      exact ih j (Nat.lt_of_succ_lt_succ hij) fun k => (hsucc k).trans (or_congr Nat.succ_inj Iff.rfl)

lemma lt_length_of_setAt {i : ℕ} (h : SetAt bits i) : i < bits.length :=
  (List.getElem?_eq_some_iff.mp h).1

lemma register_pair_ne_zero (hg : g.getLsbD 0 = true) {N : ℕ}
    (horder : ∀ n, 0 < n → n < N → (shift g)^[n] g ≠ g) {i j : ℕ} (hij : i < j) (hN : j - i < N)
    (h : ∀ k, SetAt bits k ↔ k = i ∨ k = j) : register g bits ≠ 0#w := by
  have hj := lt_length_of_setAt ((h j).mpr (Or.inr rfl))
  have hdist : bits.length - 1 - i = (bits.length - 1 - j) + (j - i) := by omega
  intro hz
  rw [register_of_pair hij h, BitVec.xor_eq_zero_iff, hdist, Function.iterate_add_apply] at hz
  exact horder (j - i) (Nat.sub_pos_of_lt hij) hN ((shift_injective hg).iterate _ hz)

lemma register_append_zeros (n : ℕ) :
    register g (bits ++ List.replicate n false) = (shift g)^[n] (register g bits) := by
  rw [← feedAll_zeros]
  exact feedAll_append _ _ _

lemma register_word_ne_zero (hg : g.getLsbD 0 = true) (hw : bits.length = w) {i : ℕ}
    (hi : SetAt bits i) : register g bits ≠ 0#w := by
  obtain ⟨x, rfl⟩ := exists_bitsOf bits hw
  rw [register_bitsOf]
  apply iterate_shift_ne_zero hg
  rintro rfl
  simp [SetAt, bitsOf] at hi

lemma register_short_ne_zero (hg : g.getLsbD 0 = true) (hw : bits.length ≤ w) {i : ℕ}
    (hi : SetAt bits i) : register g bits ≠ 0#w := by
  intro hz
  have hpad : SetAt (bits ++ List.replicate (w - bits.length) false) i := by
    rw [SetAt, List.getElem?_append_left (lt_length_of_setAt hi)]
    exact hi
  apply register_word_ne_zero hg (by simp [hw]) hpad
  rw [register_append_zeros, hz, iterate_shift_zero]

lemma register_burst_ne_zero (hg : g.getLsbD 0 = true) {k : ℕ}
    (hwindow : ∀ i, SetAt bits i → k ≤ i ∧ i < k + w) {i : ℕ} (hi : SetAt bits i) :
    register g bits ≠ 0#w := by
  induction k generalizing bits i with
  | zero =>
    have hdrop : bits.drop w = List.replicate (bits.drop w).length false := by
      rw [List.eq_replicate_iff]
      refine ⟨rfl, fun x hx => ?_⟩
      obtain ⟨n, hn, rfl⟩ := List.mem_iff_getElem.mp hx
      by_contra hset
      have hafter : SetAt bits (w + n) := by
        rw [SetAt, ← List.getElem?_drop, List.getElem?_eq_getElem hn]
        exact congrArg some (Bool.not_eq_false _ ▸ hset)
      have hlt := (hwindow _ hafter).2
      omega
    have htake : SetAt (bits.take w) i := by
      have hlt := (hwindow i hi).2
      rw [Nat.zero_add] at hlt
      rw [SetAt, List.getElem?_take_of_lt hlt]
      exact hi
    rw [← List.take_append_drop w bits, hdrop, register_append_zeros]
    apply iterate_shift_ne_zero hg
    exact register_short_ne_zero hg (List.length_take_le w bits) htake
  | succ k ih =>
    cases bits with
    | nil => exact (not_setAt_nil i hi).elim
    | cons x bits =>
      have hx : ¬ x = true := fun hx =>
        Nat.not_succ_le_zero k (hwindow 0 ((setAt_cons_zero x).mpr hx)).1
      rw [register_cons, if_neg hx, BitVec.zero_xor]
      cases i with
      | zero => exact (hx ((setAt_cons_zero x).mp hi)).elim
      | succ i =>
        refine ih (fun n hn => ?_) ((setAt_cons_succ x i).mp hi)
        have hwin := hwindow (n + 1) ((setAt_cons_succ x n).mpr hn)
        omega

def parity (x : BitVec w) : Bool := (List.range w).foldr (fun i p => x.getLsbD i ^^ p) false

lemma parity_xor (x y : BitVec w) : parity (x ^^^ y) = (parity x ^^ parity y) := by
  rw [parity, parity, parity]
  induction List.range w with
  | nil => rfl
  | cons i l ih =>
    rw [List.foldr_cons, List.foldr_cons, List.foldr_cons, ih, BitVec.getLsbD_xor, Bool.xor_assoc,
      Bool.xor_assoc, Bool.xor_left_comm (y.getLsbD i)]

@[simp] lemma parity_zero : parity 0#w = false := by
  have hself := parity_xor 0#w 0#w
  rwa [BitVec.xor_self, Bool.xor_self] at hself

lemma foldr_xor (f : ℕ → Bool) (b : Bool) (l : List ℕ) :
    l.foldr (fun i p => f i ^^ p) b = (l.foldr (fun i p => f i ^^ p) false ^^ b) := by
  induction l with
  | nil => exact (Bool.false_xor b).symm
  | cons i l ih => rw [List.foldr_cons, List.foldr_cons, ih, Bool.xor_assoc]

lemma parity_shiftLeft (x : BitVec w) : parity (x <<< 1) = (parity x ^^ x.msb) := by
  cases w with
  | zero =>
    rw [BitVec.eq_nil x]
    rfl
  | succ n =>
    have hshifted : parity (x <<< 1) =
        (List.range n).foldr (fun i p => x.getLsbD i ^^ p) false := by
      have hlow : (x <<< 1).getLsbD 0 = false := by simp
      rw [parity, List.range_succ_eq_map, List.foldr_cons, List.foldr_map, hlow, Bool.false_xor]
      refine List.foldr_ext _ _ _ fun i hi p => ?_
      have hi' : i.succ < n + 1 := Nat.succ_lt_succ (List.mem_range.mp hi)
      rw [BitVec.getLsbD_shiftLeft]
      simp [hi']
    have hparity : parity x =
        ((List.range n).foldr (fun i p => x.getLsbD i ^^ p) false ^^ x.getLsbD n) := by
      rw [parity, List.range_succ, List.foldr_append, List.foldr_cons, List.foldr_nil, foldr_xor,
        Bool.xor_false]
    have hmsb : x.msb = x.getLsbD n := BitVec.msb_eq_getLsbD_last x
    rw [hshifted, hparity, hmsb, Bool.xor_assoc, Bool.xor_self, Bool.xor_false]

lemma parity_shift (hg : parity g = true) (c : BitVec w) : parity (shift g c) = parity c := by
  rw [shift, parity_xor, parity_shiftLeft]
  cases c.msb with
  | true => rw [if_pos rfl, hg, Bool.xor_assoc, Bool.xor_self, Bool.xor_false]
  | false => rw [if_neg nofun, parity_zero, Bool.xor_false, Bool.xor_false]

lemma parity_register (hg : parity g = true) :
    parity (register g bits) = true ↔ Odd (bits.count true) := by
  have hpow (n : ℕ) : parity ((shift g)^[n] g) = true := by
    induction n with
    | zero => exact hg
    | succ n ih => rw [Function.iterate_succ_apply', parity_shift hg, ih]
  induction bits with
  | nil => simp [register, feedAll]
  | cons x bits ih =>
    rw [register_cons, parity_xor]
    cases x with
    | true =>
      rw [if_pos rfl, hpow, List.count_cons_self, Nat.odd_add_one, Bool.true_xor,
        Bool.not_eq_true', ← Bool.not_eq_true]
      exact not_congr ih
    | false => simpa using ih

end Patterns

end YkLock.Library.ShiftRegister
