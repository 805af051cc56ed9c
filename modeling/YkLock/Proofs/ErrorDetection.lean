import YkLock.Proofs.FrameGrammar
import YkLock.Library.ShiftRegister

/-! The checksum of `crc8.c` as a shift register, and the corruptions it detects. -/

namespace YkLock

open Library.StatePrograms Library.ShiftRegister

variable {D : Type}

def crc8Poly : Byte := 0x07

def frameBits (bytes : List Byte) : List Bool := bytes.flatMap bitsOf

lemma crc8Poly_low : crc8Poly.getLsbD 0 = true := rfl

lemma parity_crc8Poly : parity crc8Poly = true := rfl

lemma crc8Poly_order : ∀ n, 0 < n → n < 127 → (shift crc8Poly)^[n] crc8Poly ≠ crc8Poly := by
  have horbit : crc8Poly ∉ List.iterate (shift crc8Poly) (shift crc8Poly crc8Poly) 126 := by
    decide
  intro n hpos hn h
  obtain ⟨n, rfl⟩ := Nat.exists_eq_add_one_of_ne_zero hpos.ne'
  exact horbit (List.mem_iterate.mpr ⟨n, Nat.succ_lt_succ_iff.mp hn, h.symm⟩)

lemma crc8Table_eq (x : Byte) : crc8Table.getD x.toNat 0 = (shift crc8Poly)^[8] x := by
  have htable : crc8Table =
      (List.range 256).map fun n => (shift crc8Poly)^[8] (BitVec.ofNat 8 n) := by
    decide +kernel
  have hx : x.toNat < 256 := x.isLt
  rw [htable, List.getD_eq_getElem _ _ (by simpa using hx), List.getElem_map, List.getElem_range,
    BitVec.ofNat_toNat, BitVec.setWidth_eq]

lemma crc8Step_eq (crc x : Byte) : crc8Step crc x = feedAll crc8Poly crc (bitsOf x) := by
  have hlen : (bitsOf x).length = 8 := by simp [bitsOf]
  rw [crc8Step, crc8Table_eq, iterate_shift_xor, feedAll_eq, hlen, register_bitsOf]

lemma foldl_crc8Step (crc : Byte) (bytes : List Byte) :
    bytes.foldl crc8Step crc = feedAll crc8Poly crc (frameBits bytes) := by
  induction bytes generalizing crc with
  | nil => rfl
  | cons x bytes ih =>
    rw [List.foldl_cons, crc8Step_eq, ih]
    exact (feedAll_append _ _ _).symm

lemma crc8_eq (bytes : List Byte) : crc8 bytes = register crc8Poly (frameBits bytes) ^^^ 0xff := by
  rw [crc8, foldl_crc8Step]
  rfl

theorem crc8_bitSerial :
    (∀ data, crc8 data = bitSerialCrc 0x07 0x00 0xff data) ∧
      ∀ a b, crc8 (a ++ b) = b.foldl crc8Step (crc8 a ^^^ 0xff) ^^^ 0xff ∧
        crc8 (a ++ b) = bitSerialCrc 0x07 (crc8 a ^^^ 0xff) 0xff b := by
  have hserial (c : Byte) (bytes : List Byte) :
      bytes.foldl crc8Step c ^^^ 0xff = bitSerialCrc 0x07 c 0xff bytes := by
    rw [foldl_crc8Step, bitSerialCrc_eq]
    rfl
  refine ⟨hserial 0, fun a b => ?_⟩
  have hremainder : crc8 a ^^^ 0xff = a.foldl crc8Step 0 := by
    rw [crc8, BitVec.xor_assoc, BitVec.xor_self, BitVec.xor_zero]
  have hsplit : crc8 (a ++ b) = b.foldl crc8Step (crc8 a ^^^ 0xff) ^^^ 0xff := by
    rw [crc8, List.foldl_append, hremainder]
  exact ⟨hsplit, hsplit.trans (hserial _ b)⟩

def xorBytes (d e : List Byte) : List Byte := List.zipWith (· ^^^ ·) d e

lemma bitsOf_xor (x y : Byte) : bitsOf (x ^^^ y) = List.zipWith (· ^^ ·) (bitsOf x) (bitsOf y) := by
  apply List.ext_getElem
  · simp [bitsOf]
  · intro i _ _
    simp [bitsOf]

lemma frameBits_xor {d e : List Byte} (h : d.length = e.length) :
    frameBits (xorBytes d e) = List.zipWith (· ^^ ·) (frameBits d) (frameBits e) := by
  induction d generalizing e with
  | nil => rfl
  | cons x d ih =>
    cases e with
    | nil => cases h
    | cons y e =>
      have hrest := ih (Nat.succ.inj h)
      simp only [frameBits, xorBytes, List.zipWith_cons_cons, List.flatMap_cons] at hrest ⊢
      rw [hrest, bitsOf_xor, List.zipWith_append (by simp [bitsOf])]

lemma frameBits_length (d : List Byte) : (frameBits d).length = 8 * d.length := by
  induction d with
  | nil => rfl
  | cons x d ih =>
    rw [frameBits, List.flatMap_cons, List.length_append, List.length_cons]
    rw [frameBits] at ih
    simp [ih, bitsOf]
    omega

lemma register_frameBits_xor {d e : List Byte} (h : d.length = e.length) :
    register crc8Poly (frameBits (xorBytes d e)) =
      register crc8Poly (frameBits d) ^^^ register crc8Poly (frameBits e) := by
  rw [frameBits_xor h]
  have hlen : (frameBits d).length = (frameBits e).length := by
    rw [frameBits_length, frameBits_length, h]
  have hxor := feedAll_xor (g := crc8Poly) 0 0 hlen
  exact hxor

lemma register_append_byte (p : List Byte) (c : Byte) :
    register crc8Poly (frameBits (p ++ [c])) =
      (shift crc8Poly)^[8] (register crc8Poly (frameBits p) ^^^ c) := by
  have hlen : (bitsOf c).length = 8 := by simp [bitsOf]
  have hbits : frameBits (p ++ [c]) = frameBits p ++ bitsOf c := by simp [frameBits]
  rw [hbits, register, feedAll_append, feedAll_eq, hlen, register_bitsOf, iterate_shift_xor]
  rfl

lemma crc8_eq_iff (p : List Byte) (c : Byte) :
    c = crc8 p ↔ register crc8Poly (frameBits (p ++ [c])) = (shift crc8Poly)^[8] 0xff := by
  rw [register_append_byte, ((shift_injective crc8Poly_low).iterate 8).eq_iff, crc8_eq]
  constructor
  · rintro rfl
    rw [← BitVec.xor_assoc, BitVec.xor_self, BitVec.zero_xor]
  · intro h
    rw [← h, ← BitVec.xor_assoc, BitVec.xor_self, BitVec.zero_xor]

/-- The flipped bits lie within eight consecutive positions, or are odd in number, or are two less
than 127 positions apart. -/
def Detectable (e : List Byte) : Prop :=
  (∃ k, ∀ i, SetAt (frameBits e) i → k ≤ i ∧ i < k + 8) ∨
    Odd ((frameBits e).count true) ∨
    ∃ i j, i < j ∧ j - i < 127 ∧ ∀ k, SetAt (frameBits e) k ↔ k = i ∨ k = j

lemma exists_setAt {e : List Byte} (h : ∃ x ∈ e, x ≠ 0) : ∃ i, SetAt (frameBits e) i := by
  obtain ⟨x, hx, hne⟩ := h
  have hbit : ∃ i, SetAt (bitsOf x) i := by
    by_contra hnone
    apply hne
    apply (shift_injective crc8Poly_low).iterate 8
    rw [← register_bitsOf, register_of_none (not_exists.mp hnone)]
    exact (iterate_shift_zero 8).symm
  obtain ⟨i, hi⟩ := hbit
  have hmem : true ∈ frameBits e := List.mem_flatMap.mpr ⟨x, hx, List.mem_of_getElem? hi⟩
  obtain ⟨n, hn⟩ := List.mem_iff_getElem?.mp hmem
  exact ⟨n, hn⟩

lemma register_detectable {e : List Byte} (hne : ∃ x ∈ e, x ≠ 0) (he : Detectable e) :
    register crc8Poly (frameBits e) ≠ 0 := by
  rcases he with ⟨k, hk⟩ | hodd | ⟨i, j, hij, hN, hset⟩
  · obtain ⟨i, hi⟩ := exists_setAt hne
    exact register_burst_ne_zero crc8Poly_low hk hi
  · intro hz
    have hp := (parity_register parity_crc8Poly).mpr hodd
    rw [hz] at hp
    exact absurd hp (by decide)
  · exact register_pair_ne_zero crc8Poly_low crc8Poly_order hij hN hset

lemma crcOk_append {p : List Byte} {c : Byte} {tail : ℕ → Byte} :
    CrcOk ⟨p ++ [c], tail⟩ ↔ c = crc8 p := by
  rw [crcOk_iff (by simp [Buffer.len])]
  simp [Buffer.len, Buffer.get]

theorem corrupted_frame_rejected (w : World D) (d e : List Byte) (tail : ℕ → Byte)
    (hd : CrcOk ⟨d, tail⟩) (hlen : e.length = d.length) (hne : ∃ x ∈ e, x ≠ 0)
    (he : Detectable e) :
    ¬ CrcOk ⟨xorBytes d e, tail⟩ ∧ ((protocolParser ⟨xorBytes d e, tail⟩).run w).1 = none := by
  have hcrc : ¬ CrcOk ⟨xorBytes d e, tail⟩ := by
    intro hx
    have hd0 : d ≠ [] := by
      rintro rfl
      obtain ⟨x, hx, -⟩ := hne
      rw [List.length_eq_zero_iff.mp hlen] at hx
      exact List.not_mem_nil hx
    have hx0 : xorBytes d e ≠ [] := by
      intro h0
      apply hd0
      have hl := congrArg List.length h0
      simpa [xorBytes, hlen] using hl
    have hok {l : List Byte} (hl : l ≠ []) (hc : CrcOk ⟨l, tail⟩) :
        register crc8Poly (frameBits l) = (shift crc8Poly)^[8] 0xff := by
      obtain ⟨p, c, rfl⟩ := (List.eq_nil_or_concat' l).resolve_left hl
      exact (crc8_eq_iff p c).mp (crcOk_append.mp hc)
    have hsame := hok hx0 hx
    rw [register_frameBits_xor hlen.symm, hok hd0 hd] at hsame
    apply register_detectable hne he
    simpa using congrArg (fun y => (shift crc8Poly)^[8] 0xff ^^^ y) hsame
  refine ⟨hcrc, ?_⟩
  rw [protocolParser_run, parse, if_neg fun h => hcrc h.1]
  rfl

def burst : List Byte := [0, 0, 0, 0x01, 0xFE, 0]

theorem corrupted_query_rejected :
    ¬ CrcOk ⟨xorBytes grammarQuery.bytes burst, fun _ => 0⟩ ∧
      ((protocolParser ⟨xorBytes grammarQuery.bytes burst, fun _ => 0⟩).run startedYk).1 = none := by
  have hwindow : ∀ i < 48, SetAt (frameBits burst) i → 31 ≤ i ∧ i < 31 + 8 := by
    simp only [SetAt]
    decide
  refine corrupted_frame_rejected startedYk grammarQuery.bytes burst (fun _ => 0) (by decide) rfl
    ⟨0x01, by decide, by decide⟩ (Or.inl ⟨31, fun i hi => hwindow i ?_ hi⟩)
  exact lt_length_of_setAt hi

end YkLock
