import YkLock.Drivers.Registers

/-! The filter banks as `SET_FILTER` programs them, and which messages they let through. -/

namespace YkLock

section Filters

lemma and_ffff (x : Word) : x &&& 0xFFFF = (x.setWidth 16).setWidth 32 := by
  apply BitVec.eq_of_toNat_eq
  have hones : x.toNat &&& 65535 = x.toNat % 65536 := Nat.and_two_pow_sub_one_eq_mod x.toNat 16
  have hffff : (0xFFFF : Word).toNat = 65535 := rfl
  rw [BitVec.toNat_and, hffff, hones, BitVec.toNat_setWidth, BitVec.toNat_setWidth]
  omega

lemma halves_eq (x : Word) : halves (x >>> 16 &&& 0xFFFF) (x &&& 0xFFFF) = x := by
  have hcut (y : Word) : (y &&& 0xFFFF) &&& 0x0000FFFF = (y.setWidth 16).setWidth 32 := by
    rw [BitVec.and_assoc, BitVec.and_self, and_ffff]
  rw [halves, hcut, hcut]
  apply BitVec.eq_of_getLsbD_eq
  intro i hi
  simp only [BitVec.getLsbD_or, BitVec.getLsbD_shiftLeft, BitVec.getLsbD_setWidth,
    BitVec.getLsbD_ushiftRight]
  by_cases h : i < 16
  · simp [h, hi]
  · have hsub : 16 + (i - 16) = i := by omega
    have hlt : i - 16 < 16 := by omega
    have hlt' : i - 16 < 32 := by omega
    simp [h, hi, hsub, hlt, hlt']

lemma and_or_eq_zero (z x y : Word) : z &&& (x ||| y) = 0 ↔ z &&& x = 0 ∧ z &&& y = 0 := by
  have hor : z &&& (x ||| y) = (z &&& x) ||| (z &&& y) := by
    ext i hi
    simp [Bool.and_or_distrib_left]
  rw [hor]
  exact BitVec.or_eq_zero_iff

lemma and_shiftLeft_eq_zero (z m : Word) (k : ℕ) :
    z &&& m <<< k = 0 ↔ z >>> k &&& (m <<< k) >>> k = 0 := by
  rw [← BitVec.ushiftRight_and_distrib]
  constructor
  · intro h
    rw [h]
    exact BitVec.zero_ushiftRight
  · intro h
    apply BitVec.eq_of_getLsbD_eq
    intro i hi
    by_cases hk : i < k
    · simp [hk]
    · have hbit := congrArg (BitVec.getLsbD · (i - k)) h
      simp only [BitVec.getLsbD_ushiftRight] at hbit
      rw [Nat.add_sub_cancel' (Nat.le_of_not_lt hk)] at hbit
      rw [hbit]
      simp

lemma and_six_eq_zero (z : Word) : z &&& 0x06 = 0 ↔ z.getLsbD 1 = false ∧ z.getLsbD 2 = false := by
  have hsix : (0x06 : Word) = canRtrRemote ||| canIdExt := rfl
  rw [hsix, and_or_eq_zero, BitVec.and_comm, canRtrRemote_and, BitVec.and_comm, canIdExt_and]

lemma fr1_ext (id : BitVec 29) {y : Word} (hy : y >>> 16 = 0) :
    halves (id.setWidth 32 >>> 13 &&& 0xFFFF) ((id.setWidth 32 <<< 3 ||| y) &&& 0xFFFF) =
      id.setWidth 32 <<< 3 ||| y := by
  have hid := id.isLt
  have hhigh : (id.setWidth 32 : Word) >>> 13 = (id.setWidth 32 <<< 3 ||| y) >>> 16 := by
    rw [BitVec.ushiftRight_or_distrib, hy]
    apply BitVec.eq_of_toNat_eq
    change _ = ((id.setWidth 32 <<< 3 : Word) >>> 16 ||| 0#32).toNat
    rw [BitVec.or_zero, BitVec.toNat_ushiftRight, BitVec.toNat_ushiftRight, BitVec.toNat_shiftLeft,
      BitVec.toNat_setWidth, Nat.shiftRight_eq_div_pow, Nat.shiftRight_eq_div_pow, Nat.shiftLeft_eq]
    omega
  rw [hhigh, halves_eq]

lemma fr1_std (id : BitVec 29) {y : Word} (hy : y >>> 16 = 0) :
    halves ((id.setWidth 32 <<< 18) >>> 13 &&& 0xFFFF) ((id.setWidth 32 <<< 18 ||| y) &&& 0xFFFF) =
      id.setWidth 32 <<< 21 ||| y := by
  have hhigh : (id.setWidth 32 <<< 18 : Word) >>> 13 &&& (0xFFFF : Word) =
      (id.setWidth 32 <<< 21 ||| y) >>> 16 &&& (0xFFFF : Word) := by
    rw [BitVec.ushiftRight_or_distrib, hy, and_ffff, and_ffff]
    congr 1
    apply BitVec.eq_of_getLsbD_eq
    intro i hi
    have hsub : 13 + i - 18 = 16 + i - 21 := by omega
    by_cases hlt : 16 + i < 21
    · have hlt' : 13 + i < 18 := by omega
      simp [hlt, hlt']
    · have hlt' : ¬ 13 + i < 18 := by omega
      have h32 : 13 + i < 32 ∧ 16 + i < 32 := by omega
      simp [hlt, hlt', h32, hsub]
  have hzero (k : ℕ) (hk : 16 ≤ k) (z : Word) :
      ((id.setWidth 32 <<< k ||| z : Word)).setWidth 16 = z.setWidth 16 := by
    apply BitVec.eq_of_getLsbD_eq
    intro i hi
    have hik : i < k := by omega
    simp [hi, hik]
  have hlow : ((id.setWidth 32 <<< 18 ||| y) &&& 0xFFFF : Word) =
      (id.setWidth 32 <<< 21 ||| y) &&& 0xFFFF := by
    rw [and_ffff, and_ffff, hzero 18 (by decide), hzero 21 (by decide)]
  rw [hhigh, hlow, halves_eq]

lemma fr2_eq (m : Word) {y : Word} (hy : y >>> 16 = 0) :
    halves (m >>> 16 &&& 0xFFFF) ((m ||| y) &&& 0xFFFF) = m ||| y := by
  have hhigh : m >>> 16 = (m ||| y) >>> 16 := by
    rw [BitVec.ushiftRight_or_distrib, hy]
    exact BitVec.or_zero.symm
  rw [hhigh, halves_eq]

def flagBits (ide rtr : Bool) : Word :=
  (if ide = true then (1 : Word) else 0) <<< 2 ||| (if rtr = true then (1 : Word) else 0) <<< 1

def idShift (ide : Bool) : ℕ := if ide = true then 3 else 21

def idBits (ide : Bool) : BitVec 29 := if ide = true then 0x1FFFFFFF else 0x7FF

/-- The messages an item asks for: in mask mode those that agree with its id on the bits of its mask,
in list mode those whose id is its id or its mask. -/
def RtCanFilterItem.Passes (item : RtCanFilterItem) (rxMsg : CanMsg) : Prop :=
  item.ide = rxMsg.ide ∧ item.rtr = rxMsg.rtr ∧
    if item.mode = false then
      (item.id ^^^ rxMsg.id) &&& item.mask.setWidth 29 &&& idBits item.ide = 0
    else (item.id ^^^ rxMsg.id) &&& idBits item.ide = 0 ∨
      (item.mask.setWidth 29 ^^^ rxMsg.id) &&& idBits item.ide = 0

instance (item : RtCanFilterItem) (rxMsg : CanMsg) : Decidable (item.Passes rxMsg) :=
  inferInstanceAs (Decidable (_ ∧ _ ∧ ite _ _ _))

variable {item : RtCanFilterItem} {pmsg : CanMsg} {box tx : CanTxMailBox} {rx : CanFifoMailBox}

lemma flagBits_get (ide rtr : Bool) :
    (flagBits ide rtr).getLsbD 1 = rtr ∧ (flagBits ide rtr).getLsbD 2 = ide := by
  cases ide <;> cases rtr <;> decide

lemma flagBits_shift (ide rtr : Bool) :
    flagBits ide rtr >>> 16 = 0 ∧ flagBits ide rtr >>> idShift ide = 0 := by
  cases ide <;> cases rtr <;> decide

lemma idBits_get (ide : Bool) (i : ℕ) : (idBits ide).getLsbD i = decide (idShift ide + i < 32) := by
  have hbits : idBits ide = BitVec.allOnes 29 >>> (idShift ide - 3) := by cases ide <;> decide
  have hshift : 3 ≤ idShift ide := by cases ide <;> decide
  rw [hbits, BitVec.getLsbD_ushiftRight, BitVec.getLsbD_allOnes]
  exact decide_eq_decide.mpr (by omega)

lemma canFilterConfig_written (i : ℕ) (item : RtCanFilterItem) : (canFilterConfig i item).written =
    ⟨true, item.mode, item.id.setWidth 32 <<< idShift item.ide ||| flagBits item.ide item.rtr,
      item.mask <<< idShift item.ide |||
        if item.mode = false then 0x06 else flagBits item.ide item.rtr⟩ := by
  obtain ⟨⟨id, ide, rtr, mask⟩, mode, hdrBank⟩ := item
  have hflags := (flagBits_shift ide rtr).1
  have htail : (if mode = false then 0x06 else flagBits ide rtr : Word) >>> 16 = 0 := by
    split
    · rfl
    · exact hflags
  cases ide
  · refine congrArg₂ (CanFilterBank.mk true mode) ?_ (fr2_eq (mask <<< 21) htail)
    change _ = id.setWidth 32 <<< 21 ||| _
    rw [← fr1_std id hflags, flagBits, ← BitVec.or_assoc]
    rfl
  · refine congrArg₂ (CanFilterBank.mk true mode) ?_ (fr2_eq (mask <<< 3) htail)
    change _ = id.setWidth 32 <<< 3 ||| _
    rw [← fr1_ext id hflags, flagBits, ← BitVec.or_assoc]
    rfl

lemma agree_iff (rir x m : Word) (k : ℕ) : (rir ^^^ x) &&& (m <<< k ||| 0x06) = 0 ↔
    ((rir >>> k ^^^ x >>> k) &&& (m <<< k) >>> k = 0 ∧ rir.getLsbD 1 = x.getLsbD 1 ∧
      rir.getLsbD 2 = x.getLsbD 2) := by
  rw [and_or_eq_zero, and_shiftLeft_eq_zero, and_six_eq_zero, BitVec.ushiftRight_xor_distrib,
    BitVec.getLsbD_xor, BitVec.getLsbD_xor, bne_eq_false_iff_eq, bne_eq_false_iff_eq]

lemma ident_get (w : Word) (ide rtr : Bool) :
    (w <<< idShift ide ||| flagBits ide rtr).getLsbD 1 = rtr ∧
      (w <<< idShift ide ||| flagBits ide rtr).getLsbD 2 = ide := by
  obtain ⟨hflag1, hflag2⟩ := flagBits_get ide rtr
  have hshift : 3 ≤ idShift ide := by cases ide <;> decide
  have hclear (i : ℕ) (hi : i < 3) : (w <<< idShift ide : Word).getLsbD i = false := by
    have hik : i < idShift ide := by omega
    simp [hik]
  rw [BitVec.getLsbD_or, BitVec.getLsbD_or, hclear 1 (by decide), hclear 2 (by decide), hflag1,
    hflag2]
  exact ⟨Bool.false_or _, Bool.false_or _⟩

lemma masked_iff (w m : Word) (x : BitVec 29) (ide : Bool) :
    (x.setWidth 32 ^^^ (w <<< idShift ide) >>> idShift ide) &&& (m <<< idShift ide) >>> idShift ide = 0 ↔
      (w.setWidth 29 ^^^ x) &&& m.setWidth 29 &&& idBits ide = 0 := by
  have hshift : 3 ≤ idShift ide := by cases ide <;> decide
  have hword : (x.setWidth 32 ^^^ (w <<< idShift ide) >>> idShift ide) &&&
      (m <<< idShift ide) >>> idShift ide =
        ((w.setWidth 29 ^^^ x) &&& m.setWidth 29 &&& idBits ide).setWidth 32 := by
    apply BitVec.eq_of_getLsbD_eq
    intro i hi
    simp only [BitVec.getLsbD_and, BitVec.getLsbD_xor, BitVec.getLsbD_setWidth,
      BitVec.getLsbD_ushiftRight, BitVec.getLsbD_shiftLeft, idBits_get]
    by_cases hki : idShift ide + i < 32
    · have hi29 : i < 29 := by omega
      simp [hi, hki, hi29, Bool.xor_comm]
    · simp [hki]
  rw [hword]
  constructor
  · intro h
    apply BitVec.eq_of_toNat_eq
    have hnat := congrArg BitVec.toNat h
    rw [BitVec.toNat_setWidth_of_le (by decide)] at hnat
    exact hnat
  · intro h
    rw [h]
    rfl

lemma compared_iff {rir : Word} {x : BitVec 29} (w m : Word) {ide rtr : Bool}
    (hrir : rir.getLsbD 2 = ide → rir >>> idShift ide = x.setWidth 32) :
    (rir ^^^ (w <<< idShift ide ||| flagBits ide rtr)) &&& (m <<< idShift ide ||| 0x06) = 0 ↔
      ide = rir.getLsbD 2 ∧ rtr = rir.getLsbD 1 ∧
        (w.setWidth 29 ^^^ x) &&& m.setWidth 29 &&& idBits ide = 0 := by
  obtain ⟨hget1, hget2⟩ := ident_get w ide rtr
  rw [agree_iff, hget1, hget2, BitVec.ushiftRight_or_distrib, (flagBits_shift ide rtr).2]
  change ((rir >>> idShift ide ^^^ ((w <<< idShift ide) >>> idShift ide ||| 0#32)) &&& _ = 0 ∧ _) ↔ _
  rw [BitVec.or_zero]
  by_cases hide : rir.getLsbD 2 = ide
  · rw [hrir hide, masked_iff]
    exact ⟨fun h => ⟨h.2.2.symm, h.2.1.symm, h.1⟩, fun h => ⟨h.2.2, h.2.1.symm, h.1.symm⟩⟩
  · exact iff_of_false (fun h => hide h.2.2) fun h => hide h.1.symm

lemma listed_iff {rir : Word} {x : BitVec 29} (w : Word) {ide rtr : Bool}
    (hrir : rir.getLsbD 2 = ide → rir >>> idShift ide = x.setWidth 32) :
    (rir ^^^ (w <<< idShift ide ||| flagBits ide rtr)) &&& identMask rir = 0 ↔
      ide = rir.getLsbD 2 ∧ rtr = rir.getLsbD 1 ∧ (w.setWidth 29 ^^^ x) &&& idBits ide = 0 := by
  have hmask : identMask rir = (0xFFFFFFFF : Word) <<< idShift (rir.getLsbD 2) ||| 0x06 := by
    rw [identMask, idShift]
    split <;> rfl
  rw [hmask]
  by_cases hide : rir.getLsbD 2 = ide
  · have hones : (0xFFFFFFFF : Word).setWidth 29 = BitVec.allOnes 29 := by decide
    have hcompared : _ ↔ ide = rir.getLsbD 2 ∧ rtr = rir.getLsbD 1 ∧ _ :=
      compared_iff w 0xFFFFFFFF hrir
    rw [hones, BitVec.and_allOnes] at hcompared
    rw [hide] at hcompared ⊢
    exact hcompared
  · rw [agree_iff, (ident_get w ide rtr).2]
    exact iff_of_false (fun h => hide h.2.2) fun h => hide h.1.symm

lemma written_accepts_iff (i : ℕ) (item : RtCanFilterItem) (hsend : canSendmsgBox pmsg box = some tx)
    (hbus : Carried tx rx) : (canFilterConfig i item).written.Accepts rx.rir ↔ item.Passes pmsg := by
  obtain ⟨hide, hrtr⟩ := tir_flags hsend
  have hide' : rx.rir.getLsbD 2 = pmsg.ide := hbus.ide.trans hide
  have hrtr' : rx.rir.getLsbD 1 = pmsg.rtr := hbus.rtr.trans hrtr
  have hrir (h : rx.rir.getLsbD 2 = item.ide) :
      rx.rir >>> idShift item.ide = pmsg.id.setWidth 32 := by
    rcases hi : item.ide with _ | _
    · have hp : pmsg.ide = false := hide'.symm.trans (h.trans hi)
      exact (hbus.std (hide.trans hp)).trans (tir_std hsend hp)
    · have hp : pmsg.ide = true := hide'.symm.trans (h.trans hi)
      exact (hbus.ext (hide.trans hp)).trans (tir_ext hsend hp)
  have hid : (item.id.setWidth 32).setWidth 29 = item.id := by
    apply BitVec.eq_of_toNat_eq
    rw [BitVec.toNat_setWidth, BitVec.toNat_setWidth_of_le (by decide)]
    exact Nat.mod_eq_of_lt item.id.isLt
  rw [canFilterConfig_written, CanFilterBank.Accepts, and_iff_right rfl, RtCanFilterItem.Passes]
  dsimp only
  rcases item.mode with _ | _
  · rw [if_pos rfl, if_pos rfl, if_pos rfl, compared_iff _ _ hrir, hide', hrtr', hid]
  · have hlist : ¬ true = false := by decide
    rw [if_neg hlist, if_neg hlist, if_neg hlist, listed_iff _ hrir, listed_iff _ hrir, hide', hrtr',
      hid, ← and_or_left, ← and_or_left]

lemma passes_sameFrame {msg : CanMsg} (h : SameFrame msg pmsg) :
    item.Passes msg ↔ item.Passes pmsg := by
  rw [RtCanFilterItem.Passes, RtCanFilterItem.Passes, h.ide, h.rtr, h.id]

end Filters

section Banks

/-- The item that is the last one to be put into bank `n`, from item number `i` on. -/
def lastFor (n : ℕ) (i : ℕ) : List RtCanFilterItem → Option RtCanFilterItem
  | [] => none
  | item :: items =>
    (lastFor n (i + 1) items).or (if (item.bank i).toNat = n then some item else none)

lemma canSetFilterFrom_spec {items : List RtCanFilterItem} {i : ℕ}
    (h : ∀ k item, items[k]? = some item → (RtCanFilterItem.bank item (i + k)).toNat < 14)
    (banks : Fin 14 → CanFilterBank) : ∃ banks', canSetFilterFrom i items banks = some banks' ∧
      ∀ n : Fin 14, (lastFor n i items = none ∧ banks' n = banks n) ∨ ∃ item k,
        lastFor n i items = some item ∧ banks' n = (canFilterConfig k item).written := by
  induction items generalizing i banks with
  | nil => exact ⟨banks, rfl, fun n => Or.inl ⟨rfl, rfl⟩⟩
  | cons item items ih =>
    have hbank : (item.bank i).toNat < 14 := h 0 item rfl
    obtain ⟨banks', hset, hbanks⟩ := ih (i := i + 1) (fun k item' hk => by
      rw [Nat.add_assoc, Nat.add_comm 1]
      exact h (k + 1) item' hk)
      (Function.update banks ⟨(item.bank i).toNat, hbank⟩ (canFilterConfig i item).written)
    refine ⟨banks', ?_, fun n => ?_⟩
    · have hcfg : (canFilterConfig i item).filterBank.toNat < 14 := hbank
      rw [canSetFilterFrom, halCanConfigFilter, dif_pos hcfg]
      exact hset
    · rw [lastFor]
      rcases hbanks n with ⟨hlast, heq⟩ | ⟨item', k, hlast, heq⟩
      · rw [hlast, Option.none_or, heq]
        by_cases hn : (item.bank i).toNat = n
        · rw [if_pos hn, show n = ⟨(item.bank i).toNat, hbank⟩ from Fin.ext hn.symm,
            Function.update_self]
          exact Or.inr ⟨item, i, rfl, rfl⟩
        · rw [if_neg hn, Function.update_of_ne fun hc => hn (congrArg Fin.val hc).symm]
          exact Or.inl ⟨rfl, rfl⟩
      · rw [hlast, Option.some_or]
        exact Or.inr ⟨item', k, rfl, heq⟩

lemma init_bank (item : CanFilterItem) {i : ℕ} (hi : i < 14) : (item.init.bank i).toNat = i := by
  rw [RtCanFilterItem.bank, if_pos (show item.init.hdrBank = -1 from rfl), BitVec.toNat_ofNat]
  exact Nat.mod_eq_of_lt (by omega)

lemma lastFor_init {n i : ℕ} (filter : List CanFilterItem) (hlen : i + filter.length ≤ 14) :
    lastFor n i (filter.map CanFilterItem.init) =
      if i ≤ n then (filter[n - i]?).map CanFilterItem.init else none := by
  induction filter generalizing i with
  | nil => simp [lastFor]
  | cons item filter ih =>
    rw [List.length_cons] at hlen
    rw [List.map_cons, lastFor, ih (by omega), init_bank item (by omega)]
    rcases Nat.lt_trichotomy i n with hlt | rfl | hgt
    · have hsucc : n - i = n - (i + 1) + 1 := by omega
      rw [if_pos (Nat.succ_le_of_lt hlt), if_neg hlt.ne, if_pos hlt.le, Option.or_none, hsucc, List.getElem?_cons_succ]
    · rw [if_neg (by omega), if_pos rfl, if_pos le_rfl, Nat.sub_self]
      rfl
    · rw [if_neg (by omega), if_neg hgt.ne', if_neg (by omega)]
      rfl

lemma passes_init {item : CanFilterItem} (hide : item.ide = true) (rxMsg : CanMsg) :
    item.init.Passes rxMsg ↔ item.passes rxMsg := by
  have hbits : idBits item.ide = BitVec.allOnes 29 := by
    rw [hide]
    decide
  rw [RtCanFilterItem.Passes, CanFilterItem.passes, if_pos (show item.init.mode = false from rfl)]
  change _ ∧ _ ∧ (item.id ^^^ rxMsg.id) &&& item.mask.setWidth 29 &&& idBits item.ide = 0 ↔ _
  rw [hbits, BitVec.and_allOnes]
  exact Iff.rfl

lemma started_banks_accept_iff {filter : List CanFilterItem} (hne : filter ≠ [])
    (hlen : filter.length ≤ 14) (hext : ∀ item ∈ filter, item.ide = true) :
    ∃ banks, canSetFilter (filter.map CanFilterItem.init) canConfigBanks = some banks ∧
      ∀ {pmsg box tx rx} (behind : ℕ → Byte), canSendmsgBox pmsg box = some tx → Carried tx rx →
        ((∃ n, (banks n).Accepts rx.rir) ↔ ∃ item ∈ filter, item.passes (rx.msg behind)) := by
  have hbank (k : ℕ) (item : RtCanFilterItem)
      (hk : (filter.map CanFilterItem.init)[k]? = some item) : (item.bank (0 + k)).toNat < 14 := by
    rw [List.getElem?_map] at hk
    obtain ⟨item, hitem, rfl⟩ := Option.map_eq_some_iff.mp hk
    have hk' := (List.getElem?_eq_some_iff.mp hitem).1
    rw [init_bank item (by omega)]
    omega
  have hlen' : 0 + filter.length ≤ 14 := (Nat.zero_add _).le.trans hlen
  obtain ⟨banks, hset, hbanks⟩ := canSetFilterFrom_spec hbank canConfigBanks
  refine ⟨banks, hset, fun {pmsg box tx rx} behind hsend hbus => ?_⟩
  have hsame := received_as_sent behind hsend hbus
  constructor
  · rintro ⟨n, hn⟩
    rcases hbanks n with ⟨hlast, heq⟩ | ⟨item, k, hlast, heq⟩
    · rw [lastFor_init filter hlen', if_pos (Nat.zero_le _), Option.map_eq_none_iff,
        List.getElem?_eq_none_iff] at hlast
      have hpos := List.length_pos_of_ne_nil hne
      have hoff : canConfigBanks n = ⟨false, false, 0, 0⟩ :=
        Function.update_of_ne (fun hc => by rw [hc] at hlast; exact hpos.not_ge hlast) _ _
      rw [heq, hoff] at hn
      exact absurd hn.1 Bool.false_ne_true
    · rw [lastFor_init filter hlen', if_pos (Nat.zero_le _)] at hlast
      obtain ⟨item, hitem, rfl⟩ := Option.map_eq_some_iff.mp hlast
      have hmem := List.mem_of_getElem? hitem
      rw [heq, written_accepts_iff k _ hsend hbus, ← passes_sameFrame hsame,
        passes_init (hext item hmem)] at hn
      exact ⟨item, hmem, hn⟩
  · rintro ⟨item, hmem, hpasses⟩
    obtain ⟨n, hn, rfl⟩ := List.getElem_of_mem hmem
    have hlast : lastFor n 0 (filter.map CanFilterItem.init) = some filter[n].init := by
      rw [lastFor_init filter hlen', if_pos (Nat.zero_le _), Nat.sub_zero,
        List.getElem?_eq_getElem hn]
      rfl
    refine ⟨⟨n, by omega⟩, ?_⟩
    rcases hbanks ⟨n, by omega⟩ with ⟨hnone, -⟩ | ⟨item', k, hitem', heq⟩
    · rw [hlast] at hnone
      cases hnone
    · rw [hlast] at hitem'
      obtain rfl := Option.some.inj hitem'
      rwa [heq, written_accepts_iff k _ hsend hbus, ← passes_sameFrame hsame,
        passes_init (hext _ (List.getElem_mem hn))]

end Banks

/-- A message that `_can_sendmsg` takes is read from another controller as it was sent, whatever the
mailbox held before and whatever the bus does not carry. `SET_FILTER` takes any items whose banks the
controller has, and then each bank lets the message through exactly if the item that was put into it
last asks for it, or, where none was, if it did so before. -/
theorem message_over_registers (pmsg : CanMsg) (box tx : CanTxMailBox) (rx : CanFifoMailBox)
    (behind : ℕ → Byte) (items : List RtCanFilterItem) (banks : Fin 14 → CanFilterBank)
    (hbanks : ∀ i item, items[i]? = some item → (RtCanFilterItem.bank item i).toNat < 14)
    (hsend : canSendmsgBox pmsg box = some tx) (hbus : Carried tx rx) :
    SameFrame (rx.msg behind) pmsg ∧
      ∃ banks', canSetFilter items banks = some banks' ∧ ∀ n : Fin 14, (banks' n).Accepts rx.rir ↔
        match lastFor n 0 items with
        | some item => item.Passes (rx.msg behind)
        | none => (banks n).Accepts rx.rir := by
  have hsame := received_as_sent behind hsend hbus
  obtain ⟨banks', hset, hspec⟩ := canSetFilterFrom_spec (i := 0)
    (fun k item hk => by rw [Nat.zero_add]; exact hbanks k item hk) banks
  refine ⟨hsame, banks', hset, fun n => ?_⟩
  rcases hspec n with ⟨hlast, heq⟩ | ⟨item, k, hlast, heq⟩
  · rw [hlast, heq]
  · rw [hlast, heq, written_accepts_iff k item hsend hbus]
    exact (passes_sameFrame hsame).symm

def CanTxMailBox.arrived (tx : CanTxMailBox) : CanFifoMailBox := ⟨tx.tir, tx.tdtr, tx.tdlr, tx.tdhr⟩

lemma carried_arrived (tx : CanTxMailBox) : Carried tx tx.arrived :=
  ⟨rfl, rfl, fun _ => rfl, fun _ => rfl, rfl, fun _ _ _ => rfl⟩

theorem message_over_registers_std :
    let tx : CanTxMailBox := ⟨0x24600001, 2, 0xB1A0, 0⟩
    let items : List RtCanFilterItem := [⟨⟨0x123, false, false, 0x7FF⟩, false, -1⟩,
      ⟨⟨0x7FF, false, false, 0x123⟩, true, 0⟩]
    SameFrame (tx.arrived.msg fun _ => 0)
        ⟨0x123, false, false, 2, fun i => if i = 0 then 0xA0 else if i = 1 then 0xB1 else 0⟩ ∧
      ∃ banks', canSetFilter items canConfigBanks = some banks' ∧
        ∀ n : Fin 14, (banks' n).Accepts tx.arrived.rir ↔
          match lastFor n 0 items with
          | some item => item.Passes (tx.arrived.msg fun _ => 0)
          | none => (canConfigBanks n).Accepts tx.arrived.rir :=
  message_over_registers _ ⟨0, 0, 0, 0⟩ _ _ _ _ _ (fun i item hi => by
    rcases i with _ | _ | i
    · obtain rfl := Option.some.inj hi
      decide
    · obtain rfl := Option.some.inj hi
      decide
    · cases hi) rfl (carried_arrived _)

end YkLock
