import YkLock.Proofs.Frames
import YkLock.Model.Bench

/-! The frames the parser accepts, and the bytes it looks at. -/

namespace YkLock

open Library.StatePrograms

variable {D : Type}

def CrcOk (d : Buffer) : Prop :=
  d.get (sizeSub d.len 1) = crc8 ((List.range (sizeSub d.len 1)).map d.get)

def LengthOk (d : Buffer) : Prop := (d.get 3).toNat = sizeSub d.len 5

def IdOk (info : LockInfo) (devId funcCode : Byte) : Prop :=
  info.hardwareType = .hwAvcSwitch →
    devId = info.devId ∨ funcCode = funcCodeAvcModifySn ∨ funcCode = funcCodeYkProductionModifySn

instance (d : Buffer) : Decidable (CrcOk d) := inferInstanceAs (Decidable (_ = _))
instance (d : Buffer) : Decidable (LengthOk d) := inferInstanceAs (Decidable (_ = _))
instance (info : LockInfo) (devId funcCode : Byte) : Decidable (IdOk info devId funcCode) :=
  inferInstanceAs (Decidable (_ → _))

def lookup (set : List HandlerIndexTable) (funcCode : Byte) : Option HandlerIndex :=
  (set.find? (fun e => funcCode == e.funcCode)).map (·.index)

def parse (info : LockInfo) (set : List HandlerIndexTable) (d : Buffer) : Option HandlerIndex :=
  if CrcOk d ∧ LengthOk d ∧ IdOk info (d.get 0) (d.get 4) then lookup set (d.get 4) else none

def parserReads (d : Buffer) : List ℕ :=
  (if CrcOk d then if LengthOk d then [4, 2, 0, 3] else [3] else []) ++
    (List.range (sizeSub d.len 1)).reverse ++ [sizeSub d.len 1]

lemma protocolParser_run (d : Buffer) (w : World D) : (protocolParser d).run w =
    ((parse w.info w.set d).map (fun i => ⟨i, d⟩), { w with reads := parserReads d ++ w.reads }) := by
  by_cases hc : CrcOk d
  · have hc' := hc
    rw [CrcOk] at hc'
    by_cases hl : LengthOk d
    · have hl' := hl
      rw [LengthOk] at hl'
      by_cases hi : IdOk w.info (d.get 0) (d.get 4)
      · have hi' : ¬ (w.info.hardwareType = .hwAvcSwitch ∧ d.get 0 ≠ w.info.devId ∧
            d.get 4 ≠ funcCodeAvcModifySn ∧ d.get 4 ≠ funcCodeYkProductionModifySn) := by
          rintro ⟨hw, h1, h2, h3⟩
          rcases hi hw with h | h | h
          · exact h1 h
          · exact h2 h
          · exact h3 h
        simp [protocolParser, parse, parserReads, hc, hl, hi, hi', ← hc', hl', lookup,
          Function.comp_def]
      · have hi' : w.info.hardwareType = .hwAvcSwitch ∧ d.get 0 ≠ w.info.devId ∧
            d.get 4 ≠ funcCodeAvcModifySn ∧ d.get 4 ≠ funcCodeYkProductionModifySn := by
          simpa only [IdOk, Classical.not_imp, not_or, ne_eq] using hi
        simp [protocolParser, parse, parserReads, hc, hl, hi, hi', ← hc', hl']
    · have hl' := hl
      rw [LengthOk] at hl'
      simp [protocolParser, parse, parserReads, hc, hl, ← hc', hl']
  · have hc' := hc
    rw [CrcOk] at hc'
    simp [protocolParser, parse, parserReads, hc, hc']

def accepted (w : World D) (d : Buffer) : Option HandlerIndex :=
  ((protocolParser d).run w).1.map (·.index)

lemma accepted_eq (w : World D) (d : Buffer) : accepted w d = parse w.info w.set d := by
  simp [accepted, protocolParser_run, Function.comp_def]

def readsOf {α : Type} (m : Fw D α) (w : World D) : List ℕ :=
  (m.run { w with reads := [] }).2.reads

lemma readsOf_protocolParser (d : Buffer) (w : World D) :
    readsOf (protocolParser d) w = parserReads d := by
  simp [readsOf, protocolParser_run]

/-- `h0 h1 h2 L f p1 .. pn c` with `L = n + 1`, a valid checksum and a registered function code. -/
def Grammar (info : LockInfo) (set : List HandlerIndexTable) (bytes : List Byte)
    (index : HandlerIndex) : Prop :=
  ∃ h0 h1 h2 length f p c, bytes = h0 :: h1 :: h2 :: length :: f :: (p ++ [c]) ∧
    length.toNat = p.length + 1 ∧ c = crc8 (h0 :: h1 :: h2 :: length :: f :: p) ∧
    ⟨f, index⟩ ∈ set ∧ (info.hardwareType = .hwAvcSwitch → h0 = info.devId ∨ f = 0x37 ∨ f = 0x07)

lemma lengthOk_len {d : Buffer} (h : LengthOk d) : 5 ≤ d.len := by
  have hb := (d.get 3).isLt
  rw [LengthOk, sizeSub] at h
  split at h <;> omega

lemma protocolSet_cases {P : List HandlerIndexTable → Prop} (hyk : P protocolSetYk)
    (hcold : P protocolSetColdLock) (havc : P protocolSetAvcSwitch) (hnone : P []) (t : LockType) :
    P ((protocolSet t).getD []) := by
  cases t with
  | ykLock => exact hyk
  | ykColdLock => exact hcold
  | avc => exact hyk
  | avcColdLock => exact hcold
  | avcSwitch => exact havc
  | deviceTypeMax => exact hnone

lemma mem_protocolSet_index {t : LockType} {e e' : HandlerIndexTable}
    (he : e ∈ (protocolSet t).getD []) (he' : e' ∈ (protocolSet t).getD [])
    (hf : e.funcCode = e'.funcCode) : e = e' := by
  have h : ∀ e ∈ (protocolSet t).getD [], ∀ e' ∈ (protocolSet t).getD [],
      e.funcCode = e'.funcCode → e = e' :=
    protocolSet_cases (P := fun set => ∀ e ∈ set, ∀ e' ∈ set, e.funcCode = e'.funcCode → e = e')
      (by decide) (by decide) (by decide) (by decide) t
  exact h e he e' he' hf

def HandlerIndex.funcCode : HandlerIndex → Byte
  | .ykQueryState => 0x01
  | .ykControl => 0x02
  | .ykModifyAddr => 0x03
  | .ykReportState => 0x04
  | .ykProductionModifySn => 0x07
  | .avcQueryState => 0x31
  | .avcControlCommand => 0x35
  | .avcControlRequest => 0x32
  | .avcModifyAddrType => 0x33
  | .avcModifySn => 0x37
  | .avcProductionQuery => 0x3F
  | .coldLockQueryAll => 0x21
  | .coldLockControl => 0x25
  | .coldLockModifyTimeout => 0x2A
  | .coldLockModifyAddr => 0x23
  | .coldLockModifySn => 0x27
  | .coldLockProductionQuery => 0x2F

lemma funcCode_eq {t : LockType} {e : HandlerIndexTable} (he : e ∈ (protocolSet t).getD []) :
    e.funcCode = e.index.funcCode :=
  protocolSet_cases (P := fun set => ∀ e ∈ set, e.funcCode = e.index.funcCode)
    (by decide) (by decide) (by decide) (by decide) t e he

lemma lookup_funcCode (i : HandlerIndex) :
    lookup (protocolSetYk ++ protocolSetAvcSwitch ++ protocolSetColdLock) i.funcCode = some i := by
  cases i <;> rfl

lemma funcCode_injective : Function.Injective HandlerIndex.funcCode := by
  intro i j hij
  have hi := lookup_funcCode i
  rw [hij, lookup_funcCode j] at hi
  exact (Option.some.inj hi).symm

lemma lookup_eq_some_iff {t : LockType} (f : Byte) (i : HandlerIndex) :
    lookup ((protocolSet t).getD []) f = some i ↔ ⟨f, i⟩ ∈ (protocolSet t).getD [] := by
  rw [lookup, Option.map_eq_some_iff]
  constructor
  · rintro ⟨e, he, rfl⟩
    have hf := List.find?_some he
    rw [beq_iff_eq] at hf
    rw [hf]
    exact List.mem_of_find?_eq_some he
  · intro hi
    have hs : (((protocolSet t).getD []).find? (fun e => f == e.funcCode)).isSome = true :=
      List.find?_isSome.mpr ⟨_, hi, beq_self_eq_true f⟩
    obtain ⟨e, he⟩ := Option.isSome_iff_exists.mp hs
    have hf := List.find?_some he
    rw [beq_iff_eq] at hf
    rw [mem_protocolSet_index (List.mem_of_find?_eq_some he) hi hf.symm] at he
    exact ⟨_, he, rfl⟩

lemma Buffer.map_get_range (d : Buffer) {n : ℕ} (hn : n ≤ d.len) :
    (List.range n).map d.get = d.bytes.take n := by
  refine List.ext_getElem (by simpa [Buffer.len] using hn) fun i hi _ => ?_
  rw [List.length_map, List.length_range] at hi
  simp [d.get_of_lt (hi.trans_le hn)]

lemma sizeSub_of_le {len k : ℕ} (h : k ≤ len) : sizeSub len k = len - k := if_pos h

lemma crcOk_iff {d : Buffer} (hd : 1 ≤ d.len) :
    CrcOk d ↔ d.get (d.len - 1) = crc8 (d.bytes.take (d.len - 1)) := by
  rw [CrcOk, sizeSub_of_le hd, d.map_get_range (Nat.sub_le _ _)]

lemma lengthOk_iff {d : Buffer} (hd : 5 ≤ d.len) : LengthOk d ↔ (d.get 3).toNat = d.len - 5 := by
  rw [LengthOk, sizeSub_of_le hd]

lemma parse_eq_some_iff {info : LockInfo} {set : List HandlerIndexTable} {d : Buffer}
    {i : HandlerIndex} : parse info set d = some i ↔
      (CrcOk d ∧ LengthOk d ∧ IdOk info (d.get 0) (d.get 4)) ∧ lookup set (d.get 4) = some i := by
  rw [parse]
  split
  · simp [*]
  · simp [*]

lemma parse_nil (info : LockInfo) (d : Buffer) : parse info [] d = none := by
  rw [parse]
  split <;> rfl

lemma exists_of_six_le : {l : List Byte} → 6 ≤ l.length →
    ∃ h0 h1 h2 length f g rest, l = h0 :: h1 :: h2 :: length :: f :: g :: rest
  | h0 :: h1 :: h2 :: length :: f :: g :: rest, _ => ⟨h0, h1, h2, length, f, g, rest, rfl⟩

lemma grammar_iff {info : LockInfo} {t : LockType} {d : Buffer} {i : HandlerIndex} :
    Grammar info ((protocolSet t).getD []) d.bytes i ↔
      6 ≤ d.len ∧ parse info ((protocolSet t).getD []) d = some i := by
  constructor
  · rintro ⟨h0, h1, h2, length, f, p, c, hb, hl, hc, hf, hid⟩
    have hlen : d.len = p.length + 6 := by simp [Buffer.len, hb]
    refine ⟨by omega, parse_eq_some_iff.mpr ⟨⟨?_, ?_, ?_⟩, ?_⟩⟩
    · rw [crcOk_iff (by omega), hlen]
      simp [Buffer.get, hb, hc]
    · rw [lengthOk_iff (by omega), hlen]
      simp [Buffer.get, hb, hl]
    · simpa [IdOk, Buffer.get, hb, funcCodeAvcModifySn, funcCodeYkProductionModifySn] using hid
    · rw [lookup_eq_some_iff]
      simpa [Buffer.get, hb] using hf
  · rintro ⟨hd, hp⟩
    obtain ⟨⟨hc, hl, hid⟩, hf⟩ := parse_eq_some_iff.mp hp
    rw [crcOk_iff (by omega)] at hc
    rw [lengthOk_iff (by omega)] at hl
    obtain ⟨bytes, tail⟩ := d
    obtain ⟨h0, h1, h2, length, f, g, rest, rfl⟩ := exists_of_six_le hd
    obtain ⟨p, c, hpc⟩ := (List.eq_nil_or_concat' (g :: rest)).resolve_left (List.cons_ne_nil _ _)
    rw [hpc] at hc hl hid hf ⊢
    rw [lookup_eq_some_iff] at hf
    exact ⟨h0, h1, h2, length, f, p, c, rfl, by simpa [Buffer.get, Buffer.len] using hl,
      by simpa [Buffer.get, Buffer.len] using hc, hf, hid⟩

def CrcAsFuncCode (w : World D) (d : Buffer) : Prop :=
  ∃ h0 h1 h2, d.bytes = [h0, h1, h2, 0, crc8 [h0, h1, h2, 0]] ∧
    (lookup w.set (crc8 [h0, h1, h2, 0])).isSome = true ∧
    IdOk w.info h0 (crc8 [h0, h1, h2, 0])

def BareId (d : Buffer) : Prop := ∃ h0 h1, d.bytes = [h0, h1, crc8 [h0, h1]]

def ParserMeetsGrammar (w : World D) (d : Buffer) : Prop :=
  (∀ i, accepted w d = some i ↔ Grammar w.info w.set d.bytes i) ∧
    ∀ r ∈ readsOf (protocolParser d) w, r < d.len

lemma crcAsFuncCode_iff {w : World D} {d : Buffer} :
    CrcAsFuncCode w d ↔ d.len = 5 ∧ ∃ i, accepted w d = some i := by
  obtain ⟨bytes, tail⟩ := d
  simp only [accepted_eq, parse_eq_some_iff]
  constructor
  · rintro ⟨h0, h1, h2, hb, hf, hid⟩
    obtain rfl : bytes = _ := hb
    obtain ⟨i, hi⟩ := Option.isSome_iff_exists.mp hf
    refine ⟨rfl, i, ⟨?_, ?_, hid⟩, hi⟩
    · rw [crcOk_iff (by simp [Buffer.len])]
      rfl
    · rw [lengthOk_iff (by simp [Buffer.len])]
      rfl
  · rintro ⟨hlen, i, ⟨hc, hl, hid⟩, hi⟩
    rw [crcOk_iff (by omega)] at hc
    rw [lengthOk_iff (by omega)] at hl
    match bytes, hlen with
    | [h0, h1, h2, length, f], _ =>
      have hlength : length = 0 := BitVec.eq_of_toNat_eq (by simpa [Buffer.get, Buffer.len] using hl)
      have hcrc : f = crc8 [h0, h1, h2, 0] := by simpa [Buffer.get, Buffer.len, hlength] using hc
      subst hlength hcrc
      exact ⟨h0, h1, h2, rfl, Option.isSome_iff_exists.mpr ⟨i, hi⟩, hid⟩

lemma bareId_iff {d : Buffer} (hd : 3 ≤ d.len) : BareId d ↔ ∃ r ∈ parserReads d, d.len ≤ r := by
  have hget (h0 h1 h2 : Byte) (tail : ℕ → Byte) :
      CrcOk ⟨[h0, h1, h2], tail⟩ ↔ h2 = crc8 [h0, h1] := by
    rw [crcOk_iff (by simp [Buffer.len])]
    rfl
  constructor
  · rintro ⟨h0, h1, hb⟩
    obtain ⟨bytes, tail⟩ := d
    obtain rfl : bytes = _ := hb
    refine ⟨3, ?_, le_rfl⟩
    rw [parserReads, if_pos ((hget _ _ _ _).mpr rfl)]
    split <;> simp
  · rintro ⟨r, hr, hle⟩
    obtain ⟨bytes, tail⟩ := d
    rw [parserReads, sizeSub_of_le (by omega)] at hr
    have hcrc : CrcOk ⟨bytes, tail⟩ := by
      by_contra hc
      simp only [if_neg hc, List.nil_append, List.mem_append, List.mem_reverse, List.mem_range,
        List.mem_singleton] at hr
      omega
    have hlen : Buffer.len ⟨bytes, tail⟩ = 3 := by
      by_cases hl : LengthOk ⟨bytes, tail⟩
      · have hl5 := lengthOk_len hl
        simp [hcrc, hl] at hr
        omega
      · simp [hcrc, hl] at hr
        omega
    match bytes, hlen with
    | [h0, h1, h2], _ => exact ⟨h0, h1, by rw [(hget h0 h1 h2 tail).mp hcrc]⟩

theorem parser_meets_grammar_iff (t : LockType) (w : World D) (d : Buffer)
    (hset : w.set = (protocolSet t).getD []) (hd : 3 ≤ d.len) :
    ParserMeetsGrammar w d ↔ ¬ CrcAsFuncCode w d ∧ ¬ BareId d := by
  have hreads : (∀ r ∈ readsOf (protocolParser d) w, r < d.len) ↔ ¬ BareId d := by
    rw [bareId_iff hd, readsOf_protocolParser]
    simp only [not_exists, not_and, not_le]
  rw [ParserMeetsGrammar, hreads, and_congr_left_iff]
  intro _
  simp only [accepted_eq, hset, grammar_iff, crcAsFuncCode_iff, not_and, not_exists]
  constructor
  · intro h h5 i hi
    have h6 := ((h i).mp hi).1
    omega
  · intro h i
    refine ⟨fun hi => ⟨?_, hi⟩, And.right⟩
    have h5 := lengthOk_len (parse_eq_some_iff.mp hi).1.2.1
    have hne : d.len ≠ 5 := fun h5 => h h5 i hi
    omega

lemma rxCb_run_of_accepted {b : Board D} {w : World D} {d : Buffer} {i : HandlerIndex}
    (hw : w.installed = true) (hd : accepted w d = some i) : (rxCb b d).run w =
      (protocolHandler b ⟨i, d⟩).run { w with reads := parserReads d ++ w.reads } := by
  rw [accepted_eq] at hd
  have hlen : d.len ≠ 0 := by
    have h5 := lengthOk_len (parse_eq_some_iff.mp hd).1.2.1
    omega
  simp [rxCb, hlen, hw, protocolParser_run, hd]

lemma rxCb_run_of_refused {b : Board D} {w : World D} {d : Buffer}
    (hd : w.installed = true → accepted w d = none) :
    ∃ indices, ((rxCb b d).run w).2 = { w with reads := indices } := by
  by_cases hlen : d.len = 0
  · exact ⟨w.reads, by simp [rxCb, hlen]⟩
  · by_cases hw : w.installed = true
    · have hnone := hd hw
      rw [accepted_eq] at hnone
      exact ⟨parserReads d ++ w.reads, by simp [rxCb, hlen, hw, protocolParser_run, hnone]⟩
    · have hrun : ((rxCb b d).run w).2 = w := by simp [rxCb, Bool.eq_false_of_not_eq_true hw]
      exact ⟨w.reads, hrun⟩

def grammarQuery : Buffer := ⟨withCrc [0x03, 0x00, 0xD6, 0x01, 0x01], fun _ => 0⟩

theorem parser_meets_grammar_query : ParserMeetsGrammar startedYk grammarQuery := by
  refine (parser_meets_grammar_iff .ykLock _ _ (by decide) (by decide)).mpr ⟨?_, ?_⟩
  · rintro ⟨h0, h1, h2, hb, -⟩
    exact absurd (congrArg List.length hb) (by simp [grammarQuery, withCrc])
  · rintro ⟨h0, h1, hb⟩
    exact absurd (congrArg List.length hb) (by simp [grammarQuery, withCrc])

theorem parser_meets_grammar_fails :
    ¬ ∀ d : Buffer, 3 ≤ d.len → ParserMeetsGrammar startedYk d := by
  intro h
  have hacc := (h ⟨withCrc [0x03, 0x00, 0xD6, 0x00], fun _ => 0⟩ (by decide)).1 .ykQueryState
  obtain ⟨h0, h1, h2, length, f, p, c, hb, -⟩ := hacc.mp (by decide)
  exact absurd (congrArg List.length hb) (by simp [withCrc])

end YkLock
