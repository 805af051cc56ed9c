import YkLock.Proofs.FailingWrites
import YkLock.Model.Bench

/-! Whether a command that writes two fields leaves them in agreement and reports what it did. -/

namespace YkLock

open Library.Storage Library.StatePrograms Library.Runs Library.Records

variable {D : Type}

def handled (b : Board D) (i : HandlerIndex) (d : Buffer) (w : World D) : World D :=
  ((protocolHandler b ⟨i, d⟩).run ((protocolParser d).run w).2).2

def attempted (content : D → Image) (pattern : D → ℕ → Bool) (i : HandlerIndex) (d : Buffer)
    (w : World D) : List ConfigWrite := i.tries d (w.record content) (pattern w.dev 0)

structure WritesTruthfully (b : Board D) (content : D → Image) (pattern : D → ℕ → Bool)
    (i : HandlerIndex) (d : Buffer) (w : World D) : Prop where
  atomic : Info.fields.AllOrNothing (attempted content pattern i d w) (w.record content)
    ((handled b i d w).record content)
  truthful : i = .avcModifyAddrType ∨ i = .avcModifySn →
    ∃ reply, (handled b i d w).sent = reply :: w.sent ∧ (resultByte reply = 0x10 ↔
      attempted content pattern i d w ≠ [] ∧
        Info.fields.Holds (attempted content pattern i d w) ((handled b i d w).record content))

/-- When the outcomes of the first and the second write leave the fields in agreement. -/
def OutcomesAgree (i : HandlerIndex) (d : Buffer) (r : Info) (o : ℕ → Bool) : Prop :=
  match i with
  | .ykProductionModifySn =>
    LockType.sanitised r.devType ≠ .ykLock → o 0 = o 1 ∨ r.sn = d.sn 6
  | .avcModifySn =>
    if LockType.sanitised r.devType ≠ .avcSwitch then o 0 = o 1 else o 0 = true ∨ r.sn ≠ d.sn 6
  | .avcModifyAddrType =>
    d.sn 3 = r.sn →
      if o 0 = true then o 1 = true ∨ r.devType = d.get 1 ∧ r.addr ≠ d.get 2
      else r.devType ≠ d.get 1
  | .coldLockModifyTimeout => o 0 = o 1 ∨ r.timeoutExec = d.get 5 ∨ r.timeoutCmd = d.get 6
  | _ => True

instance (i : HandlerIndex) (d : Buffer) (r : Info) (o : ℕ → Bool) :
    Decidable (OutcomesAgree i d r o) := by
  unfold OutcomesAgree
  split <;> exact inferInstance

section Outcomes

lemma fits_sn (x : BitVec 24) : Info.fields.Fits .sn (x.setWidth 32) := by
  rw [Info.fits_sn_iff, BitVec.toNat_setWidth_of_le (by norm_num)]
  exact x.isLt

lemma fits_deviceType (x : Byte) : Info.fields.Fits .deviceType x :=
  Info.fits_of_ne_sn (k := .deviceType) (by decide) x

lemma get_sn_iff (r : Info) (x : BitVec 24) :
    Info.fields.get .sn r = x.setWidth 32 ↔ r.sn = x := setWidth_sn_inj

lemma ne_toByte_of_sanitised {x : Byte} {type : LockType} (h : LockType.sanitised x ≠ type) :
    x ≠ type.toByte := by
  rintro rfl
  cases type <;> exact h rfl

variable (d : Buffer) (r : Info) (o : ℕ → Bool)

lemma sn_outcomes_iff (type : LockType) : Info.fields.AllOrNothing
    (⟨.sn, (d.sn 6).setWidth 32⟩ :: r.follows type) r
    (Info.fields.attempt (⟨.sn, (d.sn 6).setWidth 32⟩ :: r.follows type) o r) ↔
      (LockType.sanitised r.devType ≠ type → o 0 = o 1 ∨ r.sn = d.sn 6) := by
  rw [Info.follows]
  by_cases ht : LockType.sanitised r.devType ≠ type
  · have htype : Info.fields.get .deviceType r ≠ type.toByte := ne_toByte_of_sanitised ht
    rw [if_pos ht, Fields.allOrNothing_pair_iff (by simp) (fits_sn _) (fits_deviceType _),
      get_sn_iff, imp_iff_right ht]
    simp only [htype, or_false]
  · rw [if_neg ht]
    exact iff_of_true (Fields.allOrNothing_one (fits_sn _)) fun hh => (ht hh).elim

lemma sn_holds_iff (type : LockType) : Info.fields.Holds
    (⟨.sn, (d.sn 6).setWidth 32⟩ :: r.follows type)
    (Info.fields.attempt (⟨.sn, (d.sn 6).setWidth 32⟩ :: r.follows type) o r) ↔
      (o 0 = true ∨ r.sn = d.sn 6) ∧ (LockType.sanitised r.devType ≠ type → o 1 = true) := by
  rw [Info.follows]
  by_cases ht : LockType.sanitised r.devType ≠ type
  · have htype : Info.fields.get .deviceType r ≠ type.toByte := ne_toByte_of_sanitised ht
    rw [if_pos ht, Fields.holds_pair_iff (by simp) (fits_sn _) (fits_deviceType _), get_sn_iff,
      imp_iff_right ht]
    simp only [htype, or_false]
  · rw [if_neg ht, Fields.holds_one_iff (fits_sn _), get_sn_iff]
    exact (and_iff_left fun hh => (ht hh).elim).symm

def Consistent (i : HandlerIndex) (d : Buffer) (r : Info) (o : ℕ → Bool) (x : Byte) : Prop :=
  Info.fields.AllOrNothing (i.tries d r (o 0)) r (Info.fields.attempt (i.tries d r (o 0)) o r) ∧
    (i = .avcModifyAddrType ∨ i = .avcModifySn → (x = 0x10 ↔ i.tries d r (o 0) ≠ [] ∧
      Info.fields.Holds (i.tries d r (o 0)) (Info.fields.attempt (i.tries d r (o 0)) o r)))

variable {d r o} {x : Byte}

lemma modifySn_consistent_iff (hx : HandlerIndex.Answers .avcModifySn d r o x) :
    Consistent .avcModifySn d r o x ↔ OutcomesAgree .avcModifySn d r o := by
  have hx' : x = 0x10 ↔ o 0 = true := hx
  rw [Consistent, imp_iff_right (Or.inr rfl), HandlerIndex.tries, sn_outcomes_iff, sn_holds_iff,
    and_iff_right (List.cons_ne_nil _ _), OutcomesAgree, hx']
  by_cases ht : LockType.sanitised r.devType ≠ .avcSwitch
  · rw [if_pos ht]
    simp only [ht, ne_eq, not_false_eq_true, forall_const]
    cases o 0 <;> cases o 1 <;> simp
  · rw [if_neg ht]
    simp only [not_not.mp ht, ne_eq, not_true_eq_false, false_implies, and_true, true_and]
    cases o 0 <;> simp

lemma productionModifySn_consistent_iff :
    Consistent .ykProductionModifySn d r o x ↔ OutcomesAgree .ykProductionModifySn d r o := by
  rw [Consistent, and_iff_left (by rintro (h | h) <;> cases h), HandlerIndex.tries, sn_outcomes_iff,
    OutcomesAgree]

lemma modifyTimeout_consistent_iff :
    Consistent .coldLockModifyTimeout d r o x ↔ OutcomesAgree .coldLockModifyTimeout d r o := by
  rw [Consistent, and_iff_left (by rintro (h | h) <;> cases h), HandlerIndex.tries, OutcomesAgree,
    Fields.allOrNothing_pair_iff (by simp) (Info.fits_of_ne_sn (by simp) _)
      (Info.fits_of_ne_sn (by simp) _)]
  exact Iff.rfl

lemma modifyDevice_consistent_iff (hx : HandlerIndex.Answers .avcModifyAddrType d r o x) :
    Consistent .avcModifyAddrType d r o x ↔ OutcomesAgree .avcModifyAddrType d r o := by
  have hx' : x = 0x10 ↔ d.sn 3 = r.sn ∧ o 0 = true ∧ o 1 = true := hx
  have haddr : Info.fields.Fits .addr (d.get 2) :=
    Info.fits_of_ne_sn (k := .addr) (by decide) _
  rw [Consistent, imp_iff_right (Or.inl rfl), HandlerIndex.tries, OutcomesAgree, hx']
  by_cases hsn : d.sn 3 = r.sn
  · rw [if_pos hsn, imp_iff_right hsn, and_iff_right hsn]
    by_cases h0 : o 0 = true
    · rw [if_pos h0, if_pos h0, Fields.allOrNothing_pair_iff (by simp) (fits_deviceType _) haddr,
        Fields.holds_pair_iff (by simp) (fits_deviceType _) haddr,
        and_iff_right (List.cons_ne_nil _ _)]
      change (o 0 = o 1 ∨ r.devType = d.get 1 ∨ r.addr = d.get 2) ∧ (o 0 = true ∧ o 1 = true ↔
        (o 0 = true ∨ r.devType = d.get 1) ∧ (o 1 = true ∨ r.addr = d.get 2)) ↔ _
      by_cases haddr' : r.addr = d.get 2
      · simp [h0, haddr']
      · cases o 1 <;> simp [h0, haddr']
    · rw [if_neg h0, if_neg h0, Fields.holds_one_iff (fits_deviceType _),
        and_iff_right (List.cons_ne_nil _ _), and_iff_right (Fields.allOrNothing_one (fits_deviceType _))]
      change (o 0 = true ∧ o 1 = true ↔ o 0 = true ∨ r.devType = d.get 1) ↔ _
      simp [h0]
  · rw [if_neg hsn]
    refine iff_of_true ⟨Or.inl fun _ hw => (List.not_mem_nil hw).elim, ?_⟩ fun hh => (hsn hh).elim
    exact iff_of_false (fun hh => hsn hh.1) fun hh => hh.1 rfl

lemma consistent_iff {i : HandlerIndex} (hi : i.MultiWrite) {d : Buffer} {r : Info} {o : ℕ → Bool}
    {x : Byte} (hx : i.Answers d r o x) : Consistent i d r o x ↔ OutcomesAgree i d r o := by
  rcases hi with rfl | rfl | rfl | rfl
  · exact modifyDevice_consistent_iff hx
  · exact modifySn_consistent_iff hx
  · exact productionModifySn_consistent_iff
  · exact modifyTimeout_consistent_iff

end Outcomes

lemma handled_iff {b : Board D} {content : D → Image} {pattern : D → ℕ → Bool}
    (h : b.at24cxx.Failing content pattern) {i : HandlerIndex} (hi : i.MultiWrite) {d : Buffer}
    {w : World D} (hw : Mirrored b content w) :
    WritesTruthfully b content pattern i d w ↔
      OutcomesAgree i d (w.record content) (pattern w.dev) := by
  have hparsed : Mirrors b content pattern (w.record content) (pattern w.dev) w.sent
      ((protocolParser d).run w).2 := by
    rw [protocolParser_run]
    exact ⟨rfl, hw.1, hw.2, rfl, rfl⟩
  obtain ⟨reply, hreply, hx⟩ := protocolHandler_tried h hi d _ hparsed
  have hsent : (handled b i d w).sent = reply :: w.sent := hreply.sent
  have hrecord : (handled b i d w).record content = _ := hreply.record
  rw [← consistent_iff hi hx, Consistent]
  constructor
  · rintro ⟨hatomic, htruthful⟩
    rw [hrecord] at hatomic htruthful
    refine ⟨hatomic, fun hcode => ?_⟩
    obtain ⟨reply', hreply', hiff⟩ := htruthful hcode
    rw [hsent] at hreply'
    rwa [(List.cons.inj hreply').1]
  · rintro ⟨hatomic, htruthful⟩
    refine ⟨?_, fun hcode => ⟨reply, hsent, ?_⟩⟩
    · rwa [hrecord]
    · rw [hrecord]
      exact htruthful hcode

theorem multi_write_iff (b : Board D) (content : D → Image) (pattern : D → ℕ → Bool) (w : World D)
    (as : List Event) (i : HandlerIndex) (d : Buffer) (h : b.at24cxx.Failing content pattern)
    (hi : i.MultiWrite) :
    WritesTruthfully b content pattern i d (run (event b) as (boot b w)) ↔
      OutcomesAgree i d ((run (event b) as (boot b w)).record content)
        (pattern (run (event b) as (boot b w)).dev) :=
  handled_iff h hi (run_mirrored h as w)

def failingBench : Board (Image × (ℕ → Bool)) := benchOn (Device.scripted Image) followingRelay

theorem multi_write_refused : WritesTruthfully failingBench Prod.fst Prod.snd .coldLockModifyTimeout
    ⟨withCrc [0x03, 0x00, 0x01, 0x03, 0x2A, 0x07, 0x08], fun _ => 0⟩
    (run (event failingBench) [.cmdModifyAddr (some 7)]
      (boot failingBench (poweredOn (Info.encode ⟨0, 1, 5, 5, 1, 1⟩, fun n => decide (n = 0))))) :=
  (multi_write_iff _ _ _ _ _ _ _ Device.scripted_failing (by simp [HandlerIndex.MultiWrite])).mpr
    (by decide +kernel)

theorem multi_write_fails : ¬ ∀ o : ℕ → Bool,
    let d : Buffer := ⟨withCrc [0x03, 0x00, 0xD6, 0x05, 0x37, 0x00, 0x00, 0x00, 0x02], fun _ => 0⟩
    let w := boot failingBench (poweredOn (Info.encode ⟨0, 0, 5, 5, 0xD6, 1⟩, o))
    ((protocolParser d).run w).1.isSome = true →
      WritesTruthfully failingBench Prod.fst Prod.snd .avcModifySn d w := by
  intro h
  rcases (h (fun n => decide (n = 0)) (by decide +kernel)).atomic with hall | hnone
  · exact absurd (hall ⟨.deviceType, 4⟩ (by decide +kernel)) (by decide +kernel)
  · exact absurd (hnone ⟨.sn, 2⟩ (by decide +kernel)) (by decide +kernel)

end YkLock
