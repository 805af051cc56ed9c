import YkLock.Proofs.Reception

/-! Which addresses a node answers to after it was started, whatever its EEPROM returned. -/

namespace YkLock

open Library.StatePrograms

variable {D D' : Type}

def World.IsColdLock (w : World D) : Prop :=
  w.info.lockType = .ykColdLock ∨ w.info.lockType = .avcColdLock

instance (w : World D) : Decidable w.IsColdLock := inferInstanceAs (Decidable (_ ∨ _))

def AddressSelective (w : World D) : Prop :=
  ∀ rxMsg tail, Receives w rxMsg tail →
    Buffer.get ⟨rxMsg.bytes, tail⟩ 2 = w.info.addr ∨ Buffer.get ⟨rxMsg.bytes, tail⟩ 4 = 0x2F

def Apart (w : World D) (w' : World D') : Prop :=
  ∀ rxMsg tail tail', Receives w rxMsg tail → Receives w' rxMsg tail' →
    Buffer.get ⟨rxMsg.bytes, tail⟩ 4 = 0x2F

structure Started (b : Board D) (addr : Byte) (type : LockType) (w : World D) : Prop where
  info : ∃ sn, w.info = lockInfo b addr sn type
  set : w.set = (protocolSet type).getD []
  installed : w.installed = (protocolSet type).isSome
  filter : w.filter = mainFilter b w.info

section Boot

variable (b : Board D)

lemma boot_started (w : World D) :
    Started b (boot b w).info.addr (boot b w).info.lockType (boot b w) := by
  obtain ⟨d, c, hinit⟩ := configInit_touches b w.cleared
  obtain ⟨addr, sn, type, d', c', hupdate⟩ :=
    lockInfoUpdate_touches b { w.cleared with dev := d, cache := c }
  rw [← hinit] at hupdate
  obtain ⟨pins, hboot⟩ := boot_run hupdate
  rw [hboot, hinit]
  exact ⟨⟨sn, rfl⟩, rfl, rfl, rfl⟩

end Boot

section Received

variable {b : Board D} {addr : Byte} {type : LockType} {w : World D} {rxMsg : CanMsg}
  {tail : ℕ → Byte}

def recordOf (addr : Byte) (type : LockType) : Info := ⟨0, type.toByte, 0, 0, addr, 0⟩

lemma recordOf_lockInfo (b : Board D) (addr : Byte) (type : LockType) :
    (recordOf addr type).lockInfo b = lockInfo b addr 0 type := by
  cases type <;> rfl

lemma recordOf_listening (addr : Byte) (type : LockType) :
    (protocolSet type).getD [] = (recordOf addr type).listening.set := by
  cases type <;> rfl

lemma recordOf_cold (addr : Byte) (type : LockType) :
    (recordOf addr type).listening = .cold ↔ type = .ykColdLock ∨ type = .avcColdLock := by
  cases type <;> simp [recordOf, Info.listening, LockType.sanitised, LockType.ofByte, LockType.toByte]

lemma started_receives_iff (hw : Started b addr type w) : Receives w rxMsg tail ↔
    Hears b (recordOf addr type) (recordOf addr type) rxMsg tail := by
  obtain ⟨⟨sn, hinfo⟩, hset, hinst, hfilter⟩ := hw
  have hpass : mainFilter b (lockInfo b addr sn type) = mainFilter b (lockInfo b addr 0 type) := rfl
  have hparse (set : List HandlerIndexTable) (d : Buffer) :
      parse (lockInfo b addr sn type) set d = parse (lockInfo b addr 0 type) set d := rfl
  rw [Receives, Hears, accepted_eq, hfilter, hinfo, hinst, hset, recordOf_lockInfo, hpass, hparse,
    ← recordOf_listening addr type]
  refine and_congr_right fun _ => ⟨And.right, fun hp => ⟨?_, hp⟩⟩
  cases htype : protocolSet type with
  | none =>
    rw [htype, Option.getD_none, parse_nil] at hp
    cases hp
  | some set => rfl

lemma started_selective (hw : Started b addr type w)
    (hcold : ¬ (type = .ykColdLock ∨ type = .avcColdLock)) (hr : Receives w rxMsg tail) :
    Buffer.get ⟨rxMsg.bytes, tail⟩ 2 = addr := by
  obtain ⟨⟨item, hitem, hpass⟩, -⟩ := (started_receives_iff hw).mp hr
  rw [mainFilter_listening, if_neg (mt (recordOf_cold addr type).mp hcold)] at hitem
  have hid (d : Byte) (hd : d.toNat < 32) (hp : (itemFor addr d).passes rxMsg) :
      Buffer.get ⟨rxMsg.bytes, tail⟩ 2 = addr := by
    rw [bytes_get_two, ((itemFor_passes_iff addr d rxMsg).mp hp).2.2]
    exact (byteAt_filterId hd).2.2
  simp only [List.mem_cons, List.not_mem_nil, or_false] at hitem
  rcases hitem with rfl | rfl
  · exact hid 0x03 (by decide) hpass
  · exact hid 0x19 (by decide) hpass

lemma probe_received (hw : Started b addr type w) (hcold : type = .ykColdLock ∨ type = .avcColdLock)
    (other : Byte) : Receives w (probe 0x03 other 0x21) tail := by
  have hl := (recordOf_cold addr type).mpr hcold
  have hid : ((recordOf addr type).lockInfo b).devId = 0x03 := by
    simpa [hl] using devId_listening b (r := recordOf addr type)
  have hcode : ∃ e ∈ protocolSetColdLock, e.funcCode = 0x21 := by decide
  rw [started_receives_iff hw, probe_heard_iff (by decide), hl]
  refine ⟨?_, fun _ => Or.inl hid.symm, hcode⟩
  rw [mainFilter_listening, if_pos hl]
  refine ⟨coldItem addr, List.mem_cons_self, (coldItem_passes addr other _).mpr ?_⟩
  exact ⟨rfl, rfl, (and_xor_eq_zero_iff _ _ _).mpr rfl⟩

end Received

lemma probe_get (other : Byte) (tail : ℕ → Byte) :
    Buffer.get ⟨(probe 0x03 other 0x21).bytes, tail⟩ 2 = other ∧
      Buffer.get ⟨(probe 0x03 other 0x21).bytes, tail⟩ 4 = 0x21 := by
  rw [probe_bytes (by decide)]
  exact ⟨rfl, rfl⟩

lemma selective_iff {b : Board D} {addr : Byte} {type : LockType} {w : World D}
    (hw : Started b addr type w) :
    AddressSelective w ↔ ¬ (type = .ykColdLock ∨ type = .avcColdLock) := by
  obtain ⟨sn, hinfo⟩ := hw.info
  have haddr : w.info.addr = addr := by rw [hinfo]; rfl
  constructor
  · intro h hcold
    have hne : ∀ a : Byte, a + 1 ≠ a := by decide
    obtain ⟨h2, h4⟩ := probe_get (addr + 1) fun _ => 0
    rcases h _ (fun _ => 0) (probe_received hw hcold (addr + 1)) with hp | hp
    · exact hne addr (h2.symm.trans (hp.trans haddr))
    · exact absurd (h4.symm.trans hp) (by decide)
  · intro hcold rxMsg tail hr
    rw [haddr]
    exact Or.inl (started_selective hw hcold hr)

lemma codes_disjoint {l : Listening} (hl : l ≠ .cold) {e e' : HandlerIndexTable}
    (he : e ∈ protocolSetColdLock) (he' : e' ∈ l.set) : e.funcCode ≠ e'.funcCode := by
  have hyk : ∀ e ∈ protocolSetColdLock, ∀ e' ∈ protocolSetYk, e.funcCode ≠ e'.funcCode := by decide
  have havc : ∀ e ∈ protocolSetColdLock, ∀ e' ∈ protocolSetAvcSwitch, e.funcCode ≠ e'.funcCode := by
    decide
  cases l with
  | nothing => exact (List.not_mem_nil he').elim
  | cold => exact (hl rfl).elim
  | yk a => exact hyk e he e' he'
  | avcSwitch a => exact havc e he e' he'

lemma not_both_received {b : Board D} {b' : Board D'} {addr addr' : Byte} {type type' : LockType}
    {w : World D} {w' : World D'} {rxMsg : CanMsg} {tail tail' : ℕ → Byte}
    (hw : Started b addr type w) (hw' : Started b' addr' type' w')
    (hcold : type = .ykColdLock ∨ type = .avcColdLock)
    (hcold' : ¬ (type' = .ykColdLock ∨ type' = .avcColdLock)) (hr : Receives w rxMsg tail)
    (hr' : Receives w' rxMsg tail') : False := by
  have hears := (started_receives_iff hw).mp hr
  have hears' := (started_receives_iff hw').mp hr'
  have h5 : 5 ≤ Buffer.len ⟨rxMsg.bytes, tail⟩ := lengthOk_len (parse_isSome_iff.mp hears.2).1.2.1
  have hsame : Buffer.get ⟨rxMsg.bytes, tail⟩ 4 = Buffer.get ⟨rxMsg.bytes, tail'⟩ 4 := by
    rw [Buffer.get_of_lt (show 4 < rxMsg.bytes.length from h5),
      Buffer.get_of_lt (show 4 < rxMsg.bytes.length from h5)]
  obtain ⟨-, e, he, hcode⟩ := parse_isSome_iff.mp hears.2
  obtain ⟨-, e', he', hcode'⟩ := parse_isSome_iff.mp hears'.2
  rw [(recordOf_cold addr type).mpr hcold] at he
  exact codes_disjoint (mt (recordOf_cold addr' type').mp hcold') he he'
    (hcode.trans (hsame.trans hcode'.symm))

lemma apart_iff {b : Board D} {b' : Board D'} {addr addr' : Byte} {type type' : LockType}
    {w : World D} {w' : World D'} (hw : Started b addr type w) (hw' : Started b' addr' type' w')
    (hne : addr ≠ addr') : Apart w w' ↔ ¬ ((type = .ykColdLock ∨ type = .avcColdLock) ∧
      (type' = .ykColdLock ∨ type' = .avcColdLock)) := by
  constructor
  · rintro h ⟨hcold, hcold'⟩
    have hprobe := h (probe 0x03 0 0x21) (fun _ => 0) (fun _ => 0) (probe_received hw hcold 0)
      (probe_received hw' hcold' 0)
    exact absurd ((probe_get 0 fun _ => 0).2.symm.trans hprobe) (by decide)
  · intro h rxMsg tail tail' hr hr'
    exfalso
    by_cases hcold : type = .ykColdLock ∨ type = .avcColdLock
    · exact not_both_received hw hw' hcold (fun hcold' => h ⟨hcold, hcold'⟩) hr hr'
    · by_cases hcold' : type' = .ykColdLock ∨ type' = .avcColdLock
      · exact not_both_received hw' hw hcold' hcold hr' hr
      · have h2 := started_selective hw hcold hr
        have h2' := started_selective hw' hcold' hr'
        rw [bytes_get_two] at h2 h2'
        exact hne (h2.symm.trans h2')

theorem address_selective_iff (b : Board D) (b' : Board D') (w : World D) (w' : World D') :
    (AddressSelective (boot b w) ↔ ¬ (boot b w).IsColdLock) ∧
      ((boot b w).info.addr ≠ (boot b' w').info.addr →
        (Apart (boot b w) (boot b' w') ↔ ¬ ((boot b w).IsColdLock ∧ (boot b' w').IsColdLock))) :=
  ⟨selective_iff (boot_started b w), apart_iff (boot_started b w) (boot_started b' w')⟩

theorem address_selective_pair :
    AddressSelective (boot (bench followingRelay) (powered ⟨0, 0, 5, 5, 0xD6, 1⟩)) ∧
      Apart (boot (bench followingRelay) (powered ⟨0, 0, 5, 5, 0xD6, 1⟩))
        (boot (bench followingRelay) (powered ⟨0, 3, 5, 5, 0x07, 2⟩)) := by
  obtain ⟨hown, hboth⟩ := address_selective_iff (bench followingRelay) (bench followingRelay)
    (powered ⟨0, 0, 5, 5, 0xD6, 1⟩) (powered ⟨0, 3, 5, 5, 0x07, 2⟩)
  exact ⟨hown.mpr (by decide +kernel), (hboth (by decide +kernel)).mpr (by decide +kernel)⟩

theorem address_selective_fails : ¬ ∀ (b : Board Image) (w : World Image),
    AddressSelective (boot b w) := by
  intro h
  have hprobe := h (bench followingRelay) (powered ⟨0, 1, 5, 5, 0xD6, 1⟩) (probe 0x03 0x07 0x21)
    fun _ => 0
  exact absurd hprobe (by decide +kernel)

end YkLock
