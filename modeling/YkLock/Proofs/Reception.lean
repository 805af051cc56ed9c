import YkLock.Proofs.DeviceSteps

/-! What a device listens to: the filter, the function codes and the device id together. -/

namespace YkLock

open Library.Storage Library.StatePrograms

variable {D : Type}

def Receives (w : World D) (rxMsg : CanMsg) (tail : ℕ → Byte) : Prop :=
  (∃ item ∈ w.filter, item.passes rxMsg) ∧ w.installed = true ∧
    (accepted w ⟨rxMsg.bytes, tail⟩).isSome = true

instance (w : World D) (rxMsg : CanMsg) (tail : ℕ → Byte) : Decidable (Receives w rxMsg tail) :=
  inferInstanceAs (Decidable (_ ∧ _ ∧ _))

inductive Listening
  | nothing | cold | yk (addr : Byte) | avcSwitch (addr : Byte)
  deriving DecidableEq, Repr

def Info.listening (r : Info) : Listening :=
  match LockType.sanitised r.devType with
  | .ykLock | .avc => .yk r.addr
  | .ykColdLock | .avcColdLock => .cold
  | .avcSwitch => .avcSwitch r.addr
  | .deviceTypeMax => .nothing

def Listening.set : Listening → List HandlerIndexTable
  | .nothing => []
  | .cold => protocolSetColdLock
  | .yk _ => protocolSetYk
  | .avcSwitch _ => protocolSetAvcSwitch

def itemFor (addr devId : Byte) : CanFilterItem := rtCanFilterExtInit (filterId addr 0x00 devId)

lemma protocolSet_listening (r : Info) :
    (protocolSet (.sanitised r.devType)).getD [] = r.listening.set := by
  rw [Info.listening]
  cases LockType.sanitised r.devType <;> rfl

lemma protocolSet_installed (r : Info) :
    (protocolSet (.sanitised r.devType)).isSome = decide (r.listening ≠ .nothing) := by
  rw [Info.listening]
  cases LockType.sanitised r.devType <;> rfl

def coldItem (addr : Byte) : CanFilterItem := { itemFor addr 0x03 with mask := 0xFFFFFFFF <<< 8 }

lemma mainFilter_listening (b : Board D) (r : Info) : mainFilter b (r.lockInfo b) =
    [if r.listening = .cold then coldItem r.addr else itemFor r.addr 0x03, itemFor r.addr 0x19] := by
  have htype : (r.lockInfo b).lockType = .sanitised r.devType := rfl
  rw [mainFilter, htype, Info.listening]
  cases LockType.sanitised r.devType <;> rfl

lemma devId_listening (b : Board D) {r : Info} (hr : r.listening ≠ .nothing) :
    (r.lockInfo b).devId = if r.listening = .avcSwitch r.addr then 0x19 else 0x03 := by
  have hid : (r.lockInfo b).devId = getDeviceIdByLockType b (.sanitised r.devType) := rfl
  rw [hid]
  rw [Info.listening] at hr ⊢
  cases ht : LockType.sanitised r.devType with
  | deviceTypeMax => exact (hr (by rw [ht])).elim
  | avcSwitch => simp [getDeviceIdByLockType, deviceIdTable, LockType.toByte]
  | _ => rfl

section Filter

lemma and_xor_eq_zero_iff {n : ℕ} (x y m : BitVec n) : (x ^^^ y) &&& m = 0 ↔ x &&& m = y &&& m := by
  have hxor : (x ^^^ y) &&& m = (x &&& m) ^^^ (y &&& m) := by
    ext i hi
    simp [Bool.and_xor_distrib_right]
  rw [hxor]
  exact BitVec.xor_eq_zero_iff

lemma filterId_toNat (addr devId : Byte) (h : devId.toNat < 32) :
    ((filterId addr 0x00 devId).setWidth 29).toNat = devId.toNat * 65536 + addr.toNat := by
  have ha := addr.isLt
  have hnet : (0x00 : Byte).toNat = 0 := rfl
  simp only [filterId, BitVec.toNat_setWidth, BitVec.toNat_add, BitVec.toNat_shiftLeft,
    Nat.shiftLeft_eq, hnet]
  omega

lemma filterId_inj {a a' d d' : Byte} (h : d.toNat < 32) (h' : d'.toNat < 32)
    (he : (filterId a 0x00 d).setWidth 29 = (filterId a' 0x00 d').setWidth 29) : a = a' ∧ d = d' := by
  have hnat := congrArg BitVec.toNat he
  rw [filterId_toNat a d h, filterId_toNat a' d' h'] at hnat
  have ha := a.isLt
  have ha' := a'.isLt
  exact ⟨BitVec.eq_of_toNat_eq (by omega), BitVec.eq_of_toNat_eq (by omega)⟩

lemma itemFor_passes_iff (a d : Byte) (rxMsg : CanMsg) : (itemFor a d).passes rxMsg ↔
    rxMsg.ide = true ∧ rxMsg.rtr = false ∧ rxMsg.id = (filterId a 0x00 d).setWidth 29 := by
  have hmask : (0xFFFFFFFF : Word).setWidth 29 = BitVec.allOnes 29 := by decide
  have hid : ((itemFor a d).id ^^^ rxMsg.id) &&& (itemFor a d).mask.setWidth 29 = 0 ↔
      rxMsg.id = (filterId a 0x00 d).setWidth 29 := by
    rw [itemFor, rtCanFilterExtInit, hmask, and_xor_eq_zero_iff, BitVec.and_allOnes,
      BitVec.and_allOnes]
    exact eq_comm
  exact and_congr eq_comm (and_congr eq_comm hid)

lemma passes_congr {x y : CanFilterItem} (hide : x.ide = y.ide) (hrtr : x.rtr = y.rtr)
    (hmask : x.mask = y.mask) (hid : x.id &&& x.mask.setWidth 29 = y.id &&& x.mask.setWidth 29)
    (rxMsg : CanMsg) : x.passes rxMsg ↔ y.passes rxMsg := by
  rw [CanFilterItem.passes, CanFilterItem.passes, hide, hrtr, and_xor_eq_zero_iff,
    and_xor_eq_zero_iff, hid, hmask]

lemma coldItem_passes (a a' : Byte) (rxMsg : CanMsg) :
    (coldItem a).passes rxMsg ↔ (coldItem a').passes rxMsg := by
  have hmask : ∀ a, (coldItem a).mask = 0xFFFFFF00 := by decide
  have hwidth : (0xFFFFFF00 : Word).setWidth 29 = 0x1FFFFF00 := by decide
  have hid : ∀ a, (coldItem a).id &&& 0x1FFFFF00 = (coldItem 0).id &&& 0x1FFFFF00 := by
    decide
  have hide (a : Byte) : (coldItem a).ide = true := rfl
  have hrtr (a : Byte) : (coldItem a).rtr = false := rfl
  refine passes_congr ((hide a).trans (hide a').symm) ((hrtr a).trans (hrtr a').symm)
    ((hmask a).trans (hmask a').symm) ?_ rxMsg
  rw [hmask a, hwidth, hid a, hid a']

lemma bytes_get_zero (rxMsg : CanMsg) (tail : ℕ → Byte) :
    Buffer.get ⟨rxMsg.bytes, tail⟩ 0 = byteAt (rxMsg.id.setWidth 32) 16 := by
  have hlen : ¬ rxMsg.len.toNat + 3 < 3 := by omega
  rw [CanMsg.bytes, canChannelRead, if_neg hlen]
  rfl

lemma bytes_get_two (rxMsg : CanMsg) (tail : ℕ → Byte) :
    Buffer.get ⟨rxMsg.bytes, tail⟩ 2 = byteAt (rxMsg.id.setWidth 32) 0 := by
  have hlen : ¬ rxMsg.len.toNat + 3 < 3 := by omega
  rw [CanMsg.bytes, canChannelRead, if_neg hlen]
  rfl

lemma byteAt_filterId {a d : Byte} (h : d.toNat < 32) :
    byteAt (((filterId a 0x00 d).setWidth 29).setWidth 32) 16 = d ∧
      byteAt (((filterId a 0x00 d).setWidth 29).setWidth 32) 8 = 0x00 ∧
      byteAt (((filterId a 0x00 d).setWidth 29).setWidth 32) 0 = a := by
  have ha := a.isLt
  have hid := filterId_toNat a d h
  have hnet : (0x00 : Byte).toNat = 0 := rfl
  refine ⟨?_, ?_, ?_⟩ <;>
  · apply BitVec.eq_of_toNat_eq
    rw [byteAt, BitVec.toNat_setWidth, BitVec.toNat_ushiftRight, BitVec.toNat_setWidth, hid,
      Nat.shiftRight_eq_div_pow]
    omega

end Filter

def Hears (b : Board D) (r₀ r : Info) (rxMsg : CanMsg) (tail : ℕ → Byte) : Prop :=
  (∃ item ∈ mainFilter b (r₀.lockInfo b), item.passes rxMsg) ∧
    (parse (r.lockInfo b) r₀.listening.set ⟨rxMsg.bytes, tail⟩).isSome = true

lemma parse_isSome_iff {info : LockInfo} {set : List HandlerIndexTable} {d : Buffer} :
    (parse info set d).isSome = true ↔
      (CrcOk d ∧ LengthOk d ∧ IdOk info (d.get 0) (d.get 4)) ∧
        ∃ e ∈ set, e.funcCode = d.get 4 := by
  rw [Option.isSome_iff_exists]
  simp only [parse_eq_some_iff, exists_and_left, lookup, Option.map_eq_some_iff]
  refine and_congr_right fun _ => ?_
  rw [exists_comm]
  simp only [exists_and_left, exists_eq', and_true]
  rw [← Option.isSome_iff_exists, List.find?_isSome]
  simp only [beq_iff_eq]
  exact exists_congr fun e => and_congr_right fun _ => eq_comm

lemma listening_addr {r : Info} {a : Byte}
    (h : r.listening = .yk a ∨ r.listening = .avcSwitch a) : r.addr = a := by
  rw [Info.listening] at h
  cases ht : LockType.sanitised r.devType <;> simp_all

lemma hears_congr {b : Board D} {r₀ r : Info} (hr : r₀.listening = r.listening) (rxMsg : CanMsg)
    (tail : ℕ → Byte) : Hears b r₀ r rxMsg tail ↔ Hears b r r rxMsg tail := by
  rw [Hears, Hears, hr, mainFilter_listening, mainFilter_listening, hr]
  refine and_congr_left fun hp => ?_
  cases hl : r.listening with
  | nothing =>
    rw [hl] at hp
    obtain ⟨-, e, he, -⟩ := parse_isSome_iff.mp hp
    exact (List.not_mem_nil he).elim
  | cold =>
    rw [hl] at hp
    obtain ⟨⟨-, -, hid⟩, e, he, hcode⟩ := parse_isSome_iff.mp hp
    have hset : ∀ e ∈ protocolSetColdLock, e.funcCode ≠ funcCodeAvcModifySn ∧
        e.funcCode ≠ funcCodeYkProductionModifySn := by decide
    have hdev : (r.lockInfo b).devId = 0x03 := by
      rw [devId_listening b (by simp [hl]), hl]
      exact if_neg nofun
    have hzero : Buffer.get ⟨rxMsg.bytes, tail⟩ 0 = 0x03 := by
      rcases hid rfl with h | h | h
      · exact h.trans hdev
      · exact ((hset e he).1 (hcode.trans h)).elim
      · exact ((hset e he).2 (hcode.trans h)).elim
    rw [bytes_get_zero] at hzero
    have havc (a : Byte) : ¬ (itemFor a 0x19).passes rxMsg := by
      intro hpass
      rw [((itemFor_passes_iff a 0x19 rxMsg).mp hpass).2.2, (byteAt_filterId (by decide)).1] at hzero
      exact absurd hzero (by decide)
    simp only [if_true, List.mem_cons, List.not_mem_nil, or_false, exists_eq_or_imp, exists_eq_left,
      havc]
    exact coldItem_passes _ _ rxMsg
  | yk a => rw [listening_addr (Or.inl hl), listening_addr (Or.inl (hr.trans hl))]
  | avcSwitch a => rw [listening_addr (Or.inr hl), listening_addr (Or.inr (hr.trans hl))]

def probe (devId addr funcCode : Byte) : CanMsg where
  id := (filterId addr 0x00 devId).setWidth 29
  ide := true
  rtr := false
  len := 3
  data := fun i => (withCrc [devId, 0x00, addr, 0x01, funcCode]).getD (i + 3) 0

lemma probe_bytes {devId addr funcCode : Byte} (h : devId.toNat < 32) :
    (probe devId addr funcCode).bytes = withCrc [devId, 0x00, addr, 0x01, funcCode] := by
  obtain ⟨h2, h1, h0⟩ := byteAt_filterId (a := addr) h
  have hbytes : (probe devId addr funcCode).bytes =
      byteAt (((filterId addr 0x00 devId).setWidth 29).setWidth 32) 16 ::
        byteAt (((filterId addr 0x00 devId).setWidth 29).setWidth 32) 8 ::
        byteAt (((filterId addr 0x00 devId).setWidth 29).setWidth 32) 0 ::
        [0x01, funcCode, crc8 [devId, 0x00, addr, 0x01, funcCode]] := rfl
  rw [hbytes, h2, h1, h0]
  rfl

lemma probe_heard_iff {b : Board D} {r₀ r : Info} {devId addr funcCode : Byte} {tail : ℕ → Byte}
    (h : devId.toNat < 32) : Hears b r₀ r (probe devId addr funcCode) tail ↔
      (∃ item ∈ mainFilter b (r₀.lockInfo b), item.passes (probe devId addr funcCode)) ∧
        IdOk (r.lockInfo b) devId funcCode ∧ ∃ e ∈ r₀.listening.set, e.funcCode = funcCode := by
  have hcrc : CrcOk ⟨withCrc [devId, 0x00, addr, 0x01, funcCode], tail⟩ := rfl
  have hlen : LengthOk ⟨withCrc [devId, 0x00, addr, 0x01, funcCode], tail⟩ := rfl
  rw [Hears, parse_isSome_iff, probe_bytes h]
  exact and_congr_right fun _ => and_congr_left fun _ =>
    ⟨fun hp => hp.2.2, fun hid => ⟨hcrc, hlen, hid⟩⟩

lemma probe_passes_iff {a a' d d' funcCode : Byte} (h : d.toNat < 32) (h' : d'.toNat < 32) :
    (itemFor a d).passes (probe d' a' funcCode) ↔ a = a' ∧ d = d' := by
  rw [itemFor_passes_iff]
  constructor
  · rintro ⟨-, -, hid⟩
    obtain ⟨ha, hd⟩ := filterId_inj h' h hid
    exact ⟨ha.symm, hd.symm⟩
  · rintro ⟨rfl, rfl⟩
    exact ⟨rfl, rfl, rfl⟩

lemma filter_probe_iff {b : Board D} {r : Info} {a d funcCode : Byte} (hr : r.listening ≠ .cold)
    (hd : d = 0x03 ∨ d = 0x19) :
    (∃ item ∈ mainFilter b (r.lockInfo b), item.passes (probe d a funcCode)) ↔ r.addr = a := by
  have hlt : d.toNat < 32 := by rcases hd with rfl | rfl <;> decide
  rw [mainFilter_listening, if_neg hr]
  simp only [List.mem_cons, List.not_mem_nil, or_false, exists_eq_or_imp, exists_eq_left]
  rw [probe_passes_iff (by decide) hlt, probe_passes_iff (by decide) hlt, ← and_or_left]
  exact and_iff_left (hd.imp Eq.symm Eq.symm)

lemma filter_probe_cold {b : Board D} {r : Info} (funcCode : Byte) (hr : r.listening = .cold) :
    ∃ item ∈ mainFilter b (r.lockInfo b), item.passes (probe 0x03 r.addr funcCode) := by
  rw [mainFilter_listening, if_pos hr]
  refine ⟨coldItem r.addr, List.mem_cons_self, rfl, rfl, ?_⟩
  exact (and_xor_eq_zero_iff _ _ _).mpr rfl

lemma set_probe {l : Listening} :
    ((∃ e ∈ l.set, e.funcCode = 0x21) → l = .cold) ∧
      ((∃ e ∈ l.set, e.funcCode = 0x01) → ∃ a, l = .yk a) ∧
      ((∃ e ∈ l.set, e.funcCode = 0x31) → ∃ a, l = .avcSwitch a) := by
  have hyk : (¬ ∃ e ∈ protocolSetYk, e.funcCode = 0x21) ∧
      ¬ ∃ e ∈ protocolSetYk, e.funcCode = 0x31 := by decide
  have hcold : (¬ ∃ e ∈ protocolSetColdLock, e.funcCode = 0x01) ∧
      ¬ ∃ e ∈ protocolSetColdLock, e.funcCode = 0x31 := by decide
  have havc : (¬ ∃ e ∈ protocolSetAvcSwitch, e.funcCode = 0x21) ∧
      ¬ ∃ e ∈ protocolSetAvcSwitch, e.funcCode = 0x01 := by decide
  cases l with
  | nothing => simp [Listening.set]
  | cold => exact ⟨fun _ => rfl, fun h => (hcold.1 h).elim, fun h => (hcold.2 h).elim⟩
  | yk a => exact ⟨fun h => (hyk.1 h).elim, fun _ => ⟨a, rfl⟩, fun h => (hyk.2 h).elim⟩
  | avcSwitch a => exact ⟨fun h => (havc.1 h).elim, fun h => (havc.2 h).elim, fun _ => ⟨a, rfl⟩⟩

lemma missed_probe {b : Board D} {r₀ r : Info} {d funcCode : Byte} {tail : ℕ → Byte}
    (hd : d = 0x03 ∨ d = 0x19) (hcold : r.listening ≠ .cold) (hid : (r.lockInfo b).devId = d)
    (hcode : ∃ e ∈ r.listening.set, e.funcCode = funcCode) (hne : r₀.listening ≠ r.listening)
    (hown : (∃ e ∈ r₀.listening.set, e.funcCode = funcCode) →
      r₀.listening ≠ .cold ∧ (r₀.addr = r.addr → r₀.listening = r.listening)) :
    ¬ (Hears b r₀ r (probe d r.addr funcCode) tail ↔ Hears b r r (probe d r.addr funcCode) tail) := by
  intro h
  have hlt : d.toNat < 32 := by rcases hd with rfl | rfl <;> decide
  rw [probe_heard_iff hlt, probe_heard_iff hlt] at h
  obtain ⟨hpass, -, hset⟩ := h.mpr
    ⟨(filter_probe_iff hcold hd).mpr rfl, fun _ => Or.inl hid.symm, hcode⟩
  obtain ⟨hcold₀, haddr⟩ := hown hset
  exact hne (haddr ((filter_probe_iff hcold₀ hd).mp hpass))

lemma hears_of_ne {b : Board D} {r₀ r : Info} (hne : r₀.listening ≠ r.listening)
    (hnothing : r.listening = .nothing → ∃ a, r₀.listening = .avcSwitch a) (tail : ℕ → Byte) :
    ∃ rxMsg, ¬ (Hears b r₀ r rxMsg tail ↔ Hears b r r rxMsg tail) := by
  have hdev (h : r.listening ≠ .nothing) := devId_listening b h
  cases hl : r.listening with
  | nothing =>
    obtain ⟨a, ha⟩ := hnothing hl
    refine ⟨probe 0x19 a 0x07, fun h => ?_⟩
    rw [probe_heard_iff (by decide), probe_heard_iff (by decide), hl, ha] at h
    have hcode : ∃ e ∈ protocolSetAvcSwitch, e.funcCode = 0x07 := by decide
    have hfilter : ∃ item ∈ mainFilter b (r₀.lockInfo b), item.passes (probe 0x19 a 0x07) :=
      (filter_probe_iff (by simp [ha]) (Or.inr rfl)).mpr (listening_addr (Or.inr ha))
    obtain ⟨e, he, -⟩ := (h.mp ⟨hfilter, fun _ => Or.inr (Or.inr rfl), hcode⟩).2.2
    exact List.not_mem_nil he
  | cold =>
    refine ⟨probe 0x03 r.addr 0x21, fun h => hne ?_⟩
    rw [probe_heard_iff (by decide), probe_heard_iff (by decide), hl] at h
    have hcode : ∃ e ∈ protocolSetColdLock, e.funcCode = 0x21 := by decide
    have hid : (r.lockInfo b).devId = 0x03 := by simpa [hl] using hdev
    rw [hl]
    exact set_probe.1 (h.mpr ⟨filter_probe_cold 0x21 hl, fun _ => Or.inl hid.symm, hcode⟩).2.2
  | yk a =>
    have hid : (r.lockInfo b).devId = 0x03 := by simpa [hl] using hdev
    have hcode : ∃ e ∈ protocolSetYk, e.funcCode = 0x01 := by decide
    refine ⟨_, missed_probe (Or.inl rfl) (by simp [hl]) hid (by rwa [hl]) hne fun hset => ?_⟩
    obtain ⟨a₀, ha₀⟩ := set_probe.2.1 hset
    refine ⟨by simp [ha₀], fun haddr => ?_⟩
    rw [listening_addr (Or.inl ha₀), listening_addr (Or.inl hl)] at haddr
    rw [ha₀, hl, haddr]
  | avcSwitch a =>
    have hid : (r.lockInfo b).devId = 0x19 := by
      simpa [hl, listening_addr (Or.inr hl)] using hdev
    have hcode : ∃ e ∈ protocolSetAvcSwitch, e.funcCode = 0x31 := by decide
    refine ⟨_, missed_probe (Or.inr rfl) (by simp [hl]) hid (by rwa [hl]) hne fun hset => ?_⟩
    obtain ⟨a₀, ha₀⟩ := set_probe.2.2 hset
    refine ⟨by simp [ha₀], fun haddr => ?_⟩
    rw [listening_addr (Or.inr ha₀), listening_addr (Or.inr hl)] at haddr
    rw [ha₀, hl, haddr]

end YkLock
