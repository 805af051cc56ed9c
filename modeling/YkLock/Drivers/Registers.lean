import YkLock.Model.CanRegisters

/-! A message through the registers of two controllers. -/

namespace YkLock

section Words

lemma byteAt_or (x y : Word) (s : ℕ) : byteAt (x ||| y) s = byteAt x s ||| byteAt y s := by
  rw [byteAt, BitVec.ushiftRight_or_distrib, BitVec.setWidth_or]
  rfl

lemma byteAt_shiftLeft (d : Byte) {a k : ℕ} (ha : a < 4) (hk : k < 4) :
    byteAt (d.setWidth 32 <<< (8 * a)) (8 * k) = if a = k then d else 0 := by
  have hd := d.isLt
  apply BitVec.eq_of_toNat_eq
  rw [byteAt, BitVec.toNat_setWidth, BitVec.toNat_ushiftRight, BitVec.toNat_shiftLeft,
    BitVec.toNat_setWidth, Nat.shiftRight_eq_div_pow, Nat.shiftLeft_eq]
  interval_cases a <;> interval_cases k <;> simp <;> omega

lemma byteAt_dataRegister (data : ℕ → Byte) (i : ℕ) {k : ℕ} (hk : k < 4) :
    byteAt (dataRegister data i) (8 * k) = data (i + k) := by
  have hreg : dataRegister data i = (data (i + 3)).setWidth 32 <<< (8 * 3) |||
    (data (i + 2)).setWidth 32 <<< (8 * 2) ||| (data (i + 1)).setWidth 32 <<< (8 * 1) |||
    (data i).setWidth 32 <<< (8 * 0) := rfl
  rw [hreg, byteAt_or, byteAt_or, byteAt_or, byteAt_shiftLeft _ (by decide) hk,
    byteAt_shiftLeft _ (by decide) hk, byteAt_shiftLeft _ (by decide) hk,
    byteAt_shiftLeft _ (by decide) hk]
  interval_cases k <;> simp

lemma boxByte_dataRegister (data : ℕ → Byte) {i : ℕ} (hi : i < 8) :
    boxByte (dataRegister data 0) (dataRegister data 4) i = data i := by
  rw [boxByte]
  by_cases h : i < 4
  · rw [if_pos h, byteAt_dataRegister data 0 h, Nat.zero_add]
  · rw [if_neg h, byteAt_dataRegister data 4 (by omega), Nat.add_sub_cancel' (Nat.le_of_not_lt h)]

lemma getRxMessage_data (box : CanFifoMailBox) {i : ℕ} (hi : i < 8) (d : Byte) :
    (halCanGetRxMessage box).2.toList.getD i d = boxByte box.rdlr box.rdhr i := by
  interval_cases i <;> rfl

lemma shiftLeft_ushiftRight_id (id : BitVec 29) {k : ℕ} (h : id.toNat * 2 ^ k < 2 ^ 32) :
    (id.setWidth 32 <<< k : Word) >>> k = id.setWidth 32 := by
  have hid := id.isLt
  apply BitVec.eq_of_toNat_eq
  rw [BitVec.toNat_ushiftRight, BitVec.toNat_shiftLeft, BitVec.toNat_setWidth,
    Nat.mod_eq_of_lt (show id.toNat < 2 ^ 32 by omega), Nat.shiftLeft_eq, Nat.mod_eq_of_lt h,
    Nat.shiftRight_eq_div_pow, Nat.mul_div_cancel _ (Nat.two_pow_pos k)]

end Words

section Sent

variable {pmsg : CanMsg} {box tx : CanTxMailBox}

lemma canSendmsgBox_eq_some (h : canSendmsgBox pmsg box = some tx) :
    pmsg.len.toNat ≤ 8 ∧ (pmsg.ide = false → pmsg.id.toNat ≤ 0x7FF) ∧
      tx.tdtr = pmsg.len.setWidth 32 &&& 0x0F ∧ tx.tdlr = dataRegister pmsg.data 0 ∧
      tx.tdhr = dataRegister pmsg.data 4 ∧
      tx.tir = (box.tir &&& canTi0rTxrq ||| if pmsg.ide = false then
          pmsg.id.setWidth 32 <<< 21 ||| if pmsg.rtr = false then 0 else canRtrRemote
        else pmsg.id.setWidth 32 <<< 3 ||| canIdExt ||| if pmsg.rtr = false then 0 else canRtrRemote)
          ||| canTi0rTxrq := by
  rw [canSendmsgBox] at h
  by_cases hlen : 8 < pmsg.len.toNat
  · rw [if_pos hlen] at h
    cases h
  · rw [if_neg hlen] at h
    by_cases hid : pmsg.ide = false ∧ 0x7FF < pmsg.id.toNat
    · rw [if_pos hid] at h
      cases h
    · rw [if_neg hid] at h
      cases h
      exact ⟨Nat.le_of_not_lt hlen, fun hide => Nat.le_of_not_lt fun hlt => hid ⟨hide, hlt⟩,
        rfl, rfl, rfl, rfl⟩

lemma tir_flags (h : canSendmsgBox pmsg box = some tx) :
    tx.tir.getLsbD 2 = pmsg.ide ∧ tx.tir.getLsbD 1 = pmsg.rtr := by
  obtain ⟨-, -, -, -, -, htir⟩ := canSendmsgBox_eq_some h
  rw [htir]
  cases pmsg.ide <;> cases pmsg.rtr <;> simp [canTi0rTxrq, canIdExt, canRtrRemote]

lemma tir_ext (h : canSendmsgBox pmsg box = some tx) (hide : pmsg.ide = true) :
    tx.tir >>> 3 = pmsg.id.setWidth 32 := by
  obtain ⟨-, -, -, -, -, htir⟩ := canSendmsgBox_eq_some h
  have hid := pmsg.id.isLt
  have hrtr : (if pmsg.rtr = false then 0 else canRtrRemote) >>> 3 = 0 := by split <;> rfl
  have hext : canIdExt >>> 3 = 0 := rfl
  have htxrq : canTi0rTxrq >>> 3 = 0 := rfl
  rw [htir, if_neg (by rw [hide]; decide)]
  simp only [BitVec.ushiftRight_or_distrib, BitVec.ushiftRight_and_distrib, hrtr, hext, htxrq]
  rw [shiftLeft_ushiftRight_id pmsg.id (by omega)]
  simp

lemma tir_std (h : canSendmsgBox pmsg box = some tx) (hide : pmsg.ide = false) :
    tx.tir >>> 21 = pmsg.id.setWidth 32 := by
  obtain ⟨-, hstd, -, -, -, htir⟩ := canSendmsgBox_eq_some h
  have hid := hstd hide
  have hrtr : (if pmsg.rtr = false then 0 else canRtrRemote) >>> 21 = 0 := by split <;> rfl
  have htxrq : canTi0rTxrq >>> 21 = 0 := rfl
  rw [htir, if_pos hide]
  simp only [BitVec.ushiftRight_or_distrib, BitVec.ushiftRight_and_distrib, hrtr, htxrq]
  rw [shiftLeft_ushiftRight_id pmsg.id (by omega)]
  simp

end Sent

section Received

variable {pmsg : CanMsg} {box tx : CanTxMailBox} {rx : CanFifoMailBox}

lemma flag_and (i : ℕ) (hi : i < 32) (rir : Word) :
    BitVec.twoPow 32 i &&& rir = 0 ↔ rir.getLsbD i = false := by
  rw [BitVec.and_comm, BitVec.and_twoPow]
  cases rir.getLsbD i
  · exact iff_of_true rfl rfl
  · refine iff_of_false (fun hc => ?_) nofun
    have hbit := congrArg (BitVec.getLsbD · i) hc
    simp [hi] at hbit

lemma canIdExt_and (rir : Word) : canIdExt &&& rir = 0 ↔ rir.getLsbD 2 = false :=
  flag_and 2 (by decide) rir

lemma canRtrRemote_and (rir : Word) : canRtrRemote &&& rir = 0 ↔ rir.getLsbD 1 = false :=
  flag_and 1 (by decide) rir

lemma header_ide (rx : CanFifoMailBox) : (halCanGetRxMessage rx).1.ide = rx.rir.getLsbD 2 := by
  change decide (canIdExt &&& rx.rir ≠ 0) = _
  have hflag := canIdExt_and rx.rir
  rcases hb : rx.rir.getLsbD 2 with _ | _
  · exact decide_eq_false (not_not.mpr (hflag.mpr hb))
  · exact decide_eq_true fun hc => absurd (hb.symm.trans (hflag.mp hc)) (by decide)

lemma header_rtr (rx : CanFifoMailBox) : (halCanGetRxMessage rx).1.rtr = rx.rir.getLsbD 1 := by
  change decide (canRtrRemote &&& rx.rir ≠ 0) = _
  have hflag := canRtrRemote_and rx.rir
  rcases hb : rx.rir.getLsbD 1 with _ | _
  · exact decide_eq_false (not_not.mpr (hflag.mpr hb))
  · exact decide_eq_true fun hc => absurd (hb.symm.trans (hflag.mp hc)) (by decide)

lemma header_std (h : rx.rir.getLsbD 2 = false) :
    (halCanGetRxMessage rx).1.stdId = (rx.rir >>> 21).setWidth 11 := by
  have hmask : (canRi0rStid >>> 21).setWidth 11 = BitVec.allOnes 11 := by decide
  change (if canIdExt &&& rx.rir = 0 then ((canRi0rStid &&& rx.rir) >>> 21).setWidth 11 else 0) = _
  rw [if_pos ((canIdExt_and _).mpr h), BitVec.ushiftRight_and_distrib, BitVec.setWidth_and, hmask,
    BitVec.allOnes_and]

lemma header_ext (h : rx.rir.getLsbD 2 = true) :
    (halCanGetRxMessage rx).1.extId = (rx.rir >>> 3).setWidth 29 := by
  have hmask : ((canRi0rExid ||| canRi0rStid) >>> 3).setWidth 29 = BitVec.allOnes 29 := by decide
  have hne : ¬ canIdExt &&& rx.rir = 0 := by
    rw [canIdExt_and, h]
    decide
  change (if canIdExt &&& rx.rir = 0 then (0 : BitVec 29)
    else (((canRi0rExid ||| canRi0rStid) &&& rx.rir) >>> 3).setWidth 29) = _
  rw [if_neg hne, BitVec.ushiftRight_and_distrib, BitVec.setWidth_and, hmask, BitVec.allOnes_and]

lemma dlc_carried (h : canSendmsgBox pmsg box = some tx) :
    (tx.tdtr &&& 0x0F).toNat = pmsg.len.toNat := by
  obtain ⟨hlen, -, htdtr, -⟩ := canSendmsgBox_eq_some h
  have hmask : ∀ len : Byte, len.toNat ≤ 8 →
      ((len.setWidth 32 &&& 0x0F) &&& 0x0F : Word).toNat = len.toNat := by decide
  rw [htdtr]
  exact hmask pmsg.len hlen

/-- `msg` is `pmsg` as far as a frame has it. -/
structure SameFrame (msg pmsg : CanMsg) : Prop where
  ide : msg.ide = pmsg.ide
  rtr : msg.rtr = pmsg.rtr
  id : msg.id = pmsg.id
  len : msg.len = pmsg.len
  data : pmsg.rtr = false → ∀ i, i < pmsg.len.toNat → msg.data i = pmsg.data i

def CanFifoMailBox.msg (rx : CanFifoMailBox) (behind : ℕ → Byte) : CanMsg :=
  canRecvmsg (halCanGetRxMessage rx).1 (halCanGetRxMessage rx).2 behind

lemma received_as_sent (behind : ℕ → Byte) (hsend : canSendmsgBox pmsg box = some tx)
    (hbus : Carried tx rx) : SameFrame (rx.msg behind) pmsg := by
  obtain ⟨hlen, hstd, htdtr, htdlr, htdhr, -⟩ := canSendmsgBox_eq_some hsend
  obtain ⟨hide, hrtr⟩ := tir_flags hsend
  have hdlc := dlc_carried hsend
  have hid := pmsg.id.isLt
  have hrxide : (halCanGetRxMessage rx).1.ide = pmsg.ide := by
    rw [header_ide, hbus.ide, hide]
  refine ⟨hrxide, ?_, ?_, ?_, ?_⟩
  · change (halCanGetRxMessage rx).1.rtr = pmsg.rtr
    rw [header_rtr, hbus.rtr, hrtr]
  · change (if (halCanGetRxMessage rx).1.ide = false then
      (halCanGetRxMessage rx).1.stdId.setWidth 29 else (halCanGetRxMessage rx).1.extId) = pmsg.id
    rw [hrxide]
    cases hb : pmsg.ide
    · have hbit : tx.tir.getLsbD 2 = false := hide.trans hb
      have hsmall := hstd hb
      rw [if_pos rfl, header_std (hbus.ide.trans hbit), hbus.std hbit, tir_std hsend hb]
      apply BitVec.eq_of_toNat_eq
      simp only [BitVec.toNat_setWidth]
      omega
    · have hbit : tx.tir.getLsbD 2 = true := hide.trans hb
      rw [if_neg (by decide), header_ext (hbus.ide.trans hbit), hbus.ext hbit, tir_ext hsend hb]
      apply BitVec.eq_of_toNat_eq
      simp only [BitVec.toNat_setWidth]
      omega
  · apply BitVec.eq_of_toNat_eq
    change ((((0x0F &&& rx.rdtr) >>> 0).setWidth 4).setWidth 8 : Byte).toNat = pmsg.len.toNat
    rw [BitVec.and_comm, hbus.dlc, BitVec.ushiftRight_zero, BitVec.toNat_setWidth,
      BitVec.toNat_setWidth, hdlc]
    omega
  · intro hdata i hi
    have hi8 : i < 8 := by omega
    change (halCanGetRxMessage rx).2.toList.getD i (behind i) = pmsg.data i
    rw [getRxMessage_data rx hi8, hbus.data (hrtr.trans hdata) i (by omega), htdlr, htdhr,
      boxByte_dataRegister pmsg.data hi8]

end Received

end YkLock
