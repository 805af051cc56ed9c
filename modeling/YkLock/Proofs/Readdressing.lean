import YkLock.Proofs.HandlerEffects
import YkLock.Model.Bench

/-! The command that re-addresses an AVC switch. -/

namespace YkLock

open Library.Storage Library.StatePrograms

variable {D : Type}

def Readdressed (content : D → Image) (type addr : Byte) (sn : BitVec 24) (w w' : World D) : Prop :=
  let r := w.record content
  let r' := if sn = r.sn then { r with devType := type, addr := addr } else r
  w'.record content = r' ∧ w'.sent = withCrc
    [0, 0, 0, 0x04, 0x33, r'.devType, r'.addr, if sn = r.sn then 0x10 else 0x01] :: w.sent

section

variable {b : Board D} {content : D → Image} (h : b.at24cxx.Reliable content)
include h

lemma modifyDeviceAndAddr_reliable (type addr : Byte) (w : World D) :
    (modifyDeviceAndAddr b type addr).run w =
      (.eok, (w.stored b { w.cache with devType := type }).stored b
        { w.cache with devType := type, addr := addr }) := by
  simp only [modifyDeviceAndAddr, modifyDevice, modifyAddr, run_bind, run_ite, configModify_reliable h]
  rfl

lemma funcAvcModifyDevice_reliable (d : Buffer) (w : World D) :
    ((funcAvcModifyDevice b d).run w).2.record content =
        (w.record content).command .avcModifyAddrType d ∧
      ((funcAvcModifyDevice b d).run w).2.sent = replies .avcModifyAddrType d (w.record content)
        ((w.record content).command .avcModifyAddrType d) 0 0 ++ w.sent := by
  have hsn : d.sn 3 = (w.record content).sn ↔
      (d.sn 3).setWidth 32 = ((w.record content).sn).setWidth 32 := setWidth_sn_inj.symm
  have hreply (result : RtErr) (w : World D) : (do
      let device ← getDevice b
      let addr ← getAddr b
      channelWrite (withCrc
        [0, 0, 0, 0x04, 0x33, device.toByte, addr, if result = .eok then 0x10 else 0x01])
      return RtErr.eok : Fw D RtErr).run w = (.eok, { w.loaded content with
        sent := withCrc [0, 0, 0, 0x04, 0x33, (LockType.sanitised (w.record content).devType).toByte,
          (w.record content).addr, if result = .eok then 0x10 else 0x01] :: w.sent }) := by
    simp only [run_bind, getDevice_readable h.read, getAddr, getConfig_readable h.read]
    rfl
  set w₁ : World D := { w.loaded content with reads := 5 :: 4 :: 3 :: 2 :: 1 :: w.reads } with hw₁
  have hr : w₁.record content = w.record content := rfl
  have hc : w₁.cache = w.record content := rfl
  have hrun : (funcAvcModifyDevice b d).run w = (do
      let result ← (if (d.sn 3).setWidth 32 = ((w.record content).sn).setWidth 32 then
        modifyDeviceAndAddr b (d.get 1) (d.get 2) else pure .error)
      let device ← getDevice b
      let addr ← getAddr b
      channelWrite (withCrc
        [0, 0, 0, 0x04, 0x33, device.toByte, addr, if result = .eok then 0x10 else 0x01])
      return RtErr.eok : Fw D RtErr).run w₁ := by
    have hget : (getSn b).run { w with reads := 5 :: 4 :: 3 :: 2 :: 1 :: w.reads } =
      (((w.record content).sn).setWidth 32, w₁) := getConfig_readable h.read .sn _
    rw [funcAvcModifyDevice, run_bind, Buffer.at_run, run_bind, Buffer.at_run, run_bind,
      Buffer.snAt_run, word_of_bytes, run_bind, hget]
    rfl
  rw [hrun, run_bind, run_ite, Info.command, replies]
  by_cases hm : d.sn 3 = (w.record content).sn
  · rw [if_pos (hsn.mp hm), if_pos hm, if_pos hm, modifyDeviceAndAddr_reliable h, hc, hreply]
    exact ⟨record_stored h _ _, by rw [record_stored h]; rfl⟩
  · rw [if_neg (mt hsn.mpr hm), if_neg hm, if_neg hm, run_pure, hreply, hr]
    exact ⟨hr, rfl⟩

end

lemma withCrc_inj {l l' : List Byte} : withCrc l = withCrc l' ↔ l = l' :=
  ⟨fun h => (List.append_inj' h rfl).1, fun h => by rw [h]⟩

theorem readdressed_iff (b : Board D) (content : D → Image) (w : World D)
    (id2 id1 id0 type addr high middle low crc : Byte) (tail : ℕ → Byte)
    (h : b.at24cxx.Reliable content) (hw : w.installed = true)
    (hd : accepted w ⟨[id2, id1, id0, 0x06, 0x33, type, addr, high, middle, low, crc], tail⟩ =
      some .avcModifyAddrType) :
    Readdressed content type addr (high ++ middle ++ low) w ((rxCb b
      ⟨[id2, id1, id0, 0x06, 0x33, type, addr, high, middle, low, crc], tail⟩).run w).2 ↔
      (high ++ middle ++ low ≠ (w.record content).sn ∧
        (0x06 : Byte) ++ (0x33 : Byte) ++ type ≠ (w.record content).sn ∧
        (w.record content).devType.toNat ≤ 5) ∨
      (high ++ middle ++ low = (w.record content).sn ∧
        (0x06 : Byte) ++ (0x33 : Byte) ++ type = (w.record content).sn ∧
        id1 = type ∧ id0 = addr ∧ type.toNat ≤ 5) := by
  set d : Buffer := ⟨[id2, id1, id0, 0x06, 0x33, type, addr, high, middle, low, crc], tail⟩
  have hsn : d.sn 3 = (0x06 : Byte) ++ (0x33 : Byte) ++ type := rfl
  have hreads : World.record content { w with reads := parserReads d ++ w.reads } =
    w.record content := rfl
  obtain ⟨hrec, hsent⟩ := funcAvcModifyDevice_reliable h d { w with reads := parserReads d ++ w.reads }
  rw [hreads] at hrec hsent
  have hrx : (rxCb b d).run w =
      (funcAvcModifyDevice b d).run { w with reads := parserReads d ++ w.reads } :=
    rxCb_run_of_accepted hw hd
  rw [Readdressed, hrx, hrec, hsent]
  have h1 : d.get 1 = id1 := rfl
  have h2 : d.get 2 = id0 := rfl
  simp only [Info.command, replies, hsn, h1, h2, List.cons_append, List.nil_append,
    List.cons.injEq, withCrc_inj, and_true, true_and]
  generalize w.record content = r
  by_cases hframe : high ++ middle ++ low = r.sn
  · by_cases hmisread : (0x06 : Byte) ++ (0x33 : Byte) ++ type = r.sn
    · simp only [if_pos hframe, if_pos hmisread, Info.mk.injEq]
      constructor
      · rintro ⟨⟨-, htype, -, -, haddr, -⟩, hreply, -⟩
        rw [htype, sanitised_toByte_iff] at hreply
        exact Or.inr ⟨hframe, hmisread, htype, haddr, hreply⟩
      · rintro (⟨hne, -⟩ | ⟨-, -, htype, haddr, h5⟩)
        · exact (hne hframe).elim
        · rw [htype, haddr, sanitised_toByte_iff]
          simpa using h5
    · simp only [if_pos hframe, if_neg hmisread]
      refine iff_of_false (fun hh => absurd hh.2.2.2 (by decide)) ?_
      rintro (⟨hne, -⟩ | ⟨-, heq, -⟩)
      · exact hne hframe
      · exact hmisread heq
  · by_cases hmisread : (0x06 : Byte) ++ (0x33 : Byte) ++ type = r.sn
    · simp only [if_neg hframe, if_pos hmisread]
      refine iff_of_false (fun hh => absurd hh.2.2.2 (by decide)) ?_
      rintro (⟨-, hne, -⟩ | ⟨heq, -⟩)
      · exact hne hmisread
      · exact hframe heq
    · simp only [if_neg hframe, if_neg hmisread, sanitised_toByte_iff]
      constructor
      · rintro ⟨-, h5, -⟩
        exact Or.inl ⟨hframe, hmisread, h5⟩
      · rintro (⟨-, -, h5⟩ | ⟨heq, -⟩)
        · exact ⟨trivial, h5, trivial, trivial⟩
        · exact (hframe heq).elim

theorem readdressed_foreign : Readdressed id 0x00 0x07 ((0x12 : Byte) ++ (0x34 : Byte) ++ (0x56 : Byte))
    startedAvc ((rxCb (bench followingRelay)
      ⟨[0x19, 0x00, 0x01, 0x06, 0x33, 0x00, 0x07, 0x12, 0x34, 0x56,
        crc8 [0x19, 0x00, 0x01, 0x06, 0x33, 0x00, 0x07, 0x12, 0x34, 0x56]], fun _ => 0⟩).run
      startedAvc).2 :=
  (readdressed_iff _ _ _ _ _ _ _ _ _ _ _ _ _ (bench_reliable _) (by decide +kernel)
    (by decide +kernel)).mpr (Or.inl (by decide +kernel))

theorem readdressed_fails :
    ¬ ∀ (b : Board Image) (content : Image → Image) (w : World Image)
      (id2 id1 id0 type addr high middle low crc : Byte) (tail : ℕ → Byte),
      b.at24cxx.Reliable content → w.installed = true →
      accepted w ⟨[id2, id1, id0, 0x06, 0x33, type, addr, high, middle, low, crc], tail⟩ =
        some .avcModifyAddrType →
      Readdressed content type addr (high ++ middle ++ low) w ((rxCb b
        ⟨[id2, id1, id0, 0x06, 0x33, type, addr, high, middle, low, crc], tail⟩).run w).2 := by
  intro h
  have hframe := h (bench followingRelay) id startedAvc 0x19 0x00 0x01 0x00 0x07 0x00 0x00 0x01
    (crc8 [0x19, 0x00, 0x01, 0x06, 0x33, 0x00, 0x07, 0x00, 0x00, 0x01]) (fun _ => 0)
    (bench_reliable _) (by decide +kernel) (by decide +kernel)
  have haddr := congrArg Info.addr hframe.1
  exact absurd haddr (by decide +kernel)

end YkLock
