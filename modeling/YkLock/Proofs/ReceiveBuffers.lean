import YkLock.Model.CanChannel
import YkLock.Proofs.FrameGrammar

/-! The buffers of the receive path, from the driver's message to the parser. -/

namespace YkLock

open Library.StatePrograms

variable {D : Type}

def Access.inside : Access → Prop
  | .writeBuff i => i < 16
  | .readBuff i => i < 16
  | .readData i => i < 8

def rxAccesses (w : World D) (rxMsg : CanMsg) (tail : ℕ → Byte) : List Access :=
  ((rxCbTraced w rxMsg tail).run []).2

def parsedBytes (w : World D) (rxMsg : CanMsg) (tail : ℕ → Byte) : List Byte :=
  ((rxCbTraced w rxMsg tail).run []).1.bytes

section Copy

variable (rxMsg : CanMsg)

lemma canCopyTraced_value (len size n : ℕ) (t : List Access) :
    ((canCopyTraced rxMsg len size n).run t).1 = canCopy rxMsg len size n := by
  induction n generalizing size t with
  | zero => rfl
  | succ n ih =>
    rw [canCopyTraced, canCopy, run_ite]
    by_cases h : size < len ∧ size < rxMsg.len.toNat + 3
    · rw [if_pos h, if_pos h]
      exact congrArg _ (ih (size + 1) _)
    · rw [if_neg h, if_neg h]
      rfl

lemma canCopyTraced_accesses (len size n : ℕ) (hsize : 3 ≤ size) (t : List Access) :
    ∀ a ∈ ((canCopyTraced rxMsg len size n).run t).2, a ∈ t ∨
      ∃ i < len, 3 ≤ i ∧ (a = .writeBuff i ∨ a = .readData (i - 3)) := by
  induction n generalizing size t with
  | zero => exact fun a ha => Or.inl ha
  | succ n ih =>
    rw [canCopyTraced, run_ite]
    by_cases h : size < len ∧ size < rxMsg.len.toNat + 3
    · rw [if_pos h]
      intro a ha
      rcases ih (size + 1) (Nat.le_succ_of_le hsize) _ a ha with hmem | hnew
      · rcases List.mem_cons.mp hmem with rfl | hmem
        · exact Or.inr ⟨size, h.1, hsize, Or.inl rfl⟩
        · rcases List.mem_cons.mp hmem with rfl | hmem
          · exact Or.inr ⟨size, h.1, hsize, Or.inr rfl⟩
          · exact Or.inl hmem
      · exact Or.inr hnew
    · rw [if_neg h]
      exact fun a ha => Or.inl ha

lemma canCopy_eq (k n : ℕ) : canCopy rxMsg (rxMsg.len.toNat + 3) (k + 3) n =
    (List.range' k (min n (rxMsg.len.toNat - k))).map rxMsg.data := by
  induction n generalizing k with
  | zero => simp [canCopy]
  | succ n ih =>
    rw [canCopy]
    by_cases h : k + 3 < rxMsg.len.toNat + 3
    · have hmin : min (n + 1) (rxMsg.len.toNat - k) = min n (rxMsg.len.toNat - (k + 1)) + 1 := by
        omega
      rw [if_pos ⟨h, h⟩, hmin, List.range'_succ, List.map_cons, Nat.add_sub_cancel,
        Nat.add_right_comm k 3 1, ih]
    · have hmin : min (n + 1) (rxMsg.len.toNat - k) = 0 := by omega
      rw [if_neg fun hh => h hh.1, hmin]
      rfl

lemma bytes_eq : rxMsg.bytes = byteAt (rxMsg.id.setWidth 32) 16 ::
    byteAt (rxMsg.id.setWidth 32) 8 :: byteAt (rxMsg.id.setWidth 32) 0 ::
    (List.range rxMsg.len.toNat).map rxMsg.data := by
  have hlen : ¬ rxMsg.len.toNat + 3 < 3 := by omega
  have hmin : min (rxMsg.len.toNat + 3) (rxMsg.len.toNat - 0) = rxMsg.len.toNat := by omega
  have hcopy := canCopy_eq rxMsg 0 (rxMsg.len.toNat + 3)
  rw [hmin, ← List.range_eq_range'] at hcopy
  rw [CanMsg.bytes, canChannelRead, if_neg hlen, ← hcopy]

end Copy

section Receive

variable (w : World D) (rxMsg : CanMsg) (tail : ℕ → Byte)

def headWrites : List Access := [.writeBuff 2, .writeBuff 1, .writeBuff 0]

def copyAccesses : List Access :=
  ((canCopyTraced rxMsg (rxMsg.len.toNat + 3) 3 (rxMsg.len.toNat + 3)).run headWrites).2

lemma canChannelReadTraced_run : (canChannelReadTraced rxMsg (rxMsg.len.toNat + 3)).run [] =
    (rxMsg.bytes, ((List.range rxMsg.len.toNat).map Access.readData).reverse ++
      copyAccesses rxMsg) := by
  have hlen : ¬ rxMsg.len.toNat + 3 < 3 := by omega
  have hlog : (((List.range rxMsg.len.toNat).mapM rxMsg.at).run (copyAccesses rxMsg)).2 = _ :=
    congrArg Prod.snd (mapM_log_run (f := rxMsg.at) (g := rxMsg.data) (h := Access.readData)
      (fun _ _ => rfl) _ _)
  have hvalue := canCopyTraced_value rxMsg (rxMsg.len.toNat + 3) 3 (rxMsg.len.toNat + 3) headWrites
  rw [canChannelReadTraced, run_ite, if_neg hlen, CanMsg.bytes, canChannelRead, if_neg hlen,
    ← hvalue]
  exact Prod.ext rfl hlog

lemma rxCbTraced_run : ∃ reads : List Access, rxAccesses w rxMsg tail =
      reads ++ (((List.range rxMsg.len.toNat).map Access.readData).reverse ++ copyAccesses rxMsg) ∧
    (∀ a ∈ reads, ∃ i < rxMsg.len.toNat + 3, a = .readBuff i) ∧
    parsedBytes w rxMsg tail = rxMsg.bytes := by
  have hlog := mapM_log_run (f := printBuff) (g := fun _ => ()) (h := Access.readBuff)
    (fun _ _ => rfl) (List.range' 3 (rxMsg.len.toNat + 3 - 3))
  rw [rxAccesses, parsedBytes, rxCbTraced, run_bind, canChannelReadTraced_run, run_ite]
  split
  · rw [run_bind, hlog]
    refine ⟨_, rfl, fun a ha => ?_, rfl⟩
    rw [List.mem_reverse, List.mem_map] at ha
    obtain ⟨i, hi, rfl⟩ := ha
    rw [List.mem_range'_1] at hi
    exact ⟨i, by omega, rfl⟩
  · exact ⟨[], rfl, fun a ha => (List.not_mem_nil ha).elim, rfl⟩

end Receive

/-- All accesses lie inside the two buffers, and the parser gets what was received. -/
def ReceivesInside (w : World D) (rxheader : CanRxHeader) (data : Vector Byte 8)
    (behind tail : ℕ → Byte) : Prop :=
  let rxMsg := canRecvmsg rxheader data behind
  (∀ a ∈ rxAccesses w rxMsg tail, a.inside) ∧
    parsedBytes w rxMsg tail = byteAt (rxMsg.id.setWidth 32) 16 ::
      byteAt (rxMsg.id.setWidth 32) 8 :: byteAt (rxMsg.id.setWidth 32) 0 ::
      data.toList.take (min rxheader.dlc.toNat 8)

lemma canRecvmsg_len (rxheader : CanRxHeader) (data : Vector Byte 8) (behind : ℕ → Byte) :
    (canRecvmsg rxheader data behind).len.toNat = rxheader.dlc.toNat :=
  BitVec.toNat_setWidth_of_le (by norm_num)

lemma rxAccesses_inside {w : World D} {rxMsg : CanMsg} {tail : ℕ → Byte}
    (hlen : rxMsg.len.toNat ≤ 8) : ∀ a ∈ rxAccesses w rxMsg tail, a.inside := by
  obtain ⟨reads, hacc, hreads, -⟩ := rxCbTraced_run w rxMsg tail
  intro a ha
  rw [hacc, List.mem_append, List.mem_append] at ha
  rcases ha with ha | ha | ha
  · obtain ⟨i, hi, rfl⟩ := hreads a ha
    change i < 16
    omega
  · rw [List.mem_reverse, List.mem_map] at ha
    obtain ⟨i, hi, rfl⟩ := ha
    rw [List.mem_range] at hi
    exact hi.trans_le hlen
  · rcases canCopyTraced_accesses _ _ 3 _ le_rfl _ a ha with hhead | ⟨i, hi, h3, rfl | rfl⟩
    · have hwrites : ∀ a ∈ headWrites, a.inside := by simp [headWrites, Access.inside]
      exact hwrites a hhead
    · change i < 16
      omega
    · change i - 3 < 8
      omega

lemma rxAccesses_ninth {w : World D} {rxMsg : CanMsg} {tail : ℕ → Byte}
    (hlen : 8 < rxMsg.len.toNat) : Access.readData 8 ∈ rxAccesses w rxMsg tail := by
  obtain ⟨reads, hacc, -, -⟩ := rxCbTraced_run w rxMsg tail
  rw [hacc, List.mem_append, List.mem_append, List.mem_reverse, List.mem_map]
  exact Or.inr (Or.inl ⟨8, List.mem_range.mpr hlen, rfl⟩)

lemma canRecvmsg_data {rxheader : CanRxHeader} (data : Vector Byte 8) (behind : ℕ → Byte)
    (hdlc : rxheader.dlc.toNat ≤ 8) :
    (List.range rxheader.dlc.toNat).map (canRecvmsg rxheader data behind).data =
      data.toList.take rxheader.dlc.toNat := by
  apply List.ext_getElem
  · simp [hdlc]
  · intro i hi _
    have hi8 : i < 8 := by
      rw [List.length_map, List.length_range] at hi
      omega
    simp [canRecvmsg, hi8]

theorem receives_inside_iff (w : World D) (rxheader : CanRxHeader) (data : Vector Byte 8)
    (behind tail : ℕ → Byte) :
    ReceivesInside w rxheader data behind tail ↔ rxheader.dlc.toNat ≤ 8 := by
  have hlen := canRecvmsg_len rxheader data behind
  constructor
  · rintro ⟨hinside, -⟩
    by_contra hdlc
    have hnine : 8 < (canRecvmsg rxheader data behind).len.toNat := by
      rw [hlen]
      exact not_le.mp hdlc
    exact lt_irrefl 8 (hinside _ (rxAccesses_ninth hnine))
  · intro hdlc
    obtain ⟨reads, -, -, hbytes⟩ := rxCbTraced_run w (canRecvmsg rxheader data behind) tail
    refine ⟨rxAccesses_inside (by rw [hlen]; exact hdlc), ?_⟩
    rw [hbytes, bytes_eq, hlen, Nat.min_eq_left hdlc, canRecvmsg_data data behind hdlc]

theorem receives_inside_fails :
    ¬ ∀ (w : World Image) (rxheader : CanRxHeader) (data : Vector Byte 8) (behind tail : ℕ → Byte),
      ReceivesInside w rxheader data behind tail := by
  intro h
  have hinside := (h startedYk ⟨true, false, 0, 0x0300D6, 9⟩ #v[1, 1, 0, 0, 0, 0, 0, 0]
    (fun _ => 0) fun _ => 0).1
  exact absurd (hinside (.readData 8) (by decide +kernel)) (lt_irrefl 8)

end YkLock
