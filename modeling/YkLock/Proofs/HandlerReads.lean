import YkLock.Proofs.FrameGrammar

/-! The bytes of a command its handler reads. -/

namespace YkLock

open Library.StatePrograms

variable {D : Type} {b : Board D}

def HandlerIndex.reads : HandlerIndex → List ℕ
  | .ykControl | .avcControlRequest | .coldLockModifyTimeout => [5, 6]
  | .ykModifyAddr | .coldLockModifyAddr => [5, 6, 7, 8]
  | .ykProductionModifySn | .avcModifySn => [6, 7, 8]
  | .avcControlCommand | .coldLockControl => [5]
  | .avcModifyAddrType => [1, 2, 3, 4, 5]
  | .ykQueryState | .ykReportState | .avcQueryState | .avcProductionQuery | .coldLockQueryAll
  | .coldLockModifySn | .coldLockProductionQuery => []

lemma quiet_reads : Quiet (Same (World.reads (D := D))) :=
  ⟨fun _ _ _ _ => rfl, fun _ _ _ => rfl, fun _ _ => rfl, fun _ _ => rfl⟩

lemma getConfig_reads (k : ConfigT) (w : World D) : ((getConfig b k).run w).2.reads = w.reads :=
  getConfig_moves quiet_reads.config k w

lemma getAddr_reads (w : World D) : ((getAddr b).run w).2.reads = w.reads := getConfig_reads _ w

lemma getSn_reads (w : World D) : ((getSn b).run w).2.reads = w.reads := getConfig_reads _ w

lemma getTimeoutExec_reads (w : World D) : ((getTimeoutExec b).run w).2.reads = w.reads :=
  getConfig_reads _ w

lemma getTimeoutCmd_reads (w : World D) : ((getTimeoutCmd b).run w).2.reads = w.reads :=
  getConfig_reads _ w

lemma getDevice_reads (w : World D) : ((getDevice b).run w).2.reads = w.reads :=
  getDevice_moves quiet_reads.config w

lemma configModify_reads (k : ConfigT) (v : k.Value) (w : World D) :
    ((configModify b k v).run w).2.reads = w.reads :=
  configModify_moves quiet_reads.config k v w

lemma queryState_reads (type : QueryState) (w : World D) :
    ((queryState b type).run w).2.reads = w.reads :=
  queryState_moves quiet_reads.pinRead type w

lemma control_reads (type : LockControl) (port : Byte) (w : World D) :
    ((control b type port).run w).2.reads = w.reads := by
  have hq := quiet_reads (D := D)
  have hpulse (pin t : ℕ) : Keeps (World.reads (D := D)) (avcRelayControl pin t) := fun _ => rfl
  have hclose : Keeps (World.reads (D := D)) ykRelayK0Close := fun _ => rfl
  have hpair (ct k : ℕ) (v : Bool) : Keeps (World.reads (D := D)) (ykLinePair ct k v) :=
    fun _ => rfl
  have hk3 : Keeps (World.reads (D := D)) (pure ()) := Moves.pure _
  cases type with
  | ykOpen =>
    exact controlYk_moves hq.pinRead hq.delay (fun _ => hpulse _ _) (hpair _ _ _) (hpair _ _ _) hk3 w
  | ykClose =>
    exact controlYk_moves hq.pinRead hq.delay (fun _ => hclose) (hpair _ _ _) (hpair _ _ _) hk3 w
  | avcSwitchEngage => exact controlAvcSwitch_moves hq _ (hpulse _ _) w
  | avcSwitchDisengage => exact controlAvcSwitch_moves hq _ (hpulse _ _) w
  | coldLockPowerOn => rfl
  | coldLockPowerOff => rfl

lemma replyState_reads (code : Byte) (type : QueryState) (w : World D) :
    ((replyState b code type).run w).2.reads = w.reads := by
  simp [replyState, getAddr_reads, getSn_reads, queryState_reads]

lemma replyOperation_reads (w : World D) : ((replyOperation b).run w).2.reads = w.reads := by
  simp [replyOperation, getAddr_reads, queryState_reads]

lemma engageAndReply_reads (w : World D) : ((engageAndReply b).run w).2.reads = w.reads := by
  simp [engageAndReply, control_reads, replyOperation_reads]

lemma followDevice_reads (type : LockType) (w : World D) :
    ((followDevice b type).run w).2.reads = w.reads := by
  rw [followDevice, run_bind, run_get, run_ite]
  split
  · exact configModify_reads _ _ w
  · rfl

lemma modifyDeviceAndAddr_reads (type addr : Byte) (w : World D) :
    ((modifyDeviceAndAddr b type addr).run w).2.reads = w.reads := by
  rw [modifyDeviceAndAddr, run_bind, run_ite]
  split
  · exact (configModify_reads _ _ _).trans (configModify_reads _ _ w)
  · exact configModify_reads _ _ w

lemma Buffer.snAt_run (d : Buffer) (i : ℕ) (w : World D) : (d.snAt i).run w =
    ((d.get i).setWidth 32 <<< 16 + (d.get (i + 1)).setWidth 32 <<< 8 + (d.get (i + 2)).setWidth 32,
      { w with reads := (i + 2) :: (i + 1) :: i :: w.reads }) := rfl

lemma funcYkControl_reads (d : Buffer) (w : World D) :
    ((funcYkControl b d).run w).2.reads = HandlerIndex.ykControl.reads.reverse ++ w.reads := by
  simp [funcYkControl, control_reads, getAddr_reads, queryState_reads, HandlerIndex.reads]

lemma funcYkModifyAddr_reads (d : Buffer) (w : World D) :
    ((funcYkModifyAddr b d).run w).2.reads =
      HandlerIndex.ykModifyAddr.reads.reverse ++ w.reads := by
  simp only [funcYkModifyAddr, run_bind, run_ite]
  split <;>
    simp [getSn_reads, modifyAddr, configModify_reads, Buffer.snAt_run, HandlerIndex.reads]

lemma funcYkProductionModifySn_reads (d : Buffer) (w : World D) :
    ((funcYkProductionModifySn b d).run w).2.reads =
      HandlerIndex.ykProductionModifySn.reads.reverse ++ w.reads := by
  simp [funcYkProductionModifySn, modifySn, followDevice_reads, configModify_reads, getSn_reads,
    Buffer.snAt_run, HandlerIndex.reads]

lemma funcAvcControlCommand_reads (d : Buffer) (w : World D) :
    ((funcAvcControlCommand b d).run w).2.reads =
      HandlerIndex.avcControlCommand.reads.reverse ++ w.reads := by
  simp only [funcAvcControlCommand, run_bind, run_ite]
  split_ifs <;> simp [control_reads, replyOperation_reads, HandlerIndex.reads]

lemma funcAvcControlRequest_reads (d : Buffer) (w : World D) :
    ((funcAvcControlRequest b d).run w).2.reads =
      HandlerIndex.avcControlRequest.reads.reverse ++ w.reads := by
  simp only [funcAvcControlRequest, run_bind, run_ite]
  split_ifs <;> simp [control_reads, engageAndReply_reads, HandlerIndex.reads]

lemma funcAvcModifyDevice_reads (d : Buffer) (w : World D) :
    ((funcAvcModifyDevice b d).run w).2.reads =
      HandlerIndex.avcModifyAddrType.reads.reverse ++ w.reads := by
  simp only [funcAvcModifyDevice, run_bind, run_ite]
  split_ifs <;> simp [modifyDeviceAndAddr_reads, getDevice_reads, getAddr_reads, getSn_reads,
    Buffer.snAt_run, HandlerIndex.reads]

lemma funcAvcModifySn_reads (d : Buffer) (w : World D) :
    ((funcAvcModifySn b d).run w).2.reads = HandlerIndex.avcModifySn.reads.reverse ++ w.reads := by
  simp [funcAvcModifySn, modifySn, followDevice_reads, configModify_reads, getSn_reads,
    getAddr_reads, Buffer.snAt_run, HandlerIndex.reads]

lemma funcColdLockControl_reads (d : Buffer) (w : World D) :
    ((funcColdLockControl b d).run w).2.reads =
      HandlerIndex.coldLockControl.reads.reverse ++ w.reads := by
  simp only [funcColdLockControl, run_bind, run_ite]
  split_ifs <;> simp [control_reads, replyState_reads, HandlerIndex.reads]

lemma funcColdLockModifyTimeout_reads (d : Buffer) (w : World D) :
    ((funcColdLockModifyTimeout b d).run w).2.reads =
      HandlerIndex.coldLockModifyTimeout.reads.reverse ++ w.reads := by
  simp [funcColdLockModifyTimeout, modifyTimeoutExec, modifyTimeoutCmd, configModify_reads,
    getTimeoutExec_reads, getTimeoutCmd_reads, getAddr_reads, HandlerIndex.reads]

lemma funcColdLockModifyAddr_reads (d : Buffer) (w : World D) :
    ((funcColdLockModifyAddr b d).run w).2.reads =
      HandlerIndex.coldLockModifyAddr.reads.reverse ++ w.reads := by
  simp only [funcColdLockModifyAddr, run_bind, run_ite]
  split_ifs <;> simp [modifyAddr, configModify_reads, queryState_reads, getAddr_reads,
    getSn_reads, Buffer.snAt_run, HandlerIndex.reads]

lemma protocolHandler_reads (p : ParsedData) (w : World D) :
    ((protocolHandler b p).run w).2.reads = p.index.reads.reverse ++ w.reads := by
  obtain ⟨index, d⟩ := p
  cases index with
  | ykQueryState => exact replyState_reads _ _ w
  | ykReportState => exact replyState_reads _ _ w
  | avcQueryState => exact replyState_reads _ _ w
  | avcProductionQuery => exact replyState_reads _ _ w
  | coldLockQueryAll => exact replyState_reads _ _ w
  | coldLockModifySn => rfl
  | coldLockProductionQuery => rfl
  | ykControl => exact funcYkControl_reads d w
  | ykModifyAddr => exact funcYkModifyAddr_reads d w
  | ykProductionModifySn => exact funcYkProductionModifySn_reads d w
  | avcControlCommand => exact funcAvcControlCommand_reads d w
  | avcControlRequest => exact funcAvcControlRequest_reads d w
  | avcModifyAddrType => exact funcAvcModifyDevice_reads d w
  | avcModifySn => exact funcAvcModifySn_reads d w
  | coldLockControl => exact funcColdLockControl_reads d w
  | coldLockModifyTimeout => exact funcColdLockModifyTimeout_reads d w
  | coldLockModifyAddr => exact funcColdLockModifyAddr_reads d w

def minLen (funcCode : Byte) : ℕ :=
  if funcCode ∈ [0x03, 0x07, 0x23, 0x37] then 10
  else if funcCode ∈ [0x02, 0x2A, 0x32] then 8
  else if funcCode ∈ [0x25, 0x33, 0x35] then 7
  else 0

def spanned (indices : List ℕ) : ℕ := indices.foldr (fun r n => max (r + 2) n) 0

lemma forall_lt_iff (indices : List ℕ) (n : ℕ) :
    (∀ r ∈ indices, r < n - 1) ↔ spanned indices ≤ n := by
  induction indices with
  | nil => simp [spanned]
  | cons r indices ih =>
    have hr : r < n - 1 ↔ r + 2 ≤ n := by omega
    rw [List.forall_mem_cons, ih, hr]
    exact max_le_iff.symm

lemma minLen_eq {t : LockType} {e : HandlerIndexTable} (he : e ∈ (protocolSet t).getD []) :
    minLen e.funcCode = spanned e.index.reads :=
  protocolSet_cases (P := fun set => ∀ e ∈ set, minLen e.funcCode = spanned e.index.reads)
    (by decide) (by decide) (by decide) (by decide) t e he

def commandReads (b : Board D) (w : World D) (d : Buffer) : List ℕ :=
  match (protocolParser d).run w with
  | (some p, w) => readsOf (protocolHandler b p) w
  | (none, _) => []

lemma commandReads_of_accepted {w : World D} {d : Buffer} {i : HandlerIndex}
    (h : accepted w d = some i) : commandReads b w d = i.reads.reverse := by
  rw [accepted_eq] at h
  simp [commandReads, protocolParser_run, h, readsOf, protocolHandler_reads]

/-- The handler of the frame reads only bytes in front of the checksum. -/
def HandlerReadsInside (b : Board D) (w : World D) (d : Buffer) : Prop :=
  ∀ r ∈ commandReads b w d, r < d.len - 1

theorem handler_reads_inside_iff (b : Board D) (t : LockType) (w : World D) (d : Buffer)
    (hset : w.set = (protocolSet t).getD []) (hacc : (accepted w d).isSome = true) :
    HandlerReadsInside b w d ↔ minLen (d.get 4) ≤ d.len := by
  obtain ⟨i, hi⟩ := Option.isSome_iff_exists.mp hacc
  have hmem := hi
  rw [accepted_eq, parse_eq_some_iff, hset, lookup_eq_some_iff] at hmem
  rw [HandlerReadsInside, commandReads_of_accepted hi, minLen_eq hmem.2, ← forall_lt_iff]
  simp only [List.mem_reverse]

theorem handler_reads_inside_control :
    HandlerReadsInside (bench followingRelay) startedYk
      ⟨withCrc [0x03, 0x00, 0xD6, 0x03, 0x02, 0x0f, 0x01], fun _ => 0⟩ :=
  (handler_reads_inside_iff _ .ykLock _ _ (by decide +kernel) (by decide +kernel)).mpr (by decide)

theorem handler_reads_inside_fails :
    ¬ ∀ d : Buffer, (accepted startedYk d).isSome = true →
      HandlerReadsInside (bench followingRelay) startedYk d := by
  intro h
  have hcontrol := h ⟨withCrc [0x03, 0x00, 0xD6, 0x01, 0x02], fun _ => 0⟩ (by decide +kernel)
  rw [HandlerReadsInside] at hcontrol
  exact absurd hcontrol (by decide +kernel)

end YkLock
