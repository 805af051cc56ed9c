import YkLock.Proofs.SentFrames

/-! Whatever a node sends has no device id, no net id and no address in front. -/

namespace YkLock

open Library.StatePrograms Library.Runs

variable {D : Type} {b : Board D}

def Unaddressed (buff : List Byte) : Prop := buff.take 3 = [0, 0, 0]

lemma unaddressed_handles : Handles b (Sends Unaddressed) (fun _ => True) (fun _ => False)
    fun type => ∀ s, type.saved = some s → True :=
  (sends_commands fun _ _ hc => hc.elim).handles

lemma unaddressed_reply (body : List Byte) : Moves (Sends (D := D) Unaddressed)
    (channelWrite (withCrc (0 :: 0 :: 0 :: body)) >>= fun _ => pure RtErr.eok) :=
  Moves.bind (channelWrite_sends rfl) fun _ => Moves.pure _

lemma getConfig_unaddressed (k : ConfigT) : Moves (Sends Unaddressed) (getConfig b k) :=
  unaddressed_handles.getConfig_moves k

lemma modify_unaddressed (k : ConfigT) (x : k.Value) :
    Moves (Sends Unaddressed) (configModify b k x) :=
  unaddressed_handles.modify ⟨k, x⟩ trivial

lemma query_unaddressed (type : QueryState) : Moves (Sends Unaddressed) (queryState b type) :=
  queryState_moves (unaddressed_handles (b := b)).pinRead type

lemma control_unaddressed (type : LockControl) (port : Byte) :
    Moves (Sends Unaddressed) (control b type port) :=
  unaddressed_handles.control type port fun _ _ => trivial

section Handlers

variable (b : Board D) (d : Buffer)

lemma at_unaddressed {α : Type} (i : ℕ) {f : Byte → Fw D α}
    (hf : ∀ x, Moves (Sends Unaddressed) (f x)) : Moves (Sends Unaddressed) (d.at i >>= f) :=
  Moves.bind (at_moves (fun _ _ => sends_none rfl) d i) hf

lemma snAt_unaddressed {α : Type} (i : ℕ) {f : Word → Fw D α}
    (hf : ∀ x, Moves (Sends Unaddressed) (f x)) : Moves (Sends Unaddressed) (d.snAt i >>= f) :=
  Moves.bind (snAt_moves (fun _ _ => sends_none rfl) d i) hf

lemma followDevice_unaddressed (type : LockType) :
    Moves (Sends Unaddressed) (followDevice b type) :=
  followDevice_stores unaddressed_handles.toStores trivial

lemma replyState_unaddressed (code : Byte) (type : QueryState) :
    Moves (Sends Unaddressed) (replyState b code type) := by
  refine Moves.bind (getConfig_unaddressed .addr) fun _ => ?_
  refine Moves.bind (getConfig_unaddressed .sn) fun _ => ?_
  exact Moves.bind (query_unaddressed type) fun _ => unaddressed_reply _

lemma replyOperation_unaddressed : Moves (Sends Unaddressed) (replyOperation b) := by
  refine Moves.bind (getConfig_unaddressed .addr) fun _ => ?_
  refine Moves.bind (query_unaddressed _) fun _ => ?_
  exact Moves.bind (query_unaddressed _) fun _ => unaddressed_reply _

lemma funcYkControl_unaddressed : Moves (Sends Unaddressed) (funcYkControl b d) := by
  refine at_unaddressed d 5 fun _ => at_unaddressed d 6 fun _ => ?_
  refine Moves.bind ?_ fun _ => Moves.bind (getConfig_unaddressed .addr) fun _ => ?_
  · split
    · exact control_unaddressed _ _
    · exact control_unaddressed _ _
  · exact Moves.bind (query_unaddressed _) fun _ => unaddressed_reply _

lemma funcYkModifyAddr_unaddressed : Moves (Sends Unaddressed) (funcYkModifyAddr b d) := by
  refine at_unaddressed d 5 fun _ => snAt_unaddressed d 6 fun _ => ?_
  refine Moves.bind (getConfig_unaddressed .sn) fun _ => ?_
  refine Moves.ite (fun _ => Moves.pure _) fun _ => ?_
  refine Moves.bind (modify_unaddressed .addr _) fun _ => ?_
  exact Moves.bind (unaddressed_handles (b := b)).reset fun _ => Moves.pure _

lemma funcYkProductionModifySn_unaddressed :
    Moves (Sends Unaddressed) (funcYkProductionModifySn b d) := by
  refine snAt_unaddressed d 6 fun _ => Moves.bind (modify_unaddressed .sn _) fun _ => ?_
  refine Moves.bind (followDevice_unaddressed b _) fun _ => ?_
  exact Moves.bind (getConfig_unaddressed .sn) fun _ => unaddressed_reply _

lemma operate_unaddressed (type : LockControl) : Moves (Sends Unaddressed)
    (control b type 0 >>= fun _ => replyOperation b) :=
  Moves.bind (control_unaddressed type 0) fun _ => replyOperation_unaddressed b

lemma funcAvcControlCommand_unaddressed :
    Moves (Sends Unaddressed) (funcAvcControlCommand b d) := by
  refine at_unaddressed d 5 fun _ => Moves.ite (fun _ => operate_unaddressed b _) fun _ => ?_
  exact Moves.ite (fun _ => operate_unaddressed b _) fun _ => Moves.pure _

lemma funcAvcControlRequest_unaddressed :
    Moves (Sends Unaddressed) (funcAvcControlRequest b d) := by
  have hengage (type : LockControl) : Moves (Sends Unaddressed)
      (control b type 0 >>= fun _ => engageAndReply b) :=
    Moves.bind (control_unaddressed type 0) fun _ => operate_unaddressed b .avcSwitchEngage
  refine at_unaddressed d 5 fun _ => at_unaddressed d 6 fun _ => ?_
  refine Moves.ite (fun _ => Moves.ite (fun _ => hengage _) fun _ => ?_) fun _ => Moves.pure _
  exact Moves.ite (fun _ => hengage _) fun _ => Moves.pure _

lemma funcAvcModifyDevice_unaddressed : Moves (Sends Unaddressed) (funcAvcModifyDevice b d) := by
  refine at_unaddressed d 1 fun _ => at_unaddressed d 2 fun _ => ?_
  refine snAt_unaddressed d 3 fun _ => Moves.bind (getConfig_unaddressed .sn) fun _ => ?_
  refine Moves.bind (Moves.ite (fun _ => ?_) fun _ => Moves.pure _) fun _ => ?_
  · exact modifyDeviceAndAddr_stores unaddressed_handles.toStores trivial trivial
  · refine Moves.bind (Moves.bind (getConfig_unaddressed .deviceType) fun _ => Moves.pure _)
      fun _ => ?_
    exact Moves.bind (getConfig_unaddressed .addr) fun _ => unaddressed_reply _

lemma funcAvcModifySn_unaddressed : Moves (Sends Unaddressed) (funcAvcModifySn b d) := by
  refine snAt_unaddressed d 6 fun _ => Moves.bind (modify_unaddressed .sn _) fun _ => ?_
  refine Moves.bind (followDevice_unaddressed b _) fun _ => ?_
  refine Moves.bind (getConfig_unaddressed .addr) fun _ => ?_
  exact Moves.bind (getConfig_unaddressed .sn) fun _ => unaddressed_reply _

lemma funcColdLockControl_unaddressed : Moves (Sends Unaddressed) (funcColdLockControl b d) := by
  refine at_unaddressed d 5 fun _ => Moves.bind ?_ fun _ => replyState_unaddressed b _ _
  refine Moves.ite (fun _ => control_unaddressed _ _) fun _ => ?_
  exact Moves.ite (fun _ => control_unaddressed _ _) fun _ => Moves.pure _

lemma funcColdLockModifyTimeout_unaddressed :
    Moves (Sends Unaddressed) (funcColdLockModifyTimeout b d) := by
  refine Moves.bind (getConfig_unaddressed .timeoutExec) fun _ => ?_
  refine Moves.bind (getConfig_unaddressed .timeoutCmd) fun _ => at_unaddressed d 5 fun _ => ?_
  refine Moves.bind (modify_unaddressed .timeoutExec _) fun _ => at_unaddressed d 6 fun _ => ?_
  refine Moves.bind (modify_unaddressed .timeoutCmd _) fun _ => ?_
  refine Moves.bind (getConfig_unaddressed .timeoutExec) fun _ => ?_
  refine Moves.bind (getConfig_unaddressed .timeoutCmd) fun _ => ?_
  exact Moves.bind (getConfig_unaddressed .addr) fun _ => unaddressed_reply _

lemma funcColdLockModifyAddr_unaddressed :
    Moves (Sends Unaddressed) (funcColdLockModifyAddr b d) := by
  refine at_unaddressed d 5 fun _ => snAt_unaddressed d 6 fun _ => ?_
  refine Moves.bind (getConfig_unaddressed .sn) fun _ => ?_
  refine Moves.bind (Moves.ite (fun _ => modify_unaddressed .addr _) fun _ => Moves.pure _)
    fun _ => Moves.bind (getConfig_unaddressed .addr) fun _ => ?_
  exact Moves.bind (query_unaddressed _) fun _ => unaddressed_reply _

lemma protocolHandler_unaddressed (i : HandlerIndex) :
    Moves (Sends Unaddressed) (protocolHandler b ⟨i, d⟩) := by
  cases i with
  | ykQueryState | ykReportState | avcQueryState | avcProductionQuery | coldLockQueryAll =>
    exact replyState_unaddressed b _ _
  | ykControl => exact funcYkControl_unaddressed b d
  | ykModifyAddr => exact funcYkModifyAddr_unaddressed b d
  | ykProductionModifySn => exact funcYkProductionModifySn_unaddressed b d
  | avcControlCommand => exact funcAvcControlCommand_unaddressed b d
  | avcControlRequest => exact funcAvcControlRequest_unaddressed b d
  | avcModifyAddrType => exact funcAvcModifyDevice_unaddressed b d
  | avcModifySn => exact funcAvcModifySn_unaddressed b d
  | coldLockControl => exact funcColdLockControl_unaddressed b d
  | coldLockModifyTimeout => exact funcColdLockModifyTimeout_unaddressed b d
  | coldLockModifyAddr => exact funcColdLockModifyAddr_unaddressed b d
  | coldLockModifySn | coldLockProductionQuery => exact Moves.pure _

lemma rxCb_unaddressed : Moves (Sends Unaddressed) (rxCb b d) := by
  have hparser : Moves (Sends Unaddressed) (protocolParser (D := D) d) := by
    intro w
    rw [protocolParser_run]
    exact sends_none rfl
  refine Moves.ite (fun _ => Moves.pure _) fun _ => Moves.bind Moves.get fun _ => ?_
  refine Moves.ite (fun _ => Moves.pure _) fun _ => Moves.bind hparser fun p => ?_
  cases p with
  | none => exact Moves.pure _
  | some data => exact protocolHandler_unaddressed b _ _

lemma threadBtnPress_unaddressed : Moves (Sends Unaddressed) (threadBtnPress b) := by
  refine Moves.bind Moves.get fun _ => Moves.ite (fun _ => Moves.pure _) fun _ => ?_
  change Moves (Sends Unaddressed) (getAddr b >>= fun addr => avcRelayCheck b >>= fun check =>
    channelWrite (withCrc [0, 0, 0, 0x03, 0x32, addr, if check then 0x01 else 0x10]) >>= fun _ =>
      pure true)
  refine Moves.bind (getConfig_unaddressed .addr) fun _ => ?_
  refine Moves.bind (rtPinRead_moves (unaddressed_handles (b := b)).pinRead _) fun _ => ?_
  exact Moves.bind (channelWrite_sends rfl) fun _ => Moves.pure _

end Handlers

end YkLock
