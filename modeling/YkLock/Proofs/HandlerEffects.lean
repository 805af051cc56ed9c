import YkLock.Proofs.ConfigView

/-! What the handlers do to the configuration and which replies they send. -/

namespace YkLock

open Library.Storage Library.StatePrograms

variable {D : Type}

def Info.follow (r : Info) (type : LockType) : Info :=
  if LockType.sanitised r.devType ≠ type then { r with devType := type.toByte } else r

lemma sanitised_toByte_iff (x : Byte) : (LockType.sanitised x).toByte = x ↔ x.toNat ≤ 5 := by
  revert x
  decide

lemma Info.follow_of_valid {r : Info} (hr : r.devType.toNat ≤ 5) (type : LockType) :
    r.follow type = { r with devType := type.toByte } := by
  rw [Info.follow]
  by_cases ht : LockType.sanitised r.devType ≠ type
  · rw [if_pos ht]
  · rw [if_neg ht, ← not_not.mp ht, (sanitised_toByte_iff _).mpr hr]

def Info.snBytes (r : Info) : List Byte :=
  [r.sn.extractLsb' 16 8, r.sn.extractLsb' 8 8, r.sn.extractLsb' 0 8]

def Info.command (i : HandlerIndex) (d : Buffer) (r : Info) : Info :=
  match i with
  | .ykModifyAddr | .coldLockModifyAddr => if d.sn 6 = r.sn then { r with addr := d.get 5 } else r
  | .ykProductionModifySn => { r with sn := d.sn 6 }.follow .ykLock
  | .avcModifySn => { r with sn := d.sn 6 }.follow .avcSwitch
  | .avcControlCommand =>
    if d.get 5 = 0x10 then { r with avcRelayState := 1 }
    else if d.get 5 = 0x01 then { r with avcRelayState := 0 }
    else r
  | .avcControlRequest =>
    if d.get 5 = 0x10 ∧ (d.get 6 = 0x10 ∨ d.get 6 = 0x01) then { r with avcRelayState := 1 } else r
  | .avcModifyAddrType =>
    if d.sn 3 = r.sn then { r with devType := d.get 1, addr := d.get 2 } else r
  | .coldLockModifyTimeout => { r with timeoutExec := d.get 5, timeoutCmd := d.get 6 }
  | _ => r

def stateReply (code : Byte) (r : Info) (state : Byte) : List Byte :=
  withCrc ([0, 0, 0, 0x06, code, r.addr] ++ r.snBytes ++ [state])

def replies (i : HandlerIndex) (d : Buffer) (r r' : Info) (s s' : Byte) : List (List Byte) :=
  match i with
  | .ykQueryState => [stateReply 0x01 r s]
  | .ykControl => [withCrc [0, 0, 0, 0x03, 0x02, r.addr, s]]
  | .ykModifyAddr => []
  | .ykReportState => [stateReply 0x04 r s]
  | .ykProductionModifySn => [withCrc ([0, 0, 0, 0x05, 0x07, 0x00] ++ r'.snBytes)]
  | .avcQueryState => [stateReply 0x31 r s]
  | .avcControlCommand =>
    if d.get 5 = 0x10 ∨ d.get 5 = 0x01 then [withCrc [0, 0, 0, 0x05, 0x35, 0x03, r.addr, s, s']]
    else []
  | .avcControlRequest =>
    if d.get 5 = 0x10 ∧ (d.get 6 = 0x10 ∨ d.get 6 = 0x01) then
      [withCrc [0, 0, 0, 0x05, 0x35, 0x03, r.addr, s, s']]
    else []
  | .avcModifyAddrType =>
    [withCrc [0, 0, 0, 0x04, 0x33, (LockType.sanitised r'.devType).toByte, r'.addr,
      if d.sn 3 = r.sn then 0x10 else 0x01]]
  | .avcModifySn => [withCrc ([0, 0, 0, 0x06, 0x37, r'.addr] ++ r'.snBytes ++ [0x10])]
  | .avcProductionQuery => [stateReply 0x31 r s]
  | .coldLockQueryAll => [stateReply 0x21 r 0]
  | .coldLockControl => [stateReply 0x25 r 0]
  | .coldLockModifyTimeout =>
    [withCrc [0, 0, 0, 0x06, 0x2A, r'.addr, r.timeoutExec, r.timeoutCmd, r'.timeoutExec,
      r'.timeoutCmd]]
  | .coldLockModifyAddr =>
    [withCrc ([0, 0, 0, 0x06, 0x23, r'.addr] ++ { r with sn := d.sn 6 }.snBytes ++ [0])]
  | .coldLockModifySn => []
  | .coldLockProductionQuery => []

def View.command (i : HandlerIndex) (d : Buffer) (s s' : Byte) (v : View) : View :=
  { v with
    record := v.record.command i d
    sent := replies i d v.record (v.record.command i d) s s' ++ v.sent
    reset := v.reset || decide (i = .ykModifyAddr ∧ d.sn 6 = v.record.sn) }

lemma View.command_of_keep {i : HandlerIndex} {d : Buffer} {s s' : Byte} {v : View}
    {sent : List (List Byte)} (hi : i ≠ .ykModifyAddr) (hr : v.record.command i d = v.record)
    (hs : replies i d v.record v.record s s' = sent) :
    v.command i d s s' = { v with sent := sent ++ v.sent } := by
  have hreset : decide (i = .ykModifyAddr ∧ d.sn 6 = v.record.sn) = false :=
    decide_eq_false fun hh => hi hh.1
  rw [View.command, hr, hs, hreset, Bool.or_false]

lemma View.command_of_silent {i : HandlerIndex} {d : Buffer} {s s' : Byte} {v : View}
    (hi : i ≠ .ykModifyAddr) (hr : v.record.command i d = v.record)
    (hs : replies i d v.record v.record s s' = []) : v.command i d s s' = v :=
  View.command_of_keep hi hr hs

def Answers (b : Board D) (content : D → Image) (v : View) (i : HandlerIndex) (d : Buffer)
    (w : World D) : Prop :=
  ∃ s s', Shows b content (v.command i d s s') w

section Handlers

variable {b : Board D} {content : D → Image} {v : View} (h : b.at24cxx.Reliable content)
include h

lemma replyState_shows (code : Byte) (type : QueryState) : Triple (Shows b content v)
    (replyState b code type)
    fun _ w => ∃ s, Shows b content { v with sent := stateReply code v.record s :: v.sent } w := by
  refine (getAddr_shows h).bind ((getSn_shows h).bind ?_)
  refine (queryState_shows type).bind fun s => (channelWrite_shows _).bind fun _ => ?_
  exact Triple.pure fun w hw => ⟨s, by simpa [stateReply, Info.snBytes] using hw⟩

lemma replyState_cold_shows (code : Byte) : Triple (Shows b content v)
    (replyState b code .coldLockState)
    fun _ => Shows b content { v with sent := stateReply code v.record 0 :: v.sent } := by
  refine (getAddr_shows h).bind ((getSn_shows h).bind ?_)
  refine queryState_cold_shows.bind ((channelWrite_shows _).bind fun _ => ?_)
  exact Triple.pure fun _ hw => by simpa [stateReply, Info.snBytes] using hw

lemma replyOperation_shows : Triple (Shows b content v) (replyOperation b) fun _ w => ∃ s s',
    Shows b content
      { v with sent := withCrc [0, 0, 0, 0x05, 0x35, 0x03, v.record.addr, s, s'] :: v.sent } w := by
  refine (getAddr_shows h).bind ((queryState_shows _).bind fun s => ?_)
  refine (queryState_shows _).bind fun s' => (channelWrite_shows _).bind fun _ => ?_
  exact Triple.pure fun w hw => ⟨s, s', hw⟩

lemma followDevice_shows (type : LockType) : Triple (Shows b content v) (followDevice b type)
    fun _ => Shows b content { v with record := v.record.follow type } := by
  intro w hw
  have hinfo : w.info = v.record.lockInfo b := hw.info
  rw [followDevice, run_bind, run_get, run_ite, Info.follow]
  by_cases ht : LockType.sanitised v.record.devType ≠ type
  · rw [if_pos ht, if_pos (by rw [hinfo]; exact ⟨rfl, ht⟩)]
    exact (modifyDevice_shows h type.toByte w hw).2
  · rw [if_neg ht, if_neg (by rw [hinfo]; exact fun hh => ht hh.2)]
    exact hw

lemma funcYkControl_shows (d : Buffer) :
    Triple (Shows b content v) (funcYkControl b d) fun _ => Answers b content v .ykControl d := by
  refine (at_shows d 5).bind ((at_shows d 6).bind ?_)
  have hcontrol : Triple (Shows b content v)
      (control b (if d.get 6 = 0x00 then .ykClose else .ykOpen) (d.get 5))
      fun _ => Shows b content v := by
    split
    · exact control_shows h .ykClose _
    · exact control_shows h .ykOpen _
  refine hcontrol.bind fun _ => (getAddr_shows h).bind ?_
  refine (queryState_shows _).bind fun s => (channelWrite_shows _).bind fun _ => ?_
  refine Triple.pure fun w hw => ⟨s, 0, ?_⟩
  simpa [View.command, Info.command, replies] using hw

lemma funcYkModifyAddr_shows (d : Buffer) : Triple (Shows b content v) (funcYkModifyAddr b d)
    fun _ => Answers b content v .ykModifyAddr d := by
  refine (at_shows d 5).bind ((snAt_shows d 6).bind ((getSn_shows h).bind ?_))
  refine Triple.ite (fun hsn => Triple.pure fun w hw => ⟨0, 0, ?_⟩) fun hsn => ?_
  · have hne : d.sn 6 ≠ v.record.sn := fun he => hsn (setWidth_sn_inj.mpr he)
    simpa [View.command, Info.command, replies, hne] using hw
  · have heq : d.sn 6 = v.record.sn := setWidth_sn_inj.mp (not_not.mp hsn)
    refine (modifyAddr_shows h _).bind (rtHwCpuReset_shows.bind fun _ => ?_)
    refine Triple.pure fun w hw => ⟨0, 0, ?_⟩
    simpa [View.command, Info.command, replies, heq] using hw

lemma funcYkProductionModifySn_shows (d : Buffer) : Triple (Shows b content v)
    (funcYkProductionModifySn b d) fun _ => Answers b content v .ykProductionModifySn d := by
  refine (snAt_shows d 6).bind ((modifySn_shows h _).bind ((followDevice_shows h _).bind fun _ => ?_))
  refine (getSn_shows h).bind ((channelWrite_shows _).bind fun _ => ?_)
  refine Triple.pure fun w hw => ⟨0, 0, ?_⟩
  simpa [View.command, Info.command, replies, Info.snBytes] using hw

lemma engage_shows (port : Byte) : Triple (Shows b content v) (control b .avcSwitchEngage port)
    fun _ => Shows b content { v with record := { v.record with avcRelayState := 1 } } :=
  control_shows h .avcSwitchEngage port

lemma disengage_shows (port : Byte) : Triple (Shows b content v) (control b .avcSwitchDisengage port)
    fun _ => Shows b content { v with record := { v.record with avcRelayState := 0 } } :=
  control_shows h .avcSwitchDisengage port

lemma funcAvcControlCommand_shows (d : Buffer) : Triple (Shows b content v)
    (funcAvcControlCommand b d) fun _ => Answers b content v .avcControlCommand d := by
  refine (at_shows d 5).bind (Triple.ite (fun h5 => ?_) fun h5 => Triple.ite (fun h5' => ?_) fun h5' => ?_)
  · refine (engage_shows h 0).bind fun _ => (replyOperation_shows h).mono fun _ w hw => ?_
    obtain ⟨s, s', hw⟩ := hw
    exact ⟨s, s', by simpa [View.command, Info.command, replies, h5] using hw⟩
  · refine (disengage_shows h 0).bind fun _ => (replyOperation_shows h).mono fun _ w hw => ?_
    obtain ⟨s, s', hw⟩ := hw
    exact ⟨s, s', by simpa [View.command, Info.command, replies, h5'] using hw⟩
  · refine Triple.pure fun w hw => ⟨0, 0, ?_⟩
    have hv : v.command .avcControlCommand d 0 0 = v :=
      View.command_of_silent (by decide) ((if_neg h5).trans (if_neg h5'))
        (if_neg (not_or.mpr ⟨h5, h5'⟩))
    rwa [hv]

lemma engageAndReply_shows : Triple (Shows b content v) (engageAndReply b) fun _ w => ∃ s s',
    Shows b content
      { v with
        record := { v.record with avcRelayState := 1 }
        sent := withCrc [0, 0, 0, 0x05, 0x35, 0x03, v.record.addr, s, s'] :: v.sent } w :=
  (engage_shows h 0).bind fun _ => replyOperation_shows h

lemma funcAvcControlRequest_shows (d : Buffer) : Triple (Shows b content v)
    (funcAvcControlRequest b d) fun _ => Answers b content v .avcControlRequest d := by
  have hkeep (hn : ¬ (d.get 5 = 0x10 ∧ (d.get 6 = 0x10 ∨ d.get 6 = 0x01))) :
      v.command .avcControlRequest d 0 0 = v :=
    View.command_of_silent (by decide) (if_neg hn) (if_neg hn)
  refine (at_shows d 5).bind ((at_shows d 6).bind (Triple.ite (fun h5 => ?_) fun h5 => ?_))
  · refine Triple.ite (fun h6 => ?_) fun h6 => Triple.ite (fun h6' => ?_) fun h6' => ?_
    · refine (engage_shows h 0).bind fun _ => (engageAndReply_shows h).mono fun _ w hw => ?_
      obtain ⟨s, s', hw⟩ := hw
      exact ⟨s, s', by simpa [View.command, Info.command, replies, h5, h6] using hw⟩
    · refine (disengage_shows h 0).bind fun _ => (engageAndReply_shows h).mono fun _ w hw => ?_
      obtain ⟨s, s', hw⟩ := hw
      exact ⟨s, s', by simpa [View.command, Info.command, replies, h5, h6'] using hw⟩
    · refine Triple.pure fun w hw => ⟨0, 0, ?_⟩
      rwa [hkeep fun hh => hh.2.elim h6 h6']
  · refine Triple.pure fun w hw => ⟨0, 0, ?_⟩
    rwa [hkeep fun hh => h5 hh.1]

lemma modifyDeviceAndAddr_shows (type addr : Byte) : Returns (Shows b content v)
    (modifyDeviceAndAddr b type addr) .eok
    (Shows b content { v with record := { v.record with devType := type, addr := addr } }) :=
  (modifyDevice_shows h type).bind (modifyAddr_shows h addr)

lemma funcAvcModifyDevice_shows (d : Buffer) : Triple (Shows b content v)
    (funcAvcModifyDevice b d) fun _ => Answers b content v .avcModifyAddrType d := by
  refine (at_shows d 1).bind ((at_shows d 2).bind ((snAt_shows d 3).bind ((getSn_shows h).bind ?_)))
  have hreply (result : RtErr) (r : Info) : Triple (Shows b content { v with record := r }) (do
      let device ← getDevice b
      let addr ← getAddr b
      channelWrite (withCrc
        [0, 0, 0, 0x04, 0x33, device.toByte, addr, if result = .eok then 0x10 else 0x01])
      return RtErr.eok) fun _ => Shows b content { v with
        record := r
        sent := withCrc [0, 0, 0, 0x04, 0x33, (LockType.sanitised r.devType).toByte, r.addr,
          if result = .eok then 0x10 else 0x01] :: v.sent } := by
    refine (getDevice_shows h).bind ((getAddr_shows h).bind ((channelWrite_shows _).bind fun _ => ?_))
    exact Triple.pure fun w hw => hw
  by_cases hsn : d.sn 3 = v.record.sn
  · rw [if_pos (setWidth_sn_inj.mpr hsn)]
    refine (modifyDeviceAndAddr_shows h _ _).bind ((hreply .eok _).mono fun _ w hw => ⟨0, 0, ?_⟩)
    simpa [View.command, Info.command, replies, hsn] using hw
  · rw [if_neg (mt setWidth_sn_inj.mp hsn)]
    refine Returns.bind (fun w hw => ⟨rfl, hw⟩) ((hreply .error v.record).mono fun _ w hw => ⟨0, 0, ?_⟩)
    simpa [View.command, Info.command, replies, hsn] using hw

lemma funcAvcModifySn_shows (d : Buffer) : Triple (Shows b content v)
    (funcAvcModifySn b d) fun _ => Answers b content v .avcModifySn d := by
  refine (snAt_shows d 6).bind ((modifySn_shows h _).bind ((followDevice_shows h _).bind fun _ => ?_))
  refine (getAddr_shows h).bind ((getSn_shows h).bind ((channelWrite_shows _).bind fun _ => ?_))
  refine Triple.pure fun w hw => ⟨0, 0, ?_⟩
  simpa [View.command, Info.command, replies, Info.snBytes] using hw

lemma funcColdLockControl_shows (d : Buffer) : Triple (Shows b content v)
    (funcColdLockControl b d) fun _ => Answers b content v .coldLockControl d := by
  refine (at_shows d 5).bind (Triple.bind (S := fun _ => Shows b content v) ?_ fun _ => ?_)
  · refine Triple.ite (fun _ => control_shows h .coldLockPowerOff 0) fun _ => ?_
    exact Triple.ite (fun _ => control_shows h .coldLockPowerOn 0) fun _ => Triple.pure fun _ hw => hw
  · exact (replyState_cold_shows h _).mono fun _ w hw =>
      ⟨0, 0, by simpa [View.command, Info.command, replies] using hw⟩

lemma funcColdLockModifyTimeout_shows (d : Buffer) : Triple (Shows b content v)
    (funcColdLockModifyTimeout b d) fun _ => Answers b content v .coldLockModifyTimeout d := by
  refine (getTimeoutExec_shows h).bind ((getTimeoutCmd_shows h).bind ?_)
  refine (at_shows d 5).bind ((modifyTimeoutExec_shows h _).bind ?_)
  refine (at_shows d 6).bind ((modifyTimeoutCmd_shows h _).bind ?_)
  refine (getTimeoutExec_shows h).bind ((getTimeoutCmd_shows h).bind ((getAddr_shows h).bind ?_))
  refine (channelWrite_shows _).bind fun _ => Triple.pure fun w hw => ⟨0, 0, ?_⟩
  simpa [View.command, Info.command, replies] using hw

lemma funcColdLockModifyAddr_shows (d : Buffer) : Triple (Shows b content v)
    (funcColdLockModifyAddr b d) fun _ => Answers b content v .coldLockModifyAddr d := by
  refine (at_shows d 5).bind ((snAt_shows d 6).bind ((getSn_shows h).bind ?_))
  refine Triple.bind (S := fun _ => Shows b content
    { v with record := v.record.command .coldLockModifyAddr d }) ?_ fun _ => ?_
  · refine Triple.ite (fun hsn => ?_) fun hsn => Triple.pure fun w hw => ?_
    · refine (modifyAddr_shows h _).mono fun _ w hw => ?_
      simpa [Info.command, setWidth_sn_inj.mp hsn] using hw.2
    · have hne : d.sn 6 ≠ v.record.sn := fun he => hsn (setWidth_sn_inj.mpr he)
      simpa [Info.command, hne] using hw
  · refine (getAddr_shows h).bind (queryState_cold_shows.bind ((channelWrite_shows _).bind fun _ => ?_))
    refine Triple.pure fun w hw => ⟨0, 0, ?_⟩
    simpa [View.command, replies, Info.snBytes] using hw

lemma protocolHandler_shows (i : HandlerIndex) (d : Buffer) : Triple (Shows b content v)
    (protocolHandler b ⟨i, d⟩) fun _ => Answers b content v i d := by
  have hquery (code : Byte) (type : QueryState) (hi : ∀ s, View.command i d s 0 v =
      { v with sent := stateReply code v.record s :: v.sent }) : Triple (Shows b content v)
      (replyState b code type) fun _ => Answers b content v i d :=
    (replyState_shows h code type).mono fun _ w ⟨s, hw⟩ => ⟨s, 0, by rwa [hi s]⟩
  have hcold (code : Byte) (hi : View.command i d 0 0 v =
      { v with sent := stateReply code v.record 0 :: v.sent }) : Triple (Shows b content v)
      (replyState b code .coldLockState) fun _ => Answers b content v i d :=
    (replyState_cold_shows h code).mono fun _ w hw => ⟨0, 0, by rwa [hi]⟩
  have hnone (hi : View.command i d 0 0 v = v) : Triple (Shows b content v)
      (pure RtErr.eok : Fw D RtErr) fun _ => Answers b content v i d :=
    Triple.pure fun w hw => ⟨0, 0, by rwa [hi]⟩
  cases i with
  | ykQueryState => exact hquery _ _ fun s => View.command_of_keep (by decide) rfl rfl
  | ykControl => exact funcYkControl_shows h d
  | ykModifyAddr => exact funcYkModifyAddr_shows h d
  | ykReportState => exact hquery _ _ fun s => View.command_of_keep (by decide) rfl rfl
  | ykProductionModifySn => exact funcYkProductionModifySn_shows h d
  | avcQueryState => exact hquery _ _ fun s => View.command_of_keep (by decide) rfl rfl
  | avcControlCommand => exact funcAvcControlCommand_shows h d
  | avcControlRequest => exact funcAvcControlRequest_shows h d
  | avcModifyAddrType => exact funcAvcModifyDevice_shows h d
  | avcModifySn => exact funcAvcModifySn_shows h d
  | avcProductionQuery => exact hquery _ _ fun s => View.command_of_keep (by decide) rfl rfl
  | coldLockQueryAll => exact hcold _ (View.command_of_keep (by decide) rfl rfl)
  | coldLockControl => exact funcColdLockControl_shows h d
  | coldLockModifyTimeout => exact funcColdLockModifyTimeout_shows h d
  | coldLockModifyAddr => exact funcColdLockModifyAddr_shows h d
  | coldLockModifySn => exact hnone (View.command_of_silent (by decide) rfl rfl)
  | coldLockProductionQuery => exact hnone (View.command_of_silent (by decide) rfl rfl)

end Handlers

end YkLock
