import YkLock.Proofs.FaultyTransfers
import YkLock.Proofs.HandlerRules

/-! The replies with an address, an SN or a timeout in them, and the getters these come from. -/

namespace YkLock

open Library.StatePrograms Library.Storage

variable {D : Type} {α : Type}

def after (m : Fw D α) (w : World D) : World D := (m.run w).2

def HandlerIndex.replyFields : HandlerIndex → List (ConfigT × ℕ)
  | .ykQueryState | .ykReportState | .avcQueryState | .avcProductionQuery | .coldLockQueryAll
  | .coldLockControl | .avcModifySn | .coldLockModifyAddr => [(.addr, 5), (.sn, 6)]
  | .ykControl => [(.addr, 5)]
  | .ykProductionModifySn => [(.sn, 6)]
  | .avcControlCommand | .avcControlRequest | .avcModifyAddrType => [(.addr, 6)]
  | .coldLockModifyTimeout =>
    [(.timeoutExec, 6), (.timeoutCmd, 7), (.timeoutExec, 8), (.timeoutCmd, 9), (.addr, 5)]
  | _ => []

def shown : (k : ConfigT) → k.Value → k.Value
  | .sn, v => (v.setWidth 24).setWidth 32
  | .deviceType, v | .addr, v | .timeoutExec, v | .timeoutCmd, v | .avcSwitchState, v => v

def fieldAt (reply : List Byte) (p : ℕ) : (k : ConfigT) → k.Value
  | .sn => (reply.getD p 0 ++ reply.getD (p + 1) 0 ++ reply.getD (p + 2) 0).setWidth 32
  | .deviceType | .addr | .timeoutExec | .timeoutCmd | .avcSwitchState => reply.getD p 0

structure GetterCall (D : Type) where
  field : ConfigT
  position : ℕ
  state : World D

section Calls

variable (b : Board D) (d : Buffer)

def portWork : Fw D RtErr := do
  let port ← d.at 5
  let opt ← d.at 6
  control b (if opt = 0x00 then .ykClose else .ykOpen) port

def snWork (type : LockType) : Fw D RtErr := do
  let result ← modifySn b (← d.snAt 6)
  followDevice b type
  return result

def commandWork (type : LockControl) : Fw D RtErr := do
  let _ ← d.at 5
  control b type 0

def requestWork (type : LockControl) : Fw D RtErr := do
  let _ ← d.at 5
  let _ ← d.at 6
  let _ ← control b type 0
  control b .avcSwitchEngage 0

def deviceWork : Fw D (LockType × RtErr) := do
  let type ← d.at 1
  let addr ← d.at 2
  let sn ← d.snAt 3
  let stored ← getSn b
  let result ← (if sn = stored then modifyDeviceAndAddr b type addr else pure .error)
  return (← getDevice b, result)

def coldControlWork : Fw D RtErr := do
  let opt ← d.at 5
  if opt = 0x00 then control b .coldLockPowerOff 0
  else if opt = 0x01 then control b .coldLockPowerOn 0
  else pure .eok

def timeoutWork : Fw D RtErr := do
  let _ ← modifyTimeoutExec b (← d.at 5)
  modifyTimeoutCmd b (← d.at 6)

def timeoutsReply (execBefore cmdBefore : Byte) : Fw D RtErr := do
  let execAfter ← getTimeoutExec b
  let cmdAfter ← getTimeoutCmd b
  let addr ← getAddr b
  channelWrite (withCrc
    [0, 0, 0, 0x06, 0x2A, addr, execBefore, cmdBefore, execAfter, cmdAfter])
  return .eok

def coldAddrWork : Fw D Word := do
  let addr ← d.at 5
  let sn ← d.snAt 6
  let stored ← getSn b
  let _ ← (if sn = stored then modifyAddr b addr else pure .error)
  return sn

def stateCalls (w : World D) : List (GetterCall D) := [⟨.addr, 5, w⟩, ⟨.sn, 6, after (getAddr b) w⟩]

def timeoutsCalls (w : World D) : List (GetterCall D) :=
  [⟨.timeoutExec, 8, w⟩, ⟨.timeoutCmd, 9, after (getTimeoutExec b) w⟩,
    ⟨.addr, 5, after (getTimeoutCmd b) (after (getTimeoutExec b) w)⟩]

def HandlerIndex.getterCalls (i : HandlerIndex) (w : World D) : List (GetterCall D) :=
  match i with
  | .ykQueryState | .ykReportState | .avcQueryState | .avcProductionQuery | .coldLockQueryAll =>
    stateCalls b w
  | .ykControl => [⟨.addr, 5, after (portWork b d) w⟩]
  | .ykProductionModifySn => [⟨.sn, 6, after (snWork b d .ykLock) w⟩]
  | .avcControlCommand =>
    if d.get 5 = 0x10 then [⟨.addr, 6, after (commandWork b d .avcSwitchEngage) w⟩]
    else if d.get 5 = 0x01 then [⟨.addr, 6, after (commandWork b d .avcSwitchDisengage) w⟩]
    else []
  | .avcControlRequest =>
    if d.get 5 = 0x10 then
      if d.get 6 = 0x10 then [⟨.addr, 6, after (requestWork b d .avcSwitchEngage) w⟩]
      else if d.get 6 = 0x01 then [⟨.addr, 6, after (requestWork b d .avcSwitchDisengage) w⟩]
      else []
    else []
  | .avcModifyAddrType => [⟨.addr, 6, after (deviceWork b d) w⟩]
  | .avcModifySn => stateCalls b (after (snWork b d .avcSwitch) w)
  | .coldLockControl => stateCalls b (after (coldControlWork b d) w)
  | .coldLockModifyTimeout =>
    ⟨.timeoutExec, 6, w⟩ :: ⟨.timeoutCmd, 7, after (getTimeoutExec b) w⟩ ::
      timeoutsCalls b (after (timeoutWork b d) (after (getTimeoutCmd b) (after (getTimeoutExec b) w)))
  | .coldLockModifyAddr => [⟨.addr, 5, after (coldAddrWork b d) w⟩]
  | .ykModifyAddr | .coldLockModifySn | .coldLockProductionQuery => []

end Calls

variable {b : Board D} {content : D → Image}

lemma getConfig_record (h : b.at24cxx.Faulty content) (k : ConfigT) :
    Keeps (World.record content) (getConfig b k) := by
  have hreads : Stores b (Same (World.record content)) fun _ => False :=
    ⟨fun k w => get_record h k w, fun _ ha => ha.elim⟩
  exact hreads.getConfig_moves k

lemma shown_sn (x : BitVec 24) : shown .sn (x.setWidth 32) = x.setWidth 32 := by
  have hx : (x.setWidth 32).setWidth 24 = x := by
    rw [BitVec.setWidth_setWidth_of_le _ (by norm_num), BitVec.setWidth_eq]
  exact congrArg (BitVec.setWidth 32) hx

structure ShowsCall (b : Board D) (content : D → Image) (reply : List Byte) (before stored : Info)
    (c : GetterCall D) : Prop where
  value : fieldAt reply c.position c.field = shown c.field ((getConfig b c.field).run c.state).1
  record : c.state.record content = stored ∨
    (c.field = .timeoutExec ∨ c.field = .timeoutCmd) ∧ c.state.record content = before

def Answered (b : Board D) (content : D → Image) (calls : List (GetterCall D))
    (sent : List (List Byte)) (before : Info) (w' : World D) : Prop :=
  ∃ reply, w'.sent = reply :: sent ∧
    ∀ c ∈ calls, ShowsCall b content reply before (w'.record content) c

lemma byteAt_extract (x : Word) {k : ℕ} (hk : k ≤ 16) :
    byteAt x k = (x.setWidth 24).extractLsb' k 8 := by
  apply BitVec.eq_of_getLsbD_eq
  intro i hi
  have hki : k + i < 24 := by omega
  simp [byteAt, hi, hki]

lemma fieldAt_sn (x : Word) (front back : List Byte) :
    fieldAt (front ++ byteAt x 16 :: byteAt x 8 :: byteAt x 0 :: back) front.length .sn =
      shown .sn x := by
  have hbytes : byteAt x 16 ++ byteAt x 8 ++ byteAt x 0 = x.setWidth 24 := by
    rw [byteAt_extract x (by norm_num), byteAt_extract x (by norm_num),
      byteAt_extract x (by norm_num)]
    exact append_bytes _
  simp [fieldAt, shown, ← hbytes]

def Replies (b : Board D) (content : D → Image) (P : List Byte → Prop)
    (calls : World D → List (GetterCall D)) (m : Fw D RtErr) : Prop :=
  ∀ w, (after m w).record content = w.record content ∧ ∃ reply, P reply ∧
    (after m w).sent = reply :: w.sent ∧ ∀ c ∈ calls w,
      fieldAt reply c.position c.field = shown c.field ((getConfig b c.field).run c.state).1 ∧
        c.state.record content = w.record content

section Sequences

variable {P : List Byte → Prop} {calls : World D → List (GetterCall D)}

lemma queryState_record (type : QueryState) : Keeps (World.record content) (queryState b type) :=
  queryState_moves (fun _ _ _ => rfl) type

lemma write_replies {reply : List Byte} (hP : P reply) : Replies b content P (fun _ => [])
    (channelWrite reply >>= fun _ => pure .eok) :=
  fun _ => ⟨rfl, reply, hP, rfl, fun _ hc => (List.not_mem_nil hc).elim⟩

lemma query_replies (type : QueryState) {rest : Byte → Fw D RtErr}
    (hrest : ∀ x, Replies b content P (fun _ => []) (rest x)) :
    Replies b content P (fun _ => []) (queryState b type >>= rest) := by
  intro w
  obtain ⟨hrecord, reply, hP, hsent, -⟩ :=
    hrest ((queryState b type).run w).1 (after (queryState b type) w)
  refine ⟨hrecord.trans (queryState_record type w), reply, hP, hsent.trans ?_,
    fun _ hc => (List.not_mem_nil hc).elim⟩
  exact congrArg (List.cons reply) (queryState_sent type w)

lemma getter_replies (h : b.at24cxx.Faulty content) {k : ConfigT} {p : ℕ}
    {rest : k.Value → Fw D RtErr} (hrest : ∀ x, Replies b content
      (fun reply => P reply ∧ fieldAt reply p k = shown k x) calls (rest x)) :
    Replies b content P (fun w => ⟨k, p, w⟩ :: calls (after (getConfig b k) w))
      (getConfig b k >>= rest) := by
  intro w
  have hget := getConfig_record h k w
  obtain ⟨hrecord, reply, ⟨hP, hfield⟩, hsent, hcalls⟩ :=
    hrest ((getConfig b k).run w).1 (after (getConfig b k) w)
  refine ⟨hrecord.trans hget, reply, hP, ?_, fun c hc => ?_⟩
  · exact hsent.trans (congrArg (List.cons reply) (getConfig_sent k w))
  · rcases List.mem_cons.mp hc with rfl | hc
    · exact ⟨hfield, rfl⟩
    · obtain ⟨hvalue, hstate⟩ := hcalls c hc
      exact ⟨hvalue, hstate.trans hget⟩

lemma Replies.answered {pre : Fw D α} {tail : α → Fw D RtErr}
    (htail : ∀ x, Replies b content P calls (tail x)) (hpre : Keeps World.sent pre) (before : Info)
    (w : World D) : Answered b content (calls (after pre w)) w.sent before (after (pre >>= tail) w) := by
  obtain ⟨hrecord, reply, -, hsent, hcalls⟩ := htail (pre.run w).1 (after pre w)
  refine ⟨reply, hsent.trans (congrArg (List.cons reply) (hpre w)), fun c hc => ?_⟩
  obtain ⟨hvalue, hstate⟩ := hcalls c hc
  exact ⟨hvalue, Or.inl (hstate.trans hrecord.symm)⟩

variable (h : b.at24cxx.Faulty content)
include h

lemma identity_replies {build : Byte → Word → Fw D RtErr} (hbuild : ∀ addr sn,
      Replies b content (fun reply => (True ∧ fieldAt reply 5 .addr = addr) ∧
        fieldAt reply 6 .sn = shown .sn sn) (fun _ => []) (build addr sn)) :
    Replies b content (fun _ => True) (stateCalls b) (do
      let addr ← getAddr b
      let sn ← getSn b
      build addr sn) := by
  have hsn (addr : Byte) : Replies b content (fun reply => True ∧ fieldAt reply 5 .addr = addr)
      (fun w => [⟨.sn, 6, w⟩]) (do
        let sn ← getSn b
        build addr sn) :=
    getter_replies (k := .sn) h (hbuild addr)
  exact getter_replies (k := .addr) h hsn

lemma replyState_replies (code : Byte) (type : QueryState) :
    Replies b content (fun _ => True) (stateCalls b) (replyState b code type) :=
  identity_replies h fun addr sn => query_replies type fun state =>
    write_replies ⟨⟨trivial, rfl⟩, fieldAt_sn sn [0, 0, 0, 0x06, code, addr] [state, _]⟩

lemma timeoutsReply_replies (exec cmd : Byte) : Replies b content
    (fun reply => fieldAt reply 6 .timeoutExec = exec ∧ fieldAt reply 7 .timeoutCmd = cmd)
    (timeoutsCalls b) (timeoutsReply b exec cmd) := by
  have haddr (execAfter cmdAfter : Byte) : Replies b content (fun reply =>
      ((fieldAt reply 6 .timeoutExec = exec ∧ fieldAt reply 7 .timeoutCmd = cmd) ∧
        fieldAt reply 8 .timeoutExec = execAfter) ∧ fieldAt reply 9 .timeoutCmd = cmdAfter)
      (fun w => [⟨.addr, 5, w⟩]) (do
        let addr ← getAddr b
        channelWrite (withCrc [0, 0, 0, 0x06, 0x2A, addr, exec, cmd, execAfter, cmdAfter])
        return .eok) :=
    getter_replies h fun addr => write_replies ⟨⟨⟨⟨rfl, rfl⟩, rfl⟩, rfl⟩, rfl⟩
  have hcmd (execAfter : Byte) : Replies b content (fun reply =>
      (fieldAt reply 6 .timeoutExec = exec ∧ fieldAt reply 7 .timeoutCmd = cmd) ∧
        fieldAt reply 8 .timeoutExec = execAfter)
      (fun w => [⟨.timeoutCmd, 9, w⟩, ⟨.addr, 5, after (getTimeoutCmd b) w⟩]) (do
        let cmdAfter ← getTimeoutCmd b
        let addr ← getAddr b
        channelWrite (withCrc [0, 0, 0, 0x06, 0x2A, addr, exec, cmd, execAfter, cmdAfter])
        return .eok) :=
    getter_replies (k := .timeoutCmd) h (haddr execAfter)
  exact getter_replies (k := .timeoutExec) h hcmd

lemma replyOperation_replies :
    Replies b content (fun _ => True) (fun w => [⟨.addr, 6, w⟩]) (replyOperation b) :=
  getter_replies h fun _ => query_replies _ fun _ => query_replies _ fun _ =>
    write_replies ⟨trivial, rfl⟩

end Sequences

section Handlers

lemma modifyDevice_sent (type addr : Byte) :
    Keeps World.sent (modifyDeviceAndAddr b type addr) :=
  modifyDeviceAndAddr_stores stores_sent trivial trivial

lemma snWork_sent (d : Buffer) (type : LockType) : Keeps World.sent (snWork b d type) :=
  Moves.bind (fun _ => rfl) fun _ => Moves.bind (stores_sent.modify_moves trivial) fun _ =>
    Moves.bind (followDevice_stores stores_sent trivial) fun _ => Moves.pure _

variable (h : b.at24cxx.Faulty content) (d : Buffer) (before : Info) (w : World D)
include h

lemma funcYkControl_answered : Answered b content (HandlerIndex.getterCalls b d .ykControl w) w.sent
    before (after (funcYkControl b d) w) := by
  have htail : Replies b content (fun _ => True) (fun w => [⟨.addr, 5, w⟩]) (do
      let addr ← getAddr b
      let state ← queryState b .ykPortState
      channelWrite (withCrc [0, 0, 0, 0x03, 0x02, addr, state])
      return .eok) :=
    getter_replies h fun _ => query_replies _ fun _ => write_replies ⟨trivial, rfl⟩
  have hwork : Keeps World.sent (portWork b d) := Moves.bind (fun _ => rfl) fun _ =>
    Moves.bind (fun _ => rfl) fun _ => control_sent _ _
  exact Replies.answered (fun _ => htail) hwork before w

lemma funcYkProductionModifySn_answered :
    Answered b content (HandlerIndex.getterCalls b d .ykProductionModifySn w) w.sent before
      (after (funcYkProductionModifySn b d) w) := by
  have htail : Replies b content (fun _ => True) (fun w => [⟨.sn, 6, w⟩]) (do
      let sn ← getSn b
      channelWrite (withCrc [0, 0, 0, 0x05, 0x07, 0x00, byteAt sn 16, byteAt sn 8, byteAt sn 0])
      return .eok) := by
    refine getter_replies (k := .sn) h fun sn => write_replies ⟨trivial, ?_⟩
    exact fieldAt_sn sn [0, 0, 0, 0x05, 0x07, 0x00] [_]
  exact Replies.answered (fun _ => htail) (snWork_sent d .ykLock) before w

lemma funcAvcModifySn_answered :
    Answered b content (HandlerIndex.getterCalls b d .avcModifySn w) w.sent before
      (after (funcAvcModifySn b d) w) := by
  have htail (result : RtErr) : Replies b content (fun _ => True) (stateCalls b) (do
      let addr ← getAddr b
      let sn ← getSn b
      channelWrite (withCrc [0, 0, 0, 0x06, 0x37, addr, byteAt sn 16, byteAt sn 8, byteAt sn 0,
        if result = .eok then 0x10 else 0x01])
      return .eok) :=
    identity_replies h fun addr sn => write_replies
      ⟨⟨trivial, rfl⟩, fieldAt_sn sn [0, 0, 0, 0x06, 0x37, addr] [_, _]⟩
  exact Replies.answered htail (snWork_sent d .avcSwitch) before w

lemma funcAvcModifyDevice_answered :
    Answered b content (HandlerIndex.getterCalls b d .avcModifyAddrType w) w.sent before
      (after (funcAvcModifyDevice b d) w) := by
  have htail (x : LockType × RtErr) : Replies b content (fun _ => True)
      (fun w => [⟨.addr, 6, w⟩]) (do
        let addr ← getAddr b
        channelWrite (withCrc
          [0, 0, 0, 0x04, 0x33, x.1.toByte, addr, if x.2 = .eok then 0x10 else 0x01])
        return .eok) :=
    getter_replies h fun _ => write_replies ⟨trivial, rfl⟩
  have hwork : Keeps World.sent (deviceWork b d) := by
    refine Moves.bind (fun _ => rfl) fun _ => Moves.bind (fun _ => rfl) fun _ =>
      Moves.bind (fun _ => rfl) fun _ => Moves.bind (getConfig_sent _) fun _ => ?_
    refine Moves.bind (Moves.ite (fun _ => modifyDevice_sent _ _) fun _ => Moves.pure _) fun _ => ?_
    exact Moves.bind (Moves.bind (getConfig_sent _) fun _ => Moves.pure _) fun _ => Moves.pure _
  exact Replies.answered htail hwork before w

lemma funcColdLockControl_answered :
    Answered b content (HandlerIndex.getterCalls b d .coldLockControl w) w.sent before
      (after (funcColdLockControl b d) w) := by
  have hwork : Keeps World.sent (coldControlWork b d) := Moves.bind (fun _ => rfl) fun _ =>
    Moves.ite (fun _ => control_sent _ _) fun _ =>
      Moves.ite (fun _ => control_sent _ _) fun _ => Moves.pure _
  exact Replies.answered (fun _ => replyState_replies h 0x25 .coldLockState) hwork before w

lemma funcColdLockModifyAddr_answered : ∃ reply, (after (funcColdLockModifyAddr b d) w).sent =
    reply :: w.sent ∧ fieldAt reply 6 .sn = (d.sn 6).setWidth 32 ∧
      ∀ c ∈ HandlerIndex.getterCalls b d .coldLockModifyAddr w, ShowsCall b content reply before
        ((after (funcColdLockModifyAddr b d) w).record content) c := by
  have htail (sn : Word) : Replies b content (fun reply => fieldAt reply 6 .sn = shown .sn sn)
      (fun w => [⟨.addr, 5, w⟩]) (do
        let addr ← getAddr b
        let state ← queryState b .coldLockState
        channelWrite (withCrc
          [0, 0, 0, 0x06, 0x23, addr, byteAt sn 16, byteAt sn 8, byteAt sn 0, state])
        return .eok) := by
    refine getter_replies (k := .addr) h fun addr => query_replies _ fun state => ?_
    exact write_replies ⟨fieldAt_sn sn [0, 0, 0, 0x06, 0x23, addr] [_, _], rfl⟩
  have hwork : Keeps World.sent (coldAddrWork b d) := by
    refine Moves.bind (fun _ => rfl) fun _ => Moves.bind (fun _ => rfl) fun _ =>
      Moves.bind (getConfig_sent _) fun _ => ?_
    exact Moves.bind (Moves.ite (fun _ => stores_sent.modify_moves trivial) fun _ => Moves.pure _)
      fun _ => Moves.pure _
  have hsn : ((coldAddrWork b d).run w).1 = (d.sn 6).setWidth 32 := d.snAt_val 6 (after (d.at 5) w)
  obtain ⟨hrecord, reply, hfield, hsent, hcalls⟩ :=
    htail ((coldAddrWork b d).run w).1 (after (coldAddrWork b d) w)
  refine ⟨reply, hsent.trans (congrArg (List.cons reply) (hwork w)), ?_, fun c hc => ?_⟩
  · rw [hfield, hsn, shown_sn]
  · obtain ⟨hvalue, hstate⟩ := hcalls c hc
    exact ⟨hvalue, Or.inl (hstate.trans hrecord.symm)⟩

lemma funcColdLockModifyTimeout_answered :
    Answered b content (HandlerIndex.getterCalls b d .coldLockModifyTimeout w) w.sent
      (w.record content) (after (funcColdLockModifyTimeout b d) w) := by
  let w₁ : World D := after (getTimeoutExec b) w
  let w₂ : World D := after (getTimeoutCmd b) w₁
  let w₃ : World D := after (timeoutWork b d) w₂
  have hwork : Keeps World.sent (timeoutWork b d) := Moves.bind (fun _ => rfl) fun _ =>
    Moves.bind (stores_sent.modify_moves trivial) fun _ => Moves.bind (fun _ => rfl) fun _ =>
      stores_sent.modify_moves trivial
  have hrecord₁ : w₁.record content = w.record content := getConfig_record h .timeoutExec w
  have hsent₂ : w₂.sent = w.sent :=
    (getConfig_sent .timeoutCmd w₁).trans (getConfig_sent .timeoutExec w)
  obtain ⟨hrecord, reply, ⟨hexec, hcmd⟩, hsent, hcalls⟩ :=
    timeoutsReply_replies h ((getTimeoutExec b).run w).1 ((getTimeoutCmd b).run w₁).1 w₃
  refine ⟨reply, hsent.trans (congrArg (List.cons reply) ((hwork w₂).trans hsent₂)), ?_⟩
  intro c hc
  rcases List.mem_cons.mp hc with rfl | hc
  · exact ⟨hexec, Or.inr ⟨Or.inl rfl, rfl⟩⟩
  · rcases List.mem_cons.mp hc with rfl | hc
    · exact ⟨hcmd, Or.inr ⟨Or.inr rfl, hrecord₁⟩⟩
    · obtain ⟨hvalue, hstate⟩ := hcalls c hc
      exact ⟨hvalue, Or.inl (hstate.trans hrecord.symm)⟩

def AnswersFields (b : Board D) (content : D → Image) (i : HandlerIndex) (d : Buffer) (before : Info)
    (w w' : World D) : Prop :=
  (i.getterCalls b d w = [] ∧ w'.sent = w.sent) ∨
    ((i.getterCalls b d w).map (fun c => (c.field, c.position)) = i.replyFields ∧
      Answered b content (i.getterCalls b d w) w.sent before w')

lemma funcAvcControlCommand_answers : AnswersFields b content .avcControlCommand d before w
    (after (funcAvcControlCommand b d) w) := by
  have hwork (type : LockControl) : Keeps World.sent (commandWork b d type) :=
    Moves.bind (fun _ => rfl) fun _ => control_sent _ _
  have hanswered (type : LockControl) := Replies.answered
    (fun _ : RtErr => replyOperation_replies h) (hwork type) before w
  rw [AnswersFields, after, funcAvcControlCommand, run_bind, Buffer.at_run, run_ite, run_ite,
    HandlerIndex.getterCalls]
  by_cases h10 : d.get 5 = 0x10
  · rw [if_pos h10, if_pos h10]
    exact Or.inr ⟨rfl, hanswered .avcSwitchEngage⟩
  · rw [if_neg h10, if_neg h10]
    by_cases h01 : d.get 5 = 0x01
    · rw [if_pos h01, if_pos h01]
      exact Or.inr ⟨rfl, hanswered .avcSwitchDisengage⟩
    · rw [if_neg h01, if_neg h01]
      exact Or.inl ⟨rfl, rfl⟩

lemma funcAvcControlRequest_answers : AnswersFields b content .avcControlRequest d before w
    (after (funcAvcControlRequest b d) w) := by
  have hwork (type : LockControl) : Keeps World.sent (requestWork b d type) :=
    Moves.bind (fun _ => rfl) fun _ => Moves.bind (fun _ => rfl) fun _ =>
      Moves.bind (control_sent _ _) fun _ => control_sent _ _
  have hanswered (type : LockControl) := Replies.answered
    (fun _ : RtErr => replyOperation_replies h) (hwork type) before w
  rw [AnswersFields, after, funcAvcControlRequest, run_bind, run_bind, Buffer.at_run, Buffer.at_run,
    run_ite, run_ite, run_ite, HandlerIndex.getterCalls]
  by_cases hanswer : d.get 5 = 0x10
  · rw [if_pos hanswer, if_pos hanswer]
    by_cases h10 : d.get 6 = 0x10
    · rw [if_pos h10, if_pos h10]
      exact Or.inr ⟨rfl, hanswered .avcSwitchEngage⟩
    · rw [if_neg h10, if_neg h10]
      by_cases h01 : d.get 6 = 0x01
      · rw [if_pos h01, if_pos h01]
        exact Or.inr ⟨rfl, hanswered .avcSwitchDisengage⟩
      · rw [if_neg h01, if_neg h01]
        exact Or.inl ⟨rfl, rfl⟩
  · rw [if_neg hanswer, if_neg hanswer]
    exact Or.inl ⟨rfl, rfl⟩

omit h in
lemma funcYkModifyAddr_sent : Keeps World.sent (funcYkModifyAddr b d) := by
  refine Moves.bind (fun _ => rfl) fun _ => Moves.bind (fun _ => rfl) fun _ =>
    Moves.bind (getConfig_sent _) fun _ => Moves.ite (fun _ => Moves.pure _) fun _ => ?_
  exact Moves.bind (stores_sent.modify_moves trivial) fun _ =>
    Moves.bind (fun _ => rfl) fun _ => Moves.pure _

lemma protocolHandler_answers {i : HandlerIndex} (hi : i ≠ .coldLockModifyAddr) :
    AnswersFields b content i d (w.record content) w (after (protocolHandler b ⟨i, d⟩) w) := by
  have hstate (code : Byte) (type : QueryState) := Replies.answered
    (fun _ : Unit => replyState_replies h code type) (Moves.pure () : Keeps World.sent (pure ()))
    (w.record content) w
  cases i with
  | ykQueryState => exact Or.inr ⟨rfl, hstate 0x01 .ykPortState⟩
  | ykControl => exact Or.inr ⟨rfl, funcYkControl_answered h d _ w⟩
  | ykModifyAddr => exact Or.inl ⟨rfl, funcYkModifyAddr_sent d w⟩
  | ykReportState => exact Or.inr ⟨rfl, hstate 0x04 .ykPortState⟩
  | ykProductionModifySn => exact Or.inr ⟨rfl, funcYkProductionModifySn_answered h d _ w⟩
  | avcQueryState => exact Or.inr ⟨rfl, hstate 0x31 .avcSwitchLedRelayState⟩
  | avcControlCommand => exact funcAvcControlCommand_answers h d _ w
  | avcControlRequest => exact funcAvcControlRequest_answers h d _ w
  | avcModifyAddrType => exact Or.inr ⟨rfl, funcAvcModifyDevice_answered h d _ w⟩
  | avcModifySn => exact Or.inr ⟨rfl, funcAvcModifySn_answered h d _ w⟩
  | avcProductionQuery => exact Or.inr ⟨rfl, hstate 0x31 .avcSwitchLedRelayState⟩
  | coldLockQueryAll => exact Or.inr ⟨rfl, hstate 0x21 .coldLockState⟩
  | coldLockControl => exact Or.inr ⟨rfl, funcColdLockControl_answered h d _ w⟩
  | coldLockModifyTimeout => exact Or.inr ⟨rfl, funcColdLockModifyTimeout_answered h d w⟩
  | coldLockModifyAddr => exact absurd rfl hi
  | coldLockModifySn => exact Or.inl ⟨rfl, rfl⟩
  | coldLockProductionQuery => exact Or.inl ⟨rfl, rfl⟩

end Handlers

end YkLock
