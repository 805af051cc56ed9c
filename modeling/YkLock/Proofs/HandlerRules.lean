import YkLock.Proofs.ConfigView

/-! One rule for everything a command may do: it writes certain fields and sends certain replies. -/

namespace YkLock

open Library.StatePrograms

variable {D : Type} {b : Board D} {R : World D → World D → Prop} {allowed : ConfigWrite → Prop}
  {codes : Byte → Prop}

structure Reply (body : List Byte) : Prop where
  lower : 7 ≤ body.length
  upper : body.length ≤ 10
  length : (body.getD 3 0).toNat = body.length - 4

structure Commands (b : Board D) (R : World D → World D → Prop) (allowed : ConfigWrite → Prop) :
    Prop extends Stores b R allowed, Wired R where
  reply : ∀ body, Reply body → Moves R (channelWrite (withCrc body))

structure CodedCommands (b : Board D) (R : World D → World D → Prop) (allowed : ConfigWrite → Prop)
    (codes : Byte → Prop) : Prop extends Stores b R allowed, Wired R where
  reply : ∀ body, Reply body → codes (body.getD 4 0) → Moves R (channelWrite (withCrc body))

lemma Commands.coded (hR : Commands b R allowed) : CodedCommands b R allowed fun _ => True where
  toStores := hR.toStores
  toWired := hR.toWired
  reply body hb _ := hR.reply body hb

def Sends (P : List Byte → Prop) (w w' : World D) : Prop :=
  ∃ l, w'.sent = l ++ w.sent ∧ ∀ buff ∈ l, P buff

section Sends

variable {P : List Byte → Prop}

lemma sends_none {w w' : World D} (h : w'.sent = w.sent) : Sends P w w' :=
  ⟨[], h, fun _ hm => (List.not_mem_nil hm).elim⟩

instance : Std.Refl (Sends (D := D) P) := ⟨fun _ => sends_none rfl⟩

instance : IsTrans (World D) (Sends P) where
  trans w w' w'' := by
    rintro ⟨l, hl, hwf⟩ ⟨l', hl', hwf'⟩
    refine ⟨l' ++ l, by rw [hl', hl, List.append_assoc], fun buff hb => ?_⟩
    rcases List.mem_append.mp hb with h | h
    · exact hwf' buff h
    · exact hwf buff h

lemma sends_config : AllowsConfig (Sends (D := D) P) := fun _ _ _ _ => sends_none rfl

lemma channelWrite_sends {buff : List Byte} (hb : P buff) :
    Moves (Sends (D := D) P) (channelWrite buff) :=
  fun _ => ⟨[buff], rfl, fun _ hm => List.mem_singleton.mp hm ▸ hb⟩

lemma sends_commands (hP : ∀ body, Reply body → codes (body.getD 4 0) → P (withCrc body)) :
    CodedCommands b (Sends P) (fun _ => True) codes where
  get := configGet_moves sends_config
  modify c _ := configModify_moves sends_config c.1 c.2
  pinRead _ _ _ := sends_none rfl
  delay _ _ := sends_none rfl
  avcState _ _ := sends_none rfl
  pinWrite _ _ _ := sends_none rfl
  reads _ _ := sends_none rfl
  reset _ := sends_none rfl
  reply body hb hc := channelWrite_sends (hP body hb hc)

end Sends

def HandlerIndex.replyCode : HandlerIndex → Byte
  | .avcControlRequest => 0x35
  | .avcProductionQuery => 0x31
  | i => i.funcCode

def HandlerIndex.Writes (i : HandlerIndex) (d : Buffer) (c : ConfigWrite) : Prop :=
  match i with
  | .ykModifyAddr | .coldLockModifyAddr => c = ⟨.addr, d.get 5⟩
  | .ykProductionModifySn =>
    c = ⟨.sn, (d.sn 6).setWidth 32⟩ ∨ c = ⟨.deviceType, LockType.ykLock.toByte⟩
  | .avcModifySn => c = ⟨.sn, (d.sn 6).setWidth 32⟩ ∨ c = ⟨.deviceType, LockType.avcSwitch.toByte⟩
  | .avcControlCommand | .avcControlRequest => ∃ s : AvcRelayState, c = ⟨.avcSwitchState, s.toByte⟩
  | .avcModifyAddrType => c = ⟨.deviceType, d.get 1⟩ ∨ c = ⟨.addr, d.get 2⟩
  | .coldLockModifyTimeout => c = ⟨.timeoutExec, d.get 5⟩ ∨ c = ⟨.timeoutCmd, d.get 6⟩
  | _ => False

def HandlerIndex.Controls (i : HandlerIndex) (type : LockControl) : Prop :=
  match i with
  | .ykControl => type = .ykOpen ∨ type = .ykClose
  | .avcControlCommand | .avcControlRequest => ∃ s, type.saved = some s
  | .coldLockControl => type = .coldLockPowerOn ∨ type = .coldLockPowerOff
  | _ => False

lemma HandlerIndex.Controls.writes {i : HandlerIndex} {type : LockControl} (h : i.Controls type)
    {s : AvcRelayState} (hs : type.saved = some s) (d : Buffer) :
    i.Writes d ⟨.avcSwitchState, s.toByte⟩ := by
  cases i with
  | ykControl | coldLockControl =>
    rcases h with rfl | rfl
    · cases hs
    · cases hs
  | avcControlCommand | avcControlRequest => exact ⟨s, rfl⟩
  | _ => exact h.elim

structure Handles (b : Board D) (R : World D → World D → Prop) (allowed : ConfigWrite → Prop)
    (codes : Byte → Prop) (controls : LockControl → Prop) : Prop extends Stores b R allowed where
  pinRead : AllowsPinRead R
  reads : AllowsReads R
  reset : ∀ w, R w { w with reset := true }
  reply : ∀ body, Reply body → codes (body.getD 4 0) → Moves R (channelWrite (withCrc body))
  control : ∀ type port, controls type → Moves R (control b type port)

section Pieces

variable {controls : LockControl → Prop} [IsTrans (World D) R]

lemma at_bind_moves {α : Type} (hR : AllowsReads R) {d : Buffer} {i : ℕ} {f : Byte → Fw D α}
    (hf : Moves R (f (d.get i))) : Moves R (d.at i >>= f) :=
  Moves.bind_of_val (at_moves hR d i) (fun _ => rfl) hf

lemma snAt_bind_moves {α : Type} (hR : AllowsReads R) {d : Buffer} {i : ℕ} {f : Word → Fw D α}
    (hf : Moves R (f ((d.sn i).setWidth 32))) : Moves R (d.snAt i >>= f) :=
  Moves.bind_of_val (snAt_moves hR d i) (d.snAt_val i) hf

variable [Std.Refl R]

lemma reply_moves (hR : Handles b R allowed codes controls) (body : List Byte) (hb : Reply body)
    (hc : codes (body.getD 4 0)) : Moves R (channelWrite (withCrc body) >>= fun _ => pure RtErr.eok) :=
  Moves.bind (hR.reply body hb hc) fun _ => Moves.pure _

lemma replyState_moves (hR : Handles b R allowed codes controls) (code : Byte) (hc : codes code)
    (type : QueryState) : Moves R (replyState b code type) := by
  refine Moves.bind (hR.getConfig_moves _) fun _ => Moves.bind (hR.getConfig_moves _) fun _ => ?_
  refine Moves.bind (queryState_moves hR.pinRead _) fun _ => ?_
  exact reply_moves hR _ ⟨by simp, by simp, rfl⟩ hc

lemma replyOperation_moves (hR : Handles b R allowed codes controls) (hc : codes 0x35) :
    Moves R (replyOperation b) := by
  refine Moves.bind (hR.getConfig_moves _) fun _ => Moves.bind (queryState_moves hR.pinRead _) fun _ => ?_
  refine Moves.bind (queryState_moves hR.pinRead _) fun _ => ?_
  exact reply_moves hR _ ⟨by simp, by simp, rfl⟩ hc

lemma CodedCommands.handles (hR : CodedCommands b R allowed codes) : Handles b R allowed codes
    fun type => ∀ s, type.saved = some s → allowed ⟨.avcSwitchState, s.toByte⟩ where
  toStores := hR.toStores
  pinRead := hR.pinRead
  reads := hR.reads
  reset := hR.reset
  reply := hR.reply
  control _ port ha := control_stores hR.toStores hR.toWired ha port

lemma engageAndReply_moves (hR : Handles b R allowed codes controls) (hc : codes 0x35)
    (hk : controls .avcSwitchEngage) : Moves R (engageAndReply b) :=
  Moves.bind (hR.control _ _ hk) fun _ => replyOperation_moves hR hc

end Pieces

section Handlers

variable {controls : LockControl → Prop} [Std.Refl R] [IsTrans (World D) R]
  (hR : Handles b R allowed codes controls) (d : Buffer)
include hR

lemma funcYkControl_moves (hk : controls .ykOpen ∧ controls .ykClose) (hc : codes 0x02) :
    Moves R (funcYkControl b d) := by
  refine at_bind_moves hR.reads (at_bind_moves hR.reads (Moves.bind ?_ fun _ => ?_))
  · split
    · exact hR.control _ _ hk.2
    · exact hR.control _ _ hk.1
  · refine Moves.bind (hR.getConfig_moves _) fun _ => Moves.bind (queryState_moves hR.pinRead _) fun _ => ?_
    exact reply_moves hR _ ⟨by simp, by simp, rfl⟩ hc

lemma funcYkModifyAddr_moves (ha : allowed ⟨.addr, d.get 5⟩) : Moves R (funcYkModifyAddr b d) := by
  refine at_bind_moves hR.reads (snAt_bind_moves hR.reads ?_)
  refine Moves.bind (hR.getConfig_moves _) fun _ => Moves.ite (fun _ => Moves.pure _) fun _ => ?_
  exact Moves.bind (hR.modify_moves ha) fun _ => Moves.bind hR.reset fun _ => Moves.pure _

lemma funcYkProductionModifySn_moves (hsn : allowed ⟨.sn, (d.sn 6).setWidth 32⟩)
    (htype : allowed ⟨.deviceType, LockType.ykLock.toByte⟩) (hc : codes 0x07) :
    Moves R (funcYkProductionModifySn b d) := by
  refine snAt_bind_moves hR.reads (Moves.bind (hR.modify_moves hsn) fun _ => ?_)
  refine Moves.bind (followDevice_stores hR.toStores htype) fun _ => ?_
  exact Moves.bind (hR.getConfig_moves _) fun _ => reply_moves hR _ ⟨by simp, by simp, rfl⟩ hc

lemma funcAvcControlCommand_moves (hc : codes 0x35)
    (hk : controls .avcSwitchEngage ∧ controls .avcSwitchDisengage) :
    Moves R (funcAvcControlCommand b d) := by
  refine at_bind_moves hR.reads (Moves.ite (fun _ => ?_) fun _ =>
    Moves.ite (fun _ => ?_) fun _ => Moves.pure _)
  · exact Moves.bind (hR.control _ _ hk.1) fun _ => replyOperation_moves hR hc
  · exact Moves.bind (hR.control _ _ hk.2) fun _ => replyOperation_moves hR hc

lemma funcAvcControlRequest_moves (hc : codes 0x35)
    (hk : controls .avcSwitchEngage ∧ controls .avcSwitchDisengage) :
    Moves R (funcAvcControlRequest b d) := by
  refine at_bind_moves hR.reads (at_bind_moves hR.reads ?_)
  refine Moves.ite (fun _ => Moves.ite (fun _ => ?_) fun _ => Moves.ite (fun _ => ?_) fun _ =>
    Moves.pure _) fun _ => Moves.pure _
  · exact Moves.bind (hR.control _ _ hk.1) fun _ => engageAndReply_moves hR hc hk.1
  · exact Moves.bind (hR.control _ _ hk.2) fun _ => engageAndReply_moves hR hc hk.1

lemma replyDevice_moves (hc : codes 0x33) (result : RtErr) : Moves R (do
    let device ← getDevice b
    let addr ← getAddr b
    channelWrite (withCrc
      [0, 0, 0, 0x04, 0x33, device.toByte, addr, if result = .eok then 0x10 else 0x01])
    return RtErr.eok) := by
  refine Moves.bind (Moves.bind (hR.getConfig_moves _) fun _ => Moves.pure _) fun _ => ?_
  exact Moves.bind (hR.getConfig_moves _) fun _ => reply_moves hR _ ⟨by simp, by simp, rfl⟩ hc

lemma funcAvcModifyDevice_moves (htype : allowed ⟨.deviceType, d.get 1⟩)
    (haddr : allowed ⟨.addr, d.get 2⟩) (hc : codes 0x33) : Moves R (funcAvcModifyDevice b d) := by
  refine at_bind_moves hR.reads (at_bind_moves hR.reads (snAt_bind_moves hR.reads ?_))
  refine Moves.bind (hR.getConfig_moves _) fun _ => Moves.bind ?_ (replyDevice_moves hR hc)
  exact Moves.ite (fun _ => modifyDeviceAndAddr_stores hR.toStores htype haddr) fun _ => Moves.pure _

lemma funcAvcModifySn_moves (hsn : allowed ⟨.sn, (d.sn 6).setWidth 32⟩)
    (htype : allowed ⟨.deviceType, LockType.avcSwitch.toByte⟩) (hc : codes 0x37) :
    Moves R (funcAvcModifySn b d) := by
  refine snAt_bind_moves hR.reads (Moves.bind (hR.modify_moves hsn) fun _ => ?_)
  refine Moves.bind (followDevice_stores hR.toStores htype) fun _ => ?_
  refine Moves.bind (hR.getConfig_moves _) fun _ => Moves.bind (hR.getConfig_moves _) fun _ => ?_
  exact reply_moves hR _ ⟨by simp, by simp, rfl⟩ hc

lemma funcColdLockControl_moves (hk : controls .coldLockPowerOn ∧ controls .coldLockPowerOff)
    (hc : codes 0x25) : Moves R (funcColdLockControl b d) := by
  refine at_bind_moves hR.reads (Moves.bind ?_ fun _ => replyState_moves hR _ hc _)
  exact Moves.ite (fun _ => hR.control _ _ hk.2) fun _ =>
    Moves.ite (fun _ => hR.control _ _ hk.1) fun _ => Moves.pure _

lemma funcColdLockModifyTimeout_moves (hexec : allowed ⟨.timeoutExec, d.get 5⟩)
    (hcmd : allowed ⟨.timeoutCmd, d.get 6⟩) (hc : codes 0x2A) : Moves R (funcColdLockModifyTimeout b d) := by
  refine Moves.bind (hR.getConfig_moves _) fun _ => Moves.bind (hR.getConfig_moves _) fun _ => ?_
  refine at_bind_moves hR.reads (Moves.bind (hR.modify_moves hexec) fun _ => ?_)
  refine at_bind_moves hR.reads (Moves.bind (hR.modify_moves hcmd) fun _ => ?_)
  refine Moves.bind (hR.getConfig_moves _) fun _ => Moves.bind (hR.getConfig_moves _) fun _ => ?_
  exact Moves.bind (hR.getConfig_moves _) fun _ => reply_moves hR _ ⟨by simp, by simp, rfl⟩ hc

lemma funcColdLockModifyAddr_moves (ha : allowed ⟨.addr, d.get 5⟩) (hc : codes 0x23) :
    Moves R (funcColdLockModifyAddr b d) := by
  refine at_bind_moves hR.reads (snAt_bind_moves hR.reads ?_)
  refine Moves.bind (hR.getConfig_moves _) fun _ => Moves.bind (Moves.ite (fun _ => ?_) fun _ =>
    Moves.pure _) fun _ => ?_
  · exact hR.modify_moves ha
  · refine Moves.bind (hR.getConfig_moves _) fun _ => Moves.bind (queryState_moves hR.pinRead _) fun _ => ?_
    exact reply_moves hR _ ⟨by simp, by simp, rfl⟩ hc

theorem protocolHandler_handles (i : HandlerIndex) (ha : ∀ c, i.Writes d c → allowed c)
    (hk : ∀ type, i.Controls type → controls type) (hc : codes i.replyCode) :
    Moves R (protocolHandler b ⟨i, d⟩) := by
  cases i with
  | ykQueryState => exact replyState_moves hR _ hc _
  | ykControl => exact funcYkControl_moves hR d ⟨hk _ (Or.inl rfl), hk _ (Or.inr rfl)⟩ hc
  | ykModifyAddr => exact funcYkModifyAddr_moves hR d (ha _ rfl)
  | ykReportState => exact replyState_moves hR _ hc _
  | ykProductionModifySn =>
    exact funcYkProductionModifySn_moves hR d (ha _ (Or.inl rfl)) (ha _ (Or.inr rfl)) hc
  | avcQueryState => exact replyState_moves hR _ hc _
  | avcControlCommand =>
    exact funcAvcControlCommand_moves hR d hc ⟨hk _ ⟨_, rfl⟩, hk _ ⟨_, rfl⟩⟩
  | avcControlRequest =>
    exact funcAvcControlRequest_moves hR d hc ⟨hk _ ⟨_, rfl⟩, hk _ ⟨_, rfl⟩⟩
  | avcModifyAddrType =>
    exact funcAvcModifyDevice_moves hR d (ha _ (Or.inl rfl)) (ha _ (Or.inr rfl)) hc
  | avcModifySn => exact funcAvcModifySn_moves hR d (ha _ (Or.inl rfl)) (ha _ (Or.inr rfl)) hc
  | avcProductionQuery => exact replyState_moves hR _ hc _
  | coldLockQueryAll => exact replyState_moves hR _ hc _
  | coldLockControl => exact funcColdLockControl_moves hR d ⟨hk _ (Or.inl rfl), hk _ (Or.inr rfl)⟩ hc
  | coldLockModifyTimeout =>
    exact funcColdLockModifyTimeout_moves hR d (ha _ (Or.inl rfl)) (ha _ (Or.inr rfl)) hc
  | coldLockModifyAddr => exact funcColdLockModifyAddr_moves hR d (ha _ rfl) hc
  | coldLockModifySn => exact Moves.pure _
  | coldLockProductionQuery => exact Moves.pure _

end Handlers

theorem protocolHandler_coded [Std.Refl R] [IsTrans (World D) R]
    (hR : CodedCommands b R allowed codes) (d : Buffer) (i : HandlerIndex)
    (ha : ∀ c, i.Writes d c → allowed c) (hc : codes i.replyCode) :
    Moves R (protocolHandler b ⟨i, d⟩) :=
  protocolHandler_handles hR.handles d i ha (fun _ hk _ hs => ha _ (hk.writes hs d)) hc

theorem protocolHandler_moves [Std.Refl R] [IsTrans (World D) R] (hR : Commands b R allowed)
    (d : Buffer) (i : HandlerIndex) (ha : ∀ c, i.Writes d c → allowed c) :
    Moves R (protocolHandler b ⟨i, d⟩) := protocolHandler_coded hR.coded d i ha trivial

section Shell

variable [Std.Refl R] [IsTrans (World D) R] (hs : Stores b R allowed)
include hs

lemma cmdModifyDevice_moves {type : Option Word}
    (ha : ∀ t, type = some t → t.toNat < 5 → allowed ⟨.deviceType, t.setWidth 8⟩) :
    Moves R (cmdModifyDevice b type) := by
  cases type with
  | none => exact Moves.pure _
  | some t =>
    refine Moves.ite (fun ht => ?_) fun _ => Moves.pure _
    exact Moves.bind (hs.modify_moves (ha t rfl ht)) fun _ => Moves.pure _

lemma cmdModifyAddr_moves {addr : Option Word}
    (ha : ∀ x, addr = some x → allowed ⟨.addr, x.setWidth 8⟩) : Moves R (cmdModifyAddr b addr) := by
  cases addr with
  | none => exact Moves.pure _
  | some x => exact Moves.bind (hs.modify_moves (ha x rfl)) fun _ => Moves.pure _

lemma cmdModifySn_moves {sn : Option Word} (ha : ∀ x, sn = some x → allowed ⟨.sn, x⟩) :
    Moves R (cmdModifySn b sn) := by
  cases sn with
  | none => exact Moves.pure _
  | some x => exact Moves.bind (hs.modify_moves (ha x rfl)) fun _ => Moves.pure _

end Shell

section Device

variable [Std.Refl R] [IsTrans (World D) R]

lemma Commands.handles (hR : Commands b R fun _ => True) :
    Handles b R (fun _ => True) (fun _ => True) fun _ => True where
  toStores := hR.toStores
  pinRead := hR.pinRead
  reads := hR.reads
  reset := hR.reset
  reply body hb _ := hR.reply body hb
  control _ port _ := control_stores hR.toStores hR.toWired (fun _ _ => trivial) port

variable (hR : Handles b R (fun _ => True) (fun _ => True) fun _ => True)
include hR

lemma rxCb_moves (d : Buffer) : Moves R (rxCb b d) := by
  have hparser : Moves R (protocolParser d) := by
    intro w
    rw [protocolParser_run]
    exact hR.reads w _
  refine Moves.ite (fun _ => Moves.pure _) fun _ => Moves.bind Moves.get fun _ => ?_
  refine Moves.ite (fun _ => Moves.pure _) fun _ => Moves.bind hparser fun p => ?_
  cases p with
  | none => exact Moves.pure _
  | some data =>
    exact protocolHandler_handles hR _ _ (fun _ _ => trivial) (fun _ _ => trivial) trivial

lemma event_moves (hboot : ∀ w, R w (boot b w)) (e : Event) (w : World D) : R w (event b e w) := by
  cases e with
  | frame rxMsg tail =>
    rw [event, deliver, afterReset]
    split
    · exact IsTrans.trans _ _ _ (rxCb_moves hR _ w) (hboot _)
    · exact rxCb_moves hR _ w
  | cmdModifyDevice type => exact cmdModifyDevice_moves hR.toStores (fun _ _ _ => trivial) w
  | cmdModifyAddr addr => exact cmdModifyAddr_moves hR.toStores (fun _ _ => trivial) w
  | cmdModifySn sn => exact cmdModifySn_moves hR.toStores (fun _ _ => trivial) w

end Device

end YkLock
