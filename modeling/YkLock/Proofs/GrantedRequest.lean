import YkLock.Proofs.ReliableTransfers
import YkLock.Proofs.FrameGrammar

/-! A granted button request next to the direct relay command. -/

namespace YkLock

open Library.Storage Library.StatePrograms

variable {D : Type}

def CoilEvent (e : PinEvent) : Prop :=
  e = .write pinAvcRelayClose true ∨ e = .write pinAvcRelayOpen true

structure RelayFollows (b : Board D) : Prop where
  close : ∀ t, b.feedback pinAvcRelayCheck (.write pinAvcRelayClose true :: t) = true
  opens : ∀ t, b.feedback pinAvcRelayCheck (.write pinAvcRelayOpen true :: t) = false
  other : ∀ e t, ¬ CoilEvent e →
    b.feedback pinAvcRelayCheck (e :: t) = b.feedback pinAvcRelayCheck t

def RelayStuck (b : Board D) : Prop :=
  ∀ e t, b.feedback pinAvcRelayCheck (e :: t) = b.feedback pinAvcRelayCheck t

structure RelayView where
  pins : List PinEvent
  avcState : AvcState
  saved : Byte
  addr : Byte
  sent : List (List Byte)

def World.relayView (content : D → Image) (w : World D) : RelayView where
  pins := w.pins
  avcState := w.avcState
  saved := (w.record content).avcRelayState
  addr := (w.record content).addr
  sent := w.sent

namespace RelayView

variable (b : Board D)

def closed (v : RelayView) : Bool := b.feedback pinAvcRelayCheck v.pins

def check (v : RelayView) : RelayView :=
  { v with pins := .read pinAvcRelayCheck (v.closed b) :: v.pins }

def pulse (pin : ℕ) (v : RelayView) : RelayView :=
  { v with pins :=
      .write pin pinLow :: .delay timeRelayControl :: .write pin pinHigh :: v.pins }

def finish (s : AvcRelayState) (isAction isSet : Bool) (v : RelayView) : RelayView :=
  { v with avcState := ⟨isAction, isSet, true⟩, saved := s.toByte }

def operate (s : AvcRelayState) (pin : ℕ) (v : RelayView) : RelayView :=
  if v.closed b = s.level then (v.check b).finish s false true
  else
    let v := (v.check b).pulse pin
    let ok := decide (v.closed b = s.level)
    (v.check b).finish s ok ok

def engage (v : RelayView) : RelayView := v.operate b .stateClose pinAvcRelayClose

def disengage (v : RelayView) : RelayView := v.operate b .stateOpen pinAvcRelayOpen

def report (v : RelayView) : List Byte :=
  withCrc [0, 0, 0, 0x05, 0x35, 0x03, v.addr, if v.closed b = true then 0x10 else 0x01,
    levelBit v.avcState.isSet 4 ||| levelBit v.avcState.isSave 1 |||
      levelBit v.avcState.isAction 0]

def reply (v : RelayView) : RelayView := { v.check b with sent := v.report b :: v.sent }

end RelayView

section Reliable

variable {b : Board D} {content : D → Image} (h : b.at24cxx.Reliable content)
include h

lemma save_view (s : AvcRelayState) (w : World D) :
    ((avcRelayStateSave b s).run w).2.relayView content =
      { w.relayView content with saved := s.toByte } := by
  rw [avcRelayStateSave_reliable h]
  by_cases hs : (w.record content).avcRelayState = s.toByte
  · rw [if_pos hs, ← hs]
    rfl
  · have hr := record_stored h ((w.record content).set .avcSwitchState s.toByte) (w.loaded content)
    simp only [if_neg hs, World.relayView, hr]
    rfl

lemma result_view (s : AvcRelayState) (isAction isSet : Bool) (w : World D) :
    ((avcRelayStateSave b s >>= setSave).run ((setResult isAction isSet).run w).2).2.relayView
      content = (w.relayView content).finish s isAction isSet := by
  have hsave := save_view h s ((setResult isAction isSet).run w).2
  have hok : ((avcRelayStateSave b s).run ((setResult isAction isSet).run w).2).1 = .eok := by
    rw [avcRelayStateSave_reliable h]
  generalize hr : (avcRelayStateSave b s).run ((setResult isAction isSet).run w).2 = r at hsave hok
  obtain ⟨result, w'⟩ := r
  simp only [World.relayView, RelayView.mk.injEq] at hsave
  obtain ⟨hpins, havc, hsaved, haddr, hsent⟩ := hsave
  obtain rfl : result = .eok := hok
  rw [run_bind, hr]
  change RelayView.mk w'.pins ⟨w'.avcState.isAction, w'.avcState.isSet, true⟩
    (w'.record content).avcRelayState (w'.record content).addr w'.sent = _
  rw [hpins, havc, hsaved, haddr, hsent]
  rfl

lemma operate_view (s : AvcRelayState) (pin : ℕ) (w : World D) :
    ((controlAvcSwitch b s (avcRelayControl pin timeRelayControl)).run w).2.relayView content =
      (w.relayView content).operate b s pin := by
  have hrun (isAction isSet : Bool) (w : World D) :=
    result_view h s isAction isSet w
  rw [controlAvcSwitch, run_bind, run_ite, RelayView.operate]
  by_cases hs : (w.relayView content).closed b = s.level
  · rw [if_pos hs, if_pos (show ((avcRelayCheck b).run w).1 = s.level from hs)]
    exact hrun false true ((avcRelayCheck b).run w).2
  · rw [if_neg hs, if_neg (show ¬ ((avcRelayCheck b).run w).1 = s.level from hs)]
    set v := ((w.relayView content).check b).pulse pin with hv
    simp only [run_bind, run_ite]
    set w' := ((avcRelayControl pin timeRelayControl).run ((avcRelayCheck b).run w).2).2 with hw'
    have hview : ((avcRelayCheck b).run w').2.relayView content = v.check b := rfl
    by_cases hc : v.closed b = s.level
    · rw [if_pos (show ((avcRelayCheck b).run w').1 = s.level from hc), decide_eq_true hc, ← hview]
      exact hrun true true _
    · rw [if_neg (show ¬ ((avcRelayCheck b).run w').1 = s.level from hc), decide_eq_false hc, ← hview]
      exact hrun false false _

lemma reply_view (w : World D) : ((replyOperation b).run w).2.relayView content =
    (w.relayView content).reply b := by
  simp [replyOperation, getAddr, getConfig_readable h.read]
  rfl

lemma engage_view (w : World D) : ((control b .avcSwitchEngage 0).run w).2.relayView content =
    (w.relayView content).engage b := operate_view h .stateClose pinAvcRelayClose w

lemma disengage_view (w : World D) :
    ((control b .avcSwitchDisengage 0).run w).2.relayView content =
      (w.relayView content).disengage b := operate_view h .stateOpen pinAvcRelayOpen w

lemma command_view {d : Buffer} (w : World D) (hd : d.get 5 = 0x10 ∨ d.get 5 = 0x01) :
    ((funcAvcControlCommand b d).run w).2.relayView content =
      if d.get 5 = 0x10 then ((w.relayView content).engage b).reply b
      else ((w.relayView content).disengage b).reply b := by
  rw [funcAvcControlCommand, run_bind, Buffer.at_run, run_ite]
  by_cases h5 : d.get 5 = 0x10
  · rw [if_pos h5, if_pos h5, run_bind, reply_view h, engage_view h]
    rfl
  · rw [if_neg h5, if_neg h5, run_ite, if_pos (hd.resolve_left h5), run_bind, reply_view h,
      disengage_view h]
    rfl

lemma request_view {d : Buffer} (w : World D) (ha : d.get 5 = 0x10)
    (hd : d.get 6 = 0x10 ∨ d.get 6 = 0x01) :
    ((funcAvcControlRequest b d).run w).2.relayView content =
      if d.get 6 = 0x10 then (((w.relayView content).engage b).engage b).reply b
      else (((w.relayView content).disengage b).engage b).reply b := by
  rw [funcAvcControlRequest, run_bind, Buffer.at_run, run_bind, Buffer.at_run, run_ite, if_pos ha,
    run_ite]
  by_cases h6 : d.get 6 = 0x10
  · rw [if_pos h6, if_pos h6, run_bind, engageAndReply, run_bind, reply_view h, engage_view h,
      engage_view h]
    rfl
  · rw [if_neg h6, if_neg h6, run_ite, if_pos (hd.resolve_left h6), run_bind, engageAndReply,
      run_bind, reply_view h, engage_view h, disengage_view h]
    rfl

end Reliable

def pinWrites (t : List PinEvent) : List (ℕ × Bool) :=
  t.filterMap fun e => match e with
    | .write pin v => some (pin, v)
    | _ => none

structure SameOutcome (b : Board D) (content : D → Image) (w w' : World D) : Prop where
  position : b.feedback pinAvcRelayCheck w.pins = b.feedback pinAvcRelayCheck w'.pins
  writes : pinWrites w.pins = pinWrites w'.pins
  saved : (w.record content).avcRelayState = (w'.record content).avcRelayState
  avcState : w.avcState = w'.avcState
  sent : w.sent = w'.sent

structure RelayView.Same (b : Board D) (v v' : RelayView) : Prop where
  position : v.closed b = v'.closed b
  writes : pinWrites v.pins = pinWrites v'.pins
  saved : v.saved = v'.saved
  avcState : v.avcState = v'.avcState
  sent : v.sent = v'.sent

lemma sameOutcome_iff (b : Board D) (content : D → Image) (w w' : World D) :
    SameOutcome b content w w' ↔ (w.relayView content).Same b (w'.relayView content) :=
  ⟨fun ⟨h1, h2, h3, h4, h5⟩ => ⟨h1, h2, h3, h4, h5⟩, fun ⟨h1, h2, h3, h4, h5⟩ => ⟨h1, h2, h3, h4, h5⟩⟩

namespace RelayView

variable {b : Board D}

@[simp] lemma saved_operate (s : AvcRelayState) (pin : ℕ) (v : RelayView) :
    (v.operate b s pin).saved = s.toByte := by
  rw [operate]
  split <;> rfl

@[simp] lemma sent_operate (s : AvcRelayState) (pin : ℕ) (v : RelayView) :
    (v.operate b s pin).sent = v.sent := by
  rw [operate]
  split <;> rfl

@[simp] lemma addr_operate (s : AvcRelayState) (pin : ℕ) (v : RelayView) :
    (v.operate b s pin).addr = v.addr := by
  rw [operate]
  split <;> rfl

lemma closed_check (hb : RelayFollows b ∨ RelayStuck b) (v : RelayView) :
    (v.check b).closed b = v.closed b := by
  rcases hb with hb | hb
  · exact hb.other _ _ (by simp [CoilEvent])
  · exact hb _ _

lemma operate_of_level {s : AvcRelayState} {v : RelayView} (hv : v.closed b = s.level) (pin : ℕ) :
    v.operate b s pin = (v.check b).finish s false true := if_pos hv

lemma operate_of_ne_level (hb : RelayFollows b ∨ RelayStuck b) {s : AvcRelayState} {v : RelayView}
    (hv : v.closed b ≠ s.level) (pin : ℕ) :
    pinWrites (v.operate b s pin).pins = (pin, false) :: (pin, true) :: pinWrites v.pins ∧
      (v.operate b s pin).avcState.isAction = decide ((v.operate b s pin).closed b = s.level) := by
  rw [operate, if_neg hv]
  refine ⟨rfl, ?_⟩
  change decide _ = decide ((((v.check b).pulse pin).check b).closed b = s.level)
  rw [closed_check hb]

lemma operate_twice_iff (hb : RelayFollows b ∨ RelayStuck b) (s : AvcRelayState) (pin : ℕ)
    (v : RelayView) : (((v.operate b s pin).operate b s pin).reply b).Same b
      ((v.operate b s pin).reply b) ↔ v.closed b = s.level := by
  constructor
  · intro hsame
    by_contra hv
    have hwrites : pinWrites ((v.operate b s pin).operate b s pin).pins =
      pinWrites (v.operate b s pin).pins := hsame.writes
    have havc : ((v.operate b s pin).operate b s pin).avcState = (v.operate b s pin).avcState :=
      hsame.avcState
    by_cases hw : (v.operate b s pin).closed b = s.level
    · have hact := (operate_of_ne_level hb hv pin).2
      rw [decide_eq_true hw, ← havc, operate_of_level hw] at hact
      exact absurd hact (by simp [finish])
    · have hlen := congrArg List.length hwrites
      rw [(operate_of_ne_level hb hw pin).1] at hlen
      simp only [List.length_cons] at hlen
      omega
  · intro hv
    have h1 : v.operate b s pin = (v.check b).finish s false true := operate_of_level hv pin
    have hw : (v.operate b s pin).closed b = s.level := by
      rw [h1]
      exact (closed_check hb v).trans hv
    have h2 := operate_of_level hw pin
    have hc : ((v.operate b s pin).operate b s pin).closed b = (v.operate b s pin).closed b := by
      rw [h2]
      exact closed_check hb _
    have havc : ((v.operate b s pin).operate b s pin).avcState = (v.operate b s pin).avcState := by
      rw [h2, h1]
      rfl
    refine ⟨?_, ?_, by simp [reply, check], havc, ?_⟩
    · exact (closed_check hb _).trans (hc.trans (closed_check hb _).symm)
    · rw [h2]
      rfl
    · simp [reply, report, hc, havc]

end RelayView

lemma relayView_reads (content : D → Image) (w : World D) (reads : List ℕ) :
    World.relayView content { w with reads := reads } = w.relayView content := rfl

lemma protocolHandler_request (b : Board D) (d : Buffer) :
    protocolHandler b ⟨.avcControlRequest, d⟩ = funcAvcControlRequest b d := rfl

lemma protocolHandler_command (b : Board D) (d : Buffer) :
    protocolHandler b ⟨.avcControlCommand, d⟩ = funcAvcControlCommand b d := rfl

theorem granted_request_iff (b : Board D) (content : D → Image) (w : World D) (d32 d35 : Buffer)
    (h : b.at24cxx.Reliable content) (hrelay : RelayFollows b ∨ RelayStuck b)
    (hw : w.installed = true) (h32 : accepted w d32 = some .avcControlRequest)
    (h35 : accepted w d35 = some .avcControlCommand) (hanswer : d32.get 5 = 0x10)
    (hopt : d32.get 6 = d35.get 5) (hd : d35.get 5 = 0x10 ∨ d35.get 5 = 0x01) :
    SameOutcome b content ((rxCb b d32).run w).2 ((rxCb b d35).run w).2 ↔
      d35.get 5 = 0x10 ∧ b.feedback pinAvcRelayCheck w.pins = true := by
  have hrun32 := request_view h { w with reads := parserReads d32 ++ w.reads } hanswer (by rwa [hopt])
  have hrun35 := command_view h { w with reads := parserReads d35 ++ w.reads } hd
  rw [sameOutcome_iff, rxCb_run_of_accepted hw h32, rxCb_run_of_accepted hw h35,
    protocolHandler_request, protocolHandler_command, hrun32, hrun35, hopt, relayView_reads,
    relayView_reads]
  by_cases h5 : d35.get 5 = 0x10
  · rw [if_pos h5, if_pos h5]
    exact (RelayView.operate_twice_iff hrelay _ _ _).trans (and_iff_right h5).symm
  · rw [if_neg h5, if_neg h5]
    refine iff_of_false (fun hsame => ?_) fun hh => h5 hh.1
    have hsaved := hsame.saved
    simp [RelayView.reply, RelayView.check, RelayView.engage, RelayView.disengage,
      AvcRelayState.toByte] at hsaved

lemma followingRelay_follows : RelayFollows (bench followingRelay) where
  close _ := rfl
  opens _ := rfl
  other e t he := by
    have hpin (pin : ℕ) : followingRelay pin t = followingRelay 0 t := by
      cases t with
      | nil => rfl
      | cons e t => rcases e with _ | ⟨_, _ | _⟩ | _ | _ | _ <;> rfl
    change followingRelay pinAvcRelayCheck (e :: t) = followingRelay pinAvcRelayCheck t
    rw [hpin]
    cases e with
    | write pin v =>
      cases v with
      | false => rfl
      | true =>
        have hclose : pin ≠ pinAvcRelayClose := fun hp => he (Or.inl (by rw [hp]))
        have hopen : pin ≠ pinAvcRelayOpen := fun hp => he (Or.inr (by rw [hp]))
        simp [followingRelay, hclose, hopen]
    | mode pin m => rfl
    | read pin v => rfl
    | delay n => rfl
    | reset => rfl

def agreement (opt : Byte) : Buffer :=
  ⟨withCrc [0x19, 0x00, 0x01, 0x03, 0x32, 0x10, opt], fun _ => 0⟩

def directCommand (opt : Byte) : Buffer :=
  ⟨withCrc [0x19, 0x00, 0x01, 0x02, 0x35, opt], fun _ => 0⟩

def closedAvc : World Image := deliver (bench followingRelay) (directCommand 0x10) startedAvc

theorem granted_request_closed : SameOutcome (bench followingRelay) id
    ((rxCb (bench followingRelay) (agreement 0x10)).run closedAvc).2
    ((rxCb (bench followingRelay) (directCommand 0x10)).run closedAvc).2 :=
  (granted_request_iff _ id closedAvc (agreement 0x10) (directCommand 0x10) (bench_reliable _)
    (Or.inl followingRelay_follows) (by decide +kernel) (by decide +kernel) (by decide +kernel)
    (by decide) (by decide) (by decide)).mpr (by decide +kernel)

theorem granted_request_fails :
    ¬ ∀ (b : Board Image) (content : Image → Image) (w : World Image) (d32 d35 : Buffer),
      b.at24cxx.Reliable content → RelayFollows b ∨ RelayStuck b → w.installed = true →
      accepted w d32 = some .avcControlRequest → accepted w d35 = some .avcControlCommand →
      d32.get 5 = 0x10 → d32.get 6 = d35.get 5 → d35.get 5 = 0x10 ∨ d35.get 5 = 0x01 →
      SameOutcome b content ((rxCb b d32).run w).2 ((rxCb b d35).run w).2 := by
  intro h
  have hsame := h (bench followingRelay) id startedAvc (agreement 0x01) (directCommand 0x01)
    (bench_reliable _) (Or.inl followingRelay_follows) (by decide +kernel) (by decide +kernel)
    (by decide +kernel) (by decide) (by decide) (by decide)
  exact absurd hsame.position (by decide +kernel)

end YkLock
