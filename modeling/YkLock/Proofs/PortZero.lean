import YkLock.Proofs.OperationResult
import YkLock.Proofs.MultiWrites

/-! Port 0 waits for, and reports, the relay position, with the relay settling some ticks after a
coil command. -/

namespace YkLock

open Library.StatePrograms

variable {D : Type} {b : Board D}

def AvcRelayState.portCommand : AvcRelayState → LockControl
  | .stateOpen => .ykOpen
  | .stateClose => .ykClose

def elapsed : List PinEvent → ℕ
  | [] => 0
  | .delay n :: events => n + elapsed events
  | _ :: events => elapsed events

def NoCommand (events : List PinEvent) : Prop := ∀ s : AvcRelayState, .write s.coil pinHigh ∉ events

/-- The relay keeps its position for a while after a coil command, and then has the other one. -/
structure RelaySettles (feedback : List PinEvent → Bool) (delay : ℕ) : Prop where
  before : ∀ s : AvcRelayState, ∀ events log, NoCommand events → elapsed events < delay →
    feedback (events ++ .write s.coil pinHigh :: log) = feedback log
  after : ∀ s : AvcRelayState, ∀ events log, NoCommand events → delay ≤ elapsed events →
    feedback (events ++ .write s.coil pinHigh :: log) = s.level

def StopsAt (position : Bool) (n : ℕ) (polls : List Bool) : Prop :=
  (∃ earlier, polls = earlier ++ [position] ∧ position ∉ earlier ∧ earlier.length < n) ∨
    (polls.length = n ∧ position ∉ polls)

def WaitsForPosition (b : Board D) (s : AvcRelayState) (port : Byte) (w : World D) : Prop :=
  ∃ events, ((control b s.portCommand port).run w).2.pins = events ++ w.pins ∧
    StopsAt s.level 50 (relayChecks events)

def stateIndex (i : HandlerIndex) : ℕ := if i = .ykControl then 6 else 9

def SettledReply (b : Board D) (delay : ℕ) (i : HandlerIndex) (d : Buffer) (w : World D)
    (s : AvcRelayState) (reply : List Byte) : Prop :=
  (handled b i d w).sent = reply :: w.sent ∧ ∃ events log,
    (handled b i d w).pins = events ++ .write s.coil pinHigh :: log ∧ NoCommand events ∧
      delay ≤ elapsed events

def ReportsPosition (i : HandlerIndex) (s : AvcRelayState) (reply : List Byte) : Prop :=
  (reply.getD (stateIndex i) 0).getLsbD 4 = ykRealyStateOpen ↔ s = .stateOpen

section Polls

lemma eq_nil_of_not_mem {level : Bool} {l : List Bool} (h : level ∉ l) (h' : (!level) ∉ l) :
    l = [] := by
  apply List.eq_nil_iff_forall_not_mem.mpr
  intro x hx
  rcases Bool.eq_or_eq_not x level with rfl | rfl
  · exact h hx
  · exact h' hx

lemma not_stopsAt_of_not {position : Bool} {n : ℕ} (hn : 2 ≤ n) {polls : List Bool}
    (h : StopsAt (!position) n polls) : ¬ StopsAt position n polls := by
  rintro (⟨earlier, rfl, hnone, -⟩ | ⟨hlen, hnone⟩)
  · rcases h with ⟨earlier', hpolls, -, -⟩ | ⟨hlen, hnone'⟩
    · have hlast := (List.append_inj' hpolls rfl).2
      simp at hlast
    · have hnil := eq_nil_of_not_mem hnone fun hm => hnone' (List.mem_append_left _ hm)
      rw [hnil, List.nil_append, List.length_singleton] at hlen
      omega
  · rcases h with ⟨earlier, rfl, hnone', -⟩ | ⟨hlen', hnone'⟩
    · have hnil := eq_nil_of_not_mem (fun hm => hnone (List.mem_append_left _ hm)) hnone'
      rw [hnil, List.nil_append, List.length_singleton] at hlen
      omega
    · rw [eq_nil_of_not_mem hnone hnone', List.length_nil] at hlen
      omega

lemma StopsAt.cons {position level : Bool} {n : ℕ} {polls : List Bool} (h : StopsAt position n polls)
    (hne : level ≠ position) : StopsAt position (n + 1) (level :: polls) := by
  rcases h with ⟨earlier, rfl, hnone, hlen⟩ | ⟨hlen, hnone⟩
  · refine Or.inl ⟨level :: earlier, rfl, ?_, Nat.succ_lt_succ hlen⟩
    exact List.not_mem_cons_of_ne_of_not_mem hne.symm hnone
  · exact Or.inr ⟨congrArg (· + 1) hlen, List.not_mem_cons_of_ne_of_not_mem hne.symm hnone⟩

lemma ykRelayK0Wait_stops (state : Bool) (n : ℕ) (w : World D) :
    ∃ events, ((ykRelayK0Wait b state n).run w).2.pins = events ++ w.pins ∧
      StopsAt state n (relayChecks events) := by
  induction n generalizing w with
  | zero => exact ⟨[], rfl, Or.inr ⟨rfl, List.not_mem_nil⟩⟩
  | succ n ih =>
    let level : Bool := b.feedback pinAvcRelayCheck w.pins
    let read : PinEvent := .read pinAvcRelayCheck level
    rw [ykRelayK0Wait, run_bind, ykRelayK0State, avcRelayCheck, rtPinRead_run, run_ite]
    by_cases hstate : level ≠ state
    · obtain ⟨events, hpins, hstops⟩ := ih { w with pins := .delay 1 :: read :: w.pins }
      rw [if_pos hstate, run_bind, rtThreadDelay_run]
      refine ⟨events ++ [.delay 1, read], ?_, ?_⟩
      · rw [List.append_assoc]
        exact hpins
      · rw [relayChecks_append]
        exact hstops.cons hstate
    · rw [if_neg hstate]
      refine ⟨[read], rfl, Or.inl ⟨[], ?_, List.not_mem_nil, Nat.succ_pos n⟩⟩
      exact congrArg (fun x => [x]) (not_not.mp hstate)

lemma controlYk_stops {port : Byte} (hport : portBit port 0 = true) (state : Bool)
    {k0 k1 k2 k3 : Fw D Unit} (h0 : Moves Unchecked k0) (h1 : Moves Unchecked k1)
    (h2 : Moves Unchecked k2) (h3 : Moves Unchecked k3) (w : World D) :
    ∃ events, ((controlYk b port state k0 k1 k2 k3).run w).2.pins = events ++ w.pins ∧
      StopsAt state 50 (relayChecks events) := by
  have hrest : Moves Unchecked
      (whenPort port 1 k1 >>= fun _ => whenPort port 2 k2 >>= fun _ => whenPort port 3 k3) :=
    Moves.bind (whenPort_moves fun _ => h1) fun _ =>
      Moves.bind (whenPort_moves fun _ => h2) fun _ => whenPort_moves fun _ => h3
  have hzero : whenPort port 0 (k0 >>= fun _ => ykRelayK0Wait b state 50) =
      k0 >>= fun _ => ykRelayK0Wait b state 50 := if_pos hport
  have hrun : ((controlYk b port state k0 k1 k2 k3).run w).2 =
      ((whenPort port 1 k1 >>= fun _ => whenPort port 2 k2 >>= fun _ => whenPort port 3 k3).run
        ((ykRelayK0Wait b state 50).run (k0.run w).2).2).2 := by
    rw [controlYk, hzero, run_bind, run_bind]
    rfl
  obtain ⟨-, first, hfirst, hnone⟩ := h0 w
  obtain ⟨polls, hpolls, hstops⟩ := ykRelayK0Wait_stops (b := b) state 50 (k0.run w).2
  obtain ⟨-, later, hlater, hnone'⟩ := hrest ((ykRelayK0Wait b state 50).run (k0.run w).2).2
  rw [hrun]
  refine ⟨later ++ (polls ++ first), ?_, ?_⟩
  · rw [hlater, hpolls, hfirst, List.append_assoc, List.append_assoc]
  · rw [relayChecks_append, relayChecks_append, hnone, hnone', List.append_nil, List.nil_append]
    exact hstops

lemma control_stops {port : Byte} (hport : portBit port 0 = true) (s : AvcRelayState) (w : World D) :
    ∃ events, ((control b s.portCommand port).run w).2.pins = events ++ w.pins ∧
      StopsAt (!s.level) 50 (relayChecks events) := by
  have hwrite (pin : ℕ) (level : Bool) : Moves (Unchecked (D := D)) (rtPinWrite pin level) :=
    fun _ => ⟨rfl, [.write pin level], rfl, rfl⟩
  have hpair (ct k : ℕ) (level : Bool) : Moves (Unchecked (D := D)) (ykLinePair ct k level) :=
    Moves.bind (hwrite _ _) fun _ => hwrite _ _
  cases s with
  | stateOpen =>
    refine controlYk_stops hport ykRealyStateOpen ?_ (hpair _ _ _) (hpair _ _ _) (Moves.pure _) w
    exact Moves.bind (hwrite _ _) fun _ => Moves.bind
      (fun _ => ⟨rfl, [.delay timeRelayControl], rfl, rfl⟩) fun _ => hwrite _ _
  | stateClose =>
    refine controlYk_stops hport ykRealyStateClose ?_ (hpair _ _ _) (hpair _ _ _) (Moves.pure _) w
    exact Moves.bind (hwrite _ _) fun _ => hwrite _ _

lemma not_waitsForPosition {port : Byte} (hport : portBit port 0 = true) (s : AvcRelayState)
    (w : World D) : ¬ WaitsForPosition b s port w := by
  rintro ⟨events, hpins, hstops⟩
  obtain ⟨events', hpins', hstops'⟩ := control_stops (b := b) hport s w
  obtain rfl : events = events' := List.append_cancel_right (hpins.symm.trans hpins')
  exact not_stopsAt_of_not (by norm_num) hstops' hstops

end Polls

section Replies

variable {delay : ℕ}

lemma command_behind_read {pin : ℕ} {level : Bool} {pins events log : List PinEvent}
    {s : AvcRelayState} (hnone : NoCommand events)
    (h : .read pin level :: pins = events ++ .write s.coil pinHigh :: log) :
    ∃ events', pins = events' ++ .write s.coil pinHigh :: log ∧ NoCommand events' ∧
      elapsed events' = elapsed events := by
  cases events with
  | nil => cases h
  | cons e events =>
    rw [List.cons_append, List.cons.injEq] at h
    obtain ⟨rfl, hpins⟩ := h
    exact ⟨events, hpins, fun s hm => hnone s (List.mem_cons_of_mem _ hm), rfl⟩

lemma stateByte_bit (k2 k1 k0 input : Bool) : (levelBit false 7 ||| levelBit k2 6 ||| levelBit k1 5 |||
    levelBit k0 4 ||| levelBit input 0).getLsbD 4 = k0 := by
  revert k2 k1 k0 input
  decide

lemma queryState_settled (hb : RelaySettles (b.feedback pinAvcRelayCheck) delay) {s : AvcRelayState}
    {w : World D} {events log : List PinEvent}
    (hpins : ((queryState b .ykPortState).run w).2.pins = events ++ .write s.coil pinHigh :: log)
    (hnone : NoCommand events) (hdelay : delay ≤ elapsed events) :
    (((queryState b .ykPortState).run w).1).getLsbD 4 = s.level := by
  obtain ⟨events', hpins', hnone', helapsed'⟩ := command_behind_read hnone hpins
  obtain ⟨events'', hpins'', hnone'', helapsed''⟩ := command_behind_read hnone' hpins'
  refine (stateByte_bit _ _ _ _).trans ?_
  rw [← hb.after s events'' log hnone'' (hdelay.trans (helapsed''.trans helapsed').ge), ← hpins'']

def RepliesState (b : Board D) (i : HandlerIndex) (w w' : World D) : Prop :=
  ∃ u reply, w'.pins = ((queryState b .ykPortState).run u).2.pins ∧ w'.sent = reply :: w.sent ∧
    reply.getD (stateIndex i) 0 = ((queryState b .ykPortState).run u).1

lemma handled_repliesState {i : HandlerIndex} (hi : i = .ykQueryState ∨ i = .ykControl) (d : Buffer)
    (w : World D) : RepliesState b i w (handled b i d w) := by
  have hparsed : ((protocolParser d).run w).2.sent = w.sent := by rw [protocolParser_run]
  rcases hi with rfl | rfl
  · have hbefore : Keeps World.sent (getAddr b >>= fun _ => getSn b) :=
      Moves.bind (getConfig_sent _) fun _ => getConfig_sent _
    let u : World D := ((getAddr b >>= fun _ => getSn b).run ((protocolParser d).run w).2).2
    have hsent : (handled b .ykQueryState d w).sent =
        _ :: ((queryState b .ykPortState).run u).2.sent := rfl
    have hkept : ((queryState b .ykPortState).run u).2.sent = w.sent :=
      (queryState_sent _ u).trans ((hbefore _).trans hparsed)
    exact ⟨u, _, rfl, hsent.trans (congrArg (List.cons _) hkept), rfl⟩
  · have hcontrol : Keeps World.sent
        (control b (if d.get 6 = 0x00 then .ykClose else .ykOpen) (d.get 5) >>= fun _ => getAddr b) :=
      Moves.bind (control_sent _ _) fun _ => getConfig_sent _
    let v : World D := { ((protocolParser d).run w).2 with
      reads := 6 :: 5 :: ((protocolParser d).run w).2.reads }
    let u : World D := ((control b (if d.get 6 = 0x00 then .ykClose else .ykOpen) (d.get 5) >>=
      fun _ => getAddr b).run v).2
    have hsent : (handled b .ykControl d w).sent =
        _ :: ((queryState b .ykPortState).run u).2.sent := rfl
    have hkept : ((queryState b .ykPortState).run u).2.sent = w.sent :=
      (queryState_sent _ u).trans ((hcontrol v).trans hparsed)
    exact ⟨u, _, rfl, hsent.trans (congrArg (List.cons _) hkept), rfl⟩

lemma settled_reply_bit (hb : RelaySettles (b.feedback pinAvcRelayCheck) delay) {i : HandlerIndex}
    (hi : i = .ykQueryState ∨ i = .ykControl) {d : Buffer} {w : World D} {s : AvcRelayState}
    {reply : List Byte} (hreply : SettledReply b delay i d w s reply) :
    (reply.getD (stateIndex i) 0).getLsbD 4 = s.level := by
  obtain ⟨hsent, events, log, hpins, hnone, hdelay⟩ := hreply
  obtain ⟨u, reply', hpins', hsent', hstate⟩ := handled_repliesState (b := b) hi d w
  obtain rfl : reply = reply' := (List.cons.inj (hsent.symm.trans hsent')).1
  rw [hstate]
  exact queryState_settled hb (hpins'.symm.trans hpins) hnone hdelay

lemma not_reportsPosition {i : HandlerIndex} {s : AvcRelayState} {reply : List Byte}
    (h : (reply.getD (stateIndex i) 0).getLsbD 4 = s.level) : ¬ ReportsPosition i s reply := by
  rw [ReportsPosition, h]
  cases s <;> decide

end Replies

theorem port_zero_untruthful (b : Board D) (delay : ℕ)
    (hb : RelaySettles (b.feedback pinAvcRelayCheck) delay) :
    (∀ s port w, portBit port 0 = true → ¬ WaitsForPosition b s port w) ∧
      ∀ i d w s reply, i = .ykQueryState ∨ i = .ykControl →
        SettledReply b delay i d w s reply → ¬ ReportsPosition i s reply :=
  ⟨fun s _ w hport => not_waitsForPosition hport s w,
    fun _ _ _ _ _ hi hreply => not_reportsPosition (settled_reply_bit hb hi hreply)⟩

def settlingRelay (delay : ℕ) (initial : Bool) (ticks : ℕ) : List PinEvent → Bool
  | [] => initial
  | .delay n :: t => settlingRelay delay initial (ticks + n) t
  | .write pin true :: t =>
    if pin = pinAvcRelayClose then
      if delay ≤ ticks then true else settlingRelay delay initial 0 t
    else if pin = pinAvcRelayOpen then
      if delay ≤ ticks then false else settlingRelay delay initial 0 t
    else settlingRelay delay initial ticks t
  | _ :: t => settlingRelay delay initial ticks t

lemma settlingRelay_command (delay : ℕ) (initial : Bool) (s : AvcRelayState) (log : List PinEvent) :
    ∀ events ticks, NoCommand events →
      settlingRelay delay initial ticks (events ++ .write s.coil pinHigh :: log) =
        if delay ≤ ticks + elapsed events then s.level else settlingRelay delay initial 0 log := by
  intro events
  induction events with
  | nil =>
    intro ticks _
    cases s <;> rfl
  | cons e events ih =>
    intro ticks hnone
    have hnone' : NoCommand events := fun s hm => hnone s (List.mem_cons_of_mem _ hm)
    cases e with
    | delay n =>
      rw [elapsed, ← Nat.add_assoc]
      exact ih (ticks + n) hnone'
    | write pin level =>
      cases level with
      | false => exact ih ticks hnone'
      | true =>
        have hclose : pin ≠ pinAvcRelayClose := by
          rintro rfl
          exact hnone .stateClose List.mem_cons_self
        have hopen : pin ≠ pinAvcRelayOpen := by
          rintro rfl
          exact hnone .stateOpen List.mem_cons_self
        rw [List.cons_append, settlingRelay, if_neg hclose, if_neg hopen]
        exact ih ticks hnone'
    | mode _ _ | read _ _ | reset => exact ih ticks hnone'

lemma settlingRelay_settles (delay : ℕ) (initial : Bool) :
    RelaySettles (settlingRelay delay initial 0) delay where
  before s events log hnone hlt := by
    rw [settlingRelay_command delay initial s log events 0 hnone, Nat.zero_add,
      if_neg (Nat.not_le.mpr hlt)]
  after s events log hnone hle := by
    rw [settlingRelay_command delay initial s log events 0 hnone, Nat.zero_add, if_pos hle]

def settlingBench : Board Image := bench fun _ => settlingRelay 3 false 0

def closingYk : World Image :=
  ((control settlingBench .ykClose 0x01).run (boot settlingBench (powered ⟨0, 0, 5, 5, 0xD6, 1⟩))).2

def closedYk : World Image := { closingYk with pins := .delay 3 :: closingYk.pins }

theorem port_zero_untruthful_bench : ¬ WaitsForPosition settlingBench .stateClose 0x01 startedYk ∧
    ¬ ReportsPosition .ykQueryState .stateClose
      (withCrc [0, 0, 0, 0x06, 0x01, 0xD6, 0x00, 0x00, 0x01, 0x71]) := by
  have hb := port_zero_untruthful settlingBench 3 (settlingRelay_settles 3 false)
  refine ⟨hb.1 _ _ _ (by decide), hb.2 _ grammarQuery closedYk _ _ (Or.inl rfl) ⟨?_, ?_⟩⟩
  · decide +kernel
  · refine ⟨(handled settlingBench .ykQueryState grammarQuery closedYk).pins.take 7,
      (handled settlingBench .ykQueryState grammarQuery closedYk).pins.drop 8, ?_, ?_, ?_⟩
    · decide +kernel
    · intro s
      cases s <;> decide +kernel
    · decide +kernel

theorem port_zero_not_truthful : ¬ ∀ (b : Board Image) (delay : ℕ),
    RelaySettles (b.feedback pinAvcRelayCheck) delay →
      (∀ s port w, portBit port 0 = true → WaitsForPosition b s port w) ∧
        ∀ i d w s reply, i = .ykQueryState ∨ i = .ykControl →
          SettledReply b delay i d w s reply → ReportsPosition i s reply := by
  intro h
  obtain ⟨hwaits, -⟩ := h settlingBench 3 (settlingRelay_settles 3 false)
  exact not_waitsForPosition (by decide) .stateClose startedYk (hwaits .stateClose 0x01 startedYk
    (by decide))

end YkLock
