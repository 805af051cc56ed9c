import YkLock.Proofs.GrantedRequest
import YkLock.Proofs.CoilInterlock
import YkLock.Proofs.HandlerRules

/-! How the handlers change the levels of the output pins and the position of the relay. -/

namespace YkLock

open Library.StatePrograms Library.Storage Library.Records

variable {D : Type} {b : Board D} {content : D → Image}

def onCoils (writes : List (ℕ × Bool)) : List (ℕ × Bool) :=
  writes.filter fun a => a.1 = pinAvcRelayClose ∨ a.1 = pinAvcRelayOpen

/-- What a call of `control` does to the position depends on the position and on the coil writes of
the call only, and writing the same again does nothing more. The firmware's other work between the
calls leaves the position. -/
structure DeterministicRelay (b : Board D) (next : Bool → List (ℕ × Bool) → Bool) : Prop where
  command : ∀ type port w events, ((control b type port).run w).2.pins = events ++ w.pins →
    b.feedback pinAvcRelayCheck (events ++ w.pins) =
      next (b.feedback pinAvcRelayCheck w.pins) (onCoils (pinWrites events))
  repeated : ∀ p writes, next (next p writes) writes = next p writes
  idle : ∀ e log, (∀ pin v, e ≠ .write pin v) → (∀ n, e ≠ .delay n) →
    b.feedback pinAvcRelayCheck (e :: log) = b.feedback pinAvcRelayCheck log

@[ext]
structure Gear where
  level : ℕ → Bool
  closed : Bool

def World.gear (b : Board D) (w : World D) : Gear :=
  ⟨fun pin => level pin w.pins, b.feedback pinAvcRelayCheck w.pins⟩

def AvcRelayState.pulse (s : AvcRelayState) : List (ℕ × Bool) := [(s.coil, false), (s.coil, true)]

namespace Gear

variable (next : Bool → List (ℕ × Bool) → Bool)

def drive (writes : List (ℕ × Bool)) (g : Gear) : Gear :=
  ⟨written writes g.level, next g.closed (onCoils writes)⟩

def switch (s : AvcRelayState) (g : Gear) : Gear :=
  if g.closed = s.level then g else g.drive next s.pulse

end Gear

section Levels

lemma level_append {events : List PinEvent} (h : .reset ∉ events) (log : List PinEvent) :
    (fun pin => level pin (events ++ log)) = written (pinWrites events) fun pin => level pin log := by
  induction events with
  | nil => rfl
  | cons e events ih =>
    have ih := ih fun hm => h (List.mem_cons_of_mem _ hm)
    cases e with
    | write p v =>
      funext pin
      change (if p = pin then v else level pin (events ++ log)) =
        Function.update (written (pinWrites events) fun pin => level pin log) p v pin
      rw [← ih, Function.update_apply]
      simp only [eq_comm]
    | mode p m => exact ih
    | read p v => exact ih
    | delay n => exact ih
    | reset => exact absurd List.mem_cons_self h

end Levels

section Writes

def Wrote (writes : List (ℕ × Bool)) (w w' : World D) : Prop :=
  ∃ events, w'.pins = events ++ w.pins ∧ pinWrites events = writes ∧ .reset ∉ events

lemma Wrote.trans {writes writes' : List (ℕ × Bool)} {w w' w'' : World D} (h : Wrote writes w w')
    (h' : Wrote writes' w' w'') : Wrote (writes' ++ writes) w w'' := by
  obtain ⟨events, hp, rfl, hr⟩ := h
  obtain ⟨later, hp', rfl, hr'⟩ := h'
  refine ⟨later ++ events, by rw [hp', hp, List.append_assoc], List.filterMap_append, fun hm => ?_⟩
  exact (List.mem_append.mp hm).elim hr' hr

lemma wrote_nothing {w w' : World D} (h : w'.pins = w.pins) : Wrote [] w w' :=
  ⟨[], h, rfl, List.not_mem_nil⟩

instance : Std.Refl (Wrote (D := D) []) := ⟨fun _ => wrote_nothing rfl⟩

instance : IsTrans (World D) (Wrote []) := ⟨fun _ _ _ => Wrote.trans⟩

def Drives {α : Type} (m : Fw D α) : Prop := ∃ writes, Moves (Wrote writes) m

lemma drives_pure {α : Type} (a : α) : Drives (pure a : Fw D α) := ⟨[], Moves.pure a⟩

lemma Drives.seq {α : Type} {m : Fw D Unit} {n : Fw D α} (hm : Drives m) (hn : Drives n) :
    Drives (m >>= fun _ => n) := by
  obtain ⟨writes, hm⟩ := hm
  obtain ⟨writes', hn⟩ := hn
  exact ⟨writes' ++ writes, fun w => (hm w).trans (hn _)⟩

lemma rtPinWrite_drives (pin : ℕ) (v : Bool) : Drives (D := D) (rtPinWrite pin v) :=
  ⟨[(pin, v)], fun _ => ⟨[.write pin v], rfl, rfl, by simp⟩⟩

lemma avcRelayControl_drives (pin t : ℕ) : Drives (D := D) (avcRelayControl pin t) :=
  (rtPinWrite_drives pin _).seq (Drives.seq ⟨[], fun _ => ⟨[.delay t], rfl, rfl, by simp⟩⟩
    (rtPinWrite_drives pin _))

lemma ykLinePair_drives (ct k : ℕ) (v : Bool) : Drives (D := D) (ykLinePair ct k v) :=
  (rtPinWrite_drives ct v).seq (rtPinWrite_drives k _)

lemma ykRelayK0Wait_drives (state : Bool) (n : ℕ) : Drives (ykRelayK0Wait b state n) :=
  ⟨[], ykRelayK0Wait_moves (fun _ pin v => ⟨[.read pin v], rfl, rfl, by simp⟩)
    (fun _ n => ⟨[.delay n], rfl, rfl, by simp⟩) state n⟩

lemma whenPort_drives {port : Byte} {k : ℕ} {m : Fw D Unit} (hm : Drives m) :
    Drives (whenPort port k m) := by
  rw [whenPort]
  split
  · exact hm
  · exact drives_pure _

lemma controlYk_drives (port : Byte) (state : Bool) {k0 k1 k2 k3 : Fw D Unit} (h0 : Drives k0)
    (h1 : Drives k1) (h2 : Drives k2) (h3 : Drives k3) :
    Drives (controlYk b port state k0 k1 k2 k3) :=
  (whenPort_drives (h0.seq (ykRelayK0Wait_drives state 50))).seq <|
    (whenPort_drives h1).seq ((whenPort_drives h2).seq (whenPort_drives h3))

lemma control_drives {type : LockControl} (htype : type = .ykOpen ∨ type = .ykClose) (port : Byte) :
    Drives (control b type port) := by
  refine Drives.seq ?_ (drives_pure _)
  rcases htype with rfl | rfl
  · exact controlYk_drives port _ (avcRelayControl_drives _ _) (ykLinePair_drives _ _ _)
      (ykLinePair_drives _ _ _) (drives_pure _)
  · exact controlYk_drives port _ ((rtPinWrite_drives _ _).seq (rtPinWrite_drives _ _))
      (ykLinePair_drives _ _ _) (ykLinePair_drives _ _ _) (drives_pure _)

end Writes

section Turns

variable {next : Bool → List (ℕ × Bool) → Bool} (hr : DeterministicRelay b next)
include hr

lemma Wrote.gear {type : LockControl} {port : Byte} {w : World D} {writes : List (ℕ × Bool)}
    (h : Wrote writes w ((control b type port).run w).2) :
    ((control b type port).run w).2.gear b = (w.gear b).drive next writes := by
  obtain ⟨events, hp, rfl, hreset⟩ := h
  rw [World.gear, hp]
  exact Gear.ext (level_append hreset w.pins) (hr.command type port w events hp)

lemma drive_drive (writes : List (ℕ × Bool)) (g : Gear) :
    (g.drive next writes).drive next writes = g.drive next writes :=
  Gear.ext (written_written writes g.level) (hr.repeated _ _)

lemma switch_switch (s : AvcRelayState) (g : Gear) :
    (g.switch next s).switch next s = g.switch next s := by
  by_cases hg : g.closed = s.level
  · have hkeep : g.switch next s = g := if_pos hg
    rw [hkeep, hkeep]
  · have hdrive : g.switch next s = g.drive next s.pulse := if_neg hg
    rw [hdrive, Gear.switch]
    split
    · rfl
    · exact drive_drive hr _ g

end Turns

section Request

variable {next : Bool → List (ℕ × Bool) → Bool}

lemma drive_open {g : Gear} (hg : g.level pinAvcRelayOpen = false) :
    g.drive next AvcRelayState.stateOpen.pulse = ⟨g.level, next g.closed AvcRelayState.stateOpen.pulse⟩ := by
  refine Gear.ext (funext fun pin => ?_) rfl
  change written _ g.level pin = g.level pin
  rw [written_apply]
  by_cases hp : pinAvcRelayOpen = pin
  · subst hp
    simp [AvcRelayState.pulse, AvcRelayState.coil, hg]
  · simp [AvcRelayState.pulse, AvcRelayState.coil, hp]

def Gear.reopen (next : Bool → List (ℕ × Bool) → Bool) (g : Gear) : Gear :=
  (g.switch next .stateOpen).switch next .stateClose

lemma reopen_of_stuck {g : Gear} (hg : g.level pinAvcRelayOpen = false) (hclosed : g.closed = true)
    (hstuck : next true AvcRelayState.stateOpen.pulse = true) : g.reopen next = g := by
  have hopen : g.switch next .stateOpen = g := by
    rw [Gear.switch, if_neg (by rw [hclosed]; decide), drive_open hg, hclosed, hstuck, ← hclosed]
  rw [Gear.reopen, hopen]
  exact if_pos hclosed

lemma reopen_of_moving {g : Gear} (hg : g.level pinAvcRelayOpen = false)
    (hmoving : ¬ (g.closed = true ∧ next true AvcRelayState.stateOpen.pulse = true)) :
    g.reopen next = Gear.drive next AvcRelayState.stateClose.pulse ⟨g.level, false⟩ := by
  have hopen : g.switch next .stateOpen = ⟨g.level, false⟩ := by
    cases hclosed : g.closed with
    | false => exact (if_pos hclosed).trans (Gear.ext rfl hclosed)
    | true =>
      have hopens : next true AvcRelayState.stateOpen.pulse = false :=
        Bool.eq_false_of_not_eq_true fun hstuck => hmoving ⟨hclosed, hstuck⟩
      rw [Gear.switch, if_neg (by rw [hclosed]; decide), drive_open hg, hclosed, hopens]
  rw [Gear.reopen, hopen]
  exact if_neg Bool.false_ne_true

lemma reopen_reopen {g : Gear} (hg : g.level pinAvcRelayOpen = false) :
    (g.reopen next).reopen next = g.reopen next := by
  by_cases hstuck : g.closed = true ∧ next true AvcRelayState.stateOpen.pulse = true
  · rw [reopen_of_stuck hg hstuck.1 hstuck.2, reopen_of_stuck hg hstuck.1 hstuck.2]
  · have hfirst := reopen_of_moving hg hstuck
    have hlow : (g.reopen next).level pinAvcRelayOpen = false := by
      rw [hfirst]
      exact hg
    by_cases hstuck' : (g.reopen next).closed = true ∧ next true AvcRelayState.stateOpen.pulse = true
    · exact reopen_of_stuck hlow hstuck'.1 hstuck'.2
    · rw [reopen_of_moving hlow hstuck', hfirst]
      exact Gear.ext (written_written _ _) rfl

end Request

section Handlers

variable {next : Bool → List (ℕ × Bool) → Bool}

def Repeatable {α : Type} (b : Board D) (m : Fw D α) : Prop :=
  ∃ f : Gear → Gear, Acts (World.gear b) f m ∧
    ∀ g, g.level pinAvcRelayOpen = false → f (f g) = f g

lemma Repeatable.of_keeps {α : Type} {m : Fw D α} (hm : Keeps (World.gear b) m) : Repeatable b m :=
  ⟨id, hm.acts, fun _ _ => rfl⟩

lemma Repeatable.ite {α : Type} {c : Prop} [Decidable c] {m n : Fw D α} (hm : c → Repeatable b m)
    (hn : ¬ c → Repeatable b n) : Repeatable b (if c then m else n) := by
  split
  · exact hm ‹_›
  · exact hn ‹_›

lemma at_repeatable {α : Type} {d : Buffer} {i : ℕ} {f : Byte → Fw D α}
    (hf : Repeatable b (f (d.get i))) : Repeatable b (d.at i >>= f) := by
  obtain ⟨turn, hturn, hsame⟩ := hf
  exact ⟨turn, fun w => hturn { w with reads := i :: w.reads }, hsame⟩

variable (hr : DeterministicRelay b next)
include hr

lemma pinRead_gear : AllowsPinRead (Same (World.gear b)) := fun w pin v =>
  Gear.ext rfl (hr.idle (.read pin v) w.pins (fun _ _ => nofun) fun _ => nofun)

lemma quiet_handles : Handles b (Same (World.gear b)) (fun _ => True) (fun _ => True)
    fun type => type = .coldLockPowerOn ∨ type = .coldLockPowerOff where
  toStores := AllowsConfig.stores fun _ _ _ _ => rfl
  pinRead := pinRead_gear hr
  reads _ _ := rfl
  reset _ := rfl
  reply _ _ _ _ := rfl
  control type _ htype := by
    rcases htype with rfl | rfl
    · exact Moves.pure _
    · exact Moves.pure _

lemma replyOperation_gear : Keeps (World.gear b) (replyOperation b) :=
  replyOperation_moves (quiet_handles hr) trivial

lemma control_acts (h : b.at24cxx.Reliable content) (s : AvcRelayState) :
    Acts (World.gear b) (Gear.switch next s) (control b s.request 0) := by
  intro w
  have hpins : ((control b s.request 0).run w).2.pins =
      ((w.relayView content).operate b s s.coil).pins := by
    cases s with
    | stateOpen => exact congrArg RelayView.pins (disengage_view h w)
    | stateClose => exact congrArg RelayView.pins (engage_view h w)
  rw [RelayView.operate] at hpins
  by_cases hs : (w.relayView content).closed b = s.level
  · have hkeep : (w.gear b).switch next s = w.gear b := if_pos hs
    rw [if_pos hs] at hpins
    rw [hkeep, World.gear, hpins]
    exact pinRead_gear hr w _ _
  · have hdrive : (w.gear b).switch next s = (w.gear b).drive next s.pulse := if_neg hs
    rw [if_neg hs] at hpins
    rw [hdrive]
    exact Wrote.gear hr ⟨[_, .write s.coil pinLow, .delay timeRelayControl, .write s.coil pinHigh, _],
      hpins, rfl, by simp⟩

lemma funcAvcControlCommand_repeatable (h : b.at24cxx.Reliable content) (d : Buffer) :
    Repeatable b (funcAvcControlCommand b d) := by
  have hswitch (s : AvcRelayState) :
      Repeatable b (control b s.request 0 >>= fun _ => replyOperation b) :=
    ⟨Gear.switch next s, (control_acts hr h s).tail fun _ => replyOperation_gear hr,
      fun g _ => switch_switch hr s g⟩
  exact at_repeatable (.ite (fun _ => hswitch .stateClose) fun _ =>
    .ite (fun _ => hswitch .stateOpen) fun _ => .of_keeps (Moves.pure _))

lemma funcYkControl_repeatable (d : Buffer) : Repeatable b (funcYkControl b d) := by
  have htype : (if d.get 6 = 0x00 then LockControl.ykClose else .ykOpen) = .ykOpen ∨
      (if d.get 6 = 0x00 then LockControl.ykClose else .ykOpen) = .ykClose := by
    split
    · exact Or.inr rfl
    · exact Or.inl rfl
  obtain ⟨writes, hwrites⟩ := control_drives (b := b) htype (d.get 5)
  have hcontrol : Acts (World.gear b) (Gear.drive next writes)
      (control b (if d.get 6 = 0x00 then .ykClose else .ykOpen) (d.get 5)) :=
    fun w => (hwrites w).gear hr
  have htail : Keeps (World.gear b) (do
      let addr ← getAddr b
      let state ← queryState b .ykPortState
      channelWrite (withCrc [0, 0, 0, 0x03, 0x02, addr, state])
      return RtErr.eok) :=
    Moves.bind (getConfig_moves (fun _ _ _ _ => rfl) _) fun _ =>
      Moves.bind (queryState_moves (pinRead_gear hr) _) fun _ =>
        Moves.bind (fun _ => rfl) fun _ => Moves.pure _
  exact at_repeatable (at_repeatable ⟨Gear.drive next writes, hcontrol.tail fun _ => htail,
    fun g _ => drive_drive hr writes g⟩)

lemma funcAvcControlRequest_repeatable (h : b.at24cxx.Reliable content) (d : Buffer) :
    Repeatable b (funcAvcControlRequest b d) := by
  have hengage := control_acts hr h .stateClose
  have hquiet : Repeatable b (pure RtErr.error : Fw D RtErr) := .of_keeps (Moves.pure _)
  have hafter : Acts (World.gear b) (Gear.switch next .stateClose) (engageAndReply b) :=
    hengage.tail fun _ => replyOperation_gear hr
  refine at_repeatable (at_repeatable (.ite (fun _ => .ite (fun _ => ?_) fun _ =>
    .ite (fun _ => ?_) fun _ => hquiet) fun _ => hquiet))
  · refine ⟨_, hengage.bind fun _ => hafter, fun g _ => ?_⟩
    simp only [Function.comp_apply, switch_switch hr]
  · exact ⟨_, (control_acts hr h .stateOpen).bind fun _ => hafter, fun _ => reopen_reopen⟩

lemma protocolHandler_quiet {i : HandlerIndex}
    (hi : ∀ type, i.Controls type → type = .coldLockPowerOn ∨ type = .coldLockPowerOff) (d : Buffer) :
    Keeps (World.gear b) (protocolHandler b ⟨i, d⟩) :=
  protocolHandler_handles (quiet_handles hr) d i (fun _ _ => trivial) hi trivial

lemma protocolHandler_repeatable (h : b.at24cxx.Reliable content) (i : HandlerIndex) (d : Buffer) :
    Repeatable b (protocolHandler b ⟨i, d⟩) := by
  by_cases hcontrol : ∀ type, i.Controls type → type = .coldLockPowerOn ∨ type = .coldLockPowerOff
  · exact .of_keeps (protocolHandler_quiet hr hcontrol d)
  · cases i with
    | ykControl => exact funcYkControl_repeatable hr d
    | avcControlCommand => exact funcAvcControlCommand_repeatable hr h d
    | avcControlRequest => exact funcAvcControlRequest_repeatable hr h d
    | coldLockControl => exact absurd (fun _ => id) hcontrol
    | _ => exact absurd (fun _ => False.elim) hcontrol

end Handlers

section Low

def OpenLow (w : World D) : Prop := level pinAvcRelayOpen w.pins = false

lemma rtPinWrite_low {pin : ℕ} {v : Bool} (h : pin ≠ pinAvcRelayOpen ∨ v = false) :
    Moves (Preserves (OpenLow (D := D))) (rtPinWrite pin v) := by
  intro w hw
  change (if pin = pinAvcRelayOpen then v else level pinAvcRelayOpen w.pins) = false
  split
  · exact h.resolve_left (not_not.mpr ‹_›)
  · exact hw

lemma quiet_low : Quiet (Preserves (OpenLow (D := D))) where
  config _ _ _ _ := id
  pinRead _ _ _ := id
  delay _ _ := id
  avcState _ _ := id

lemma control_low (type : LockControl) (port : Byte) :
    Moves (Preserves OpenLow) (control b type port) := by
  have hq := quiet_low (D := D)
  have hpair (ct k : ℕ) (hct : ct ≠ pinAvcRelayOpen) (hk : k ≠ pinAvcRelayOpen) (v : Bool) :
      Moves (Preserves (OpenLow (D := D))) (ykLinePair ct k v) :=
    Moves.bind (rtPinWrite_low (Or.inl hct)) fun _ => rtPinWrite_low (Or.inl hk)
  have hpulse (s : AvcRelayState) :
      Moves (Preserves (OpenLow (D := D))) (avcRelayControl s.coil timeRelayControl) := by
    intro w hw
    cases s with
    | stateOpen => rfl
    | stateClose => exact hw
  have hclose : Moves (Preserves (OpenLow (D := D))) ykRelayK0Close :=
    Moves.bind (rtPinWrite_low (Or.inl (by decide))) fun _ => rtPinWrite_low (Or.inr rfl)
  refine Moves.bind ?_ fun _ => Moves.pure _
  cases type with
  | ykOpen =>
    exact controlYk_moves hq.pinRead hq.delay (fun _ => hpulse .stateOpen)
      (hpair _ _ (by decide) (by decide) _) (hpair _ _ (by decide) (by decide) _) (Moves.pure _)
  | ykClose =>
    exact controlYk_moves hq.pinRead hq.delay (fun _ => hclose)
      (hpair _ _ (by decide) (by decide) _) (hpair _ _ (by decide) (by decide) _) (Moves.pure _)
  | avcSwitchEngage => exact controlAvcSwitch_moves hq _ (hpulse .stateClose)
  | avcSwitchDisengage => exact controlAvcSwitch_moves hq _ (hpulse .stateOpen)
  | coldLockPowerOn => exact Moves.pure _
  | coldLockPowerOff => exact Moves.pure _

lemma low_handles :
    Handles b (Preserves (OpenLow (D := D))) (fun _ => True) (fun _ => True) fun _ => True where
  toStores := quiet_low.config.stores
  pinRead := quiet_low.pinRead
  reads _ _ := id
  reset _ := id
  reply _ _ _ _ := id
  control type port _ := control_low type port

end Low

end YkLock
