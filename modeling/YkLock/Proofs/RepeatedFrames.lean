import YkLock.Proofs.RelayGear
import YkLock.Proofs.RebootTransparency

/-! A frame that is delivered twice in a row. -/

namespace YkLock

open Library.StatePrograms Library.Storage Library.Runs

variable {D : Type} {b : Board D} {content : D → Image}

structure SameDevice (b : Board D) (content : D → Image) (w w' : World D) : Prop where
  record : w'.record content = w.record content
  cache : w'.cache = w.cache
  info : w'.info = w.info
  set : w'.set = w.set
  installed : w'.installed = w.installed
  filter : w'.filter = w.filter
  pins : ∀ pin, level pin w'.pins = level pin w.pins
  position : b.feedback pinAvcRelayCheck w'.pins = b.feedback pinAvcRelayCheck w.pins

section Records

lemma follow_follow (r : Info) (type : LockType) : (r.follow type).follow type = r.follow type := by
  have htype : LockType.sanitised type.toByte = type := by cases type <;> rfl
  by_cases ht : LockType.sanitised r.devType ≠ type
  · have hfollow : r.follow type = { r with devType := type.toByte } := if_pos ht
    rw [hfollow]
    exact if_neg (not_not.mpr htype)
  · have hfollow : r.follow type = r := if_neg ht
    rw [hfollow, hfollow]

lemma sn_follow (r : Info) (sn : BitVec 24) (type : LockType) :
    { Info.follow { r with sn := sn } type with sn := sn } = Info.follow { r with sn := sn } type := by
  rw [Info.follow]
  split
  · rfl
  · rfl

lemma command_command (i : HandlerIndex) (d : Buffer) (r : Info) :
    (r.command i d).command i d = r.command i d := by
  cases i with
  | ykModifyAddr | coldLockModifyAddr | avcModifyAddrType | avcControlCommand | avcControlRequest =>
    simp only [Info.command]
    split_ifs <;> rfl
  | ykProductionModifySn | avcModifySn =>
    simp only [Info.command, sn_follow, follow_follow]
  | _ => rfl

end Records

section Deliveries

lemma deliver_refused {w : World D} {d : Buffer} (hreset : w.reset = false)
    (hd : w.installed = true → accepted w d = none) :
    ∃ indices, deliver b d w = { w with reads := indices } := by
  obtain ⟨indices, hrun⟩ := rxCb_run_of_refused (b := b) hd
  refine ⟨indices, ?_⟩
  rw [deliver, hrun, afterReset]
  exact if_neg (by rw [hreset]; exact Bool.false_ne_true)

variable {r₀ r : Info} {w : World D} {d : Buffer} {i : HandlerIndex}

lemma same_of_refused {w : World D} {d : Buffer} (hreset : w.reset = false)
    (hd : w.installed = true → accepted w d = none) : SameDevice b content w (deliver b d w) := by
  obtain ⟨indices, hrun⟩ := deliver_refused (b := b) hreset hd
  rw [hrun]
  exact ⟨rfl, rfl, rfl, rfl, rfl, rfl, fun _ => rfl, rfl⟩

lemma same_of_listens {w' : World D} (hw : Listens b content r₀ r w) (hw' : Listens b content r₀ r w')
    (hgear : w'.gear b = w.gear b) : SameDevice b content w w' := by
  obtain ⟨v, hv, hr, hset, hinst, hfilter, -⟩ := hw
  obtain ⟨v', hv', hr', hset', hinst', hfilter', -⟩ := hw'
  have hrecord : v'.record = v.record := hr'.trans hr.symm
  refine ⟨?_, ?_, ?_, ?_, ?_, ?_, fun pin => congrFun (congrArg Gear.level hgear) pin,
    congrArg Gear.closed hgear⟩
  · rw [hv.record, hv'.record, hrecord]
  · rw [hv.cache, hv'.cache, hrecord]
  · rw [hv.info, hv'.info, hrecord]
  · rw [hv.set, hv'.set, hset, hset']
  · rw [hv.installed, hv'.installed, hinst, hinst']
  · rw [hv.filter, hv'.filter, hfilter, hfilter']

def Coherent (b : Board D) (content : D → Image) (w : World D) : Prop :=
  ∃ r₀ r, Listens b content r₀ r w

lemma boot_level (pin : ℕ) (w : World D) : level pin (boot b w).pins = false := by
  rw [boot_pins]
  rfl

section Reliable

variable (h : b.at24cxx.Reliable content)
include h

lemma coherent_stores : Stores b (Preserves (Coherent b content)) fun _ => True where
  get k := by
    rintro w ⟨r₀, r, hw⟩
    have hsynced : w.Synced content := by
      obtain ⟨v, hv, -⟩ := hw
      exact shows_config w hv
    rw [configGet_readable h.read, loaded_of_synced hsynced]
    exact ⟨r₀, r, hw⟩
  modify c _ := fun w ⟨r₀, r, hw⟩ => ⟨r₀, _, listens_configModify h hw c.1 c.2⟩

lemma deliver_coherent (d : Buffer) (w : World D) : Preserves (Coherent b content) w (deliver b d w) := by
  rintro ⟨r₀, r, hw⟩
  by_cases hd : w.installed = true → accepted w d = none
  · obtain ⟨indices, hrun⟩ := deliver_refused (b := b) hw.reset hd
    rw [hrun]
    exact ⟨r₀, r, hw.reads indices⟩
  · obtain ⟨hinst, hsome⟩ := Classical.not_imp.mp hd
    obtain ⟨i, hi⟩ := Option.ne_none_iff_exists'.mp hsome
    exact ⟨_, _, listens_deliver h hw hinst hi⟩

lemma event_coherent (e : Event) (w : World D) : Preserves (Coherent b content) w (event b e w) := by
  cases e with
  | frame rxMsg tail => exact deliver_coherent h _ w
  | cmdModifyDevice type => exact cmdModifyDevice_moves (coherent_stores h) (fun _ _ _ => trivial) w
  | cmdModifyAddr addr => exact cmdModifyAddr_moves (coherent_stores h) (fun _ _ => trivial) w
  | cmdModifySn sn => exact cmdModifySn_moves (coherent_stores h) (fun _ _ => trivial) w

lemma run_ready (as : List Event) (w : World D) : Coherent b content (run (event b) as (boot b w)) ∧
    OpenLow (run (event b) as (boot b w)) := by
  refine run_invariant (I := fun w => Coherent b content w ∧ OpenLow w) (fun e _ v hv => ?_) ⟨?_, ?_⟩
  · exact ⟨event_coherent h e v hv.1,
      event_moves low_handles (fun u _ => boot_level _ u) e v hv.2⟩
  · exact ⟨_, _, listens_boot h rfl⟩
  · exact boot_level _ w

variable {next : Bool → List (ℕ × Bool) → Bool} (hr : DeterministicRelay b next)

omit h in
include hr in
lemma boot_gear (w : World D) : (boot b w).gear b = ⟨fun _ => false, (w.gear b).closed⟩ := by
  refine Gear.ext (funext fun pin => boot_level pin w) ?_
  change b.feedback pinAvcRelayCheck (boot b w).pins = b.feedback pinAvcRelayCheck w.pins
  have hidle (e : PinEvent) (he : e = .reset ∨ ∃ pin m, e = .mode pin m) (log : List PinEvent) :
      b.feedback pinAvcRelayCheck (e :: log) = b.feedback pinAvcRelayCheck log := by
    rcases he with rfl | ⟨pin, m, rfl⟩
    · exact hr.idle _ log (fun _ _ => nofun) fun _ => nofun
    · exact hr.idle _ log (fun _ _ => nofun) fun _ => nofun
  rw [boot_pins, initModes]
  simp only [List.cons_append, List.nil_append]
  rw [hidle _ (Or.inr ⟨_, _, rfl⟩), hidle _ (Or.inr ⟨_, _, rfl⟩), hidle _ (Or.inr ⟨_, _, rfl⟩),
    hidle _ (Or.inr ⟨_, _, rfl⟩), hidle _ (Or.inr ⟨_, _, rfl⟩), hidle _ (Or.inl rfl)]

include hr in
lemma deliver_gear (hw : Listens b content r₀ r w) (hinst : w.installed = true)
    (hi : accepted w d = some i) {f : Gear → Gear}
    (hf : Acts (World.gear b) f (protocolHandler b ⟨i, d⟩)) :
    (deliver b d w).gear b = if i = .ykModifyAddr ∧ d.sn 6 = r.sn then
      ⟨fun _ => false, (f (w.gear b)).closed⟩ else f (w.gear b) := by
  have hrun : ((rxCb b d).run w).2.gear b = f (w.gear b) := by
    rw [rxCb_run_of_accepted hinst hi]
    exact hf _
  obtain ⟨v, hv, rfl, hset, hinst', hfilter, hreset⟩ := hw
  rw [accepted_eq, hv.info, hv.set] at hi
  obtain ⟨s, s', hshows⟩ := rxCb_shows h hv (hv.installed.symm.trans hinst) hi
  have hafter : ((rxCb b d).run w).2.reset = decide (i = .ykModifyAddr ∧ d.sn 6 = v.record.sn) := by
    rw [hshows.reset, View.command, hreset, Bool.false_or]
  rw [deliver, afterReset, hafter]
  by_cases hc : i = .ykModifyAddr ∧ d.sn 6 = v.record.sn
  · rw [if_pos (decide_eq_true hc), if_pos hc, boot_gear hr, hrun]
  · rw [if_neg (by rw [decide_eq_true_iff]; exact hc), if_neg hc, hrun]

include hr in
lemma same_of_repeated {j : HandlerIndex} (hw : Listens b content r₀ r w) (hlow : OpenLow w)
    (hinst : w.installed = true) (hi : accepted w d = some i)
    (hinst' : (deliver b d w).installed = true) (hj : accepted (deliver b d w) d = some j) :
    SameDevice b content (deliver b d w) (deliver b d (deliver b d w)) := by
  have hfirst := listens_deliver h hw hinst hi
  have hji : j = i := funcCode_injective ((listens_code hfirst hj).symm.trans (listens_code hw hi))
  subst hji
  have hsecond := listens_deliver h hfirst hinst' hj
  rw [command_command] at hsecond
  by_cases hc : j = .ykModifyAddr ∧ d.sn 6 = r.sn
  · obtain ⟨rfl, hsn⟩ := hc
    have hc' : HandlerIndex.ykModifyAddr = .ykModifyAddr ∧ d.sn 6 = (r.command .ykModifyAddr d).sn :=
      ⟨rfl, by rw [Info.command, if_pos hsn]; exact hsn⟩
    rw [if_pos ⟨rfl, hsn⟩] at hfirst
    rw [if_pos hc'] at hsecond
    have hquiet : Acts (World.gear b) id (protocolHandler b ⟨.ykModifyAddr, d⟩) :=
      (protocolHandler_quiet hr (fun _ => False.elim) d).acts
    have hgear := deliver_gear h hr hw hinst hi hquiet
    have hgear' := deliver_gear h hr hfirst hinst' hj hquiet
    rw [if_pos ⟨rfl, hsn⟩] at hgear
    rw [if_pos hc', hgear] at hgear'
    exact same_of_listens hfirst hsecond (hgear'.trans hgear.symm)
  · have hc' : ¬ (j = .ykModifyAddr ∧ d.sn 6 = (r.command j d).sn) := by
      rintro ⟨rfl, hsn⟩
      have hne : d.sn 6 ≠ r.sn := fun he => hc ⟨rfl, he⟩
      rw [Info.command, if_neg hne] at hsn
      exact hne hsn
    obtain ⟨f, hf, hagain⟩ := protocolHandler_repeatable hr h j d
    have hgear := deliver_gear h hr hw hinst hi hf
    have hgear' := deliver_gear h hr hfirst hinst' hj hf
    rw [if_neg hc] at hfirst hgear
    rw [if_neg hc', if_neg hc] at hsecond
    rw [if_neg hc'] at hgear'
    refine same_of_listens hfirst hsecond (hgear'.trans ?_)
    rw [hgear]
    exact hagain _ hlow

end Reliable

end Deliveries

theorem delivered_twice (b : Board D) (content : D → Image) (next : Bool → List (ℕ × Bool) → Bool)
    (w : World D) (as : List Event) (d : Buffer) (h : b.at24cxx.Reliable content)
    (hr : DeterministicRelay b next) :
    SameDevice b content (deliver b d (run (event b) as (boot b w)))
      (deliver b d (deliver b d (run (event b) as (boot b w)))) := by
  obtain ⟨⟨r₀, r, hw⟩, hlow⟩ := run_ready h as w
  generalize run (event b) as (boot b w) = v at hw hlow
  obtain ⟨r₁, r', hw'⟩ := deliver_coherent h d v ⟨r₀, r, hw⟩
  by_cases hsecond : (deliver b d v).installed = true → accepted (deliver b d v) d = none
  · exact same_of_refused hw'.reset hsecond
  · obtain ⟨hinst', hsome'⟩ := Classical.not_imp.mp hsecond
    obtain ⟨j, hj⟩ := Option.ne_none_iff_exists'.mp hsome'
    by_cases hfirst : v.installed = true → accepted v d = none
    · obtain ⟨indices, hrun⟩ := deliver_refused (b := b) hw.reset hfirst
      rw [hrun] at hinst' hsome'
      rw [accepted_eq] at hsome'
      exact absurd ((accepted_eq v d).symm.trans (hfirst hinst')) hsome'
    · obtain ⟨hinst, hsome⟩ := Classical.not_imp.mp hfirst
      obtain ⟨i, hi⟩ := Option.ne_none_iff_exists'.mp hsome
      exact same_of_repeated h hr hw hlow hinst hi hinst' hj

def lastCoil (p : Bool) (writes : List (ℕ × Bool)) : Bool :=
  ((writes.find? (·.2)).map fun a => decide (a.1 = pinAvcRelayClose)).getD p

lemma RelayFollows.append (hb : RelayFollows b) (events log : List PinEvent) :
    b.feedback pinAvcRelayCheck (events ++ log) =
      lastCoil (b.feedback pinAvcRelayCheck log) (onCoils (pinWrites events)) := by
  induction events with
  | nil => rfl
  | cons e events ih =>
    by_cases he : CoilEvent e
    · rcases he with rfl | rfl
      · exact hb.close (events ++ log)
      · exact hb.opens (events ++ log)
    · rw [List.cons_append, hb.other _ _ he, ih]
      cases e with
      | write pin v =>
        cases v with
        | false => by_cases hp : pin = pinAvcRelayClose ∨ pin = pinAvcRelayOpen <;>
            simp [pinWrites, onCoils, lastCoil, hp]
        | true =>
          have hp : ¬ (pin = pinAvcRelayClose ∨ pin = pinAvcRelayOpen) := fun hp =>
            he (hp.imp (fun h => by rw [h]) fun h => by rw [h])
          simp [pinWrites, onCoils, hp]
      | mode pin m => rfl
      | read pin v => rfl
      | delay n => rfl
      | reset => rfl

lemma RelayFollows.deterministic (hb : RelayFollows b) : DeterministicRelay b lastCoil where
  command _ _ w events _ := hb.append events w.pins
  repeated p writes := by
    rw [lastCoil, lastCoil]
    cases writes.find? (·.2) with
    | none => rfl
    | some a => rfl
  idle e log hwrite _ := hb.other e log fun he => he.elim (hwrite _ _) (hwrite _ _)

theorem delivered_twice_bench : SameDevice (bench followingRelay) id
    (deliver (bench followingRelay) (agreement 0x01) startedAvc)
    (deliver (bench followingRelay) (agreement 0x01)
      (deliver (bench followingRelay) (agreement 0x01) startedAvc)) :=
  delivered_twice (bench followingRelay) id lastCoil _ [] (agreement 0x01) (bench_reliable _)
    followingRelay_follows.deterministic

end YkLock
