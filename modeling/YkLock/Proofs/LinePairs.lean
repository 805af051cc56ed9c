import YkLock.Proofs.DeviceSteps
import YkLock.Library.Runs
import YkLock.Model.Bench

/-! The line pairs of ports 1 and 2 over runs of port commands. -/

namespace YkLock

open Library.StatePrograms Library.Runs

variable {D : Type} {b : Board D}

def isOutput (pin : ℕ) : List PinEvent → Bool
  | [] => false
  | .mode p m :: t => if p = pin then decide (m = .output) else isOutput pin t
  | .reset :: _ => false
  | _ :: t => isOutput pin t

def driven (pin : ℕ) : List PinEvent → Option Bool
  | [] => none
  | .write p v :: t => if p = pin ∧ isOutput pin t = true then some v else driven pin t
  | .mode p m :: t => if p = pin ∧ m ≠ .output then none else driven pin t
  | .reset :: _ => none
  | _ :: t => driven pin t

abbrev Ports := ℕ → Option Bool

def opens (d : Buffer) : Bool := decide (d.get 6 ≠ 0x00)

def addresses (d : Buffer) (k : ℕ) : Prop := portBit (d.get 5) k = true

instance (d : Buffer) (k : ℕ) : Decidable (addresses d k) := inferInstanceAs (Decidable (_ = _))

def command (d : Buffer) (ports : Ports) : Ports :=
  fun k => if addresses d k then some (opens d) else ports k

def told (ds : List Buffer) : Ports := run command ds fun _ => none

def pinCt (k : ℕ) : ℕ := if k = 1 then pinAvcCt1 else pinAvcCt2

def pinK (k : ℕ) : ℕ := if k = 1 then pinAvcK1 else pinAvcK2

def PairsFollow (ds : List Buffer) (pins : List PinEvent) : Prop :=
  ∀ k, k = 1 ∨ k = 2 → ∀ o, told ds k = some o →
    driven (pinCt k) pins = some o ∧ driven (pinK k) pins = some (!o)

section Lines

def lines (w : World D) : List (Bool × Option Bool) :=
  [pinAvcCt1, pinAvcK1, pinAvcCt2, pinAvcK2].map fun p => (isOutput p w.pins, driven p w.pins)

def lineLevels (ports : Ports) : List (Bool × Option Bool) :=
  [(true, ports 1), (true, (ports 1).map (!·)), (true, ports 2), (false, none)]

abbrev linesAndState (w : World D) : List (Bool × Option Bool) × Bool × List HandlerIndexTable × Bool :=
  (lines w, w.reset, w.set, w.installed)

structure Lined (ports : Ports) (w : World D) : Prop where
  lines : lines w = lineLevels ports
  reset : w.reset = false
  installed : w.set ≠ [] → w.installed = true

lemma Lined.of_same {ports : Ports} {w w' : World D} (hw : Lined ports w)
    (h : Same linesAndState w w') : Lined ports w' := by
  simp only [Same, Prod.mk.injEq] at h
  obtain ⟨hl, hr, hs, hi⟩ := h
  exact ⟨hl.trans hw.lines, hr.trans hw.reset, by rw [hs, hi]; exact hw.installed⟩

lemma lined_of_keeps {ports : Ports} {α : Type} {m : Fw D α} (hm : Keeps linesAndState m) :
    Triple (Lined ports) m fun _ => Lined ports := hm.triple fun _ _ => Lined.of_same

lemma keeps_write {pin : ℕ} (hp : pin ∉ [pinAvcCt1, pinAvcK1, pinAvcCt2, pinAvcK2]) (v : Bool) :
    Keeps (linesAndState (D := D)) (rtPinWrite pin v) := by
  intro w
  simp only [List.mem_cons, not_or] at hp
  obtain ⟨h1, h2, h3, h4, -⟩ := hp
  simp [Same, linesAndState, lines, isOutput, driven, h1, h2, h3, h4]

lemma Lined.congr {ports ports' : Ports} {w : World D} (hw : Lined ports w)
    (h1 : ports' 1 = ports 1) (h2 : ports' 2 = ports 2) : Lined ports' w :=
  ⟨by rw [hw.lines, lineLevels, lineLevels, h1, h2], hw.reset, hw.installed⟩

lemma linePair_one (level : Bool) (ports : Ports) :
    Triple (Lined (D := D) ports) (ykLinePair pinAvcCt1 pinAvcK1 level)
      fun _ => Lined (Function.update ports 1 (some level)) := by
  rintro w ⟨hl, hr, hi⟩
  simp only [lines, lineLevels, List.map_cons, List.map_nil, List.cons.injEq, Prod.mk.injEq] at hl
  obtain ⟨⟨h1, -⟩, ⟨h2, -⟩, ⟨h3, h3'⟩, ⟨h4, h4'⟩, -⟩ := hl
  refine ⟨?_, hr, hi⟩
  have hne : pinAvcK1 ≠ pinAvcCt1 ∧ pinAvcCt1 ≠ pinAvcCt2 ∧ pinAvcK1 ≠ pinAvcCt2 ∧
      pinAvcCt1 ≠ pinAvcK2 ∧ pinAvcK1 ≠ pinAvcK2 := by decide
  simp [ykLinePair, lines, lineLevels, isOutput, driven, h1, h2, h3, h3', h4, h4', hne]

lemma linePair_two (level : Bool) (ports : Ports) :
    Triple (Lined (D := D) ports) (ykLinePair pinAvcCt2 pinAvcK2 level)
      fun _ => Lined (Function.update ports 2 (some level)) := by
  rintro w ⟨hl, hr, hi⟩
  simp only [lines, lineLevels, List.map_cons, List.map_nil, List.cons.injEq, Prod.mk.injEq] at hl
  obtain ⟨⟨h1, h1'⟩, ⟨h2, h2'⟩, ⟨h3, -⟩, ⟨h4, h4'⟩, -⟩ := hl
  refine ⟨?_, hr, hi⟩
  have hne : pinAvcCt2 ≠ pinAvcCt1 ∧ pinAvcK2 ≠ pinAvcCt1 ∧ pinAvcCt2 ≠ pinAvcK1 ∧
      pinAvcK2 ≠ pinAvcK1 ∧ pinAvcK2 ≠ pinAvcCt2 ∧ pinAvcCt2 ≠ pinAvcK2 := by decide
  simp [ykLinePair, lines, lineLevels, isOutput, driven, h1, h1', h2, h2', h3, h4, h4', hne]

lemma whenPort_lined {port : Byte} {k : ℕ} {level : Bool} {ct pin : ℕ} (ports : Ports)
    (hpair : Triple (Lined (D := D) ports) (ykLinePair ct pin level)
      fun _ => Lined (Function.update ports k (some level))) :
    Triple (Lined (D := D) ports) (whenPort port k (ykLinePair ct pin level))
      fun _ => Lined (if portBit port k = true then Function.update ports k (some level) else ports) := by
  refine Triple.ite (fun hp => ?_) fun hp => ?_
  · rw [if_pos hp]
    exact hpair
  · rw [if_neg hp]
    exact Triple.pure fun _ hw => hw

lemma controlYk_lined (port : Byte) (state level : Bool) {k0 k3 : Fw D Unit}
    (h0 : Keeps linesAndState k0) (h3 : Keeps linesAndState k3) (ports : Ports) :
    Triple (Lined ports) (controlYk b port state k0 (ykLinePair pinAvcCt1 pinAvcK1 level)
      (ykLinePair pinAvcCt2 pinAvcK2 level) k3)
      fun _ => Lined fun k => if portBit port k = true then some level else ports k := by
  have hwait : Keeps linesAndState (ykRelayK0Wait b state 50) :=
    ykRelayK0Wait_moves (fun _ _ _ => rfl) (fun _ _ => rfl) state 50
  refine (lined_of_keeps (whenPort_moves fun _ => Moves.bind h0 fun _ => hwait)).bind fun _ => ?_
  refine (whenPort_lined ports (linePair_one level ports)).bind fun _ => ?_
  refine (whenPort_lined _ (linePair_two level _)).bind fun _ => ?_
  refine (lined_of_keeps (whenPort_moves fun _ => h3)).mono fun _ w hw => hw.congr ?_ ?_
  · by_cases h1 : portBit port 1 = true <;> by_cases h2 : portBit port 2 = true <;> simp [h1, h2]
  · by_cases h1 : portBit port 1 = true <;> by_cases h2 : portBit port 2 = true <;> simp [h1, h2]

lemma funcYkControl_lined (d : Buffer) (ports : Ports) :
    Triple (Lined ports) (funcYkControl b d) fun _ => Lined (command d ports) := by
  have hat (i : ℕ) : Returns (Lined (D := D) ports) (d.at i) (d.get i) (Lined ports) :=
    fun w hw => ⟨rfl, hw.lines, hw.reset, hw.installed⟩
  have hopen : pinAvcRelayOpen ∉ [pinAvcCt1, pinAvcK1, pinAvcCt2, pinAvcK2] := by decide
  have hclose : pinAvcRelayClose ∉ [pinAvcCt1, pinAvcK1, pinAvcCt2, pinAvcK2] := by decide
  have hcontrol : Triple (Lined ports)
      (control b (if d.get 6 = 0x00 then .ykClose else .ykOpen) (d.get 5))
      fun _ => Lined (command d ports) := by
    by_cases hopt : d.get 6 = 0x00
    · have hcommand : command d ports =
          fun k => if portBit (d.get 5) k = true then some false else ports k := by
        funext k
        simp [command, addresses, opens, hopt]
      rw [if_pos hopt, hcommand]
      refine (controlYk_lined _ _ pinLow ?_ (Moves.pure _) ports).bind fun _ => Triple.pure fun _ h => h
      exact Moves.bind (keeps_write hclose _) fun _ => keeps_write hopen _
    · have hcommand : command d ports =
          fun k => if portBit (d.get 5) k = true then some true else ports k := by
        funext k
        have ho : opens d = true := decide_eq_true hopt
        simp [command, addresses, ho]
      rw [if_neg hopt, hcommand]
      refine (controlYk_lined _ _ pinHigh ?_ (Moves.pure _) ports).bind fun _ => Triple.pure fun _ h => h
      exact Moves.bind (keeps_write hopen _) fun _ => Moves.bind (fun _ => rfl) fun _ =>
        keeps_write hopen _
  refine (hat 5).bind ((hat 6).bind (hcontrol.bind fun _ => lined_of_keeps ?_))
  refine Moves.bind (getConfig_moves (fun _ _ _ _ => rfl) _) fun _ => ?_
  refine Moves.bind (queryState_moves (fun _ _ _ => rfl) _) fun _ => ?_
  exact Moves.bind (fun _ => rfl) fun _ => Moves.pure _

lemma deliver_lined {d : Buffer} {ports : Ports} {w : World D} (hw : Lined ports w)
    (hd : accepted w d = some .ykControl) : Lined (command d ports) (deliver b d w) := by
  have hset : w.set ≠ [] := by
    intro hnil
    rw [accepted_eq, hnil, parse_nil] at hd
    cases hd
  have hparsed : Lined ports { w with reads := parserReads d ++ w.reads } :=
    ⟨hw.lines, hw.reset, hw.installed⟩
  have hrun := funcYkControl_lined (b := b) d ports _ hparsed
  rw [deliver, rxCb_run_of_accepted (hw.installed hset) hd]
  change Lined (command d ports) (afterReset b ((funcYkControl b d).run _).2)
  rw [afterReset, if_neg (by rw [hrun.reset]; exact Bool.false_ne_true)]
  exact hrun

lemma boot_lined (w : World D) : Lined (fun _ => none) (boot b w) := by
  have hlines : lines (boot b w) = lineLevels fun _ => none := by
    rw [lines, boot_pins]
    rfl
  obtain ⟨d, c, hinit⟩ := configInit_touches b w.cleared
  obtain ⟨addr, sn, type, d', c', hupdate⟩ :=
    lockInfoUpdate_touches b { w.cleared with dev := d, cache := c }
  rw [← hinit] at hupdate
  obtain ⟨pins, hboot⟩ := boot_run hupdate
  refine ⟨hlines, ?_, ?_⟩
  · rw [hboot, hinit]
    rfl
  · rw [hboot, hinit]
    change (protocolSet _).getD [] ≠ [] → (false || (protocolSet _).isSome) = true
    cases protocolSet _ with
    | none => exact fun hne => (hne rfl).elim
    | some set => exact fun _ => rfl

end Lines

lemma told_eq_none_iff (ds : List Buffer) (k : ℕ) :
    told ds k = none ↔ ∀ d ∈ ds, ¬ addresses d k := by
  have hrun (ports : Ports) : run command ds ports k = none ↔
      ports k = none ∧ ∀ d ∈ ds, ¬ addresses d k := by
    induction ds generalizing ports with
    | nil => simp
    | cons d ds ih =>
      rw [run_cons, ih, command]
      by_cases ha : addresses d k
      · simp [ha]
      · simp [ha]
  exact (hrun _).trans (and_iff_right rfl)

theorem pairs_follow_iff (b : Board D) (w : World D) (ds : List Buffer)
    (h : Enabled (deliver b) (fun d w => accepted w d = some .ykControl) ds (boot b w)) :
    PairsFollow ds (run (deliver b) ds (boot b w)).pins ↔ ∀ d ∈ ds, ¬ addresses d 2 := by
  have hstep (d : Buffer) (ports : Ports) (v : World D) (hv : Lined ports v)
      (hd : accepted v d = some .ykControl) : Lined (command d ports) (deliver b d v) :=
    deliver_lined hv hd
  have hend : Lined (told ds) (run (deliver b) ds (boot b w)) := h.relate hstep (boot_lined w)
  have hlines := hend.lines
  simp only [lines, lineLevels, List.map_cons, List.map_nil, List.cons.injEq, Prod.mk.injEq] at hlines
  obtain ⟨⟨-, hct1⟩, ⟨-, hk1⟩, ⟨-, hct2⟩, ⟨-, hk2⟩, -⟩ := hlines
  rw [← told_eq_none_iff]
  constructor
  · intro hfollow
    by_contra hsome
    obtain ⟨o, ho⟩ := Option.ne_none_iff_exists'.mp hsome
    have hpair : driven pinAvcK2 (run (deliver b) ds (boot b w)).pins = some (!o) :=
      (hfollow 2 (Or.inr rfl) o ho).2
    rw [hk2] at hpair
    cases hpair
  · rintro hnone k (rfl | rfl) o ho
    · rw [ho] at hct1 hk1
      exact ⟨hct1, hk1⟩
    · cases hnone.symm.trans ho

def portFrame (port opt : Byte) : Buffer :=
  ⟨withCrc [0x03, 0x00, 0xD6, 0x03, 0x02, port, opt], fun _ => 0⟩

theorem pairs_follow_port_one : PairsFollow [portFrame 0x02 0x01, portFrame 0x08 0x00]
    (run (deliver (bench followingRelay)) [portFrame 0x02 0x01, portFrame 0x08 0x00] startedYk).pins :=
  (pairs_follow_iff (bench followingRelay) _ _ (by decide +kernel)).mpr (by decide)

theorem pairs_do_not_follow : ¬ ∀ ds,
    Enabled (deliver (bench followingRelay)) (fun d w => accepted w d = some .ykControl) ds startedYk →
      PairsFollow ds (run (deliver (bench followingRelay)) ds startedYk).pins := by
  intro h
  have hpair := (h [portFrame 0x04 0x01] (by decide +kernel) 2 (Or.inr rfl) true rfl).2
  exact absurd hpair (by decide +kernel)

end YkLock
