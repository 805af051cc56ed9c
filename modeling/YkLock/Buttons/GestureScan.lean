import YkLock.Buttons.Gestures
import YkLock.Model.FlexButton

/-! A button of `flexible_button.c` makes the gestures, with its counters cut to 16 bits. -/

namespace YkLock

open Library.Transducers

def Gesture.code : Gesture → FlexButtonEvent
  | .down => .pressDown
  | .clicks k => clickEvent (BitVec.ofNat 16 k)
  | .shortStart => .pressShortStart
  | .shortUp => .pressShortUp
  | .longStart => .pressLongStart
  | .longUp => .pressLongUp
  | .longHold => .pressLongHold
  | .longHoldUp => .pressLongHoldUp

structure Tuned (c : Tuning) (btn : FlexButton) : Prop where
  cb : btn.cb = true
  interval : btn.maxMultipleClicksInterval.toNat = c.interval
  short : btn.shortPressStartTick.toNat = c.short
  long : btn.longPressStartTick.toNat = c.long
  hold : btn.longHoldStartTick.toNat = c.hold

structure Counts (c : Tuning) (n : ℕ) (scanCnt : BitVec 16) : Prop where
  lt : scanCnt.toNat < 2 ^ 16 - 1
  eq : scanCnt.toNat = n ∨ c.hold ≤ scanCnt.toNat ∧ c.hold ≤ n

def Silent (e : FlexButtonEvent) : Prop :=
  e ≠ .pressShortStart ∧ e ≠ .pressLongStart ∧ e ≠ .pressLongHold

structure Told (c : Tuning) (n : ℕ) (e : FlexButtonEvent) : Prop where
  hold : e = .pressLongHold ↔ c.hold ≤ n
  long : e = .pressLongStart ↔ c.long ≤ n ∧ n < c.hold
  short : e = .pressShortStart ↔ c.short ≤ n ∧ n < c.long

def Tracks (c : Tuning) (phase : Phase) (btn : FlexButton) : Prop :=
  Tuned c btn ∧
    match phase with
    | .up => btn.status = .stageDefault
    | .held n k => btn.status = .stageDown ∧ btn.clickCnt.toNat = k ∧ Counts c n btn.scanCnt ∧
        if k = 0 then Told c n btn.event else Silent btn.event
    | .between n k => btn.status = .stageMultipleClick ∧ btn.clickCnt.toNat = k ∧
        Counts c n btn.scanCnt ∧ Silent btn.event

section Counters

variable {c : Tuning} {n m : ℕ} {scanCnt : BitVec 16} {btn : FlexButton}

lemma Counts.zero : Counts c 0 0 := ⟨by decide, Or.inl rfl⟩

lemma Counts.le_iff (h : Counts c n scanCnt) (hm : m ≤ c.hold) : m ≤ scanCnt.toNat ↔ m ≤ n := by
  obtain ⟨-, h | h⟩ := h
  · rw [h]
  · exact iff_of_true (hm.trans h.1) (hm.trans h.2)

lemma Tuned.countScan (h : Tuned c btn) : Tuned c (countScan btn) := by
  rw [YkLock.countScan]
  split_ifs
  · exact h
  · exact ⟨h.cb, h.interval, h.short, h.long, h.hold⟩
  · exact ⟨h.cb, h.interval, h.short, h.long, h.hold⟩

lemma countScan_kept (btn : FlexButton) : (countScan btn).status = btn.status ∧
    (countScan btn).clickCnt = btn.clickCnt ∧ (countScan btn).event = btn.event := by
  rw [countScan]
  split_ifs <;> exact ⟨rfl, rfl, rfl⟩

lemma Counts.countScan (h : Counts c n btn.scanCnt) (ht : Tuned c btn)
    (hs : btn.status ≠ .stageDefault) : Counts c (n + 1) (countScan btn).scanCnt := by
  have hhold := c.hold_lt
  obtain ⟨hlt, heq⟩ := h
  have hadd : (btn.scanCnt + 1).toNat = btn.scanCnt.toNat + 1 := by
    rw [BitVec.toNat_add]
    exact Nat.mod_eq_of_lt (by change _ + 1 < _; omega)
  rw [YkLock.countScan, if_neg hs]
  split_ifs with hmax
  · refine ⟨by rw [ht.hold]; exact hhold, Or.inr ⟨ht.hold.ge, ?_⟩⟩
    rw [hadd] at hmax
    omega
  · refine ⟨Nat.lt_of_not_le hmax, ?_⟩
    rw [hadd]
    omega

lemma told_zero {e : FlexButtonEvent} (he : Silent e) (hn : n < c.short) : Told c n e := by
  have hshort := c.short_lt
  have hlong := c.long_lt
  exact ⟨iff_of_false he.2.2 (by omega), iff_of_false he.2.1 (by omega),
    iff_of_false he.1 (by omega)⟩

lemma told_short (hn : c.short ≤ n) (hn' : n < c.long) : Told c n .pressShortStart := by
  have hlong := c.long_lt
  exact ⟨iff_of_false nofun (by omega), iff_of_false nofun (by omega), iff_of_true rfl ⟨hn, hn'⟩⟩

lemma told_long (hn : c.long ≤ n) (hn' : n < c.hold) : Told c n .pressLongStart :=
  ⟨iff_of_false nofun (by omega), iff_of_true rfl ⟨hn, hn'⟩, iff_of_false nofun (by omega)⟩

lemma told_hold (hn : c.hold ≤ n) : Told c n .pressLongHold := by
  have hlong := c.long_lt
  exact ⟨iff_of_true rfl hn, iff_of_false nofun (by omega), iff_of_false nofun (by omega)⟩

lemma Told.silent {e : FlexButtonEvent} (h : Told c n e) (hn : n < c.short) : Silent e := by
  have hshort := c.short_lt
  have hlong := c.long_lt
  exact ⟨fun he => by have := h.short.mp he; omega, fun he => by have := h.long.mp he; omega,
    fun he => by have := h.hold.mp he; omega⟩

lemma silent_clickEvent (clickCnt : BitVec 16) : Silent (clickEvent clickCnt) := by
  unfold clickEvent
  split_ifs
  · exact ⟨nofun, nofun, nofun⟩
  · exact ⟨nofun, nofun, nofun⟩
  · exact ⟨nofun, nofun, nofun⟩
  · exact ⟨nofun, nofun, nofun⟩

lemma code_clicks : (Gesture.clicks btn.clickCnt.toNat).code = clickEvent btn.clickCnt := by
  rw [Gesture.code, BitVec.ofNat_toNat, BitVec.setWidth_eq]

end Counters

section Steps

variable {c : Tuning} {n k : ℕ} {btn : FlexButton}

def Agrees (c : Tuning) (p : Phase × List Gesture) (d : Called) : Prop :=
  Tracks c p.1 d.1 ∧ d.2 = p.2.map Gesture.code

lemma exec_eq (ht : Tuned c btn) (e : FlexButtonEvent) :
    eventSetAndExecCb btn e = ({ btn with event := e }, [e]) := by
  rw [eventSetAndExecCb, if_pos ht.cb]

lemma agrees_up (h : Tracks c .up btn) (pressed : Bool) :
    Agrees c (c.step pressed .up) (processButton pressed btn) := by
  obtain ⟨ht, hs⟩ := h
  have hinterval := c.interval_lt
  obtain ⟨_, _, _, _, _, _, _, _, _, _, _, status⟩ := btn
  obtain rfl : status = .stageDefault := hs
  cases pressed with
  | false => exact ⟨⟨⟨ht.cb, ht.interval, ht.short, ht.long, ht.hold⟩, rfl⟩, rfl⟩
  | true =>
    obtain rfl := ht.cb
    refine ⟨⟨⟨rfl, ht.interval, ht.short, ht.long, ht.hold⟩, rfl, rfl, Counts.zero, ?_⟩, rfl⟩
    exact told_zero ⟨nofun, nofun, nofun⟩ (by omega)

lemma agrees_start (ht : Tuned c btn) (hs : btn.status = .stageDown) (hk : btn.clickCnt.toNat = 0)
    (hn : Counts c (n + 1) btn.scanCnt) (he : Told c n btn.event) :
    Agrees c (.held (n + 1) 0, c.start (n + 1)) (processStage true btn) := by
  have hshort := c.short_lt
  have hlong := c.long_lt
  have hzero : ¬ btn.clickCnt > 0 := by
    rw [gt_iff_lt, BitVec.lt_def, hk]
    exact lt_irrefl 0
  have hhold' : btn.scanCnt ≥ btn.longHoldStartTick ↔ c.hold ≤ n + 1 := by
    rw [ge_iff_le, BitVec.le_def, ht.hold, hn.le_iff le_rfl]
  have hlong' : btn.scanCnt ≥ btn.longPressStartTick ↔ c.long ≤ n + 1 := by
    rw [ge_iff_le, BitVec.le_def, ht.long, hn.le_iff hlong.le]
  have hshort' : btn.scanCnt ≥ btn.shortPressStartTick ↔ c.short ≤ n + 1 := by
    rw [ge_iff_le, BitVec.le_def, ht.short, hn.le_iff (hshort.trans hlong).le]
  have hkeep (h : Told c (n + 1) btn.event) : Tracks c (.held (n + 1) 0) btn := ⟨ht, hs, hk, hn, h⟩
  have htell (e : FlexButtonEvent) (h : Told c (n + 1) e) :
      Tracks c (.held (n + 1) 0) { btn with event := e } :=
    ⟨⟨ht.cb, ht.interval, ht.short, ht.long, ht.hold⟩, hs, hk, hn, h⟩
  obtain ⟨heh, hel, hes⟩ := he
  rw [processStage, hs]
  simp only [if_true, if_neg hzero, hhold', hlong', hshort', startEvent, exec_eq ht, Tuning.start]
  rcases Nat.lt_trichotomy (n + 1) c.hold with hlt | heq | hgt
  · rcases Nat.lt_trichotomy (n + 1) c.long with hlt' | heq' | hgt'
    · rw [if_neg hlt.ne, if_neg hlt'.ne]
      rcases Nat.lt_trichotomy (n + 1) c.short with hlt'' | heq'' | hgt''
      · rw [if_neg hlt''.ne, if_neg hlt.not_ge, if_neg hlt'.not_ge, if_neg hlt''.not_ge]
        exact ⟨hkeep (told_zero (Told.silent ⟨heh, hel, hes⟩ (by omega)) hlt''), rfl⟩
      · rw [if_pos heq'', if_neg hlt.not_ge, if_neg hlt'.not_ge, if_pos heq''.ge,
          if_pos (by rw [Ne, hes]; omega)]
        exact ⟨htell _ (told_short heq''.ge hlt'), rfl⟩
      · have hold := hes.mpr (by omega)
        rw [if_neg hgt''.ne', if_neg hlt.not_ge, if_neg hlt'.not_ge, if_pos hgt''.le,
          if_neg (not_not.mpr hold)]
        exact ⟨hkeep (hold ▸ told_short hgt''.le hlt'), rfl⟩
    · rw [if_neg hlt.ne, if_pos heq', if_neg hlt.not_ge, if_pos heq'.ge,
        if_pos (by rw [Ne, hel]; omega)]
      exact ⟨htell _ (told_long heq'.ge hlt), rfl⟩
    · have hold := hel.mpr (by omega)
      rw [if_neg hlt.ne, if_neg hgt'.ne', if_neg (by omega), if_neg hlt.not_ge, if_pos hgt'.le,
        if_neg (not_not.mpr hold)]
      exact ⟨hkeep (hold ▸ told_long hgt'.le hlt), rfl⟩
  · rw [if_pos heq, if_pos heq.ge, if_pos (by rw [Ne, heh]; omega)]
    exact ⟨htell _ (told_hold heq.ge), rfl⟩
  · have hold := heh.mpr (by omega)
    rw [if_neg hgt.ne', if_neg (by omega), if_neg (by omega), if_pos hgt.le,
      if_neg (not_not.mpr hold)]
    exact ⟨hkeep (hold ▸ told_hold hgt.le), rfl⟩

lemma agrees_release (ht : Tuned c btn) (hs : btn.status = .stageDown)
    (hk : btn.clickCnt.toNat = k) (hn : Counts c (n + 1) btn.scanCnt)
    (he : n < c.short → Silent btn.event) :
    Agrees c (c.release (n + 1) k) (processStage false btn) := by
  have hshort := c.short_lt
  have hlong := c.long_lt
  have hhold' : btn.scanCnt ≥ btn.longHoldStartTick ↔ c.hold ≤ n + 1 := by
    rw [ge_iff_le, BitVec.le_def, ht.hold, hn.le_iff le_rfl]
  have hlong' : btn.scanCnt ≥ btn.longPressStartTick ↔ c.long ≤ n + 1 := by
    rw [ge_iff_le, BitVec.le_def, ht.long, hn.le_iff hlong.le]
  have hshort' : btn.scanCnt ≥ btn.shortPressStartTick ↔ c.short ≤ n + 1 := by
    rw [ge_iff_le, BitVec.le_def, ht.short, hn.le_iff (hshort.trans hlong).le]
  have hup (e : FlexButtonEvent) :
      Tracks c .up (switchTo .stageDefault (eventSetAndExecCb btn e)).1 :=
    ⟨⟨ht.cb, ht.interval, ht.short, ht.long, ht.hold⟩, rfl⟩
  rw [processStage, hs]
  simp only [Bool.false_eq_true, if_false, hhold', hlong', hshort', Tuning.release]
  have hcall (e : FlexButtonEvent) :
      (switchTo .stageDefault (eventSetAndExecCb btn e)).2 = [e] := by rw [exec_eq ht]; rfl
  split_ifs with h1 h2 h3
  · exact ⟨hup _, hcall _⟩
  · exact ⟨hup _, hcall _⟩
  · exact ⟨hup _, hcall _⟩
  · refine ⟨⟨⟨ht.cb, ht.interval, ht.short, ht.long, ht.hold⟩, rfl, ?_, hn, he (by omega)⟩, rfl⟩
    change (btn.clickCnt + 1).toNat = _
    rw [BitVec.toNat_add, hk]
    rfl

lemma over_iff (ht : Tuned c btn) (hn : Counts c n btn.scanCnt) :
    btn.scanCnt > btn.maxMultipleClicksInterval ↔ c.interval < n := by
  have hinterval := c.interval_lt
  have hshort := c.short_lt
  have hlong := c.long_lt
  rw [gt_iff_lt, BitVec.lt_def, ht.interval, ← Nat.succ_le_iff, ← Nat.succ_le_iff,
    hn.le_iff (by omega)]

lemma agrees_clicks (ht : Tuned c btn) (hs : btn.status = .stageDown)
    (hk : btn.clickCnt.toNat = k) (hpos : 0 < k) (hn : Counts c (n + 1) btn.scanCnt)
    (he : Silent btn.event) : Agrees c (c.step true (.held n k)) (processStage true btn) := by
  have hinterval := c.interval_lt
  have hclick : btn.clickCnt > 0 := by
    rw [gt_iff_lt, BitVec.lt_def, hk]
    exact hpos
  rw [Tuning.step, if_pos rfl, if_pos hpos, processStage, hs]
  simp only [if_true, if_pos hclick, over_iff ht hn]
  split_ifs with hlt
  · rw [exec_eq ht]
    refine ⟨⟨⟨ht.cb, ht.interval, ht.short, ht.long, ht.hold⟩, rfl, rfl, Counts.zero, ?_⟩, ?_⟩
    · exact told_zero (silent_clickEvent _) (by omega)
    · rw [← hk]
      exact (congrArg (fun e => [e]) code_clicks).symm
  · refine ⟨⟨ht, hs, hk, hn, ?_⟩, rfl⟩
    rw [if_neg hpos.ne']
    exact he

lemma agrees_held (h : Tracks c (.held n k) btn) (pressed : Bool) :
    Agrees c (c.step pressed (.held n k)) (processButton pressed btn) := by
  obtain ⟨ht, hs, hk, hn, he⟩ := h
  have hn' := hn.countScan ht (by rw [hs]; nofun)
  obtain ⟨hs', hk', he'⟩ := countScan_kept btn
  rw [← hs'] at hs
  rw [← hk'] at hk
  rw [← he'] at he
  cases pressed with
  | false =>
    refine agrees_release ht.countScan hs hk hn' fun hlt => ?_
    rcases Nat.eq_zero_or_pos k with hzero | hpos
    · rw [if_pos hzero] at he
      exact he.silent hlt
    · rw [if_neg hpos.ne'] at he
      exact he
  | true =>
    rcases Nat.eq_zero_or_pos k with rfl | hpos
    · rw [if_pos rfl] at he
      exact agrees_start ht.countScan hs hk hn' he
    · rw [if_neg hpos.ne'] at he
      exact agrees_clicks ht.countScan hs hk hpos hn' he

lemma agrees_pause (ht : Tuned c btn) (hs : btn.status = .stageMultipleClick)
    (hk : btn.clickCnt.toNat = k) (hn : Counts c (n + 1) btn.scanCnt) (he : Silent btn.event)
    (pressed : Bool) : Agrees c (c.step pressed (.between n k)) (processStage pressed btn) := by
  have hinterval := c.interval_lt
  rw [processStage, hs]
  cases pressed with
  | true =>
    have hevent : if k = 0 then Told c 0 btn.event else Silent btn.event := by
      split_ifs
      · exact told_zero he (by omega)
      · exact he
    exact ⟨⟨⟨ht.cb, ht.interval, ht.short, ht.long, ht.hold⟩, rfl, hk, Counts.zero, hevent⟩, rfl⟩
  | false =>
    rw [Tuning.step, if_neg Bool.false_ne_true]
    simp only [Bool.false_eq_true, if_false, over_iff ht hn]
    split_ifs with hlt
    · rw [exec_eq ht]
      refine ⟨⟨⟨ht.cb, ht.interval, ht.short, ht.long, ht.hold⟩, rfl⟩, ?_⟩
      rw [← hk]
      exact (congrArg (fun e => [e]) code_clicks).symm
    · exact ⟨⟨ht, hs, hk, hn, he⟩, rfl⟩

lemma agrees_between (h : Tracks c (.between n k) btn) (pressed : Bool) :
    Agrees c (c.step pressed (.between n k)) (processButton pressed btn) := by
  obtain ⟨ht, hs, hk, hn, he⟩ := h
  obtain ⟨hs', hk', he'⟩ := countScan_kept btn
  exact agrees_pause ht.countScan (hs'.trans hs) ((congrArg _ hk').trans hk)
    (hn.countScan ht (by rw [hs]; nofun)) (he' ▸ he) pressed

lemma Tracks.step (pressed : Bool) (phase : Phase) (btn : FlexButton) (h : Tracks c phase btn) :
    Agrees c (c.step pressed phase) (processButton pressed btn) := by
  cases phase with
  | up => exact agrees_up h pressed
  | held n k => exact agrees_held h pressed
  | between n k => exact agrees_between h pressed

end Steps

def userTuning : Tuning where
  interval := 15
  short := 75
  long := 150
  hold := 225
  interval_lt := by decide
  short_lt := by decide
  long_lt := by decide
  hold_lt := by decide

lemma userButton_tuned : Tuned userTuning (registered userButton) := ⟨rfl, rfl, rfl, rfl, rfl⟩

section Runs

variable {c : Tuning} {btn button : FlexButton}

lemma tracks_registered (h : Tuned c (registered button)) : Tracks c .up (registered button) := ⟨h, rfl⟩

lemma Tracks.trace (h : Tracks c .up btn) (as : List Bool) (t : ℕ) :
    Tracks c (final c.step as .up) (final processButton as btn) ∧
      trace processButton t as btn = (trace c.step t as .up).map (Prod.map id Gesture.code) :=
  trace_of_simulates (fun pressed phase btn h => h.step pressed phase btn) as t h

/-- The 16 bits of the click counter have not just overflowed. -/
def Unwrapped (btn : FlexButton) : Prop := btn.status = .stageMultipleClick → btn.clickCnt ≠ 0

instance (btn : FlexButton) : Decidable (Unwrapped btn) :=
  inferInstanceAs (Decidable (_ → _))

/-- 65536 quick taps in a row, or a multiple of them, have been counted as none. -/
def ClicksOverflow (as : List Bool) (button : FlexButton) : Prop :=
  ∃ pre, pre <+: as ∧ ¬ Unwrapped (final processButton pre button)

lemma Tracks.overflown {phase : Phase} (h : Tracks c phase btn) (hover : phase.Overflown) :
    ¬ Unwrapped btn := by
  obtain ⟨n, rfl⟩ := hover
  obtain ⟨-, hs, hk, -⟩ := h
  exact fun hclicks => hclicks hs (BitVec.eq_of_toNat_eq hk)

lemma first_gesture (as : List Bool) (t : ℕ) :
    ∀ x ∈ (Library.Transducers.trace c.step t as .up).head?, x.2 = .down := by
  induction as generalizing t with
  | nil => exact fun x hx => nomatch hx
  | cons pressed as ih =>
    cases pressed with
    | false => exact ih (t + 1)
    | true =>
      intro x hx
      obtain rfl := Option.some.inj hx
      rfl

/-- The callbacks of a registered button, scan for scan, are gestures of one key: the first is a
press, and consecutive ones follow each other by the rules, strictly so as long as the click counter
has not overflowed. -/
theorem callbacks_are_gestures (h : Tuned c (registered button)) (as : List Bool) :
    ∃ gs : List (ℕ × Gesture),
      Library.Transducers.trace processButton 1 as (registered button) =
        gs.map (Prod.map id Gesture.code) ∧
      List.IsChain (c.Follows (ClicksOverflow as (registered button))) gs ∧
      ∀ x ∈ gs.head?, x.2 = .down := by
  have hover (pre : List Bool) (hpre : pre <+: as)
      (hphase : (final c.step pre Phase.up).Overflown) : ClicksOverflow as (registered button) :=
    ⟨pre, hpre, ((tracks_registered h).trace pre 1).1.overflown hphase⟩
  refine ⟨_, ((tracks_registered h).trace as 1).2, ?_, first_gesture as 1⟩
  exact (gestures_isChain c hover (x := (0, .longHoldUp)) trivial Nat.one_pos).tail

theorem callbacks_are_gestures_user :
    let as := [true, false, true, false] ++ List.replicate 15 false ++ List.replicate 76 true ++
      [false]
    Library.Transducers.trace processButton 1 as (registered userButton) =
        [(1, .pressDown), (19, .pressDoubleClick), (20, .pressDown), (95, .pressShortStart),
          (96, .pressShortUp)] ∧
      ∃ gs : List (ℕ × Gesture),
        Library.Transducers.trace processButton 1 as (registered userButton) =
          gs.map (Prod.map id Gesture.code) ∧
        List.IsChain (userTuning.Follows (ClicksOverflow as (registered userButton))) gs ∧
        ∀ x ∈ gs.head?, x.2 = .down :=
  ⟨by decide +kernel, callbacks_are_gestures userButton_tuned _⟩

end Runs

end YkLock
