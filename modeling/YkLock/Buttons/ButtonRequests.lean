import YkLock.Buttons.ButtonList
import YkLock.Threads.ButtonMutex

/-! The button of `button.c` and the requests of `main.c`: which presses start a request, and how
far apart the requests are. -/

namespace YkLock

open Library.Runs Library.Transducers

variable {D : Type}

structure KeySystem (D : Type) where
  buttons : FlexButtons
  requests : BtnSystem D
  scans : ℕ
  started : List ℕ

inductive KeyAction (D : Type)
  | scan (level : Bool)
  | btn (n : ℕ)
  | others (f : World D → World D)
  | canTake
  | canRelease

def keyStart (w : World D) : KeySystem D := ⟨userButtonInit, btnStart w, 0, []⟩

def commonBtnRead (level : Bool) (_ : ℕ) : Byte := if level then 1 else 0

def userButtonCb (s : BtnSystem D) (call : ℕ × FlexButtonEvent) : BtnSystem D :=
  if call.1 = userButton0 then buttonEventCb call.2 s else s

def keyScan (level : Bool) (s : KeySystem D) : KeySystem D :=
  let r := scanStep (commonBtnRead level) s.buttons
  let requests := r.2.foldl userButtonCb s.requests
  { buttons := r.1
    requests := requests
    scans := s.scans + 1
    started := s.started ++
      List.replicate (requests.threads.length - s.requests.threads.length) s.scans }

def keyStep (b : Board D) (a : KeyAction D) (s : KeySystem D) : KeySystem D :=
  match a with
  | .scan level => keyScan level s
  | .btn n => { s with requests := btnStep b (.btn n) s.requests }
  | .others f => { s with requests := btnStep b (.others f) s.requests }
  | .canTake => { s with requests := btnStep b .canTake s.requests }
  | .canRelease => { s with requests := btnStep b .canRelease s.requests }

def KeyAction.level : KeyAction D → Option Bool
  | .scan level => some level
  | _ => none

def presses (as : List (KeyAction D)) : List Bool := (as.filterMap KeyAction.level).map (! ·)

structure Alone (btn : FlexButton) (s : FlexButtons) : Prop where
  rostered : Rostered s
  list : s.list = [(userButton0, btn)]
  low : btn.pressedLogicLevel = false

section Scans

variable {btn : FlexButton} {s : KeySystem D}

lemma alone_start (w : World D) : Alone (registered userButton) (keyStart w).buttons :=
  ⟨rostered_flexButtons.register (by decide) rfl (by decide), rfl, rfl⟩

lemma commonBtnRead_le (level : Bool) (p : ℕ) : (commonBtnRead level p).toNat ≤ 1 := by
  cases level <;> exact Nat.le_of_ble_eq_true rfl

lemma Alone.scan (h : Alone btn s.buttons) (level : Bool) :
    Alone (processButton (!level) btn).1 (keyScan level s).buttons ∧
      (keyScan level s).requests =
        (processButton (!level) btn).2.foldl (fun q e => buttonEventCb e q) s.requests := by
  obtain ⟨hlist, hcalls⟩ := h.rostered.scan_eq (commonBtnRead_le level)
  have hpressed : btn.pressed (commonBtnRead level userButton0) = !level := by
    rw [FlexButton.pressed, h.low]
    cases level <;> rfl
  rw [h.list, List.map_singleton, scanned, hpressed] at hlist
  rw [h.list, List.flatMap_singleton, hpressed] at hcalls
  refine ⟨⟨h.rostered.scan (commonBtnRead_le level), hlist, ?_⟩, ?_⟩
  · exact (processButton_wiring _ btn).2.trans h.low
  · change (scanStep (commonBtnRead level) s.buttons).2.foldl userButtonCb s.requests = _
    rw [hcalls, List.foldl_map]
    rfl

lemma threads_buttonEventCb (e : FlexButtonEvent) (q : BtnSystem D) :
    (buttonEventCb e q).threads.length = q.threads.length + if e = .pressDown then 1 else 0 := by
  cases e with
  | pressDown =>
    change (btnPressCb q).threads.length = _
    rw [btnPressCb_eq, List.length_append]
    rfl
  | _ => rfl

lemma threads_calls (events : List FlexButtonEvent) (q : BtnSystem D) :
    (events.foldl (fun q e => buttonEventCb e q) q).threads.length =
      q.threads.length + (events.filter (· = .pressDown)).length := by
  induction events generalizing q with
  | nil => rfl
  | cons e events ih =>
    rw [List.foldl_cons, ih, threads_buttonEventCb, List.filter_cons]
    by_cases he : e = .pressDown
    · simp [he]
      omega
    · simp [he]

lemma btnStep_btn_length (b : Board D) (n : ℕ) (q : BtnSystem D) :
    (btnStep b (.btn n) q).threads.length = q.threads.length := by
  rcases ht : q.threads[n]? with _ | t
  · rw [btnStep_btn_none ht]
  · rw [btnStep_btn ht]
    exact List.length_set

end Scans

def pressTimes (calls : List (ℕ × FlexButtonEvent)) : List ℕ :=
  (calls.filter (·.2 = .pressDown)).map Prod.fst

lemma started_run (b : Board D) (as : List (KeyAction D)) {s : KeySystem D} {btn : FlexButton}
    (h : Alone btn s.buttons) (hlength : s.started.length = s.requests.threads.length) :
    let s' := run (keyStep b) as s
    s'.started = s.started ++ pressTimes (trace processButton s.scans (presses as) btn) ∧
      s'.started.length = s'.requests.threads.length := by
  induction as generalizing s btn with
  | nil => exact ⟨(List.append_nil _).symm, hlength⟩
  | cons a as ih =>
    cases a with
    | scan level =>
      obtain ⟨halone, hrequests⟩ := h.scan level
      have hcount := threads_calls (processButton (!level) btn).2 s.requests
      rw [← hrequests] at hcount
      have hnew : (keyScan level s).started = s.started ++
          List.replicate ((processButton (!level) btn).2.filter (· = .pressDown)).length s.scans := by
        change s.started ++ List.replicate
          ((keyScan level s).requests.threads.length - s.requests.threads.length) s.scans = _
        rw [hcount, Nat.add_sub_cancel_left]
      obtain ⟨hstarted, hlength'⟩ := ih halone (by
        rw [hnew, List.length_append, List.length_replicate, hcount, hlength])
      refine ⟨?_, hlength'⟩
      change (run (keyStep b) as (keyScan level s)).started = _
      rw [hstarted, hnew, List.append_assoc]
      change _ = s.started ++ pressTimes (trace processButton s.scans ((!level) :: presses as) btn)
      rw [trace_cons, pressTimes, pressTimes, List.filter_append, List.map_append, List.filter_map,
        List.map_map]
      congr 2
      exact List.map_const'.symm
    | btn n => exact ih h (hlength.trans (btnStep_btn_length b n s.requests).symm)
    | _ => exact ih h hlength

/-- In every interleaving, the requests are started by the presses the button reports: one thread
for each, in that scan, and none for anything else the key does. -/
theorem requests_are_presses (b : Board D) (w : World D) (as : List (KeyAction D)) :
    let s := run (keyStep b) as (keyStart w)
    s.started = pressTimes (trace processButton 0 (presses as) (registered userButton)) ∧
      s.started.length = s.requests.threads.length := by
  obtain ⟨hstarted, hlength⟩ := started_run b as (alone_start w) rfl
  exact ⟨hstarted.trans (List.nil_append _), hlength⟩

section Spacing

variable {c : Tuning} {x t : ℕ} {btn : FlexButton}

def Spaced (c : Tuning) (x t : ℕ) : Phase → Prop
  | .up => x + c.interval + 2 ≤ t
  | .held n _ | .between n _ => x + n + 1 ≤ t

lemma Spaced.step {phase : Phase} (h : Spaced c x t phase) (pressed : Bool) :
    Spaced c x (t + 1) (c.step pressed phase).1 := by
  have hinterval := c.interval_lt
  have hshort := c.short_lt
  have hlong := c.long_lt
  cases phase with
  | up =>
    cases pressed with
    | true => exact Nat.succ_le_succ (by simp only [Spaced] at h; omega)
    | false => exact Nat.le_succ_of_le h
  | held n k =>
    change x + n + 1 ≤ t at h
    cases pressed with
    | true =>
      rw [Tuning.step, if_pos rfl]
      split_ifs
      · exact Nat.succ_le_succ (by omega)
      · exact Nat.succ_le_succ h
      · exact Nat.succ_le_succ h
    | false =>
      rw [Tuning.step, if_neg Bool.false_ne_true, Tuning.release]
      split_ifs
      · exact Nat.succ_le_succ (by omega)
      · exact Nat.succ_le_succ (by omega)
      · exact Nat.succ_le_succ (by omega)
      · exact Nat.succ_le_succ h
  | between n k =>
    change x + n + 1 ≤ t at h
    cases pressed with
    | true => exact Nat.succ_le_succ (by omega)
    | false =>
      rw [Tuning.step, if_neg Bool.false_ne_true]
      split_ifs
      · exact Nat.succ_le_succ (by omega)
      · exact Nat.succ_le_succ h

lemma clickEvent_ne_pressDown {clickCnt : BitVec 16} (h : clickCnt ≠ 0) :
    clickEvent clickCnt ≠ .pressDown := by
  rw [clickEvent, if_neg h]
  split_ifs
  · nofun
  · nofun
  · nofun

lemma press_from_up {phase : Phase} (h : Tracks c phase btn) (hclicks : Unwrapped btn) {pressed : Bool}
    (he : .pressDown ∈ (processButton pressed btn).2) : phase = .up ∧ pressed = true := by
  have hcalls := (h.step pressed phase btn).2
  rw [hcalls] at he
  obtain ⟨g, hg, hcode⟩ := List.mem_map.mp he
  have hcounted {k : ℕ} (hk : btn.clickCnt.toNat = k) (hne : btn.clickCnt ≠ 0) :
      (Gesture.clicks k).code ≠ .pressDown := by
    rw [← hk, code_clicks]
    exact clickEvent_ne_pressDown hne
  cases phase with
  | up =>
    cases pressed with
    | true => exact ⟨rfl, rfl⟩
    | false => cases hg
  | held n k =>
    obtain ⟨-, -, hk, -, -⟩ := h
    cases pressed with
    | true =>
      rw [Tuning.step, if_pos rfl] at hg
      split_ifs at hg with hpos hover
      · obtain rfl := List.mem_singleton.mp hg
        refine absurd hcode (hcounted hk fun hzero => ?_)
        rw [hzero] at hk
        exact hpos.ne hk
      · cases hg
      · rw [Tuning.start] at hg
        split_ifs at hg
        · obtain rfl := List.mem_singleton.mp hg
          cases hcode
        · obtain rfl := List.mem_singleton.mp hg
          cases hcode
        · obtain rfl := List.mem_singleton.mp hg
          cases hcode
        · cases hg
    | false =>
      rw [Tuning.step, if_neg Bool.false_ne_true, Tuning.release] at hg
      split_ifs at hg
      · obtain rfl := List.mem_singleton.mp hg
        cases hcode
      · obtain rfl := List.mem_singleton.mp hg
        cases hcode
      · obtain rfl := List.mem_singleton.mp hg
        cases hcode
      · cases hg
  | between n k =>
    obtain ⟨-, hs, hk, -, -⟩ := h
    cases pressed with
    | true => cases hg
    | false =>
      rw [Tuning.step, if_neg Bool.false_ne_true] at hg
      split_ifs at hg
      · obtain rfl := List.mem_singleton.mp hg
        exact absurd hcode (hcounted hk (hclicks hs))
      · cases hg

end Spacing

section Alive

variable {b : Board D} {s : KeySystem D}

/-- Before each scan, every request still alive is younger than the shortest time between two
presses, and the click counter has not just overflowed. -/
def KeyAction.Prompt (a : KeyAction D) (s : KeySystem D) : Prop :=
  match a with
  | .scan _ => (∀ p ∈ s.requests.threads.zip s.started, p.1.alive = true →
      s.scans < p.2 + (userTuning.interval + 2)) ∧ ∀ e ∈ s.buttons.list, Unwrapped e.2
  | _ => True

instance (a : KeyAction D) (s : KeySystem D) : Decidable (a.Prompt s) :=
  match a with
  | .scan _ => inferInstanceAs (Decidable (_ ∧ _))
  | .btn _ | .others _ | .canTake | .canRelease => isTrue trivial

structure Timed (s : KeySystem D) : Prop where
  phase : ∃ btn phase, Alone btn s.buttons ∧ Tracks userTuning phase btn ∧
    ∀ x ∈ s.started, Spaced userTuning x s.scans phase
  length : s.started.length = s.requests.threads.length
  alive : s.requests.alive ≤ 1

lemma timed_start (w : World D) : Timed (keyStart w) :=
  ⟨⟨_, .up, alone_start w, tracks_registered userButton_tuned, nofun⟩, rfl, Nat.zero_le 1⟩

lemma quiet_calls {events : List FlexButtonEvent} (h : .pressDown ∉ events) (q : BtnSystem D) :
    events.foldl (fun q e => buttonEventCb e q) q = q := by
  induction events generalizing q with
  | nil => rfl
  | cons e events ih =>
    have he := List.ne_of_not_mem_cons h
    have hsame : buttonEventCb e q = q := by
      cases e with
      | pressDown => exact absurd rfl he
      | _ => rfl
    rw [List.foldl_cons, hsame]
    exact ih (List.not_mem_of_not_mem_cons h) q

lemma none_alive (hlength : s.started.length = s.requests.threads.length)
    (hspaced : ∀ x ∈ s.started, x + userTuning.interval + 2 ≤ s.scans)
    (hprompt : ∀ p ∈ s.requests.threads.zip s.started, p.1.alive = true →
      s.scans < p.2 + (userTuning.interval + 2)) : s.requests.alive = 0 := by
  refine List.countP_eq_zero.mpr fun t ht halive => ?_
  obtain ⟨n, hn, rfl⟩ := List.getElem_of_mem ht
  have hn' : n < s.started.length := hlength ▸ hn
  have hmem : (s.requests.threads[n], s.started[n]) ∈ s.requests.threads.zip s.started := by
    refine List.mem_iff_getElem.mpr ⟨n, ?_, List.getElem_zip⟩
    rw [List.length_zip]
    omega
  have hyoung := hprompt _ hmem halive
  have hold := hspaced _ (List.getElem_mem hn')
  omega

lemma Timed.scan (h : Timed s) {level : Bool} (hp : (KeyAction.scan level).Prompt s) :
    Timed (keyScan level s) := by
  obtain ⟨⟨btn, phase, halone, htracks, hspaced⟩, hlength, halive⟩ := h
  obtain ⟨hprompt, hclicks⟩ := hp
  obtain ⟨halone', hrequests⟩ := halone.scan level
  obtain ⟨htracks', hcalls⟩ := htracks.step (!level) phase btn
  have hclicks' : Unwrapped btn := hclicks _ (by rw [halone.list]; exact List.mem_singleton_self _)
  have hold (x : ℕ) (hx : x ∈ s.started) :
      Spaced userTuning x (s.scans + 1) (userTuning.step (!level) phase).1 :=
    (hspaced x hx).step (!level)
  by_cases hdown : .pressDown ∈ (processButton (!level) btn).2
  · obtain ⟨rfl, hlow⟩ := press_from_up htracks hclicks' hdown
    rw [hlow] at halone' hrequests htracks' hcalls hold
    have hpress : (keyScan level s).requests = btnPressCb s.requests := by
      rw [hrequests, hcalls]
      rfl
    have hlen : (btnPressCb s.requests).threads.length = s.requests.threads.length + 1 :=
      threads_buttonEventCb .pressDown s.requests
    have hnew : (keyScan level s).started = s.started ++ [s.scans] := by
      change s.started ++ List.replicate
        ((keyScan level s).requests.threads.length - s.requests.threads.length) s.scans = _
      rw [hpress, hlen, Nat.add_sub_cancel_left]
      rfl
    refine ⟨⟨_, _, halone', htracks', fun x hx => ?_⟩, ?_, ?_⟩
    · rw [hnew] at hx
      rcases List.mem_append.mp hx with hx | hx
      · exact hold x hx
      · obtain rfl := List.mem_singleton.mp hx
        exact le_rfl
    · rw [hnew, hpress, hlen, List.length_append, hlength]
      rfl
    · rw [hpress, alive_press, none_alive hlength hspaced hprompt]
  · have hquiet : (keyScan level s).requests = s.requests := hrequests.trans (quiet_calls hdown _)
    have hnew : (keyScan level s).started = s.started := by
      change s.started ++ List.replicate
        ((keyScan level s).requests.threads.length - s.requests.threads.length) s.scans = _
      rw [hquiet, Nat.sub_self]
      exact List.append_nil _
    refine ⟨⟨_, _, halone', htracks', fun x hx => hold x (hnew ▸ hx)⟩, ?_, ?_⟩
    · rw [hnew, hquiet]
      exact hlength
    · rw [hquiet]
      exact halive

lemma Timed.step (a : KeyAction D) (s : KeySystem D) (h : Timed s) (hp : a.Prompt s) :
    Timed (keyStep b a s) := by
  cases a with
  | scan level => exact h.scan hp
  | btn n =>
    exact ⟨h.phase, h.length.trans (btnStep_btn_length b n s.requests).symm,
      (alive_btn_le b n s.requests).trans h.alive⟩
  | _ => exact ⟨h.phase, h.length, h.alive⟩

end Alive

/-- As long as quick taps do not overflow the click counter two presses are reported at least 17
scans apart, so no two requests are in flight together where each one ends within 16 scans of its
start. -/
theorem one_request_at_a_time (b : Board D) (w : World D) {as : List (KeyAction D)}
    (h : Enabled (keyStep b) KeyAction.Prompt as (keyStart w)) :
    ∀ pre, pre <+: as → (run (keyStep b) pre (keyStart w)).requests.alive ≤ 1 := by
  rintro pre ⟨rest, rfl⟩
  have hpre := ((enabled_append pre rest (keyStart w)).mp h).1
  exact (hpre.invariant (I := Timed) Timed.step (timed_start w)).alive

theorem one_request_at_a_time_bench :
    (run (keyStep (bench followingRelay)) [.scan false, .btn 0, .scan true]
      (keyStart (powered ⟨0, 0, 5, 5, 1, 1⟩))).requests.alive ≤ 1 :=
  one_request_at_a_time (bench followingRelay) (powered ⟨0, 0, 5, 5, 1, 1⟩) (by decide) _
    (List.prefix_refl _)

end YkLock
