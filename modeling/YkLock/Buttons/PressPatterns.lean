import YkLock.Buttons.GestureScan

/-! What the common ways to press a button are reported as: holding it, and tapping it. -/

namespace YkLock

open Library.Transducers

variable (c : Tuning)

namespace Tuning

def marks : List (ℕ × Gesture) :=
  [(c.short, .shortStart), (c.long, .longStart), (c.hold, .longHold)]

def starts (t n : ℕ) : List (ℕ × Gesture) :=
  (c.marks.filter (·.1 ≤ n)).map (Prod.map (t + ·) id)

def ending (t n : ℕ) : ℕ × Gesture :=
  if c.hold ≤ n then (t + n, .longHoldUp) else if c.long ≤ n then (t + n, .longUp)
  else if c.short ≤ n then (t + n, .shortUp) else (t + max (n + 1) (c.interval + 1), .clicks 1)

end Tuning

abbrev Tap := ℕ × ℕ

def Tap.scans (tap : Tap) : List Bool :=
  List.replicate (tap.1 + 1) true ++ List.replicate (tap.2 + 1) false

def Tap.Quick (c : Tuning) (tap : Tap) : Prop := tap.1 + tap.2 + 1 ≤ c.interval

instance (c : Tuning) (tap : Tap) : Decidable (tap.Quick c) := inferInstanceAs (Decidable (_ ≤ _))

def tapScans (taps : List Tap) : List Bool := taps.flatMap Tap.scans

section Holds

variable {c}

lemma marks_sorted : c.marks.Pairwise (·.1 < ·.1) := by
  have hshort := c.short_lt
  have hlong := c.long_lt
  simp [Tuning.marks, hshort, hlong, hshort.trans hlong]

lemma filter_le_succ {l : List (ℕ × Gesture)} (h : l.Pairwise (·.1 < ·.1)) (n : ℕ) :
    l.filter (·.1 ≤ n + 1) = l.filter (·.1 ≤ n) ++ l.filter (·.1 = n + 1) := by
  induction l with
  | nil => rfl
  | cons m l ih =>
    obtain ⟨hm, hl⟩ := List.pairwise_cons.mp h
    rcases Nat.lt_trichotomy m.1 (n + 1) with hlt | heq | hgt
    · simp [ih hl, hlt.le, Nat.le_of_lt_succ hlt, hlt.ne]
    · have hnone : l.filter (·.1 ≤ n) = [] := by
        simp only [List.filter_eq_nil_iff, decide_eq_true_eq, not_le]
        exact fun e he => by have := hm e he; omega
      simp [ih hl, heq, hnone]
    · simp [ih hl, hgt.not_ge, show ¬ m.1 ≤ n by omega, hgt.ne']

lemma start_eq (n : ℕ) : c.start n = (c.marks.filter (·.1 = n)).map Prod.snd := by
  have hshort := c.short_lt
  have hlong := c.long_lt
  unfold Tuning.start Tuning.marks
  split_ifs with h1 h2 h3
  · simp [h1, hlong.ne, (hshort.trans hlong).ne]
  · simp [h2, hshort.ne, hlong.ne']
  · simp [h3, hshort.ne', (hshort.trans hlong).ne']
  · simp [Ne.symm h1, Ne.symm h2, Ne.symm h3]

lemma starts_zero (t : ℕ) : c.starts t 0 = [] := by
  have hinterval := c.interval_lt
  have hshort := c.short_lt
  have hlong := c.long_lt
  simp [Tuning.starts, Tuning.marks, show c.short ≠ 0 by omega, show c.long ≠ 0 by omega,
    show c.hold ≠ 0 by omega]

lemma starts_succ (t n : ℕ) :
    c.starts t (n + 1) = c.starts t n ++ (c.start (n + 1)).map (Prod.mk (t + (n + 1))) := by
  rw [Tuning.starts, filter_le_succ marks_sorted, List.map_append, start_eq, List.map_map]
  refine congrArg _ (List.map_congr_left fun m hm => ?_)
  rw [Prod.map_apply, of_decide_eq_true (List.mem_filter.mp hm).2]
  rfl

lemma held_on (t n : ℕ) : final c.step (List.replicate (n + 1) true) .up = .held n 0 ∧
    trace c.step t (List.replicate (n + 1) true) .up = (t, .down) :: c.starts t n := by
  induction n with
  | zero =>
    rw [starts_zero]
    exact ⟨rfl, rfl⟩
  | succ n ih =>
    rw [List.replicate_succ', final_append, trace_append, ih.1, ih.2, starts_succ,
      List.length_replicate]
    refine ⟨rfl, ?_⟩
    rw [trace_cons, trace_nil, List.append_nil]
    rfl

lemma stays_up (m t : ℕ) : final c.step (List.replicate m false) .up = .up ∧
    trace c.step t (List.replicate m false) .up = [] := by
  induction m generalizing t with
  | zero => exact ⟨rfl, rfl⟩
  | succ m ih => exact ih (t + 1)

lemma pause_over (k : ℕ) {n m t : ℕ} (hm : c.interval < n + (m + 1)) :
    final c.step (List.replicate (m + 1) false) (.between n k) = .up ∧
      trace c.step t (List.replicate (m + 1) false) (.between n k) =
        [(t + (max (n + 1) (c.interval + 1) - (n + 1)), .clicks k)] := by
  induction m generalizing n t with
  | zero =>
    have hstep : c.step false (.between n k) = (.up, [.clicks k]) := by
      rw [Tuning.step, if_neg Bool.false_ne_true, if_pos hm]
    rw [List.replicate_one, final_cons, trace_cons, hstep, Nat.max_eq_left (by omega), Nat.sub_self]
    exact ⟨rfl, rfl⟩
  | succ m ih =>
    rw [List.replicate_succ, final_cons, trace_cons, Tuning.step, if_neg Bool.false_ne_true]
    rcases Nat.lt_or_ge c.interval (n + 1) with hlt | hge
    · rw [if_pos hlt, Nat.max_eq_left (by omega), Nat.sub_self]
      refine ⟨(stays_up _ 0).1, ?_⟩
      rw [(stays_up _ _).2]
      rfl
    · rw [if_neg (by omega)]
      obtain ⟨hfinal, htrace⟩ := ih (n := n + 1) (t := t + 1) (by omega)
      refine ⟨hfinal, ?_⟩
      rw [htrace, List.map_nil, List.nil_append]
      congr 2
      omega

lemma let_go (t n : ℕ) {m : ℕ} (hm : c.interval < m) :
    final c.step (List.replicate (n + 1) true ++ List.replicate (m + 1) false) .up = .up ∧
      trace c.step t (List.replicate (n + 1) true ++ List.replicate (m + 1) false) .up =
        (t, .down) :: (c.starts t n ++ [c.ending t (n + 1)]) := by
  rw [final_append, trace_append, (held_on t n).1, (held_on t n).2, List.length_replicate,
    List.replicate_succ, final_cons, trace_cons, Tuning.step, if_neg Bool.false_ne_true,
    Tuning.release, Tuning.ending]
  split_ifs
  · exact ⟨(stays_up m 0).1, by rw [(stays_up m _).2]; rfl⟩
  · exact ⟨(stays_up m 0).1, by rw [(stays_up m _).2]; rfl⟩
  · exact ⟨(stays_up m 0).1, by rw [(stays_up m _).2]; rfl⟩
  · obtain ⟨m, rfl⟩ := Nat.exists_eq_succ_of_ne_zero (Nat.ne_zero_of_lt hm)
    obtain ⟨hfinal, htrace⟩ := pause_over (c := c) ((0 + 1) % clickModulus) (n := n + 1) (m := m)
      (t := t + (n + 1) + 1) (by omega)
    refine ⟨hfinal, ?_⟩
    rw [htrace, List.map_nil, List.nil_append, List.cons_append]
    congr 4
    omega

end Holds

section Taps

variable {c}

lemma tap_press (a k t : ℕ) (ha : a ≤ c.interval) :
    final c.step (List.replicate a true) (.held 0 k) = .held a k ∧
      trace c.step t (List.replicate a true) (.held 0 k) = [] := by
  have hinterval := c.interval_lt
  have hshort := c.short_lt
  have hlong := c.long_lt
  induction a with
  | zero => exact ⟨rfl, rfl⟩
  | succ a ih =>
    have hstep : c.step true (.held a k) = (.held (a + 1) k, []) := by
      rw [Tuning.step, if_pos rfl]
      split_ifs with hk hlt
      · omega
      · rfl
      · rw [Tuning.start, if_neg (by omega), if_neg (by omega), if_neg (by omega),
          Nat.eq_zero_of_not_pos hk]
    obtain ⟨hfinal, htrace⟩ := ih (by omega)
    rw [List.replicate_succ', final_append, trace_append, hfinal, htrace, final_cons, trace_cons,
      hstep]
    exact ⟨rfl, rfl⟩

lemma tap_pause (n k b t : ℕ) (hb : n + b ≤ c.interval) :
    final c.step (List.replicate b false) (.between n k) = .between (n + b) k ∧
      trace c.step t (List.replicate b false) (.between n k) = [] := by
  induction b with
  | zero => exact ⟨rfl, rfl⟩
  | succ b ih =>
    obtain ⟨hfinal, htrace⟩ := ih (by omega)
    rw [List.replicate_succ', final_append, trace_append, hfinal, htrace, final_cons, trace_cons,
      Tuning.step, if_neg Bool.false_ne_true, if_neg (by omega)]
    exact ⟨rfl, rfl⟩

lemma tap_rest {tap : Tap} (h : tap.Quick c) (k t : ℕ) :
    final c.step (List.replicate tap.1 true ++ List.replicate (tap.2 + 1) false) (.held 0 k) =
        .between (tap.1 + 1 + tap.2) ((k + 1) % clickModulus) ∧
      trace c.step t (List.replicate tap.1 true ++ List.replicate (tap.2 + 1) false) (.held 0 k) =
        [] := by
  have hinterval := c.interval_lt
  have hshort := c.short_lt
  have hlong := c.long_lt
  obtain ⟨a, b⟩ := tap
  change a + b + 1 ≤ c.interval at h
  have hrelease : c.step false (.held a k) = (.between (a + 1) ((k + 1) % clickModulus), []) := by
    rw [Tuning.step, if_neg Bool.false_ne_true, Tuning.release, if_neg (by omega),
      if_neg (by omega), if_neg (by omega)]
  obtain ⟨hfinal, htrace⟩ := tap_press (c := c) a k t (by omega)
  rw [final_append, trace_append, hfinal, htrace, List.replicate_succ, final_cons, trace_cons,
    hrelease]
  obtain ⟨hfinal', htrace'⟩ := tap_pause (c := c) (a + 1) ((k + 1) % clickModulus) b
    (t + (List.replicate a true).length + 1) (by omega)
  exact ⟨hfinal', by rw [htrace']; rfl⟩

lemma tap_again {tap : Tap} (h : tap.Quick c) (n k t : ℕ) :
    final c.step tap.scans (.between n k) =
        .between (tap.1 + 1 + tap.2) ((k + 1) % clickModulus) ∧
      trace c.step t tap.scans (.between n k) = [] :=
  tap_rest h k (t + 1)

lemma tapScans_snoc (taps : List Tap) (tap : Tap) :
    tapScans (taps ++ [tap]) = tapScans taps ++ tap.scans := by
  rw [tapScans, List.flatMap_append, List.flatMap_singleton]
  rfl

lemma taps_counted {taps : List Tap} {tap : Tap} (h : ∀ tap' ∈ taps ++ [tap], tap'.Quick c) (t : ℕ) :
    final c.step (tapScans (taps ++ [tap])) .up =
        .between (tap.1 + 1 + tap.2) ((taps.length + 1) % clickModulus) ∧
      trace c.step t (tapScans (taps ++ [tap])) .up = [(t, .down)] := by
  induction taps using List.reverseRecOn generalizing tap with
  | nil =>
    obtain ⟨hfinal, htrace⟩ := tap_rest (h tap (by simp)) 0 (t + 1)
    have hone : tapScans ([] ++ [tap]) =
        true :: (List.replicate tap.1 true ++ List.replicate (tap.2 + 1) false) :=
      tapScans_snoc [] tap
    rw [hone, final_cons, trace_cons]
    refine ⟨hfinal, ?_⟩
    change (t, Gesture.down) :: trace c.step (t + 1) _ (.held 0 0) = _
    rw [htrace]
  | append_singleton taps last ih =>
    obtain ⟨hfinal, htrace⟩ := ih fun tap' htap' => h tap' (List.mem_append_left _ htap')
    have hquick : tap.Quick c := h tap (by simp)
    obtain ⟨hfinal', htrace'⟩ := tap_again hquick (last.1 + 1 + last.2)
      ((taps.length + 1) % clickModulus) (t + (tapScans (taps ++ [last])).length)
    rw [tapScans_snoc, final_append, trace_append, hfinal, htrace, hfinal', htrace',
      Nat.mod_add_mod, List.length_append]
    exact ⟨rfl, rfl⟩

lemma taps_reported {taps : List Tap} {tap : Tap} (h : ∀ tap' ∈ taps ++ [tap], tap'.Quick c)
    (t : ℕ) {m : ℕ} (hm : c.interval ≤ m) :
    final c.step (tapScans (taps ++ [tap]) ++ List.replicate (m + 1) false) .up = .up ∧
      trace c.step t (tapScans (taps ++ [tap]) ++ List.replicate (m + 1) false) .up =
        [(t, .down), (t + (tapScans taps).length + c.interval + 1,
          .clicks ((taps.length + 1) % clickModulus))] := by
  have hquick : tap.1 + tap.2 + 1 ≤ c.interval := h tap (by simp)
  have hlength : (tapScans (taps ++ [tap])).length =
      (tapScans taps).length + (tap.1 + tap.2 + 2) := by
    simp only [tapScans_snoc, Tap.scans, List.length_append, List.length_replicate]
    omega
  obtain ⟨hfinal, htrace⟩ := taps_counted h t
  obtain ⟨hfinal', htrace'⟩ := pause_over (c := c) ((taps.length + 1) % clickModulus)
    (n := tap.1 + 1 + tap.2) (m := m) (t := t + (tapScans (taps ++ [tap])).length) (by omega)
  rw [final_append, trace_append, hfinal, htrace, hfinal', htrace']
  refine ⟨rfl, ?_⟩
  rw [hlength, List.singleton_append]
  congr 3
  omega

end Taps

section Buttons

variable {c} {btn : FlexButton}

/-- A press held for `n` further scans and then let go, however long: it is reported at once, then
at each threshold it reaches, and last with the kind of press it was. -/
theorem press_reported (h : Tuned c btn) (hs : btn.status = .stageDefault) (t n : ℕ) {m : ℕ}
    (hm : c.interval < m) :
    let scans := List.replicate (n + 1) true ++ List.replicate (m + 1) false
    (final processButton scans btn).status = .stageDefault ∧
      trace processButton t scans btn = (t, .pressDown) ::
        (c.starts t n ++ [c.ending t (n + 1)]).map (Prod.map id Gesture.code) := by
  obtain ⟨hfinal, htrace⟩ := let_go t n hm
  obtain ⟨htracks, hcalls⟩ := Tracks.trace ⟨h, hs⟩
    (List.replicate (n + 1) true ++ List.replicate (m + 1) false) t
  rw [hfinal] at htracks
  rw [htrace] at hcalls
  exact ⟨htracks.2, hcalls⟩

theorem press_reported_user :
    let scans := List.replicate 100 true ++ List.replicate 17 false
    (final processButton scans (registered userButton)).status = .stageDefault ∧
      trace processButton 0 scans (registered userButton) =
        [(0, .pressDown), (75, .pressShortStart), (100, .pressShortUp)] :=
  press_reported userButton_tuned rfl 0 99 (m := 16) (by decide)

lemma clickEvent_mod (k : ℕ) :
    (Gesture.clicks (k % clickModulus)).code = clickEvent (BitVec.ofNat 16 k) := by
  rw [Gesture.code]
  congr 1
  exact BitVec.eq_of_toNat_eq (Nat.mod_mod k _)

/-- Quick taps, however many: one press at once, and one interval after the last press the number
of clicks, as far as 16 bits and four codes tell it. -/
theorem taps_reported_once (h : Tuned c btn) (hs : btn.status = .stageDefault) (t : ℕ)
    {taps : List Tap} {tap : Tap} (hquick : ∀ tap' ∈ taps ++ [tap], tap'.Quick c) {m : ℕ}
    (hm : c.interval ≤ m) :
    let scans := tapScans (taps ++ [tap]) ++ List.replicate (m + 1) false
    (final processButton scans btn).status = .stageDefault ∧
      trace processButton t scans btn = [(t, .pressDown),
        (t + (tapScans taps).length + c.interval + 1,
          clickEvent (BitVec.ofNat 16 (taps.length + 1)))] := by
  obtain ⟨hfinal, htrace⟩ := taps_reported hquick t hm
  obtain ⟨htracks, hcalls⟩ := Tracks.trace ⟨h, hs⟩
    (tapScans (taps ++ [tap]) ++ List.replicate (m + 1) false) t
  rw [hfinal] at htracks
  rw [htrace] at hcalls
  refine ⟨htracks.2, hcalls.trans ?_⟩
  rw [← clickEvent_mod]
  rfl

theorem taps_reported_once_user :
    let scans := tapScans [(4, 4), (3, 5)] ++ List.replicate 16 false
    (final processButton scans (registered userButton)).status = .stageDefault ∧
      trace processButton 0 scans (registered userButton) =
        [(0, .pressDown), (26, .pressDoubleClick)] :=
  taps_reported_once userButton_tuned rfl 0
    (show ∀ tap' ∈ [(4, 4)] ++ [(3, 5)], Tap.Quick userTuning tap' from by decide) (m := 15)
    (by decide)

end Buttons

end YkLock
