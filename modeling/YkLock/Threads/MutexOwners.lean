import YkLock.Model.Mutex
import YkLock.Threads.SemaphoreLine

/-! Who owns a mutex, who gets it next, and at which priority its owner runs. -/

namespace YkLock.Ipc

open Library.Runs

variable {T : Type} [DecidableEq T]

def MutexSystem.holds (s : MutexSystem T) (t : T) : ℕ := if s.owner = some t then s.hold else 0

structure Guarded (s : MutexSystem T) : Prop where
  taken : ∀ t, (s.returned t).count rtEok + (if s.pc t = .resumed rtEok then 1 else 0) =
    s.released t + s.holds t
  held : ∀ o, s.owner = some o → 1 ≤ s.hold
  free : s.owner = none → s.suspendThread = []
  owns : ∀ o, s.owner = some o → (s.pc o).waits = false
  granted : ∀ t, s.pc t = .resumed rtEok → s.owner = some t
  listed : ∀ t, t ∈ s.suspendThread ↔ (s.pc t).waits = true
  line : s.suspendThread.Pairwise (Ahead .prio s.currentPriority s.since)
  past : ∀ t ∈ s.suspendThread, s.since t < s.now
  init : ∀ t, s.initPriority t ≤ 0xff
  low : ∀ t, s.currentPriority t ≤ 0xff
  lent : ∀ o, s.owner = some o → s.currentPriority o ≤ s.priority
  first : ∀ u ∈ s.suspendThread, s.priority ≤ s.currentPriority u

section Priorities

variable {currentPriority currentPriority' since : T → ℕ} {l : List T} {u : T}

omit [DecidableEq T] in
lemma line_congr (hl : l.Pairwise (Ahead .prio currentPriority since))
    (heq : ∀ u ∈ l, currentPriority' u = currentPriority u) :
    l.Pairwise (Ahead .prio currentPriority' since) := by
  refine hl.imp_of_mem ?_
  intro u v hu hv hahead
  rw [Ahead.eq_def, heq u hu, heq v hv]
  exact hahead

omit [DecidableEq T] in
lemma ahead_le {t : T} (h : Ahead .prio currentPriority since t u) :
    currentPriority t ≤ currentPriority u := by
  rcases h with hlt | ⟨heq, -⟩
  · exact hlt.le
  · exact heq.le

omit [DecidableEq T] in
lemma pendingPriority_le (hl : l.Pairwise (Ahead .prio currentPriority since)) (hu : u ∈ l) :
    pendingPriority currentPriority l ≤ currentPriority u := by
  cases l with
  | nil => cases hu
  | cons th rest =>
    rcases List.mem_cons.mp hu with rfl | hrest
    · exact le_rfl
    · exact ahead_le ((List.pairwise_cons.mp hl).1 u hrest)

omit [DecidableEq T] in
lemma le_pendingPriority {p : ℕ} (hp : p ≤ 0xff) (hl : ∀ u ∈ l, p ≤ currentPriority u) :
    p ≤ pendingPriority currentPriority l := by
  cases l with
  | nil => exact hp
  | cons th rest => exact hl th List.mem_cons_self

end Priorities

section Steps

variable {s : MutexSystem T} {t o : T}

lemma guarded_rtMutexInit {initPriority : T → ℕ} (hinit : ∀ t, initPriority t ≤ 0xff) :
    Guarded (rtMutexInit initPriority) where
  taken _ := rfl
  held o ho := by cases ho
  free _ := rfl
  owns o ho := by cases ho
  granted t ht := by cases ht
  listed t := by simp [rtMutexInit, SemPc.waits]
  line := List.Pairwise.nil
  past t ht := by cases ht
  init := hinit
  low := hinit
  lent o ho := by cases ho
  first u hu := by cases hu

lemma Guarded.not_listed (h : Guarded s) (ht : (s.pc t).waits = false) : t ∉ s.suspendThread := by
  rw [h.listed t, ht]
  exact Bool.false_ne_true

lemma Guarded.nodup (h : Guarded s) : s.suspendThread.Nodup := nodup_of_line h.line

lemma holds_returns (error : ℤ) (u : T) : (s.returns t error).holds u = s.holds u := rfl

lemma holds_owner (h : s.owner = some t) : s.holds t = s.hold := if_pos h

lemma holds_other (h : s.owner ≠ some t) : s.holds t = 0 := if_neg h

lemma Guarded.returns (h : Guarded s) {error : ℤ} (hwaits : (s.pc t).waits = false)
    (hcount : s.pc t = .resumed rtEok ↔ error = rtEok) : Guarded (s.returns t error) where
  taken u := by
    rw [holds_returns]
    by_cases hu : u = t
    · subst hu
      have htaken := h.taken u
      simp only [hcount] at htaken
      simp [MutexSystem.returns, List.count_singleton, htaken]
    · simp [MutexSystem.returns, Function.update_of_ne hu, h.taken u]
  held := h.held
  free := h.free
  owns o ho := by
    by_cases hot : o = t
    · subst hot
      simp [MutexSystem.returns, SemPc.waits]
    · simpa [MutexSystem.returns, Function.update_of_ne hot] using h.owns o ho
  granted u hu := by
    by_cases hut : u = t
    · subst hut
      simp [MutexSystem.returns] at hu
    · simp only [MutexSystem.returns, Function.update_of_ne hut] at hu
      exact h.granted u hu
  listed u := by
    by_cases hu : u = t
    · subst hu
      simp [MutexSystem.returns, SemPc.waits, h.not_listed hwaits]
    · simp [MutexSystem.returns, Function.update_of_ne hu, h.listed u]
  line := h.line
  past := h.past
  init := h.init
  low := h.low
  lent := h.lent
  first := h.first

def MutexSystem.grant (t : T) (hold priority : ℕ) (s : MutexSystem T) : MutexSystem T :=
  { s with
    owner := some t
    hold := hold
    priority := priority
    pc := Function.update s.pc t (.resumed rtEok) }

lemma returns_grant (t : T) (hold priority : ℕ) (s : MutexSystem T) :
    (s.grant t hold priority).returns t rtEok =
      MutexSystem.returns t rtEok
        { s with owner := some t, hold := hold, priority := priority } := by
  simp [MutexSystem.grant, MutexSystem.returns]

lemma holds_grant_self (t : T) (hold priority : ℕ) : (s.grant t hold priority).holds t = hold :=
  if_pos rfl

lemma holds_grant_other {u : T} (hu : u ≠ t) (hold priority : ℕ) :
    (s.grant t hold priority).holds u = 0 := by
  refine if_neg fun howner => hu ?_
  exact (Option.some.inj howner).symm

lemma Guarded.grant (h : Guarded s) {priority : ℕ} (howner : ∀ u, s.owner = some u → u = t)
    (hidle : s.pc t = .idle) (hlent : s.currentPriority t ≤ priority)
    (hfirst : ∀ u ∈ s.suspendThread, priority ≤ s.currentPriority u) :
    Guarded (s.grant t (s.holds t + 1) priority) where
  taken u := by
    have htaken := h.taken u
    by_cases hu : u = t
    · subst hu
      rw [holds_grant_self]
      simp [hidle] at htaken
      simp [MutexSystem.grant, htaken, Nat.add_assoc]
    · rw [holds_grant_other hu]
      rw [holds_other fun hown => hu (howner u hown)] at htaken
      simpa [MutexSystem.grant, Function.update_of_ne hu] using htaken
  held _ _ := Nat.le_add_left _ _
  free hnone := by cases hnone
  owns o ho := by
    obtain rfl := Option.some.inj ho
    simp [MutexSystem.grant, SemPc.waits]
  granted u hu := by
    by_cases hut : u = t
    · rw [hut]
      rfl
    · simp only [MutexSystem.grant, Function.update_of_ne hut] at hu
      exact absurd (howner u (h.granted u hu)) hut
  listed u := by
    by_cases hu : u = t
    · subst hu
      have hnot := h.not_listed (t := u) (by rw [hidle]; rfl)
      simp [MutexSystem.grant, SemPc.waits, hnot]
    · simp [MutexSystem.grant, Function.update_of_ne hu, h.listed u]
  line := h.line
  past := h.past
  init := h.init
  low := h.low
  lent o ho := by
    obtain rfl := Option.some.inj ho
    exact hlent
  first := hfirst

lemma suspend_other (timer : Bool) {u : T} (hu : u ≠ o) :
    (s.suspend t o timer).currentPriority u = s.currentPriority u := by
  simp only [MutexSystem.suspend]
  split_ifs
  · exact Function.update_of_ne hu _ _
  · rfl

lemma suspend_priority (timer : Bool) :
    (s.suspend t o timer).priority = min (s.currentPriority t) s.priority := by
  simp only [MutexSystem.suspend]
  split_ifs with hless
  · exact (min_eq_left hless.le).symm
  · exact (min_eq_right (Nat.le_of_not_lt hless)).symm

lemma holds_suspend (timer : Bool) (u : T) : (s.suspend t o timer).holds u = s.holds u := rfl

lemma Guarded.suspend (h : Guarded s) (timer : Bool) (hidle : s.pc t = .idle)
    (howner : s.owner = some o) (hne : o ≠ t) : Guarded (s.suspend t o timer) := by
  have hwaits : (s.pc t).waits = false := by
    rw [hidle]
    rfl
  have hnot : o ∉ s.suspendThread := h.not_listed (h.owns o howner)
  have hlower : (s.suspend t o timer).currentPriority o ≤ s.currentPriority o := by
    simp only [MutexSystem.suspend]
    split_ifs with hless
    · rw [Function.update_self]
      exact hless.2.le
    · exact le_rfl
  have hmem (u : T) : u ∈ (s.suspend t o timer).suspendThread ↔ u = t ∨ u ∈ s.suspendThread := by
    simp only [MutexSystem.suspend]
    exact mem_ipcListSuspend
  have hother (u : T) (hu : u ∈ (s.suspend t o timer).suspendThread) : u ≠ o := by
    rintro rfl
    rcases (hmem u).mp hu with heq | hlisted
    · exact hne heq
    · exact hnot hlisted
  refine ⟨?_, h.held, ?_, ?_, ?_, ?_, ?_, ?_, h.init, ?_, ?_, ?_⟩
  · intro u
    have htaken := h.taken u
    rw [holds_suspend]
    by_cases hu : u = t
    · subst hu
      rw [hidle] at htaken
      simpa [MutexSystem.suspend] using htaken
    · simpa [MutexSystem.suspend, Function.update_of_ne hu] using htaken
  · intro hnone
    rw [show s.owner = none from hnone] at howner
    cases howner
  · intro u hu
    obtain rfl : o = u := Option.some.inj (howner.symm.trans hu)
    simpa [MutexSystem.suspend, Function.update_of_ne hne] using h.owns o howner
  · intro u hu
    by_cases hut : u = t
    · subst hut
      simp [MutexSystem.suspend] at hu
    · simp only [MutexSystem.suspend, Function.update_of_ne hut] at hu
      exact h.granted u hu
  · intro u
    refine (hmem u).trans ?_
    by_cases hu : u = t
    · subst hu
      simp [MutexSystem.suspend, SemPc.waits]
    · simp [MutexSystem.suspend, hu, h.listed u]
  · apply line_congr (ipcListSuspend_line h.line h.past (h.not_listed hwaits))
    exact fun u hu => suspend_other timer (hother u hu)
  · intro u hu
    by_cases hut : u = t
    · subst hut
      simp [MutexSystem.suspend]
    · simp only [MutexSystem.suspend, Function.update_of_ne hut]
      have hlisted := ((hmem u).mp hu).resolve_left hut
      exact (h.past u hlisted).trans (Nat.lt_succ_self _)
  · intro u
    by_cases hu : u = o
    · subst hu
      exact hlower.trans (h.low u)
    · rw [suspend_other timer hu]
      exact h.low u
  · intro u hu
    obtain rfl : o = u := Option.some.inj (howner.symm.trans hu)
    rw [suspend_priority]
    refine le_min ?_ (hlower.trans (h.lent o howner))
    simp only [MutexSystem.suspend]
    split_ifs with hless
    · rw [Function.update_self]
    · rcases not_and_or.mp hless with hge | hge
      · exact (h.lent o howner).trans (Nat.le_of_not_lt hge)
      · exact Nat.le_of_not_lt hge
  · intro u hu
    rw [suspend_other timer (hother u hu), suspend_priority]
    rcases (hmem u).mp hu with rfl | hlisted
    · exact min_le_left _ _
    · exact (min_le_right _ _).trans (h.first u hlisted)

lemma grant_returns {hold priority : ℕ}
    (hgrant : Guarded (s.grant t hold priority)) : Guarded (MutexSystem.returns t rtEok
      { s with owner := some t, hold := hold, priority := priority }) := by
  rw [← returns_grant]
  apply hgrant.returns
  · simp [MutexSystem.grant, SemPc.waits]
  · simp [MutexSystem.grant]

lemma Guarded.take (h : Guarded s) (t : T) (timeout : ℤ) : Guarded (rtMutexTake t timeout s) := by
  rw [rtMutexTake]
  by_cases hidle : s.pc t = .idle
  · have hwaits : (s.pc t).waits = false := by
      rw [hidle]
      rfl
    have hfail {error : ℤ} (herror : error ≠ rtEok) : Guarded (s.returns t error) := by
      apply h.returns hwaits
      simp [hidle, herror]
    rw [if_neg (not_not.mpr hidle)]
    rcases howner : s.owner with _ | o
    · have hgrant : Guarded (s.grant t (s.holds t + 1) 0xff) := by
        apply h.grant _ hidle (h.low t)
        · rw [h.free howner]
          simp
        · simp [howner]
      rw [holds_other (by simp [howner])] at hgrant
      exact grant_returns hgrant
    · dsimp only
      by_cases hot : o = t
      · subst hot
        rw [if_pos rfl]
        by_cases hmax : s.hold < rtMutexHoldMax
        · have hgrant : Guarded (s.grant o (s.holds o + 1) s.priority) := by
            apply h.grant _ hidle (h.lent o howner) h.first
            simp [howner]
          rw [holds_owner howner] at hgrant
          rw [if_pos hmax]
          exact grant_returns hgrant
        · rw [if_neg hmax]
          exact hfail (by decide)
      · rw [if_neg hot]
        by_cases htimeout : timeout = 0
        · rw [if_pos htimeout]
          exact hfail (by decide)
        · rw [if_neg htimeout]
          exact h.suspend _ hidle howner hot
  · rw [if_pos hidle]
    exact h

lemma given_back_other {u : T} (hu : u ≠ t) : (if s.currentPriority t = s.priority then
    Function.update s.currentPriority t (s.initPriority t) else s.currentPriority) u =
      s.currentPriority u := by
  split_ifs
  · exact Function.update_of_ne hu _ _
  · rfl

lemma Guarded.pass (h : Guarded s) (howner : s.owner = some t) (hidle : s.pc t = .idle)
    (hone : s.hold = 1) : Guarded (s.pass t) := by
  have hnot : t ∉ s.suspendThread := h.not_listed (h.owns t howner)
  have htaken := h.taken t
  rw [holds_owner howner, hidle, hone] at htaken
  have hrest (u : T) (hu : u ≠ t) : s.holds u = 0 := by
    apply holds_other
    rw [howner]
    simpa using Ne.symm hu
  dsimp only [MutexSystem.pass]
  generalize hcur : (if s.currentPriority t = s.priority then
    Function.update s.currentPriority t (s.initPriority t) else s.currentPriority) = current
  have hsame (u : T) (hu : u ≠ t) : current u = s.currentPriority u := by
    rw [← hcur, given_back_other hu]
  have hlow (u : T) : current u ≤ 0xff := by
    by_cases hu : u = t
    · subst hu
      rw [← hcur]
      split_ifs
      · rw [Function.update_self]
        exact h.init u
      · exact h.low u
    · rw [hsame u hu]
      exact h.low u
  have hline : s.suspendThread.Pairwise (Ahead .prio current s.since) := by
    apply line_congr h.line
    rintro u hu
    exact hsame u (ne_of_mem_of_not_mem hu hnot)
  have hresumed (u : T) : s.pc u ≠ .resumed rtEok := by
    intro hpc
    obtain rfl : t = u := Option.some.inj (howner.symm.trans (h.granted u hpc))
    rw [hidle] at hpc
    cases hpc
  have hlisted := h.listed
  have hpast := h.past
  have hnodup := h.nodup
  have hreleased (u : T) (hu : u ≠ t) : (s.returned u).count rtEok = s.released u := by
    have hcount := h.taken u
    rwa [hrest u hu, if_neg (hresumed u)] at hcount
  rcases hlist : s.suspendThread with _ | ⟨next, rest⟩
  · simp only [hlist] at hline hlisted hpast
    refine ⟨?_, ?_, fun _ => rfl, ?_, ?_, hlisted, hline, hpast, h.init, hlow, ?_, ?_⟩
    · intro u
      rw [holds_other (by simp), if_neg (hresumed u)]
      by_cases hu : u = t
      · subst hu
        simpa using htaken
      · simpa [Function.update_of_ne hu] using hreleased u hu
    · rintro o ⟨⟩
    · rintro o ⟨⟩
    · exact fun u hpc => absurd hpc (hresumed u)
    · rintro o ⟨⟩
    · rintro u ⟨⟩
  · have hmem : next ∈ s.suspendThread := by
      rw [hlist]
      exact List.mem_cons_self
    have hne : next ≠ t := ne_of_mem_of_not_mem hmem hnot
    simp only [hlist] at hline hlisted hpast hnodup
    obtain ⟨hahead, htail⟩ := List.pairwise_cons.mp hline
    obtain ⟨hnext, -⟩ := List.nodup_cons.mp hnodup
    refine ⟨?_, ?_, ?_, ?_, ?_, ?_, htail, ?_, h.init, hlow, ?_, ?_⟩
    · intro u
      by_cases hu : u = next
      · subst hu
        rw [holds_owner rfl]
        simp [Function.update_of_ne hne, hreleased u hne]
      · rw [holds_other (by simpa using Ne.symm hu)]
        by_cases hut : u = t
        · subst hut
          simpa [Function.update_of_ne hu, hidle] using htaken
        · simpa [Function.update_of_ne hu, Function.update_of_ne hut, hresumed u] using
            hreleased u hut
    · exact fun _ _ => le_rfl
    · rintro ⟨⟩
    · intro o ho
      obtain rfl := Option.some.inj ho
      simp [SemPc.waits]
    · intro u hpc
      by_cases hu : u = next
      · rw [hu]
      · exact absurd ((Function.update_of_ne hu _ _).symm.trans hpc) (hresumed u)
    · intro u
      by_cases hu : u = next
      · subst hu
        simp [SemPc.waits, hnext]
      · simpa [Function.update_of_ne hu, hu] using hlisted u
    · exact fun u hu => hpast u (List.mem_cons_of_mem next hu)
    · intro o ho
      obtain rfl := Option.some.inj ho
      exact le_pendingPriority (hlow next) fun u hu => ahead_le (hahead u hu)
    · exact fun u hu => pendingPriority_le htail hu

lemma Guarded.release (h : Guarded s) (t : T) : Guarded (rtMutexRelease t s) := by
  rw [rtMutexRelease]
  by_cases hnot : s.pc t ≠ .idle ∨ s.owner ≠ some t
  · rw [if_pos hnot]
    exact h
  · obtain ⟨hidle, howner⟩ := not_or.mp hnot
    rw [not_not] at hidle howner
    have hpos := h.held t howner
    rw [if_neg hnot]
    by_cases hlast : s.hold - 1 = 0
    · rw [if_pos hlast]
      apply h.pass howner hidle
      omega
    · rw [if_neg hlast]
      refine ⟨?_, ?_, h.free, h.owns, h.granted, h.listed, h.line, h.past, h.init, h.low, h.lent,
        h.first⟩
      · intro u
        have htaken := h.taken u
        by_cases hu : u = t
        · subst hu
          have hholds : MutexSystem.holds { s with
              hold := s.hold - 1
              released := Function.update s.released u (s.released u + 1) } u = s.hold - 1 :=
            holds_owner howner
          rw [holds_owner howner] at htaken
          rw [hholds]
          simp only [Function.update_self]
          omega
        · have hother : s.owner ≠ some u := by
            rw [howner]
            simpa using Ne.symm hu
          have hholds : MutexSystem.holds { s with
              hold := s.hold - 1
              released := Function.update s.released t (s.released t + 1) } u = 0 :=
            holds_other hother
          rw [holds_other hother] at htaken
          rw [hholds]
          simpa [Function.update_of_ne hu] using htaken
      · intro o ho
        dsimp only
        omega

lemma Guarded.timeout (h : Guarded s) (t : T) : Guarded (mutexTimeout t s) := by
  rw [mutexTimeout]
  rcases hpc : s.pc t with _ | timer | error
  · exact h
  · cases timer
    · exact h
    · dsimp only
      refine ⟨?_, h.held, ?_, ?_, ?_, ?_, h.line.sublist List.erase_sublist, ?_, h.init, h.low,
        h.lent, ?_⟩
      · intro u
        refine Eq.trans ?_ (h.taken u)
        by_cases hu : u = t
        · subst hu
          simp [hpc, rtEok, rtEtimeout]
        · simp [Function.update_of_ne hu]
      · intro hnone
        rw [h.free hnone]
        rfl
      · intro o ho
        by_cases hot : o = t
        · subst hot
          simp [SemPc.waits]
        · simpa [Function.update_of_ne hot] using h.owns o ho
      · intro u hu
        by_cases hut : u = t
        · subst hut
          simp [rtEok, rtEtimeout] at hu
        · exact h.granted u ((Function.update_of_ne hut _ _).symm.trans hu)
      · intro u
        rw [h.nodup.mem_erase_iff]
        by_cases hu : u = t
        · subst hu
          simp [SemPc.waits]
        · simp [hu, h.listed u]
      · exact fun u hu => h.past u (List.mem_of_mem_erase hu)
      · exact fun u hu => h.first u (List.mem_of_mem_erase hu)
  · exact h

lemma Guarded.detach (h : Guarded s) (t : T) : Guarded (s.detach t) := by
  have hsame (u : T) (hu : s.owner ≠ some u) :
      (s.detach t).currentPriority u = s.currentPriority u := by
    simp only [MutexSystem.detach]
    rcases howner : s.owner with _ | o
    · rfl
    · rw [howner] at hu
      dsimp only
      split_ifs
      · exact Function.update_of_ne (fun heq => hu (congrArg some heq.symm)) _ _
      · rfl
  have hlent (o : T) (ho : s.owner = some o) : (s.detach t).currentPriority o ≤
      pendingPriority s.currentPriority s.suspendThread := by
    simp only [MutexSystem.detach, ho]
    split_ifs
    · rw [Function.update_self]
      exact min_le_right _ _
    · apply le_pendingPriority (h.low o)
      exact fun u hu => (h.lent o ho).trans (h.first u hu)
  have hlow (u : T) : (s.detach t).currentPriority u ≤ 0xff := by
    by_cases hu : s.owner = some u
    · simp only [MutexSystem.detach, hu]
      split_ifs
      · rw [Function.update_self]
        exact (min_le_left _ _).trans (h.init u)
      · exact h.low u
    · rw [hsame u hu]
      exact h.low u
  have hother (u : T) (hu : u ∈ s.suspendThread) : s.owner ≠ some u := by
    intro howner
    exact h.not_listed (h.owns u howner) hu
  have hline := line_congr h.line fun u hu => hsame u (hother u hu)
  refine ⟨h.taken, h.held, h.free, h.owns, h.granted, h.listed, hline, h.past, h.init, hlow, hlent,
    ?_⟩
  intro u hu
  rw [hsame u (hother u hu)]
  exact pendingPriority_le h.line hu

lemma Guarded.schedule (h : Guarded s) (t : T) : Guarded (mutexSchedule t s) := by
  rw [mutexSchedule]
  rcases hpc : s.pc t with _ | timer | error
  · exact h
  · exact h
  · have hwaits : (s.pc t).waits = false := by
      rw [hpc]
      rfl
    dsimp only
    by_cases herror : error = rtEok
    · rw [if_pos herror]
      apply h.returns hwaits
      simp [hpc]
    · rw [if_neg herror]
      apply (h.detach t).returns hwaits
      simp [MutexSystem.detach, hpc]

lemma Guarded.step (a : MutexAction T) (h : Guarded s) : Guarded (mutexStep a s) := by
  cases a with
  | take t timeout => exact h.take t timeout
  | release t => exact h.release t
  | timeout t => exact h.timeout t
  | schedule t => exact h.schedule t

lemma Guarded.next (h : Guarded s) (howner : s.owner = some o) (hidle : s.pc o = .idle)
    (hone : s.hold = 1) (ht : (s.pc t).waits = true) :
    (rtMutexRelease o s).owner = some t ↔ ∀ u, u ≠ t → (s.pc u).waits = true →
      Ahead .prio s.currentPriority s.since t u := by
  have hmem := (h.listed t).mpr ht
  obtain ⟨v, rest, hlist⟩ := List.exists_cons_of_ne_nil (List.ne_nil_of_mem hmem)
  have hline := h.line
  rw [hlist] at hline hmem
  have hahead := (List.pairwise_cons.mp hline).1
  have hpass : (rtMutexRelease o s).owner = some v := by
    rw [rtMutexRelease, if_neg (by simp [hidle, howner]), if_pos (by rw [hone]),
      MutexSystem.pass, hlist]
  rw [hpass]
  constructor
  · intro heq u hu hwaits
    obtain rfl := Option.some.inj heq
    have humem := (h.listed u).mpr hwaits
    rw [hlist] at humem
    exact hahead u (List.mem_of_ne_of_mem hu humem)
  · intro hfirst
    by_contra hne
    have hvt : v ≠ t := fun heq => hne (congrArg some heq)
    have hvwaits : (s.pc v).waits = true := by
      apply (h.listed v).mp
      rw [hlist]
      exact List.mem_cons_self
    have hbehind := hahead t (List.mem_of_ne_of_mem hvt.symm hmem)
    exact ahead_asymm hbehind (hfirst v hvt hvwaits)

end Steps

/-- In whatever order threads that hold no other mutex take this one, wait for it, give up and release
it: none but its owner has taken it more often than released it, and the owner at least once more, no
thread waits for a mutex that is free, the owner runs at a priority at least as high as that of any
thread that waits, and its last release hands the mutex to the first of those by priority and then by
time. -/
theorem mutex_has_one_owner {initPriority : T → ℕ} (hinit : ∀ t, initPriority t ≤ 0xff)
    (as : List (MutexAction T)) :
    let s := run mutexStep as (rtMutexInit initPriority)
    (∀ t, (s.returned t).count rtEok + (if s.pc t = .resumed rtEok then 1 else 0) =
        s.released t + s.holds t) ∧
      (s.owner = none → ∀ t, (s.pc t).waits = false) ∧
      ∀ o, s.owner = some o → 1 ≤ s.hold ∧ ∀ t, (s.pc t).waits = true →
        s.currentPriority o ≤ s.currentPriority t ∧
          (s.pc o = .idle → s.hold = 1 →
            ((rtMutexRelease o s).owner = some t ↔ ∀ u, u ≠ t → (s.pc u).waits = true →
              Ahead .prio s.currentPriority s.since t u)) := by
  intro s
  have h : Guarded s :=
    run_invariant (fun a _ _ hs => hs.step a) (guarded_rtMutexInit hinit)
  refine ⟨h.taken, ?_, ?_⟩
  · intro hfree t
    have hmem := h.listed t
    rw [h.free hfree] at hmem
    exact Bool.eq_false_iff.mpr fun hwaits => List.not_mem_nil (hmem.mpr hwaits)
  · intro o howner
    refine ⟨h.held o howner, fun t ht => ⟨?_, fun hidle hone => h.next howner hidle hone ht⟩⟩
    exact (h.lent o howner).trans (h.first t ((h.listed t).mpr ht))

theorem mutex_has_one_owner_three :
    let initPriority : Fin 3 → ℕ := ![6, 9, 5]
    let s := run mutexStep [.take 0 (-1), .take 1 (-1), .take 2 10] (rtMutexInit initPriority)
    (∀ t, (s.returned t).count rtEok + (if s.pc t = .resumed rtEok then 1 else 0) =
        s.released t + s.holds t) ∧
      (s.owner = none → ∀ t, (s.pc t).waits = false) ∧
      ∀ o, s.owner = some o → 1 ≤ s.hold ∧ ∀ t, (s.pc t).waits = true →
        s.currentPriority o ≤ s.currentPriority t ∧
          (s.pc o = .idle → s.hold = 1 →
            ((rtMutexRelease o s).owner = some t ↔ ∀ u, u ≠ t → (s.pc u).waits = true →
              Ahead .prio s.currentPriority s.since t u)) :=
  mutex_has_one_owner (by decide) _

end YkLock.Ipc
