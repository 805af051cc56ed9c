import YkLock.Threads.MutexOwners

/-! At which priority every thread runs, as long as no wait for the mutex has a time limit. -/

namespace YkLock.Ipc

open Library.Runs

variable {T : Type} [DecidableEq T]

/-- Threads take the mutex at once or wait for it for ever. -/
def MutexAction.Patient (a : MutexAction T) : Prop :=
  match a with
  | .take _ limit => limit ≤ 0
  | .release _ | .timeout _ | .schedule _ => True

structure Restored (s : MutexSystem T) : Prop where
  guarded : Guarded s
  pending : s.priority = pendingPriority s.currentPriority s.suspendThread
  owner : ∀ o, s.owner = some o → s.currentPriority o = min (s.initPriority o) s.priority
  other : ∀ t, s.owner ≠ some t → s.currentPriority t = s.initPriority t
  untimed : ∀ t, s.pc t ≠ .suspended true
  success : ∀ t error, s.pc t = .resumed error → error = rtEok

section Steps

variable {s : MutexSystem T} {t o : T}

lemma restored_rtMutexInit {initPriority : T → ℕ} (hinit : ∀ t, initPriority t ≤ 0xff) :
    Restored (rtMutexInit initPriority) where
  guarded := guarded_rtMutexInit hinit
  pending := rfl
  owner o ho := by cases ho
  other _ _ := rfl
  untimed t ht := by cases ht
  success t error ht := by cases ht

omit [DecidableEq T] in
lemma pending_insert {currentPriority : T → ℕ} {l : List T} (hp : currentPriority t ≤ 0xff) :
    pendingPriority currentPriority (ipcListSuspend .prio currentPriority t l) =
      min (currentPriority t) (pendingPriority currentPriority l) := by
  cases l with
  | nil => exact (min_eq_left hp).symm
  | cons th rest =>
    rw [ipcListSuspend, List.orderedInsert_cons]
    by_cases hlt : currentPriority t < currentPriority th
    · rw [if_pos hlt]
      exact (min_eq_left hlt.le).symm
    · rw [if_neg hlt]
      exact (min_eq_right (Nat.le_of_not_lt hlt)).symm

omit [DecidableEq T] in
lemma pending_congr {currentPriority currentPriority' : T → ℕ} {l : List T}
    (heq : ∀ u ∈ l, currentPriority' u = currentPriority u) :
    pendingPriority currentPriority' l = pendingPriority currentPriority l := by
  cases l with
  | nil => rfl
  | cons th rest => exact heq th List.mem_cons_self

lemma untimed_update {pc : SemPc} (h : Restored s) (hpc : pc ≠ .suspended true) (t u : T) :
    Function.update s.pc t pc u ≠ .suspended true := by
  by_cases hu : u = t
  · subst hu
    rwa [Function.update_self]
  · rw [Function.update_of_ne hu]
    exact h.untimed u

lemma success_update {pc : SemPc} (h : Restored s)
    (hpc : ∀ error, pc = .resumed error → error = rtEok) (t u : T) (error : ℤ)
    (hu : Function.update s.pc t pc u = .resumed error) : error = rtEok := by
  by_cases hut : u = t
  · subst hut
    rw [Function.update_self] at hu
    exact hpc error hu
  · rw [Function.update_of_ne hut] at hu
    exact h.success u error hu

lemma Restored.returns (h : Restored s) {error : ℤ} (hguarded : Guarded (s.returns t error)) :
    Restored (s.returns t error) where
  guarded := hguarded
  pending := h.pending
  owner := h.owner
  other := h.other
  untimed := untimed_update h (by simp) t
  success := success_update h (by simp) t

lemma Restored.suspend (h : Restored s) (hidle : s.pc t = .idle) (howner : s.owner = some o)
    (hne : o ≠ t) : Restored (s.suspend t o false) := by
  have hguarded := h.guarded.suspend false hidle howner hne
  have hown : s.currentPriority t = s.initPriority t := by
    apply h.other
    rw [howner]
    exact fun heq => hne (Option.some.inj heq)
  refine ⟨hguarded, ?_, ?_, ?_, untimed_update h (by simp) t, success_update h (by simp) t⟩
  · rw [suspend_priority, h.pending]
    refine (pending_insert (h.guarded.low t)).symm.trans (pending_congr ?_).symm
    intro u hu
    apply suspend_other
    rintro rfl
    have hwaits := (hguarded.listed u).mp hu
    rw [hguarded.owns u howner] at hwaits
    cases hwaits
  · intro u hu
    obtain rfl : o = u := Option.some.inj (howner.symm.trans hu)
    have hold := h.owner o howner
    rw [suspend_priority]
    change (if s.currentPriority t < s.priority ∧ s.currentPriority t < s.currentPriority o then
      Function.update s.currentPriority o (s.currentPriority t) else s.currentPriority) o =
        min (s.initPriority o) _
    split_ifs with hless
    · rw [Function.update_self]
      omega
    · omega
  · intro u hu
    have huo : u ≠ o := by
      rintro rfl
      exact hu howner
    rw [suspend_other false huo]
    exact h.other u hu

lemma Restored.take (h : Restored s) {timeout : ℤ} (htimeout : timeout ≤ 0) (t : T) :
    Restored (rtMutexTake t timeout s) := by
  have hguarded := h.guarded.take t timeout
  rw [rtMutexTake] at hguarded ⊢
  by_cases hidle : s.pc t = .idle
  · rw [if_neg (not_not.mpr hidle)] at hguarded ⊢
    rcases howner : s.owner with _ | o
    · rw [howner] at hguarded
      have hinit : s.currentPriority t = s.initPriority t := h.other t (by simp [howner])
      refine ⟨hguarded, ?_, ?_, ?_, untimed_update h (by simp) t, success_update h (by simp) t⟩
      · change 0xff = pendingPriority s.currentPriority s.suspendThread
        rw [h.guarded.free howner]
        rfl
      · intro u hu
        obtain rfl := Option.some.inj hu
        exact hinit.trans (min_eq_left (h.guarded.init t)).symm
      · intro u _
        exact h.other u (by simp [howner])
    · rw [howner] at hguarded
      dsimp only at hguarded ⊢
      by_cases hot : o = t
      · rw [if_pos hot] at hguarded ⊢
        by_cases hmax : s.hold < rtMutexHoldMax
        · rw [if_pos hmax] at hguarded ⊢
          rw [← howner] at hguarded ⊢
          exact ⟨hguarded, h.pending, h.owner, h.other, untimed_update h (by simp) t,
            success_update h (by simp) t⟩
        · rw [if_neg hmax] at hguarded ⊢
          exact h.returns hguarded
      · rw [if_neg hot] at hguarded ⊢
        by_cases hzero : timeout = 0
        · rw [if_pos hzero] at hguarded ⊢
          exact h.returns hguarded
        · rw [if_neg hzero, decide_eq_false (not_lt.mpr htimeout)]
          exact h.suspend hidle howner hot
  · rw [if_pos hidle]
    exact h

lemma Restored.pass (h : Restored s) (howner : s.owner = some t) (hguarded : Guarded (s.pass t)) :
    Restored (s.pass t) := by
  have hown := h.owner t howner
  have hlent := hguarded.lent
  dsimp only [MutexSystem.pass] at hguarded hlent ⊢
  generalize hcur : (if s.currentPriority t = s.priority then
    Function.update s.currentPriority t (s.initPriority t) else s.currentPriority) = current
    at hguarded hlent ⊢
  have hinit (u : T) : current u = s.initPriority u := by
    by_cases hu : u = t
    · subst hu
      rw [← hcur]
      split_ifs with heq
      · exact Function.update_self _ _ _
      · omega
    · rw [← hcur, given_back_other hu]
      apply h.other
      rw [howner]
      exact fun heq => hu (Option.some.inj heq).symm
  rcases hlist : s.suspendThread with _ | ⟨next, rest⟩
  · simp only [hlist] at hguarded
    refine ⟨hguarded, rfl, ?_, fun u _ => hinit u, h.untimed, h.success⟩
    rintro o ⟨⟩
  · simp only [hlist] at hguarded hlent
    refine ⟨hguarded, rfl, ?_, fun u _ => hinit u, untimed_update h (by simp) next,
      success_update h (by simp) next⟩
    intro o ho
    have hle := hlent o ho
    dsimp only at hle ⊢
    rw [hinit o] at hle ⊢
    exact (min_eq_left hle).symm

lemma Restored.release (h : Restored s) (t : T) : Restored (rtMutexRelease t s) := by
  have hguarded := h.guarded.release t
  rw [rtMutexRelease] at hguarded ⊢
  by_cases hnot : s.pc t ≠ .idle ∨ s.owner ≠ some t
  · rw [if_pos hnot]
    exact h
  · rw [if_neg hnot] at hguarded ⊢
    by_cases hlast : s.hold - 1 = 0
    · rw [if_pos hlast] at hguarded ⊢
      exact h.pass (not_not.mp (not_or.mp hnot).2) hguarded
    · rw [if_neg hlast] at hguarded ⊢
      exact ⟨hguarded, h.pending, h.owner, h.other, h.untimed, h.success⟩

lemma Restored.timeout (h : Restored s) (t : T) : Restored (mutexTimeout t s) := by
  rw [mutexTimeout]
  rcases hpc : s.pc t with _ | timer | error
  · exact h
  · cases timer
    · exact h
    · exact absurd hpc (h.untimed t)
  · exact h

lemma Restored.schedule (h : Restored s) (t : T) : Restored (mutexSchedule t s) := by
  have hguarded := h.guarded.schedule t
  rw [mutexSchedule] at hguarded ⊢
  rcases hpc : s.pc t with _ | timer | error
  · exact h
  · exact h
  · simp only [hpc, if_pos (h.success t error hpc)] at hguarded ⊢
    exact h.returns hguarded

lemma Restored.step (a : MutexAction T) (h : Restored s) (ha : a.Patient) :
    Restored (mutexStep a s) := by
  cases a with
  | take t timeout => exact h.take ha t
  | release t => exact h.release t
  | timeout t => exact h.timeout t
  | schedule t => exact h.schedule t

lemma mutexStep_initPriority (a : MutexAction T) (s : MutexSystem T) :
    (mutexStep a s).initPriority = s.initPriority := by
  cases a with
  | take t timeout =>
    rw [mutexStep, rtMutexTake]
    rcases s.owner with _ | o
    · dsimp only
      split_ifs <;> rfl
    · dsimp only
      split_ifs <;> rfl
  | release t =>
    rw [mutexStep, rtMutexRelease]
    split_ifs
    · rfl
    · rw [MutexSystem.pass]
      split <;> rfl
    · rfl
  | timeout t =>
    rw [mutexStep, mutexTimeout]
    split <;> rfl
  | schedule t =>
    rw [mutexStep, mutexSchedule]
    split
    · split_ifs <;> rfl
    · rfl

end Steps

/-- As long as every thread that waits for the mutex waits for ever, the owner runs at the highest of
its own priority and those of the threads that wait, and every other thread at its own: what an
owner inherits it gives back with the mutex. -/
theorem mutex_priorities_restored {initPriority : T → ℕ} (hinit : ∀ t, initPriority t ≤ 0xff)
    {as : List (MutexAction T)} (has : ∀ a ∈ as, a.Patient) :
    let s := run mutexStep as (rtMutexInit initPriority)
    ∀ t, s.currentPriority t = if s.owner = some t
      then min (initPriority t) (pendingPriority initPriority s.suspendThread)
      else initPriority t := by
  intro s t
  have h : Restored s :=
    run_invariant (fun a ha s hs => hs.step a (has a ha)) (restored_rtMutexInit hinit)
  have hkept : s.initPriority = initPriority :=
    run_invariant (I := fun s : MutexSystem T => s.initPriority = initPriority)
      (fun a _ s hs => (mutexStep_initPriority a s).trans hs) rfl
  rw [← hkept]
  by_cases howner : s.owner = some t
  · have hpending : pendingPriority s.initPriority s.suspendThread = s.priority := by
      rw [h.pending]
      apply pending_congr
      intro u hu
      refine (h.other u fun hown => ?_).symm
      exact h.guarded.not_listed (h.guarded.owns u hown) hu
    rw [if_pos howner, hpending]
    exact h.owner t howner
  · rw [if_neg howner]
    exact h.other t howner

theorem mutex_priorities_restored_two :
    let initPriority : Fin 2 → ℕ := ![9, 5]
    let s := run mutexStep [.take 0 0, .take 1 (-1), .release 0] (rtMutexInit initPriority)
    ∀ t, s.currentPriority t = if s.owner = some t
      then min (initPriority t) (pendingPriority initPriority s.suspendThread)
      else initPriority t := by
  refine mutex_priorities_restored (by decide) ?_
  rintro a (_ | ⟨_, _ | ⟨_, _ | ⟨_, _ | _⟩⟩⟩)
  · exact le_rfl
  · exact neg_nonpos.mpr zero_le_one
  · trivial

section Plain

def MutexAction.Immediate (a : MutexAction ThreadId) : Prop :=
  match a with
  | .take _ limit => limit = 0
  | .release _ | .timeout _ | .schedule _ => True

def plainStep (a : MutexAction ThreadId) (mutex : RtMutex) : RtMutex :=
  match a with
  | .take t _ => (YkLock.rtMutexTake t mutex).2
  | .release t => (YkLock.rtMutexRelease t mutex).2
  | .timeout _ | .schedule _ => mutex

structure Plain (mutex : RtMutex) (s : MutexSystem ThreadId) : Prop where
  mutex : mutex = ⟨s.owner, s.hold⟩
  idle : ∀ t, s.pc t = .idle
  nobody : s.suspendThread = []

variable {mutex : RtMutex} {s : MutexSystem ThreadId}

lemma Plain.returns (h : Plain mutex s) (t : ThreadId) (error : ℤ) (owner : Option ThreadId)
    (hold priority : ℕ) : Plain ⟨owner, hold⟩
      (MutexSystem.returns t error
        { s with owner := owner, hold := hold, priority := priority }) where
  mutex := rfl
  idle u := by
    by_cases hu : u = t
    · subst hu
      simp [MutexSystem.returns]
    · simp [MutexSystem.returns, Function.update_of_ne hu, h.idle u]
  nobody := h.nobody

lemma Plain.take (h : Plain mutex s) (t : ThreadId) :
    Plain (YkLock.rtMutexTake t mutex).2 (rtMutexTake t 0 s) := by
  rw [rtMutexTake, YkLock.rtMutexTake, h.mutex, if_neg (not_not.mpr (h.idle t))]
  rcases howner : s.owner with _ | o
  · exact h.returns t rtEok (some t) 1 0xff
  · have hfail (error : ℤ) : Plain ⟨some o, s.hold⟩ (s.returns t error) := by
      have hreturns := h.returns t error s.owner s.hold s.priority
      rw [howner] at hreturns
      rw [← howner] at hreturns ⊢
      exact hreturns
    dsimp only
    by_cases hot : o = t
    · subst hot
      rw [if_pos rfl, if_pos rfl]
      by_cases hmax : s.hold < rtMutexHoldMax
      · rw [if_pos hmax, if_pos hmax]
        exact h.returns o rtEok (some o) (s.hold + 1) s.priority
      · rw [if_neg hmax, if_neg hmax]
        exact hfail _
    · have hother : ¬ some o = some t := fun heq => hot (Option.some.inj heq)
      rw [if_neg hother, if_neg (Option.some_ne_none o), if_neg hot, if_pos rfl]
      exact hfail _

lemma Plain.release (h : Plain mutex s) (t : ThreadId) :
    Plain (YkLock.rtMutexRelease t mutex).2 (rtMutexRelease t s) := by
  rw [rtMutexRelease, YkLock.rtMutexRelease, h.mutex]
  by_cases howner : s.owner = some t
  · have hcall : ¬ (s.pc t ≠ .idle ∨ s.owner ≠ some t) := by simp [h.idle t, howner]
    rw [if_neg (not_not.mpr howner), if_neg hcall]
    by_cases hlast : s.hold - 1 = 0
    · rw [if_pos hlast, if_pos hlast, MutexSystem.pass, h.nobody]
      exact ⟨rfl, h.idle, rfl⟩
    · rw [if_neg hlast, if_neg hlast]
      exact ⟨rfl, h.idle, h.nobody⟩
  · rw [if_pos (Or.inr howner), if_pos howner]
    exact ⟨rfl, h.idle, h.nobody⟩

lemma Plain.step (a : MutexAction ThreadId) (ha : a.Immediate) (h : Plain mutex s) :
    Plain (plainStep a mutex) (mutexStep a s) := by
  cases a with
  | take t limit =>
    obtain rfl : limit = 0 := ha
    exact h.take t
  | release t => exact h.release t
  | timeout t =>
    rw [plainStep, mutexStep, mutexTimeout, h.idle t]
    exact h
  | schedule t =>
    rw [plainStep, mutexStep, mutexSchedule, h.idle t]
    exact h

lemma Plain.run {as : List (MutexAction ThreadId)} (has : ∀ a ∈ as, a.Immediate)
    (h : Plain mutex s) : Plain (run plainStep as mutex) (run mutexStep as s) := by
  induction as generalizing mutex s with
  | nil => exact h
  | cons a as ih =>
    obtain ⟨ha, hrest⟩ := List.forall_mem_cons.mp has
    exact ih hrest (h.step a ha)

/-- As long as nobody waits, the mutex is the plain one that the model of the button has. -/
theorem mutex_run_plain (initPriority : ThreadId → ℕ) {as : List (MutexAction ThreadId)}
    (has : ∀ a ∈ as, a.Immediate) :
    let s := run mutexStep as (rtMutexInit initPriority)
    run plainStep as ⟨none, 0⟩ = ⟨s.owner, s.hold⟩ := by
  have hstart : Plain ⟨none, 0⟩ (rtMutexInit initPriority) := ⟨rfl, fun _ => rfl, rfl⟩
  exact (hstart.run has).mutex

end Plain

end YkLock.Ipc
