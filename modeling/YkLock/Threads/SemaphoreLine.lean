import YkLock.Library.Runs
import YkLock.Model.Semaphore

/-! Who gets the permits of a semaphore, in which order. -/

namespace YkLock

open Library.Runs Library.WaitingLine

variable {T : Type}

def SemPc.waits : SemPc → Bool
  | .suspended _ => true
  | .idle | .resumed _ => false

def Ahead (flag : IpcFlag) (currentPriority since : T → ℕ) (t u : T) : Prop :=
  match flag with
  | .fifo => since t < since u
  | .prio => currentPriority t < currentPriority u ∨
      currentPriority t = currentPriority u ∧ since t < since u

structure Queued [DecidableEq T] (value : ℕ) (s : SemSystem T) : Prop where
  counted : permits value s.log = some s.sem.value
  bounded : s.sem.value ≤ rtSemValueMax
  taken : ∀ t, s.log.count (.take t) =
    (s.returned t).count rtEok + if s.pc t = .resumed rtEok then 1 else 0
  free : 0 < s.sem.value → s.sem.suspendThread = []
  listed : ∀ t, t ∈ s.sem.suspendThread ↔ (s.pc t).waits = true
  line : s.sem.suspendThread.Pairwise (Ahead s.sem.flag s.currentPriority s.since)
  past : ∀ t ∈ s.sem.suspendThread, s.since t < s.now

section Lists

variable {flag : IpcFlag} {currentPriority since : T → ℕ} {now : ℕ} {t u : T} {l : List T}

lemma not_ahead_self : ¬ Ahead flag currentPriority since t t := by
  cases flag with
  | fifo => exact lt_irrefl _
  | prio =>
    rintro (hlt | ⟨-, hlt⟩)
    · exact lt_irrefl _ hlt
    · exact lt_irrefl _ hlt

lemma ahead_asymm (h : Ahead flag currentPriority since t u) :
    ¬ Ahead flag currentPriority since u t := by
  cases flag with
  | fifo => exact lt_asymm h
  | prio =>
    rcases h with hlt | ⟨heq, hlt⟩
    · rintro (hlt' | ⟨heq', -⟩)
      · exact lt_asymm hlt hlt'
      · exact hlt.ne' heq'
    · rintro (hlt' | ⟨-, hlt'⟩)
      · exact hlt'.ne' heq
      · exact lt_asymm hlt hlt'

lemma nodup_of_line (h : l.Pairwise (Ahead flag currentPriority since)) : l.Nodup := by
  refine h.imp ?_
  rintro t u hahead rfl
  exact not_ahead_self hahead

lemma mem_ipcListSuspend :
    u ∈ ipcListSuspend flag currentPriority t l ↔ u = t ∨ u ∈ l := by
  cases flag with
  | fifo => simp [ipcListSuspend, or_comm]
  | prio => exact mem_orderedInsert_iff

variable [DecidableEq T]

lemma ipcListSuspend_line (hl : l.Pairwise (Ahead flag currentPriority since))
    (hpast : ∀ u ∈ l, since u < now) (ht : t ∉ l) :
    (ipcListSuspend flag currentPriority t l).Pairwise
      (Ahead flag currentPriority (Function.update since t now)) := by
  have hother (u : T) (hu : u ∈ l) : Function.update since t now u = since u := by
    apply Function.update_of_ne
    rintro rfl
    exact ht hu
  have hlast (u : T) (hu : u ∈ l) :
      Function.update since t now u < Function.update since t now t := by
    rw [hother u hu, Function.update_self]
    exact hpast u hu
  have hkept : l.Pairwise (Ahead flag currentPriority (Function.update since t now)) := by
    refine hl.imp_of_mem ?_
    intro u v hu hv hahead
    rw [Ahead.eq_def, hother u hu, hother v hv]
    exact hahead
  cases flag with
  | fifo =>
    refine List.pairwise_append.mpr ⟨hkept, List.pairwise_singleton _ t, ?_⟩
    intro u hu v hv
    obtain rfl := List.mem_singleton.mp hv
    exact hlast u hu
  | prio =>
    apply pairwise_orderedInsert hkept
    · exact fun u _ hlt => Or.inl hlt
    · intro u hu hle
      rcases Nat.lt_or_eq_of_le (Nat.le_of_not_lt hle) with hlt | heq
      · exact Or.inl hlt
      · exact Or.inr ⟨heq, hlast u hu⟩
    · rintro u - v - hlt (hlt' | ⟨heq, -⟩)
      · exact Or.inl (hlt.trans hlt')
      · exact Or.inl (heq ▸ hlt)

end Lists

section Steps

variable [DecidableEq T] {value : ℕ} {s : SemSystem T} {t : T}

lemma queued_rtSemInit (flag : IpcFlag) (currentPriority : T → ℕ) (hvalue : value ≤ rtSemValueMax) :
    Queued value (rtSemInit value flag currentPriority) where
  counted := rfl
  bounded := hvalue
  taken _ := rfl
  free _ := rfl
  listed t := by simp [rtSemInit, SemPc.waits]
  line := List.Pairwise.nil
  past t ht := by cases ht

lemma Queued.nodup (h : Queued value s) : s.sem.suspendThread.Nodup := nodup_of_line h.line

lemma Queued.not_listed (h : Queued value s) (ht : (s.pc t).waits = false) :
    t ∉ s.sem.suspendThread := by
  rw [h.listed t, ht]
  exact Bool.false_ne_true

lemma Queued.returns (h : Queued value s) {error : ℤ} {log : List (Permit T)} {left : ℕ}
    (hwaits : (s.pc t).waits = false) (hpermits : permits value log = some left)
    (hleft : left ≤ s.sem.value)
    (hother : ∀ u, u ≠ t → log.count (.take u) = s.log.count (.take u))
    (hown : log.count (.take t) = (s.returned t).count rtEok + if error = rtEok then 1 else 0) :
    Queued value
      (SemSystem.returns t error { s with sem := { s.sem with value := left }, log := log }) where
  counted := hpermits
  bounded := hleft.trans h.bounded
  taken u := by
    by_cases hu : u = t
    · subst hu
      simp [SemSystem.returns, hown, List.count_singleton]
    · simp [SemSystem.returns, Function.update_of_ne hu, hother u hu, h.taken u]
  free hpos := h.free (lt_of_lt_of_le hpos hleft)
  listed u := by
    by_cases hu : u = t
    · subst hu
      simp [SemSystem.returns, SemPc.waits, h.not_listed hwaits]
    · simp [SemSystem.returns, Function.update_of_ne hu, h.listed u]
  line := h.line
  past := h.past

lemma Queued.suspend (h : Queued value s) (timer : Bool) (hidle : s.pc t = .idle)
    (hzero : s.sem.value = 0) : Queued value (s.suspend t timer) where
  counted := h.counted
  bounded := h.bounded
  taken u := by
    by_cases hu : u = t
    · subst hu
      simp [SemSystem.suspend, h.taken u, hidle]
    · simp [SemSystem.suspend, Function.update_of_ne hu, h.taken u]
  free hpos := absurd hzero (Nat.pos_iff_ne_zero.mp hpos)
  listed u := by
    refine mem_ipcListSuspend.trans ?_
    by_cases hu : u = t
    · subst hu
      simp [SemSystem.suspend, SemPc.waits]
    · simp [SemSystem.suspend, hu, h.listed u]
  line := by
    apply ipcListSuspend_line h.line h.past
    apply h.not_listed
    rw [hidle]
    rfl
  past u hu := by
    by_cases hut : u = t
    · subst hut
      simp [SemSystem.suspend]
    · rcases mem_ipcListSuspend.mp hu with heq | hmem
      · exact absurd heq hut
      · simp only [SemSystem.suspend, Function.update_of_ne hut]
        exact (h.past u hmem).trans (Nat.lt_succ_self _)

lemma Queued.take (h : Queued value s) (t : T) (timeout : ℤ) :
    Queued value (rtSemTake t timeout s) := by
  rw [rtSemTake]
  by_cases hidle : s.pc t = .idle
  · have hwaits : (s.pc t).waits = false := by
      rw [hidle]
      rfl
    have htaken := h.taken t
    rw [hidle, if_neg (by simp), Nat.add_zero] at htaken
    rw [if_neg (not_not.mpr hidle)]
    by_cases hpos : 0 < s.sem.value
    · rw [if_pos hpos]
      apply h.returns hwaits
      · rw [permits_append h.counted, permits, if_neg hpos.ne']
        rfl
      · exact Nat.sub_le _ _
      · intro u hu
        simp [List.count_append, Ne.symm hu]
      · simp [List.count_append, htaken]
    · rw [if_neg hpos]
      by_cases htimeout : timeout = 0
      · rw [if_pos htimeout]
        apply h.returns hwaits h.counted le_rfl (fun _ _ => rfl)
        rw [htaken, if_neg (by decide)]
        rfl
      · rw [if_neg htimeout]
        exact h.suspend _ hidle (Nat.eq_zero_of_not_pos hpos)
  · rw [if_pos hidle]
    exact h

lemma Queued.schedule (h : Queued value s) (t : T) : Queued value (semSchedule t s) := by
  rw [semSchedule]
  rcases hpc : s.pc t with _ | timer | error
  · exact h
  · exact h
  · apply h.returns _ h.counted le_rfl (fun _ _ => rfl)
    · rw [h.taken t, hpc]
      simp
    · rw [hpc]
      rfl

lemma Queued.resume (h : Queued value s) {error : ℤ} {log : List (Permit T)}
    (hwaits : (s.pc t).waits = true) (hpermits : permits value log = some s.sem.value)
    (hother : ∀ u, u ≠ t → log.count (.take u) = s.log.count (.take u))
    (hown : log.count (.take t) = s.log.count (.take t) + if error = rtEok then 1 else 0) :
    Queued value { s with
      sem := { s.sem with suspendThread := s.sem.suspendThread.erase t }
      pc := Function.update s.pc t (.resumed error)
      log := log } where
  counted := hpermits
  bounded := h.bounded
  taken u := by
    by_cases hu : u = t
    · subst hu
      have htaken := h.taken u
      have hpc : ¬ s.pc u = .resumed rtEok := by
        intro hpc
        rw [hpc] at hwaits
        cases hwaits
      rw [if_neg hpc, Nat.add_zero] at htaken
      simp [hown, htaken]
    · simp [Function.update_of_ne hu, hother u hu, h.taken u]
  free hpos := by
    have hmem := (h.listed t).mpr hwaits
    rw [h.free hpos] at hmem
    cases hmem
  listed u := by
    rw [h.nodup.mem_erase_iff]
    by_cases hu : u = t
    · subst hu
      simp [SemPc.waits]
    · simp [hu, h.listed u]
  line := h.line.sublist List.erase_sublist
  past u hu := h.past u (List.mem_of_mem_erase hu)

lemma Queued.timeout (h : Queued value s) (t : T) : Queued value (threadTimeout t s) := by
  rw [threadTimeout]
  rcases hpc : s.pc t with _ | timer | error
  · exact h
  · cases timer
    · exact h
    · apply h.resume _ h.counted (fun _ _ => rfl)
      · rw [if_neg (by decide)]
        rfl
      · rw [hpc]
        rfl
  · exact h

lemma Queued.release (h : Queued value s) : Queued value (rtSemRelease s) := by
  rw [rtSemRelease]
  rcases hlist : s.sem.suspendThread with _ | ⟨t, rest⟩
  · by_cases hfull : s.sem.value < rtSemValueMax
    · dsimp only
      rw [if_pos hfull]
      refine ⟨?_, hfull, ?_, fun _ => hlist, h.listed, h.line, h.past⟩
      · rw [permits_append h.counted]
        rfl
      · intro t
        simp [List.count_append, h.taken t]
    · dsimp only
      rw [if_neg hfull]
      exact h
  · have hmem : t ∈ s.sem.suspendThread := hlist ▸ List.mem_cons_self
    have hrest : s.sem.suspendThread.erase t = rest := by rw [hlist, List.erase_cons_head]
    have hresume : Queued value { s with
        sem := { s.sem with suspendThread := s.sem.suspendThread.erase t }
        pc := Function.update s.pc t (.resumed rtEok)
        log := s.log ++ [.release, .take t] } := by
      apply h.resume ((h.listed t).mp hmem)
      · rw [permits_append h.counted]
        rfl
      · intro u hu
        simp [List.count_append, Ne.symm hu]
      · simp [List.count_append]
    rw [hrest] at hresume
    exact hresume

lemma Queued.step (a : SemAction T) (h : Queued value s) : Queued value (semStep a s) := by
  cases a with
  | take t timeout => exact h.take t timeout
  | release => exact h.release
  | timeout t => exact h.timeout t
  | schedule t => exact h.schedule t

lemma Queued.first (h : Queued value s) (ht : (s.pc t).waits = true) :
    (rtSemRelease s).pc t = .resumed rtEok ↔ ∀ u, u ≠ t → (s.pc u).waits = true →
      Ahead s.sem.flag s.currentPriority s.since t u := by
  have hmem := (h.listed t).mpr ht
  obtain ⟨v, rest, hlist⟩ := List.exists_cons_of_ne_nil (List.ne_nil_of_mem hmem)
  have hline := h.line
  rw [hlist] at hline hmem
  have hahead := (List.pairwise_cons.mp hline).1
  have hpc : (rtSemRelease s).pc = Function.update s.pc v (.resumed rtEok) := by
    rw [rtSemRelease, hlist]
  rw [hpc]
  constructor
  · intro hresumed u hu hwaits
    obtain rfl : t = v := by
      by_contra hne
      rw [Function.update_of_ne hne] at hresumed
      rw [hresumed] at ht
      cases ht
    have humem := (h.listed u).mpr hwaits
    rw [hlist] at humem
    exact hahead u (List.mem_of_ne_of_mem hu humem)
  · intro hfirst
    obtain rfl : t = v := by
      by_contra hne
      have hvwaits : (s.pc v).waits = true := by
        apply (h.listed v).mp
        rw [hlist]
        exact List.mem_cons_self
      have hbehind := hahead t (List.mem_of_ne_of_mem hne hmem)
      exact ahead_asymm hbehind (hfirst v (Ne.symm hne) hvwaits)
    exact Function.update_self _ _ _

lemma semStep_kept (a : SemAction T) (s : SemSystem T) :
    (semStep a s).sem.flag = s.sem.flag ∧ (semStep a s).currentPriority = s.currentPriority := by
  cases a with
  | take t timeout =>
    rw [semStep, rtSemTake]
    split_ifs <;> exact ⟨rfl, rfl⟩
  | release =>
    rw [semStep, rtSemRelease]
    split
    · exact ⟨rfl, rfl⟩
    · split_ifs <;> exact ⟨rfl, rfl⟩
  | timeout t =>
    rw [semStep, threadTimeout]
    split <;> exact ⟨rfl, rfl⟩
  | schedule t =>
    rw [semStep, semSchedule]
    split <;> exact ⟨rfl, rfl⟩

end Steps

/-- In whatever order threads take a semaphore, with any timeouts, and it is released: its permits
are a counter's, as the drivers' models have them. Each was there when it was taken and is returned
once, no thread waits while there is one, and a release gives it to the first of those that wait, by
the flag of the semaphore. -/
theorem semaphore_serves_in_order [DecidableEq T] (flag : IpcFlag) (currentPriority : T → ℕ)
    {value : ℕ} (hvalue : value ≤ rtSemValueMax) (as : List (SemAction T)) :
    let s := run semStep as (rtSemInit value flag currentPriority)
    permits value s.log = some s.sem.value ∧ s.sem.value ≤ rtSemValueMax ∧
      (∀ t, s.log.count (.take t) =
        (s.returned t).count rtEok + if s.pc t = .resumed rtEok then 1 else 0) ∧
      (0 < s.sem.value → ∀ t, (s.pc t).waits = false) ∧
      ∀ t, (s.pc t).waits = true →
        ((rtSemRelease s).pc t = .resumed rtEok ↔ ∀ u, u ≠ t → (s.pc u).waits = true →
          Ahead flag currentPriority s.since t u) := by
  intro s
  have h : Queued value s :=
    run_invariant (fun a _ _ hs => hs.step a) (queued_rtSemInit flag currentPriority hvalue)
  have hkept : s.sem.flag = flag ∧ s.currentPriority = currentPriority := by
    refine run_invariant (I := fun s : SemSystem T => s.sem.flag = flag ∧
      s.currentPriority = currentPriority) ?_ ⟨rfl, rfl⟩
    rintro a - s' ⟨hflag, hpriority⟩
    obtain ⟨hflag', hpriority'⟩ := semStep_kept a s'
    exact ⟨hflag'.trans hflag, hpriority'.trans hpriority⟩
  refine ⟨h.counted, h.bounded, h.taken, ?_, ?_⟩
  · intro hpos t
    have hmem := h.listed t
    rw [h.free hpos] at hmem
    exact Bool.eq_false_iff.mpr fun hwaits => List.not_mem_nil (hmem.mpr hwaits)
  · intro t ht
    have hfirst := h.first ht
    rw [hkept.1, hkept.2] at hfirst
    exact hfirst

theorem semaphore_serves_in_order_two :
    let s := run semStep [.take 0 (-1), .take 1 10] (rtSemInit 0 .prio fun t : Fin 2 => 7 - t.val)
    permits 0 s.log = some s.sem.value ∧ s.sem.value ≤ rtSemValueMax ∧
      (∀ t, s.log.count (.take t) =
        (s.returned t).count rtEok + if s.pc t = .resumed rtEok then 1 else 0) ∧
      (0 < s.sem.value → ∀ t, (s.pc t).waits = false) ∧
      ∀ t, (s.pc t).waits = true →
        ((rtSemRelease s).pc t = .resumed rtEok ↔ ∀ u, u ≠ t → (s.pc u).waits = true →
          Ahead .prio (fun t : Fin 2 => 7 - t.val) s.since t u) :=
  semaphore_serves_in_order .prio (fun t : Fin 2 => 7 - t.val) (Nat.zero_le _) _

end YkLock
