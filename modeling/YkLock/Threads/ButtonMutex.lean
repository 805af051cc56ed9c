import YkLock.Library.Runs
import YkLock.Model.Bench
import YkLock.Model.Button

/-! The mutex between the button's callback and the threads it starts. -/

namespace YkLock

open Library.Runs Library.StatePrograms

variable {D : Type}

def BtnSystem.alive (s : BtnSystem D) : ℕ := s.threads.countP BtnThread.alive

def Exclusive (s : BtnSystem D) : Prop := s.alive ≤ 1 ∧ (s.alive = 0 → s.mutex.owner = none)

def BtnThread.Ends (t : BtnThread) (w : World D) : Prop :=
  t.pc = .release ∨ (t.pc = .entry ∧ w.info.lockType ≠ .avcSwitch)

/-- A press finds no thread alive, and a thread does not come to its end. -/
def BtnAction.Harmless (a : BtnAction D) (s : BtnSystem D) : Prop :=
  match a with
  | .scan .pressDown => s.alive = 0
  | .scan _ | .others _ | .canTake | .canRelease => True
  | .btn n => ∀ t, s.threads[n]? = some t → ¬ t.Ends s.world

def BtnSystem.put (s : BtnSystem D) (n : ℕ) (t : BtnThread) : BtnSystem D :=
  { s with threads := s.threads.set n t }

def Held (s : BtnSystem D) : Prop :=
  (s.threads = [] ∧ s.mutex.owner = none) ∨ s.mutex.owner = some .scan

section Mutex

variable {self : ThreadId} {mutex : RtMutex}

lemma rtMutexTake_ne_rtError (self : ThreadId) (mutex : RtMutex) :
    (rtMutexTake self mutex).1 ≠ rtError := by
  have hok : rtEok ≠ rtError := by decide
  have hfull : -rtEfull ≠ rtError := by decide
  have htimeout : -rtEtimeout ≠ rtError := by decide
  unfold rtMutexTake
  split_ifs
  · exact hok
  · exact hfull
  · exact hok
  · exact htimeout

lemma rtMutexTake_free (h : mutex.owner = none) :
    rtMutexTake self mutex = (rtEok, ⟨some self, 1⟩) := by
  rw [rtMutexTake, h, if_neg nofun, if_pos rfl]

lemma rtMutexTake_owner (h : mutex.owner = none ∨ mutex.owner = some self) :
    (rtMutexTake self mutex).2.owner = some self := by
  rcases h with h | h
  · rw [rtMutexTake_free h]
  · rw [rtMutexTake, if_pos h]
    split_ifs
    · exact h
    · exact h

lemma rtMutexRelease_of_ne (h : mutex.owner ≠ some self) :
    rtMutexRelease self mutex = (-rtError, mutex) := if_pos h

end Mutex

section Steps

variable {b : Board D} {s : BtnSystem D} {t : BtnThread} {n : ℕ}

lemma btnPressCb_eq (s : BtnSystem D) : btnPressCb s =
    { s with
      mutex := (rtMutexTake .scan s.mutex).2
      threads := s.threads ++ [⟨.entry, []⟩] } :=
  if_neg (rtMutexTake_ne_rtError _ _)

lemma btnStep_btn (h : s.threads[n]? = some t) : btnStep b (.btn n) s =
    { (btnThreadStep b n t s).2 with threads := s.threads.set n (btnThreadStep b n t s).1 } := by
  rw [btnStep, h]

lemma btnStep_btn_none (h : s.threads[n]? = none) : btnStep b (.btn n) s = s := by
  rw [btnStep, h]

lemma btnThreadStep_mutex (h : s.mutex.owner = some .scan) :
    (btnThreadStep b n t s).2.mutex = s.mutex := by
  have hrelease : (rtMutexRelease (.btn n) s.mutex).2 = s.mutex := by
    rw [rtMutexRelease_of_ne (by rw [h]; nofun)]
  obtain ⟨pc, buff⟩ := t
  cases pc with
  | takeTx =>
    simp only [btnThreadStep]
    split_ifs <;> rfl
  | release => exact hrelease
  | _ => rfl

lemma alive_iff : t.alive = true ↔ t.pc ≠ .ended := by
  simp [BtnThread.alive]

lemma btnThreadStep_alive : (btnThreadStep b n t s).1.alive = true ↔
    t.alive = true ∧ ¬ t.Ends s.world := by
  obtain ⟨pc, buff⟩ := t
  rw [alive_iff, alive_iff]
  cases pc with
  | entry =>
    by_cases h : s.world.info.lockType = .avcSwitch <;> simp [btnThreadStep, BtnThread.Ends, h]
  | takeTx =>
    simp only [btnThreadStep]
    split_ifs <;> simp [BtnThread.Ends]
  | _ => simp [btnThreadStep, BtnThread.Ends]

lemma BtnThread.Ends.alive {w : World D} (h : t.Ends w) : t.alive = true := by
  rw [alive_iff]
  rcases h with h | ⟨h, -⟩
  · rw [h]
    nofun
  · rw [h]
    nofun

lemma alive_press (s : BtnSystem D) : (btnPressCb s).alive = s.alive + 1 := by
  rw [btnPressCb_eq]
  exact List.countP_append

lemma alive_btn (h : s.threads[n]? = some t) : (btnStep b (.btn n) s).alive + t.alive.toNat =
    s.alive + (btnThreadStep b n t s).1.alive.toNat := by
  obtain ⟨hn, ht⟩ := List.getElem?_eq_some_iff.mp h
  have hpos : t.alive.toNat ≤ s.alive := by
    cases ha : t.alive with
    | false => exact Nat.zero_le _
    | true => exact List.countP_pos_iff.mpr ⟨t, List.mem_of_getElem? h, ha⟩
  have hset : (btnStep b (.btn n) s).alive = s.alive - t.alive.toNat +
      (btnThreadStep b n t s).1.alive.toNat := by
    rw [btnStep_btn h]
    refine (List.countP_set hn).trans ?_
    rw [ht]
    simp only [BtnSystem.alive, Bool.toNat, Bool.cond_eq_ite]
  omega

lemma alive_btn_le (b : Board D) (n : ℕ) (s : BtnSystem D) :
    (btnStep b (.btn n) s).alive ≤ s.alive := by
  rcases ht : s.threads[n]? with _ | t
  · rw [btnStep_btn_none ht]
  · have hcount := alive_btn (b := b) ht
    have hle : (btnThreadStep b n t s).1.alive.toNat ≤ t.alive.toNat :=
      Bool.toNat_le_toNat fun ha => (btnThreadStep_alive.mp ha).1
    omega

end Steps

section Alone

variable {b : Board D}

lemma btnThreadStep_put (n : ℕ) (t u : BtnThread) (s : BtnSystem D) :
    btnThreadStep b n t (s.put n u) =
      ((btnThreadStep b n t s).1, (btnThreadStep b n t s).2.put n u) := by
  obtain ⟨pc, buff⟩ := t
  cases pc with
  | takeTx =>
    by_cases h : (rtMutexTake (.btn n) s.txLock).1 = rtEok <;>
      simp [btnThreadStep, BtnSystem.put, h]
  | _ => rfl

lemma btnThreadStep_threads (n : ℕ) (t : BtnThread) (s : BtnSystem D) :
    (btnThreadStep b n t s).2.threads = s.threads := by
  obtain ⟨pc, buff⟩ := t
  cases pc with
  | takeTx =>
    simp only [btnThreadStep]
    split_ifs <;> rfl
  | _ => rfl

lemma btnStep_put {n : ℕ} {s : BtnSystem D} (hn : n < s.threads.length) (t : BtnThread) :
    btnStep b (.btn n) (s.put n t) = (btnThreadStep b n t s).2.put n (btnThreadStep b n t s).1 := by
  have ht : (s.put n t).threads[n]? = some t := List.getElem?_set_self hn
  rw [btnStep_btn ht, btnThreadStep_put]
  simp only [BtnSystem.put, btnThreadStep_threads, List.set_set]

lemma run_btn {n : ℕ} (k : ℕ) {s : BtnSystem D} (hn : n < s.threads.length) (t : BtnThread) :
    run (btnStep b) (.replicate k (.btn n)) (s.put n t) =
      ((fun p => btnThreadStep b n p.1 p.2)^[k] (t, s)).2.put n
        ((fun p => btnThreadStep b n p.1 p.2)^[k] (t, s)).1 := by
  induction k generalizing s t with
  | zero => rfl
  | succ k ih =>
    rw [List.replicate_succ, run_cons, btnStep_put hn, Function.iterate_succ_apply]
    exact ih (by rw [btnThreadStep_threads]; exact hn) _

lemma threadBtnPress_run (w : World D) : (threadBtnPress b).run w =
    if w.info.lockType ≠ .avcSwitch then (false, w)
    else (true, ((channelWrite ((btnFrame b).run w).1).run ((btnFrame b).run w).2).2) := by
  rw [threadBtnPress, run_bind, run_get, run_ite]
  rfl

/-- The steps of a thread that is not interrupted make up `thread_btn_press`. -/
theorem btn_thread_alone {s : BtnSystem D} {n : ℕ} {buff : List Byte}
    (ht : s.threads[n]? = some ⟨.entry, buff⟩) (htx : s.txLock.owner = none) :
    ∃ k, let s' := run (btnStep b) (.replicate k (.btn n)) s
      s'.world = ((threadBtnPress b).run s.world).2 ∧
      s'.mutex = if ((threadBtnPress b).run s.world).1 = true then
        (rtMutexRelease (.btn n) s.mutex).2 else s.mutex := by
  obtain ⟨hn, hget⟩ := List.getElem?_eq_some_iff.mp ht
  have hset : s.put n ⟨.entry, buff⟩ = s := by
    rw [BtnSystem.put, ← hget, List.set_getElem_self]
  rw [threadBtnPress_run]
  by_cases h : s.world.info.lockType = .avcSwitch
  · refine ⟨6, ?_⟩
    rw [← hset, run_btn 6 hn]
    simp [btnThreadStep, h, rtMutexTake_free htx, BtnSystem.put]
  · refine ⟨1, ?_⟩
    rw [← hset, run_btn 1 hn]
    simp [btnThreadStep, h, BtnSystem.put]

end Alone

section Runs

variable {b : Board D}

lemma owner_step (a : BtnAction D) (s : BtnSystem D) (h : s.mutex.owner = some .scan) :
    (btnStep b a s).mutex.owner = some .scan := by
  cases a with
  | scan event =>
    cases event with
    | pressDown =>
      change (btnPressCb s).mutex.owner = _
      rw [btnPressCb_eq]
      exact rtMutexTake_owner (Or.inr h)
    | _ => exact h
  | btn n =>
    rcases ht : s.threads[n]? with _ | t
    · rw [btnStep_btn_none ht]
      exact h
    · rw [btnStep_btn ht]
      exact (congrArg RtMutex.owner (btnThreadStep_mutex h)).trans h
  | _ => exact h

lemma Held.step (a : BtnAction D) (s : BtnSystem D) (h : Held s) : Held (btnStep b a s) := by
  rcases h with ⟨hnil, hnone⟩ | h
  · cases a with
    | scan event =>
      cases event with
      | pressDown =>
        refine Or.inr ?_
        change (btnPressCb s).mutex.owner = _
        rw [btnPressCb_eq]
        exact rtMutexTake_owner (Or.inl hnone)
      | _ => exact Or.inl ⟨hnil, hnone⟩
    | btn n =>
      rw [btnStep_btn_none (by rw [hnil, List.getElem?_nil])]
      exact Or.inl ⟨hnil, hnone⟩
    | _ => exact Or.inl ⟨hnil, hnone⟩
  · exact Or.inr (owner_step a s h)

lemma exclusive_press (s : BtnSystem D) : Exclusive (btnPressCb s) ↔ s.alive = 0 := by
  rw [Exclusive, alive_press]
  constructor
  · exact fun hs => Nat.le_zero.mp (Nat.le_of_succ_le_succ hs.1)
  · intro hzero
    rw [hzero]
    exact ⟨le_rfl, nofun⟩

lemma exclusive_btn {s : BtnSystem D} {n : ℕ} {t : BtnThread} (ht : s.threads[n]? = some t)
    (h : Held s) (hs : Exclusive s) : Exclusive (btnStep b (.btn n) s) ↔ ¬ t.Ends s.world := by
  have howner : s.mutex.owner = some .scan := by
    rcases h with ⟨hnil, -⟩ | h
    · rw [hnil] at ht
      cases ht
    · exact h
  have halive : s.alive = 1 := by
    have hpos : s.alive ≠ 0 := fun hzero => by
      rw [hs.2 hzero] at howner
      cases howner
    exact le_antisymm hs.1 (Nat.pos_of_ne_zero hpos)
  have hcount := alive_btn (b := b) ht
  have hnext := btnThreadStep_alive (b := b) (n := n) (t := t) (s := s)
  rw [halive] at hcount
  rw [Exclusive, owner_step _ _ howner]
  by_cases hends : t.Ends s.world
  · have hdead : (btnThreadStep b n t s).1.alive = false :=
      Bool.eq_false_iff.mpr fun ha => (hnext.mp ha).2 hends
    rw [hends.alive, hdead] at hcount
    exact iff_of_false (fun hp => nomatch hp.2 (Nat.succ.inj hcount)) (fun hn => hn hends)
  · have hsame : (btnThreadStep b n t s).1.alive = t.alive :=
      Bool.eq_iff_iff.mpr (hnext.trans (and_iff_left hends))
    rw [hsame] at hcount
    have hone := Nat.add_right_cancel hcount
    exact iff_of_true ⟨hone.le, fun hzero => absurd (hone.symm.trans hzero) one_ne_zero⟩ hends

/-- The mutex is taken once and for all: no thread it started can give it back. -/
theorem mutex_stays_taken {s : BtnSystem D} (h : s.mutex.owner = some .scan)
    (as : List (BtnAction D)) : (run (btnStep b) as s).mutex.owner = some .scan :=
  run_invariant (fun a _ => owner_step a) h

lemma exclusive_step_iff (a : BtnAction D) {s : BtnSystem D} (h : Held s) (hs : Exclusive s) :
    Exclusive (btnStep b a s) ↔ a.Harmless s := by
  cases a with
  | scan event =>
    cases event with
    | pressDown => exact exclusive_press s
    | _ => exact iff_of_true hs trivial
  | btn n =>
    rcases ht : s.threads[n]? with _ | t
    · rw [btnStep_btn_none ht]
      exact iff_of_true hs fun t ht' => by rw [ht] at ht'; cases ht'
    · rw [exclusive_btn ht h hs]
      constructor
      · intro hends t' ht'
        rw [ht] at ht'
        cases ht'
        exact hends
      · exact fun hall => hall t ht
  | _ => exact iff_of_true hs trivial

end Runs

theorem btn_alive_le_one_iff (b : Board D) (w : World D) (as : List (BtnAction D)) :
    (∀ pre, pre <+: as → (run (btnStep b) pre (btnStart w)).alive ≤ 1) ↔
      Enabled (btnStep b) (fun a s => a = .scan .pressDown → s.alive = 0) as (btnStart w) := by
  refine forall_prefix_iff (I := fun s : BtnSystem D => s.alive ≤ 1) (fun s hs => hs) ?_ ?_ as
    (Nat.zero_le _)
  · intro a s hs ha
    cases a with
    | scan event =>
      cases event with
      | pressDown =>
        change (btnPressCb s).alive ≤ 1
        rw [alive_press, ha rfl]
      | _ => exact hs
    | btn n => exact (alive_btn_le b n s).trans hs
    | _ => exact hs
  · rintro a s - hp rfl
    change (btnPressCb s).alive ≤ 1 at hp
    rw [alive_press] at hp
    exact Nat.le_zero.mp (Nat.le_of_succ_le_succ hp)

theorem btn_exclusive_iff (b : Board D) (w : World D) (as : List (BtnAction D)) :
    (∀ pre, pre <+: as → Exclusive (run (btnStep b) pre (btnStart w))) ↔
      Enabled (btnStep b) BtnAction.Harmless as (btnStart w) := by
  refine forall_prefix_iff (I := fun s => Held s ∧ Exclusive s) (fun s hs => hs.2) ?_ ?_ as
    ⟨Or.inl ⟨rfl, rfl⟩, Nat.zero_le _, fun _ => rfl⟩
  · rintro a s ⟨h, hs⟩ ha
    exact ⟨h.step a s, (exclusive_step_iff a h hs).mpr ha⟩
  · rintro a s ⟨h, hs⟩ hp
    exact (exclusive_step_iff a h hs).mp hp

theorem btn_not_exclusive :
    ¬ Exclusive (run (btnStep (bench followingRelay)) [.scan .pressDown, .scan .pressDown]
        (btnStart startedYk)) ∧
      ¬ Exclusive (run (btnStep (bench followingRelay)) [.scan .pressDown, .btn 0]
        (btnStart startedYk)) := by
  constructor
  · exact fun h => absurd h.1 (by decide)
  · exact fun h => absurd (h.2 (by decide)) (by decide)

end YkLock
