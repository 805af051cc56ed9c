import YkLock.Library.Runs
import YkLock.Model.CanChannel

/-! The receive thread behind the driver's queue: which frames `rx_callback` is called for. -/

namespace YkLock

open Library.Runs

def RxState.frames (s : RxState) : List Arrival := s.arrived.zipIdx.map Prod.swap

/-- `rx_callback` was called for arrived frames, for each at most once and in their order. -/
def Orderly (s : RxState) : Prop := List.Sublist s.delivered (s.frames.map some)

def RxAction.Fits (a : RxAction) (s : RxState) : Prop :=
  match a with
  | .arrive _ => s.uselist.length < rtCanmsgBoxSz
  | .thread => True

def RxState.pending (s : RxState) : List (Option Arrival) :=
  match s.pc with
  | .call => [s.msgBuff]
  | .take | .read => []

def RxState.tokens (s : RxState) : ℕ :=
  match s.pc with
  | .read => s.sem + 1
  | .take | .call => s.sem

structure Counted (s : RxState) : Prop where
  tokens : s.tokens = s.uselist.length
  frames : List.Sublist (s.delivered ++ s.pending ++ s.uselist.map some) (s.frames.map some)

lemma counted_rxStart : Counted rxStart := ⟨rfl, List.Sublist.refl _⟩

lemma frames_nodup (s : RxState) : (s.frames.map some).Nodup := by
  refine List.Nodup.map (Option.some_injective _) (List.Nodup.of_map Prod.fst ?_)
  rw [RxState.frames, List.map_map]
  exact List.nodup_zipIdx_map_snd s.arrived

lemma Counted.orderly {s : RxState} (h : Counted s) : Orderly s :=
  (List.sublist_append_left _ _).trans ((List.sublist_append_left _ _).trans h.frames)

section Steps

variable {s : RxState}

lemma tokens_arrive (msg : CanMsg) : (rtHwCanIsr msg s).tokens = s.tokens + 1 := by
  cases hpc : s.pc <;> simp [RxState.tokens, rtHwCanIsr, canRxCall, hpc]

lemma frames_arrive (msg : CanMsg) :
    (rtHwCanIsr msg s).frames = s.frames ++ [(s.arrived.length, msg)] := by
  simp [RxState.frames, rtHwCanIsr, canRxCall, List.zipIdx_append]

lemma uselist_arrive (msg : CanMsg) (h : s.uselist.length < rtCanmsgBoxSz) :
    (rtHwCanIsr msg s).uselist = s.uselist ++ [(s.arrived.length, msg)] := by
  rw [rtHwCanIsr, if_pos h]
  rfl

lemma uselist_arrive_full (msg : CanMsg) (h : ¬ s.uselist.length < rtCanmsgBoxSz) :
    (rtHwCanIsr msg s).uselist = s.uselist.tail ++ [(s.arrived.length, msg)] := by
  rw [rtHwCanIsr, if_neg h]
  rfl

lemma Counted.arrive (h : Counted s) (msg : CanMsg) (hfree : s.uselist.length < rtCanmsgBoxSz) :
    Counted (rtHwCanIsr msg s) := by
  constructor
  · rw [tokens_arrive, uselist_arrive msg hfree, List.length_append, h.tokens]
    rfl
  · rw [frames_arrive, uselist_arrive msg hfree, List.map_append, List.map_append,
      ← List.append_assoc]
    exact h.frames.append (List.Sublist.refl _)

lemma Counted.thread (h : Counted s) : Counted (threadCanRx s) := by
  obtain ⟨htokens, hframes⟩ := h
  obtain ⟨uselist, sem, pc, msgBuff, arrived, delivered⟩ := s
  cases pc with
  | take =>
    rcases sem with _ | sem
    · exact ⟨htokens, hframes⟩
    · exact ⟨htokens, hframes⟩
  | read =>
    rcases uselist with _ | ⟨msg, rest⟩
    · exact (Nat.succ_ne_zero sem htokens).elim
    · refine ⟨Nat.succ.inj htokens, ?_⟩
      rw [RxState.pending, List.append_nil, List.map_cons] at hframes
      change List.Sublist (delivered ++ [some msg] ++ rest.map some) _
      rw [List.append_assoc]
      exact hframes
  | call =>
    refine ⟨htokens, ?_⟩
    change List.Sublist (delivered ++ [msgBuff] ++ [] ++ uselist.map some) _
    rw [List.append_nil]
    exact hframes

lemma Counted.step (a : RxAction) (s : RxState) (h : Counted s) (ha : a.Fits s) :
    Counted (rxStep a s) := by
  cases a with
  | arrive msg => exact h.arrive msg ha
  | thread => exact h.thread

lemma Counted.run_thread (h : Counted s) (n : ℕ) :
    Counted (run rxStep (List.replicate n .thread) s) := by
  refine run_invariant (fun a ha s hs => hs.step a s ?_) h
  rw [List.eq_of_mem_replicate ha]
  trivial

end Steps

structure Overrun (s : RxState) : Prop where
  tokens : s.uselist.length < s.tokens
  message : s.uselist = [] → s.msgBuff ∈ s.delivered ++ s.pending

def RxPc.left : RxPc → ℕ
  | .read => 0
  | .take => 1
  | .call => 2

lemma Counted.arrive_full {s : RxState} (h : Counted s) (msg : CanMsg)
    (hfull : ¬ s.uselist.length < rtCanmsgBoxSz) : Overrun (rtHwCanIsr msg s) := by
  have hpos : 0 < s.uselist.length := Nat.lt_of_lt_of_le (by decide) (Nat.not_lt.mp hfull)
  constructor
  · have hlen : s.uselist.tail.length + 1 = s.uselist.length := by
      rw [List.length_tail, Nat.sub_add_cancel hpos]
    rw [tokens_arrive, uselist_arrive_full msg hfull, List.length_append, List.length_singleton,
      hlen, h.tokens]
    exact Nat.lt_succ_self _
  · rw [uselist_arrive_full msg hfull]
    exact fun hnil => (List.append_ne_nil_of_right_ne_nil _ (List.cons_ne_nil _ _) hnil).elim

lemma not_orderly_of_repeat {s : RxState} {l : List (Option Arrival)}
    (hl : s.delivered = l ++ [s.msgBuff]) (h : s.msgBuff ∈ l) : ¬ Orderly s := by
  intro hs
  have hnodup := List.Nodup.sublist hs (frames_nodup s)
  rw [hl, List.nodup_append] at hnodup
  exact hnodup.2.2 _ h _ (List.mem_singleton_self _) rfl

lemma Overrun.not_orderly {s : RxState} (h : Overrun s) :
    ∃ n, ¬ Orderly (run rxStep (List.replicate n .thread) s) := by
  obtain ⟨k, hk⟩ : ∃ k, 3 * s.uselist.length + s.pc.left = k := ⟨_, rfl⟩
  induction k using Nat.strong_induction_on generalizing s with
  | _ k ih =>
    subst hk
    have hnext (hlt : 3 * (threadCanRx s).uselist.length + (threadCanRx s).pc.left <
        3 * s.uselist.length + s.pc.left) (hs : Overrun (threadCanRx s)) :
        ∃ n, ¬ Orderly (run rxStep (List.replicate n .thread) s) := by
      obtain ⟨n, hn⟩ := ih _ hlt hs rfl
      exact ⟨n + 1, hn⟩
    clear ih
    obtain ⟨htokens, hmsg⟩ := h
    obtain ⟨uselist, sem, pc, msgBuff, arrived, delivered⟩ := s
    cases pc with
    | take =>
      rcases sem with _ | sem
      · exact (Nat.not_lt_zero _ htokens).elim
      · exact hnext (Nat.lt_succ_self _) ⟨htokens, hmsg⟩
    | read =>
      rcases uselist with _ | ⟨msg, rest⟩
      · rw [RxState.pending, List.append_nil] at hmsg
        exact ⟨2, not_orderly_of_repeat rfl (hmsg rfl)⟩
      · refine hnext ?_ ⟨Nat.lt_of_succ_lt_succ htokens, fun _ => ?_⟩
        · change 3 * rest.length + 2 < 3 * (rest.length + 1) + 0
          omega
        · exact List.mem_append_right _ (List.mem_singleton_self _)
    | call =>
      refine hnext (Nat.lt_succ_self _) ⟨htokens, fun _ => ?_⟩
      exact List.mem_append_left _ (List.mem_append_right _ (List.mem_singleton_self _))

/-- The calls made so far, and those the thread goes on to make, are in order exactly as long as no
frame has arrived to a full queue. -/
theorem can_rx_orderly_iff (as : List RxAction) :
    (∀ pre, pre <+: as → ∀ n, Orderly (run rxStep (pre ++ List.replicate n .thread) rxStart)) ↔
      Enabled rxStep RxAction.Fits as rxStart := by
  simp only [run_append]
  refine forall_prefix_iff (P := fun s => ∀ n, Orderly (run rxStep (.replicate n .thread) s))
    (fun s hs n => (Counted.run_thread hs n).orderly) (fun a s hs ha => hs.step a s ha) ?_ as
    counted_rxStart
  intro a s hs horderly
  cases a with
  | arrive msg =>
    by_contra hfull
    obtain ⟨n, hn⟩ := (hs.arrive_full msg hfull).not_orderly
    exact hn (horderly n)
  | thread => trivial

theorem can_rx_not_orderly : ¬ ∀ as, Orderly (run rxStep as rxStart) := by
  intro h
  have hsub := (h (.replicate 17 (.arrive canTxDefaultMessage) ++ .replicate 51 .thread)).map
    (Option.map Prod.fst)
  exact absurd hsub (by decide +kernel)

end YkLock
