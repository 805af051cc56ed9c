import YkLock.Drivers.MessageAccounts
import YkLock.Library.Simulation
import YkLock.Threads.CanReceive

/-! The receive thread over the lists of the driver does what it does over a plain queue, as long as
no message comes to a full buffer in the middle of its read. -/

namespace YkLock

open Library.Runs Library.Simulation

def CanRxPc.plain : CanRxPc → RxPc
  | .take => .take
  | .read => .read
  | .copy | .give | .call => .call

def CanRxSystem.Holds (s : CanRxSystem) (msgBuff : Option Arrival) : Prop :=
  match s.pc with
  | .copy => ∃ p, s.pool.held = [p] ∧ msgBuff = some p.2
  | .give => ∃ p, s.pool.held = [p] ∧ msgBuff = s.msgBuff
  | .take | .read | .call => s.pool.held = [] ∧ msgBuff = s.msgBuff

structure Plain (rx : RxState) (s : CanRxSystem) : Prop where
  uselist : rx.uselist = s.pool.queue
  sem : rx.sem = s.sem
  pc : rx.pc = s.pc.plain
  arrived : rx.arrived = s.pool.arrived
  delivered : rx.delivered = s.delivered
  msgBuff : s.Holds rx.msgBuff

structure Behaves (rx : RxState) (s : CanRxSystem) : Prop where
  intact : Intact rtCanmsgBoxSz s.pool
  ind : ∀ h, (s.pool.can.hdr h).ind = false
  plain : Plain rx s

/-- A message that finds no free entry does not come in the middle of a read. -/
def CanRxAction.Clear (a : CanRxAction) (s : CanRxSystem) : Prop :=
  match a with
  | .isr _ tmpmsg => tmpmsg = none ∨ s.pool.held = [] ∨ s.pool.can.rxFifo.freelist ≠ []
  | .thread => True

def CanRxAction.Free (a : CanRxAction) (s : CanRxSystem) : Prop :=
  match a with
  | .isr _ tmpmsg => tmpmsg = none ∨ s.pool.can.rxFifo.freelist ≠ []
  | .thread => True

instance (a : CanRxAction) (s : CanRxSystem) : Decidable (a.Clear s) :=
  match a with
  | .isr _ _ => inferInstanceAs (Decidable (_ ∨ _ ∨ _))
  | .thread => inferInstanceAs (Decidable True)

instance (a : CanRxAction) (s : CanRxSystem) : Decidable (a.Free s) :=
  match a with
  | .isr _ _ => inferInstanceAs (Decidable (_ ∨ _))
  | .thread => inferInstanceAs (Decidable True)

lemma CanRxAction.Free.clear {a : CanRxAction} {s : CanRxSystem} (h : a.Free s) : a.Clear s := by
  cases a with
  | isr rxof tmpmsg => exact h.imp_right Or.inr
  | thread => trivial

section Ind

variable {M : Type} (can : RtCanDevice M)

lemma ind_use (e : ℕ) (tmpmsg : M) (b h : ℕ) :
    ((isrUseEntry e tmpmsg b can).hdr h).ind = (can.hdr h).ind := by
  rw [isrUseEntry]
  split
  · by_cases hb : h = b
    · subst hb
      simp
    · simp [Function.update_of_ne hb]
  · rfl

lemma ind_isr (rxof : Bool) (tmpmsg : Option (M × ℕ)) (h : ℕ) :
    ((rtHwCanIsrRx rxof tmpmsg can).2.hdr h).ind = (can.hdr h).ind := by
  rcases tmpmsg with _ | ⟨msg, b⟩
  · cases rxof <;> rfl
  · rw [isr_some]
    rcases isrTakeEntry_cases (can.counted rxof) with ⟨e, rest, -, htake⟩ | ⟨e, rest, -, -, htake⟩ |
      ⟨-, -, htake⟩
    · rw [htake]
      exact ind_use _ e msg b h
    · rw [htake]
      exact ind_use _ e msg b h
    · rw [htake]
      rfl

lemma isrIndicate_use (hind : ∀ h, (can.hdr h).ind = false) (e : ℕ) (tmpmsg : M) (b : ℕ) :
    ∃ n, isrIndicate b (isrUseEntry e tmpmsg b can) = some (.device n) := by
  refine ⟨(isrUseEntry e tmpmsg b can).rxFifo.uselist.length, ?_⟩
  rw [isrIndicate, ind_use, hind b, if_neg fun hc => Bool.false_ne_true hc.2, if_pos]
  rw [use_uselist, List.length_append]
  exact Nat.succ_ne_zero _

end Ind

section Steps

variable {rx : RxState} {s : CanRxSystem}

lemma length_queue (s : RxPool) : s.queue.length = s.can.rxFifo.uselist.length := List.length_map _

lemma Behaves.isr_none (h : Behaves rx s) (rxof : Bool) : Behaves rx (canRxIsr rxof none s) := by
  obtain ⟨hintact, hind, hplain⟩ := h
  have hfifo : (poolIsr rxof none s.pool).can.rxFifo = s.pool.can.rxFifo := by cases rxof <;> rfl
  refine ⟨hintact.isr rxof none, fun b => (ind_isr _ rxof none b).trans (hind b), ?_⟩
  obtain ⟨huse, hsem, hpc, harr, hdel, hbuff⟩ := hplain
  refine ⟨?_, ?_, hpc, ?_, hdel, hbuff⟩
  · rw [huse, canRxIsr, RxPool.queue, RxPool.queue, hfifo]
  · rw [hsem]
    cases rxof <;> rfl
  · rw [harr]
    exact (List.append_nil _).symm

lemma Behaves.arrive (h : Behaves rx s) (rxof : Bool) (msg : CanMsg) (b : ℕ)
    (hclear : s.pool.held = [] ∨ s.pool.can.rxFifo.freelist ≠ []) :
    Behaves (rtHwCanIsr msg rx) (canRxIsr rxof (some (msg, b)) s) := by
  obtain ⟨hintact, hind, hplain⟩ := h
  obtain ⟨huse, hsem, hpc, harr, hdel, hbuff⟩ := hplain
  have hlen := hintact.length
  have hheld : s.pool.held.length < rtCanmsgBoxSz := by
    rcases hclear with hnil | hfree
    · rw [hnil]
      decide
    · have hpos := List.length_pos_iff.mpr hfree
      omega
  have huselen : rx.uselist.length = s.pool.can.rxFifo.uselist.length := by
    rw [huse, length_queue]
  refine ⟨hintact.isr rxof _, fun c => (ind_isr _ rxof _ c).trans (hind c), ?_⟩
  have hlists : (rtHwCanIsr msg rx).uselist = (poolIsr rxof (some (msg, b)) s.pool).queue := by
    obtain ⟨-, ⟨hfree, hqueue, -⟩ | ⟨hfree, first, rest, hold, hqueue, -⟩⟩ :=
      hintact.queue_isr hheld rxof msg b
    · have hpos := List.length_pos_iff.mpr hfree
      rw [uselist_arrive msg (by omega), hqueue, huse, harr]
    · have hnil : s.pool.held = [] := hclear.resolve_right fun hne => hne hfree
      rw [hfree, hnil, List.length_nil, List.length_nil] at hlen
      rw [uselist_arrive_full msg (by omega), hqueue, huse, hold, harr]
      rfl
  have hsem' : (canRxIsr rxof (some (msg, b)) s).sem = s.sem + 1 := by
    obtain ⟨e, can, hfound, hisr⟩ := hintact.isr_cases hheld rxof (s.pool.arrived.length, msg) b
    have hindcan : ∀ c, ((can.without e).hdr c).ind = false := by
      intro c
      rw [← ind_use _ e (s.pool.arrived.length, msg) b c]
      have hsame := ind_isr s.pool.can rxof (some ((s.pool.arrived.length, msg), b)) c
      rw [hisr, hind c] at hsame
      exact hsame
    obtain ⟨n, hn⟩ := isrIndicate_use (can.without e) hindcan e (s.pool.arrived.length, msg) b
    rw [canRxIsr, Option.map_some, hisr, hn]
  refine ⟨hlists, ?_, hpc, ?_, hdel, hbuff⟩
  · rw [hsem', ← hsem]
    rfl
  · change rx.arrived ++ [msg] = s.pool.arrived ++ [msg]
    rw [harr]

lemma take_uselist {M : Type} (can : RtCanDevice M) : canIntRxTake (-1) can =
    match can.rxFifo.uselist with
    | e :: _ => (some e, can.without e)
    | [] => (none, can) := by
  rw [canIntRxTake, if_neg fun hb => absurd hb.1 (by decide), if_pos rfl]
  rcases huse : can.rxFifo.uselist with _ | ⟨e, rest⟩
  · rfl
  · change (some e, unlinkHdr e { can with rxFifo := { can.rxFifo with uselist := rest } }) =
      (some e, can.without e)
    rw [RtCanDevice.without, huse, List.erase_cons_head]

lemma Behaves.thread (h : Behaves rx s) :
    ∃ bs, (bs = [] ∨ bs = [.thread]) ∧ Behaves (run rxStep bs rx) (canRxThread s) := by
  obtain ⟨hintact, hind, huse, hsem, hpc, harr, hdel, hbuff⟩ := h
  obtain ⟨pool, sem, pc, msgBuff, delivered⟩ := s
  obtain ⟨uselist, rxSem, rxPc, rxMsgBuff, arrived, rxDelivered⟩ := rx
  obtain rfl : uselist = pool.queue := huse
  obtain rfl : rxSem = sem := hsem
  obtain rfl : rxPc = pc.plain := hpc
  obtain rfl : arrived = pool.arrived := harr
  obtain rfl : rxDelivered = delivered := hdel
  cases pc with
  | take =>
    refine ⟨[.thread], Or.inr rfl, ?_⟩
    rcases rxSem with _ | sem
    · exact ⟨hintact, hind, rfl, rfl, rfl, rfl, rfl, hbuff⟩
    · exact ⟨hintact, hind, rfl, rfl, rfl, rfl, rfl, hbuff⟩
  | read =>
    obtain ⟨hheld, hbuff⟩ := hbuff
    obtain rfl : rxMsgBuff = msgBuff := hbuff
    refine ⟨[.thread], Or.inr rfl, ?_⟩
    have htake := take_uselist pool.can
    have hnext := hintact.take (-1)
    rcases hlist : pool.can.rxFifo.uselist with _ | ⟨e, rest⟩
    · rw [hlist] at htake
      have hqueue : pool.queue = [] := by
        rw [RxPool.queue, hlist, List.map_nil]
      have hpool : poolTake (-1) pool = pool := by
        rw [poolTake, htake]
      have hrx : run rxStep [.thread]
          ⟨pool.queue, rxSem, .read, rxMsgBuff, pool.arrived, rxDelivered⟩ =
            ⟨pool.queue, rxSem, .call, rxMsgBuff, pool.arrived, rxDelivered⟩ := by
        rw [hqueue]
        rfl
      have hs : canRxThread ⟨pool, rxSem, .read, rxMsgBuff, rxDelivered⟩ =
          ⟨pool, rxSem, .call, rxMsgBuff, rxDelivered⟩ := by
        simp only [canRxThread, hpool, htake, Option.isSome_none, Bool.false_eq_true, if_false]
      rw [hs]
      exact hrx ▸ ⟨hintact, hind, rfl, rfl, rfl, rfl, rfl, hheld, rfl⟩
    · rw [hlist] at htake
      have hqueue : pool.queue = pool.can.rxFifo.data e :: rest.map pool.can.rxFifo.data := by
        rw [RxPool.queue, hlist, List.map_cons]
      have hpool : poolTake (-1) pool = { pool with
          can := pool.can.without e
          held := pool.held ++ [(e, pool.can.rxFifo.data e)]
          taken := pool.taken ++ [pool.can.rxFifo.data e] } := by
        rw [poolTake, htake]
        rfl
      have hrest : (poolTake (-1) pool).queue = rest.map pool.can.rxFifo.data := by
        rw [hpool]
        change (pool.can.rxFifo.uselist.erase e).map pool.can.rxFifo.data = _
        rw [hlist, List.erase_cons_head]
      have hrx : run rxStep [.thread]
          ⟨pool.queue, rxSem, .read, rxMsgBuff, pool.arrived, rxDelivered⟩ =
            ⟨(poolTake (-1) pool).queue, rxSem, .call, some (pool.can.rxFifo.data e), pool.arrived,
              rxDelivered⟩ := by
        rw [hqueue, hrest]
        rfl
      have hs : canRxThread ⟨pool, rxSem, .read, rxMsgBuff, rxDelivered⟩ =
          ⟨poolTake (-1) pool, rxSem, .copy, rxMsgBuff, rxDelivered⟩ := by
        simp only [canRxThread, htake, Option.isSome_some, if_true]
      rw [hs]
      refine hrx ▸ ⟨hnext, ?_, rfl, rfl, rfl, ?_, rfl, (e, pool.can.rxFifo.data e), ?_, rfl⟩
      · intro b
        rw [hpool]
        exact hind b
      · rw [hpool]
      · rw [hpool]
        change pool.held ++ [_] = _
        rw [hheld, List.nil_append]
  | copy =>
    obtain ⟨p, hheld, rfl⟩ := hbuff
    refine ⟨[], Or.inl rfl, ?_⟩
    have hs : canRxThread ⟨pool, rxSem, .copy, msgBuff, rxDelivered⟩ =
        ⟨pool, rxSem, .give, some p.2, rxDelivered⟩ := by
      replace hheld : pool.held = [p] := hheld
      have hdata : pool.can.rxFifo.data p.1 = p.2 := by
        refine hintact.held p ?_
        rw [hheld]
        exact List.mem_singleton_self p
      simp only [canRxThread, hheld, hdata]
    rw [hs]
    exact ⟨hintact, hind, rfl, rfl, rfl, rfl, rfl, p, hheld, rfl⟩
  | give =>
    obtain ⟨p, hheld, hbuff⟩ := hbuff
    obtain rfl : rxMsgBuff = msgBuff := hbuff
    refine ⟨[], Or.inl rfl, ?_⟩
    have hpool : poolGive 0 pool = { pool with can := canIntRxGive p.1 pool.can, held := [] } := by
      rw [poolGive, hheld]
      rfl
    refine ⟨hintact.give 0, ?_, ?_, rfl, rfl, ?_, rfl, ?_, rfl⟩
    · change ∀ h, ((poolGive 0 pool).can.hdr h).ind = false
      rw [hpool]
      exact hind
    · change pool.queue = (poolGive 0 pool).queue
      rw [hpool]
      rfl
    · change pool.arrived = (poolGive 0 pool).arrived
      rw [hpool]
    · change (poolGive 0 pool).held = []
      rw [hpool]
  | call =>
    obtain ⟨hheld, hbuff⟩ := hbuff
    obtain rfl : rxMsgBuff = msgBuff := hbuff
    exact ⟨[.thread], Or.inr rfl, hintact, hind, rfl, rfl, rfl, rfl, rfl, hheld, rfl⟩

lemma Behaves.fits (h : Behaves rx s) (msg : CanMsg) (hfree : s.pool.can.rxFifo.freelist ≠ []) :
    (RxAction.arrive msg).Fits rx := by
  have hlen := h.intact.length
  have hpos := List.length_pos_iff.mpr hfree
  change rx.uselist.length < rtCanmsgBoxSz
  rw [h.plain.uselist, length_queue]
  omega

lemma Behaves.step (a : CanRxAction) (rx : RxState) (s : CanRxSystem) (h : Behaves rx s)
    (hclear : a.Clear s) : ∃ bs, (a.Free s → Enabled rxStep RxAction.Fits bs rx) ∧
      Behaves (run rxStep bs rx) (canRxStep a s) := by
  cases a with
  | isr rxof tmpmsg =>
    rcases tmpmsg with _ | ⟨msg, b⟩
    · exact ⟨[], fun _ => trivial, h.isr_none rxof⟩
    · have hfits (hfree : (CanRxAction.isr rxof (some (msg, b))).Free s) :=
        h.fits msg (hfree.resolve_left (Option.some_ne_none _))
      have hspace := hclear.resolve_left (Option.some_ne_none _)
      exact ⟨[.arrive msg], fun hfree => ⟨hfits hfree, trivial⟩, h.arrive rxof msg b hspace⟩
  | thread =>
    obtain ⟨bs, rfl | rfl, hnext⟩ := h.thread
    · exact ⟨[], fun _ => trivial, hnext⟩
    · exact ⟨[.thread], fun _ => ⟨trivial, trivial⟩, hnext⟩

end Steps

lemma behaves_canRxOpen (maxhdr : ℕ) (connected : ℕ → Bool) (zero : CanMsg) :
    Behaves rxStart (canRxOpen maxhdr connected zero) :=
  ⟨intact_poolOpen maxhdr connected _ zero, fun _ => rfl, rfl, rfl, rfl, rfl, rfl, rfl, rfl⟩

/-- As long as no message that finds no free entry comes in the middle of a read, all that the
interrupts and the thread do over the lists of the driver they do over the plain queue that drops its
oldest message when it is full. -/
theorem can_rx_refines (maxhdr : ℕ) (connected : ℕ → Bool) (zero : CanMsg) (as : List CanRxAction)
    (h : Enabled canRxStep CanRxAction.Clear as (canRxOpen maxhdr connected zero)) :
    ∃ bs, Plain (run rxStep bs rxStart)
      (run canRxStep as (canRxOpen maxhdr connected zero)) := by
  have hstep (a : CanRxAction) (rx : RxState) (s : CanRxSystem) (hr : Behaves rx s) (ha : a.Clear s) :
      ∃ bs, Enabled rxStep (fun _ _ => True) bs rx ∧
        Behaves (run rxStep bs rx) (canRxStep a s) := by
    obtain ⟨bs, -, hnext⟩ := hr.step a rx s ha
    exact ⟨bs, enabled_of_forall (fun _ _ => trivial) bs rx, hnext⟩
  obtain ⟨bs, -, hlast⟩ := run_simulated hstep h (behaves_canRxOpen maxhdr connected zero)
  exact ⟨bs, hlast.plain⟩

theorem can_rx_refines_full :
    let as := List.replicate 17 (CanRxAction.isr false (some (canTxDefaultMessage, 0))) ++
      .replicate 5 .thread
    ∃ bs, Plain (run rxStep bs rxStart)
      (run canRxStep as (canRxOpen 28 (fun _ => true) canTxDefaultMessage)) :=
  can_rx_refines 28 _ _ _ (by decide)

structure Whole (rx : RxState) : Prop where
  counted : Counted rx
  length : rx.delivered.length + rx.pending.length + rx.uselist.length = rx.arrived.length

lemma Whole.frames {rx : RxState} (h : Whole rx) :
    rx.delivered ++ rx.pending ++ rx.uselist.map some = rx.frames.map some := by
  refine h.counted.frames.eq_of_length ?_
  simp only [List.length_append, List.length_map, RxState.frames, List.length_zipIdx]
  exact h.length

lemma Whole.step (a : RxAction) (rx : RxState) (h : Whole rx) (ha : a.Fits rx) :
    Whole (rxStep a rx) := by
  obtain ⟨hcounted, hlen⟩ := h
  refine ⟨hcounted.step a rx ha, ?_⟩
  have htokens := hcounted.tokens
  cases a with
  | arrive msg =>
    change rx.delivered.length + rx.pending.length + (rtHwCanIsr msg rx).uselist.length =
      (rx.arrived ++ [msg]).length
    rw [uselist_arrive msg ha, List.length_append, List.length_append, ← hlen]
    exact (Nat.add_assoc _ _ _).symm
  | thread =>
    obtain ⟨uselist, sem, pc, msgBuff, arrived, delivered⟩ := rx
    cases pc with
    | take =>
      rcases sem with _ | sem
      · exact hlen
      · exact hlen
    | read =>
      rcases uselist with _ | ⟨msg, rest⟩
      · exact (Nat.succ_ne_zero sem htokens).elim
      · change delivered.length + 1 + rest.length = arrived.length
        change delivered.length + 0 + (rest.length + 1) = arrived.length at hlen
        omega
    | call =>
      change (delivered ++ [msgBuff]).length + 0 + uselist.length = arrived.length
      rw [List.length_append]
      exact hlen

/-- As long as no message comes to a full buffer, `rx_callback` is called for the frames in the
order of their arrival with none left out, and when the thread waits again it has been called for
all of them. -/
theorem can_rx_in_order (maxhdr : ℕ) (connected : ℕ → Bool) (zero : CanMsg) (as : List CanRxAction)
    (h : Enabled canRxStep CanRxAction.Free as (canRxOpen maxhdr connected zero)) :
    let s := run canRxStep as (canRxOpen maxhdr connected zero)
    s.delivered <+: s.pool.frames.map some ∧
      (s.pc = .take → s.sem = 0 → s.delivered = s.pool.frames.map some) := by
  have hstep (a : CanRxAction) (rx : RxState) (s : CanRxSystem) (hr : Behaves rx s) (ha : a.Free s) :
      ∃ bs, Enabled rxStep RxAction.Fits bs rx ∧ Behaves (run rxStep bs rx) (canRxStep a s) := by
    obtain ⟨bs, hbs, hnext⟩ := hr.step a rx s ha.clear
    exact ⟨bs, hbs ha, hnext⟩
  obtain ⟨rx, hwhole, hlast⟩ := invariant_simulated hstep Whole.step h
    (behaves_canRxOpen maxhdr connected zero) ⟨counted_rxStart, rfl⟩
  obtain ⟨huse, hsem, hpc, harr, hdel, -⟩ := hlast.plain
  have hframes := hwhole.frames
  have hsame : rx.frames = (run canRxStep as (canRxOpen maxhdr connected zero)).pool.frames := by
    rw [RxState.frames, harr]
    rfl
  rw [hsame, hdel] at hframes
  constructor
  · rw [← hframes, List.append_assoc]
    exact List.prefix_append _ _
  · intro htake hzero
    have hrxpc : rx.pc = .take := by
      rw [hpc, htake]
      rfl
    have hrxsem : rx.sem = 0 := hsem.trans hzero
    have htokens := hwhole.counted.tokens
    rw [RxState.tokens, hrxpc] at htokens
    have hnil : rx.uselist = [] := List.length_eq_zero_iff.mp (htokens.symm.trans hrxsem)
    rw [RxState.pending, hrxpc, hnil, List.map_nil, List.append_nil, List.append_nil] at hframes
    exact hframes

theorem can_rx_in_order_two :
    let as := List.replicate 2 (CanRxAction.isr false (some (canTxDefaultMessage, 0))) ++
      .replicate 10 .thread
    let s := run canRxStep as (canRxOpen 28 (fun _ => true) canTxDefaultMessage)
    s.delivered <+: s.pool.frames.map some ∧
      (s.pc = .take → s.sem = 0 → s.delivered = s.pool.frames.map some) :=
  can_rx_in_order 28 _ _ _ (by decide)

end YkLock
