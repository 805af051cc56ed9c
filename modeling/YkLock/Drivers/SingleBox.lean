import YkLock.Drivers.TransmitBoxes

/-! With the one send box of the configuration no outcome is lost, and no thread waits for an
interrupt that never comes. -/

namespace YkLock

open Library.Parties Library.Runs

variable {T : Type}

section Stuck

variable [Fintype T] [DecidableEq T] {n : ℕ} {s : TxSystem T}

omit [Fintype T] in
@[simp] lemma at_pc (s : TxSystem T) (t : T) (pc : TxPc) : ((s.at t pc).sender t).pc = pc := by
  simp [TxSystem.at]

lemma BoxesSound.stuck (h : BoxesSound n s) (hmailbox : ∀ no, s.mailbox no = .empty) (t : T)
    (hstuck : canIntTx t s = s) :
    (s.sender t).pc = .idle ∨ ((s.sender t).pc = .take ∧ s.sem = 0) := by
  have hnext : ((canIntTx t s).sender t).pc = (s.sender t).pc := by rw [hstuck]
  clear hstuck
  have hstation := h.station t
  have hpop : (s.sender t).pc.permit ≤ s.freelist.length := by
    rw [h.boxes.permits]
    exact (le_total TxPc.permit s.pcs t).trans (Nat.le_add_left _ _)
  rcases hx : s.sender t with ⟨pc, data⟩
  rw [canIntTx, hx] at hnext
  rw [hx] at hstation hpop
  cases pc with
  | idle => exact Or.inl rfl
  | take =>
    by_cases hsem : s.sem = 0
    · exact Or.inr ⟨rfl, hsem⟩
    · simp [hsem] at hnext
  | pop =>
    rcases hfree : s.freelist with _ | ⟨no, rest⟩
    · rw [hfree] at hpop
      exact absurd hpop (Nat.not_succ_le_zero 0)
    · simp [hfree] at hnext
  | init no => simp at hnext
  | send no =>
    obtain ⟨hne, hempty, -⟩ := hstation
    rcases data with _ | ⟨msg, rest⟩
    · exact absurd rfl hne
    · simp only [canSendmsg_empty t msg hempty] at hnext
      by_cases hl : s.listening = true
      · simp [hl] at hnext
      · simp [hl] at hnext
  | wait no =>
    by_cases hflag : (s.buffer no).completion.completed = true
    · simp [hflag] at hnext
    · simp [hflag] at hnext
  | suspended no =>
    obtain ⟨msg, rest, -, -, hsent⟩ := hstation
    rw [hmailbox no] at hsent
    rcases hsent with hc | ⟨_, hc | hc⟩ <;> cases hc
  | resumed no => simp at hnext
  | collect no => simp at hnext
  | refused no => simp at hnext
  | release ok => simp at hnext
  | account ok =>
    rcases data with _ | ⟨msg, rest⟩
    · exact absurd rfl hstation
    · cases ok
      · simp at hnext
      · by_cases hrest : rest = []
        · simp [hrest] at hnext
        · simp [hrest] at hnext

omit [DecidableEq T] in
lemma BoxesSound.sem_pos (h : BoxesSound n s) (hn : 0 < n)
    (hpc : ∀ t, (s.sender t).pc = .idle ∨ (s.sender t).pc = .take) : 0 < s.sem := by
  have hnone : total TxPc.permit s.pcs = 0 := total_eq_zero fun t => by
    rw [TxSystem.pcs]
    rcases hpc t with ht | ht <;> rw [ht] <;> rfl
  have hfree : 0 ∈ s.freelist := by
    refine (h.boxes.all 0 hn).resolve_right ?_
    rintro ⟨t, ht⟩
    rw [TxSystem.pcs] at ht
    rcases hpc t with hi | hi <;> rw [hi] at ht <;> cases ht
  have hpermits := h.boxes.permits
  rw [hnone, Nat.add_zero] at hpermits
  rw [← hpermits]
  exact List.length_pos_of_mem hfree

end Stuck

section OneBox

variable [Fintype T] [DecidableEq T] {n : ℕ} {s : TxSystem T}

structure NoneLost (s : TxSystem T) : Prop where
  lost : ∀ no t msg txok, s.mailbox no ≠ .lost t msg txok
  lec : s.lec = .ackErr → ∀ no t msg, s.mailbox no ≠ .complete t msg true

omit [DecidableEq T] in
lemma BoxesSound.mailbox_of_le (h : BoxesSound n s) {no : ℕ} (hno : n ≤ no) : s.mailbox no = .empty :=
  h.unowned no fun t ht => (h.boxes.owned t no ht).1.not_ge hno

omit [DecidableEq T] in
lemma BoxesSound.only_box (h : BoxesSound rtCansndBoxNum s) {no k : ℕ} (hno : s.mailbox no ≠ .empty)
    (hk : k ≠ no) : s.mailbox k = .empty := by
  have hlt : no < 1 := by
    by_contra hge
    exact hno (h.mailbox_of_le (not_lt.mp hge))
  exact h.mailbox_of_le (show 1 ≤ k by omega)

omit [Fintype T] in
lemma canIntTx_mailbox (t : T) (s : TxSystem T) : (canIntTx t s).lec = s.lec ∧
    ((canIntTx t s).mailbox = s.mailbox ∨
      ∃ no msg, (canIntTx t s).mailbox = Function.update s.mailbox no (.request t msg)) := by
  have hkept {s' : TxSystem T} (hlec : s'.lec = s.lec) (hmailbox : s'.mailbox = s.mailbox) :
      s'.lec = s.lec ∧ (s'.mailbox = s.mailbox ∨
        ∃ no msg, s'.mailbox = Function.update s.mailbox no (.request t msg)) :=
    ⟨hlec, Or.inl hmailbox⟩
  rcases hx : s.sender t with ⟨pc, data⟩
  rw [canIntTx, hx]
  cases pc with
  | idle | init no | suspended no | resumed no | collect no | refused no | release ok =>
    exact hkept rfl rfl
  | take =>
    dsimp only
    split_ifs
    · exact hkept rfl rfl
    · exact hkept rfl rfl
  | pop =>
    dsimp only
    split
    · exact hkept rfl rfl
    · exact hkept rfl rfl
  | send no =>
    rcases data with _ | ⟨msg, rest⟩
    · exact hkept rfl rfl
    · by_cases hl : s.listening = true
      · rcases hm : s.mailbox no with _ | ⟨u, msg'⟩ | ⟨u, msg', txok⟩ | ⟨u, msg', txok⟩
        · simp only [canSendmsg, if_pos hl, hm]
          exact ⟨rfl, Or.inr ⟨no, msg, rfl⟩⟩
        · simp only [canSendmsg, if_pos hl, hm]
          exact hkept rfl rfl
        · simp only [canSendmsg, if_pos hl, hm]
          exact ⟨rfl, Or.inr ⟨no, msg, rfl⟩⟩
        · simp only [canSendmsg, if_pos hl, hm]
          exact ⟨rfl, Or.inr ⟨no, msg, rfl⟩⟩
      · simp only [canSendmsg, if_neg hl]
        exact hkept rfl rfl
  | wait no =>
    dsimp only
    split_ifs
    · exact hkept rfl rfl
    · exact hkept rfl rfl
  | account ok =>
    rcases data with _ | ⟨msg, rest⟩
    · exact hkept rfl rfl
    · cases ok
      · exact hkept rfl rfl
      · exact hkept rfl rfl

omit [Fintype T] [DecidableEq T] in
lemma noneLost_rtCanOpenTx (listening : Bool) : NoneLost (rtCanOpenTx listening n : TxSystem T) := by
  constructor
  · intro k u msg txok hc
    cases hc
  · intro hack k u msg hc
    cases hc

omit [Fintype T] in
lemma NoneLost.thread (h : NoneLost s) (t : T) : NoneLost (canIntTx t s) := by
  obtain ⟨hlec, hsame | ⟨no, msg, hnew⟩⟩ := canIntTx_mailbox t s
  · constructor
    · rw [hsame]
      exact h.lost
    · rw [hsame, hlec]
      exact h.lec
  · constructor
    · intro k u msg' txok
      rw [hnew]
      refine (Function.forall_update_iff s.mailbox fun _ m => m ≠ .lost u msg' txok).mpr ⟨?_, ?_⟩ k
      · intro hc
        cases hc
      · exact fun k _ => h.lost k u msg' txok
    · intro hack k u msg'
      rw [hnew]
      refine (Function.forall_update_iff s.mailbox fun _ m => m ≠ .complete u msg' true).mpr ⟨?_, ?_⟩ k
      · intro hc
        cases hc
      · exact fun k _ => h.lec (hlec ▸ hack) k u msg'

omit [Fintype T] in
lemma NoneLost.write (h : NoneLost s) (t : T) (data : List CanMsg) : NoneLost (rtCanWrite t data s) := by
  rw [rtCanWrite]
  split_ifs
  · exact ⟨h.lost, h.lec⟩
  · exact h

omit [Fintype T] [DecidableEq T] in
lemma NoneLost.heard (h : NoneLost s) (err : CanBusErr) : NoneLost (canHeard err s) := by
  rw [canHeard]
  split_ifs with herr
  · exact h
  · exact ⟨h.lost, fun hack => absurd hack herr⟩

omit [DecidableEq T] in
lemma NoneLost.done (hs : BoxesSound rtCansndBoxNum s) (h : NoneLost s) (no : ℕ) (e : TxEnd) :
    NoneLost (mailboxDone no e s) := by
  rw [mailboxDone]
  rcases hm : s.mailbox no with _ | ⟨u, msg⟩ | ⟨u, msg, txok⟩ | ⟨u, msg, txok⟩
  · exact h
  · have hne : s.mailbox no ≠ .empty := by
      rw [hm]
      intro hc
      cases hc
    constructor
    · intro k t msg' txok
      refine (Function.forall_update_iff s.mailbox fun _ m => m ≠ .lost t msg' txok).mpr ⟨?_, ?_⟩ k
      · intro hc
        cases hc
      · exact fun k _ => h.lost k t msg' txok
    · intro hack k t msg'
      refine (Function.forall_update_iff s.mailbox fun _ m => m ≠ .complete t msg' true).mpr ⟨?_, ?_⟩ k
      · -- a message that was sent has taken the error back
        intro hc
        have hok : e.ok = true := (Mailbox.complete.inj hc).2.2
        cases e with
        | txok => cases hack
        | alst => cases hok
        | terr err => cases hok
      · intro k hk hc
        rw [hs.only_box hne hk] at hc
        cases hc
  · exact h
  · exact h

lemma NoneLost.tell (hs : BoxesSound rtCansndBoxNum s) {no : ℕ} {u : T} {msg : CanMsg}
    {txok' : Bool} (hm : s.mailbox no = .complete u msg txok') (txok : Bool) :
    NoneLost (tellTx txok no s) := by
  have hne : s.mailbox no ≠ .empty := by
    rw [hm]
    intro hc
    cases hc
  have hempty (k : ℕ) : (tellTx txok no s).mailbox k = .empty := by
    change (Function.update s.mailbox no .empty k).cleared = .empty
    rw [cleared_eq_empty]
    by_cases hk : k = no
    · rw [hk, Function.update_self]
    · rw [Function.update_of_ne hk]
      exact hs.only_box hne hk
  constructor
  · intro k t msg' txok'
    rw [hempty k]
    intro hc
    cases hc
  · intro _ k t msg'
    rw [hempty k]
    intro hc
    cases hc

lemma NoneLost.step (hs : BoxesSound rtCansndBoxNum s) (h : NoneLost s) (a : TxAction T) :
    NoneLost (txStep rtCansndBoxNum a s) := by
  cases a with
  | write t data => exact h.write t data
  | thread t => exact h.thread t
  | done no e => exact h.done hs no e
  | heard err => exact h.heard err
  | txIsr =>
    change NoneLost (canTxIsr s _)
    rcases canTxIsr_cases s (List.range rtCansndBoxNum) with hsame | ⟨no, u, msg, txok, hm, hisr⟩
    · rw [hsame]
      exact h
    · rw [hisr]
      exact NoneLost.tell hs hm txok
  | sceIsr =>
    change NoneLost (canSceIsr s _)
    rcases canSceIsr_cases s (List.range rtCansndBoxNum) with
      hsame | ⟨hlec, no, u, msg, txok, hm, hisr⟩
    · rw [hsame]
      exact h
    · rw [hisr]
      cases txok
      · exact NoneLost.tell hs hm false
      · exact absurd hm (h.lec hlec no u msg)

def Mailbox.Quiet : Mailbox T → Prop
  | .empty | .lost _ _ _ => True
  | .request _ _ | .complete _ _ _ => False

omit [Fintype T] [DecidableEq T] in
lemma NoneLost.empty (h : NoneLost s) {no : ℕ} (hquiet : (s.mailbox no).Quiet) :
    s.mailbox no = .empty := by
  rcases hm : s.mailbox no with _ | ⟨u, msg⟩ | ⟨u, msg, txok⟩ | ⟨u, msg, txok⟩
  · rfl
  · rw [hm] at hquiet
    exact hquiet.elim
  · rw [hm] at hquiet
    exact hquiet.elim
  · exact absurd hm (h.lost no u msg txok)

end OneBox

section Results

variable [Fintype T] [DecidableEq T]

/-- With the one send box of the configuration, when the controller has nothing to send and nothing
to tell and no thread can take a step, no thread is in `_can_int_tx`: none has missed its interrupt,
and none waits for a permit. -/
theorem tx_no_deadlock (listening : Bool) (as : List (TxAction T))
    (hquiet : ∀ no, ((run (txStep rtCansndBoxNum) as
      (rtCanOpenTx listening rtCansndBoxNum : TxSystem T)).mailbox no).Quiet)
    (hstuck : ∀ t, canIntTx t (run (txStep rtCansndBoxNum) as (rtCanOpenTx listening rtCansndBoxNum)) =
      run (txStep rtCansndBoxNum) as (rtCanOpenTx listening rtCansndBoxNum)) (t : T) :
    ((run (txStep rtCansndBoxNum) as (rtCanOpenTx listening rtCansndBoxNum)).sender t).pc = .idle := by
  obtain ⟨h, hkept⟩ : BoxesSound rtCansndBoxNum (run (txStep rtCansndBoxNum) as
      (rtCanOpenTx listening rtCansndBoxNum)) ∧ NoneLost (run (txStep rtCansndBoxNum) as
      (rtCanOpenTx listening rtCansndBoxNum : TxSystem T)) :=
    run_invariant (I := fun s => BoxesSound rtCansndBoxNum s ∧ NoneLost s)
      (fun a _ s hs => ⟨hs.1.step a s, hs.2.step hs.1 a⟩)
      ⟨boxesSound_rtCanOpenTx listening rtCansndBoxNum, noneLost_rtCanOpenTx listening⟩
  have hplace (u : T) := h.stuck (fun no => hkept.empty (hquiet no)) u (hstuck u)
  have hsem := h.sem_pos Nat.one_pos fun u => (hplace u).imp_right And.left
  exact (hplace t).resolve_right fun hc => hsem.ne' hc.2

theorem tx_no_deadlock_sent :
    let as : List (TxAction Unit) := .write () [canTxDefaultMessage, canTxDefaultMessage] ::
      .replicate 6 (.thread ()) ++ [.done 0 .txok, .txIsr] ++ .replicate 10 (.thread ()) ++
      [.done 0 (.terr .ackErr), .sceIsr, .txIsr] ++ .replicate 4 (.thread ())
    ((run (txStep rtCansndBoxNum) as (rtCanOpenTx true rtCansndBoxNum)).sender ()).pc = .idle :=
  tx_no_deadlock true _ (fun no => by cases no <;> trivial) (fun _ => rfl) ()

-- With two boxes the interrupt that tells the first outcome clears the flag of the second one, and
-- its thread stays suspended.
example :
    let s := run (txStep 2) (.write (0 : Fin 2) [canTxDefaultMessage] ::
      .write (1 : Fin 2) [canTxDefaultMessage] :: .replicate 6 (.thread 0) ++
      .replicate 6 (.thread 1) ++ [.done 0 .txok, .done 1 .txok, .txIsr, .txIsr]) (rtCanOpenTx true 2)
    (s.sender 1).pc = .suspended 1 ∧ s.mailbox 1 = .lost 1 canTxDefaultMessage true := ⟨rfl, rfl⟩

end Results

end YkLock
