import YkLock.Drivers.TransmitBoxes

/-! What `_can_int_tx` reports of the messages is what became of them at the controller. -/

namespace YkLock

open Library.Parties Library.Runs

variable {T : Type}

def untold (x : Sender) (buffer : ℕ → SndBox T) (mailbox : ℕ → Mailbox T) : List (CanMsg × Bool) :=
  match x.data with
  | [] => []
  | msg :: _ =>
    match x.pc with
    | .wait no | .suspended no | .resumed no | .collect no =>
      match mailbox no with
      | .request _ _ => []
      | .complete _ _ txok | .lost _ _ txok => [(msg, txok)]
      | .empty => [(msg, (buffer no).result = .ok)]
    | .refused _ => [(msg, false)]
    | .release ok | .account ok => [(msg, ok)]
    | .idle | .take | .pop | .init _ | .send _ => []

lemma untold_frame {x : Sender} {buffer buffer' : ℕ → SndBox T} {mailbox mailbox' : ℕ → Mailbox T}
    (hsame : ∀ no, x.pc.owns = some no → buffer' no = buffer no ∧ mailbox' no = mailbox no) :
    untold x buffer' mailbox' = untold x buffer mailbox := by
  obtain ⟨pc, data⟩ := x
  cases pc with
  | idle | take | pop | release ok | account ok => rfl
  | init no | send no | wait no | suspended no | resumed no | collect no | refused no =>
    obtain ⟨hbuffer, hmailbox⟩ := hsame no rfl
    simp only [untold, hbuffer, hmailbox]

/-- Each thread has gone on with the outcomes of its messages, in their order, but for the last one,
which it is about to learn or never will; the counters say how many were sent and dropped, and a
running controller refuses none. -/
structure Reported [DecidableEq T] (s : TxSystem T) : Prop where
  each : ∀ t, mine t s.outcomes = mine t s.reports ++ untold (s.sender t) s.buffer s.mailbox
  sndpkg : s.sndpkg = BitVec.ofNat 32 (s.reports.countP fun r => r.2.2)
  dropedsndpkg : s.dropedsndpkg = BitVec.ofNat 32 (s.reports.countP fun r => !r.2.2)
  refused : s.listening = true → ∀ t no, (s.sender t).pc ≠ .refused no

section Steps

variable [Fintype T] [DecidableEq T] {n : ℕ} {s s' : TxSystem T}

lemma Reported.moved (hs : BoxesSound n s) (hs' : BoxesSound n s') (h : Reported s) (t : T) (x : Sender)
    (outs reps : List (CanMsg × Bool)) (hsender : s'.sender = Function.update s.sender t x)
    (hframe : ∀ no, (s.sender t).pc.owns ≠ some no → x.pc.owns ≠ some no →
      s'.buffer no = s.buffer no ∧ s'.mailbox no = s.mailbox no)
    (houtcomes : s'.outcomes = s.outcomes ++ outs.map (Prod.mk t))
    (hreports : s'.reports = s.reports ++ reps.map (Prod.mk t))
    (htell : untold (s.sender t) s.buffer s.mailbox ++ outs =
      reps ++ untold x s'.buffer s'.mailbox)
    (hsndpkg : s'.sndpkg = s.sndpkg + BitVec.ofNat 32 (reps.countP fun r => r.2))
    (hdroped : s'.dropedsndpkg = s.dropedsndpkg + BitVec.ofNat 32 (reps.countP fun r => !r.2))
    (hlistening : s'.listening = s.listening)
    (hrefused : s.listening = true → ∀ no, x.pc ≠ .refused no) : Reported s' := by
  constructor
  · intro u
    rw [houtcomes, hreports, mine_append, mine_append, h.each u]
    by_cases hu : u = t
    · rw [hu, mine_own, mine_own, hsender, Function.update_self, List.append_assoc, htell,
        List.append_assoc]
    · rw [mine_other (Ne.symm hu), mine_other (Ne.symm hu), List.append_nil, List.append_nil]
      have hown (no : ℕ) (hno : (s.sender u).pc.owns = some no) :
          s'.buffer no = s.buffer no ∧ s'.mailbox no = s.mailbox no := by
        refine hframe no (fun ht => hu (hs.boxes.sole u t no hno ht)) fun ht => ?_
        refine hu (hs'.boxes.sole u t no ?_ ?_)
        · rw [TxSystem.pcs, hsender, Function.update_of_ne hu]
          exact hno
        · rw [TxSystem.pcs, hsender, Function.update_self]
          exact ht
      rw [hsender, Function.update_of_ne hu, untold_frame hown]
  · rw [hsndpkg, hreports, List.countP_append, List.countP_map, h.sndpkg]
    exact (BitVec.ofNat_add _ _).symm
  · rw [hdroped, hreports, List.countP_append, List.countP_map, h.dropedsndpkg]
    exact (BitVec.ofNat_add _ _).symm
  · intro hl u no
    rw [hlistening] at hl
    rw [hsender]
    by_cases hu : u = t
    · rw [hu, Function.update_self]
      exact hrefused hl no
    · rw [Function.update_of_ne hu]
      exact h.refused hl u no

lemma Reported.go (hs : BoxesSound n s) (h : Reported s) {t : T} {pc pc' : TxPc} {data : List CanMsg}
    (hx : s.sender t = ⟨pc, data⟩) {sem : ℕ} {freelist : List ℕ} {buffer : ℕ → SndBox T}
    {mailbox : ℕ → Mailbox T} {outcomes : List (T × CanMsg × Bool)} (outs : List (CanMsg × Bool))
    (hs' : BoxesSound n (TxSystem.at { s with
      sem := sem, freelist := freelist, buffer := buffer, mailbox := mailbox
      outcomes := outcomes } t pc'))
    (houtcomes : outcomes = s.outcomes ++ outs.map (Prod.mk t))
    (hframe : ∀ no, pc.owns ≠ some no → pc'.owns ≠ some no →
      buffer no = s.buffer no ∧ mailbox no = s.mailbox no)
    (htell : untold ⟨pc, data⟩ s.buffer s.mailbox ++ outs = untold ⟨pc', data⟩ buffer mailbox)
    (hrefused : s.listening = true → ∀ no, pc' ≠ .refused no) :
    Reported (TxSystem.at { s with
      sem := sem, freelist := freelist, buffer := buffer, mailbox := mailbox
      outcomes := outcomes } t pc') := by
  refine Reported.moved hs hs' h t { s.sender t with pc := pc' } outs [] rfl ?_ houtcomes ?_ ?_ ?_
    ?_ rfl hrefused
  · rw [hx]
    exact hframe
  · exact (List.append_nil _).symm
  · rw [hx]
    exact htell
  · exact (BitVec.add_zero _).symm
  · exact (BitVec.add_zero _).symm

lemma Reported.write (hs : BoxesSound n s) (h : Reported s) (t : T) (data : List CanMsg) :
    Reported (rtCanWrite t data s) := by
  have hs' := hs.write t data
  rw [rtCanWrite] at hs' ⊢
  by_cases hc : (s.sender t).pc = .idle ∧ data ≠ []
  · rw [if_pos hc] at hs' ⊢
    refine Reported.moved hs hs' h t ⟨.take, data⟩ [] [] rfl (fun _ _ _ => ⟨rfl, rfl⟩)
      (List.append_nil _).symm (List.append_nil _).symm ?_ (BitVec.add_zero _).symm
      (BitVec.add_zero _).symm rfl (by simp)
    rcases hx : s.sender t with ⟨pc, data'⟩
    rw [hx] at hc
    obtain rfl : pc = .idle := hc.1
    cases data' <;> cases data <;> rfl
  · rw [if_neg hc]
    exact h

lemma Reported.account (hs : BoxesSound n s) (h : Reported s) {t : T} {ok : Bool} {msg : CanMsg}
    {rest : List CanMsg} (hx : s.sender t = ⟨.account ok, msg :: rest⟩) :
    Reported (canIntTx t s) := by
  have hs' := hs.step (.thread t)
  change BoxesSound n (canIntTx t s) at hs'
  rw [canIntTx, hx] at hs' ⊢
  cases ok
  · refine Reported.moved hs hs' h t ⟨.idle, []⟩ [] [(msg, false)] rfl (fun _ _ _ => ⟨rfl, rfl⟩)
      (List.append_nil _).symm rfl ?_ (BitVec.add_zero _).symm rfl rfl (by simp)
    rw [hx]
    rfl
  · refine Reported.moved hs hs' h t ⟨if rest = [] then .idle else .take, rest⟩ [] [(msg, true)] rfl
      (fun _ _ _ => ⟨rfl, rfl⟩) (List.append_nil _).symm rfl ?_ rfl (BitVec.add_zero _).symm rfl
      (fun _ no => ?_)
    · rw [hx]
      cases rest <;> rfl
    · cases rest <;> simp

lemma Reported.thread (hs : BoxesSound n s) (h : Reported s) (t : T) : Reported (canIntTx t s) := by
  have hs' := hs.step (.thread t)
  change BoxesSound n (canIntTx t s) at hs'
  have hstation := hs.station t
  have hsame (no : ℕ) (box : SndBox T) (k : ℕ) (hk : some no ≠ some k) :
      Function.update s.buffer no box k = s.buffer k ∧ s.mailbox k = s.mailbox k :=
    ⟨Function.update_of_ne (fun hkn => hk (congrArg some hkn.symm)) _ _, rfl⟩
  have hout := (List.append_nil s.outcomes).symm
  rcases hx : s.sender t with ⟨pc, data⟩
  rw [hx] at hstation
  cases pc with
  | idle =>
    rw [canIntTx, hx]
    exact h
  | take =>
    rw [canIntTx, hx] at hs' ⊢
    change Reported (if s.sem = 0 then s else TxSystem.at { s with sem := s.sem - 1 } t .pop)
    change BoxesSound n (if s.sem = 0 then s else TxSystem.at { s with sem := s.sem - 1 } t .pop) at hs'
    by_cases hsem : s.sem = 0
    · rw [if_pos hsem]
      exact h
    · rw [if_neg hsem] at hs' ⊢
      refine h.go hs hx [] hs' hout (fun _ _ _ => ⟨rfl, rfl⟩) ?_ (by simp)
      cases data <;> rfl
  | pop =>
    rw [canIntTx, hx] at hs' ⊢
    rcases hfree : s.freelist with _ | ⟨no, rest⟩
    · exact h
    · simp only [hfree] at hs'
      refine h.go hs hx [] hs' hout (fun _ _ _ => ⟨rfl, rfl⟩) ?_ (by simp)
      cases data <;> rfl
  | init no =>
    rw [canIntTx, hx] at hs' ⊢
    refine h.go hs hx [] hs' hout (fun k hk _ => hsame no _ k hk) ?_ (by simp)
    cases data <;> rfl
  | send no =>
    rw [canIntTx, hx] at hs' ⊢
    obtain ⟨hne, hempty, -⟩ := hstation
    rcases data with _ | ⟨msg, rest⟩
    · exact h
    · simp only [canSendmsg_empty t msg hempty] at hs' ⊢
      by_cases hl : s.listening = true
      · simp only [if_pos hl] at hs' ⊢
        refine h.go hs hx [] hs' hout (fun k hk _ => ⟨rfl, Function.update_of_ne ?_ _ _⟩) ?_
          (by simp)
        · exact fun hkn => hk (congrArg some hkn.symm)
        · simp [untold]
      · simp only [if_neg hl] at hs' ⊢
        exact h.go hs hx [(msg, false)] hs' rfl (fun _ _ _ => ⟨rfl, rfl⟩) rfl
          (fun hl' => absurd hl' hl)
  | wait no =>
    rw [canIntTx, hx] at hs' ⊢
    obtain ⟨msg, rest, rfl, -⟩ := hstation
    by_cases hflag : (s.buffer no).completion.completed = true
    · simp only [if_pos hflag] at hs' ⊢
      refine h.go hs hx [] hs' hout (fun k hk _ => hsame no _ k hk) ?_ (by simp)
      simp [untold]
    · simp only [if_neg hflag] at hs' ⊢
      refine h.go hs hx [] hs' hout (fun k hk _ => hsame no _ k hk) ?_ (by simp)
      simp [untold]
  | suspended no =>
    rw [canIntTx, hx]
    exact h
  | resumed no =>
    rw [canIntTx, hx] at hs' ⊢
    refine h.go hs hx [] hs' hout (fun k hk _ => hsame no _ k hk) ?_ (by simp)
    cases data <;> simp [untold]
  | collect no =>
    rw [canIntTx, hx] at hs' ⊢
    obtain ⟨hne, hempty⟩ := hstation
    refine h.go hs hx [] hs' hout (fun _ _ _ => ⟨rfl, rfl⟩) ?_ (by simp)
    cases data <;> simp [untold, hempty]
  | refused no =>
    rw [canIntTx, hx] at hs' ⊢
    refine h.go hs hx [] hs' hout (fun _ _ _ => ⟨rfl, rfl⟩) ?_ (by simp)
    cases data <;> rfl
  | release ok =>
    rw [canIntTx, hx] at hs' ⊢
    refine h.go hs hx [] hs' hout (fun _ _ _ => ⟨rfl, rfl⟩) ?_ (by simp)
    cases data <;> rfl
  | account ok =>
    rcases data with _ | ⟨msg, rest⟩
    · rw [canIntTx, hx]
      exact h
    · exact h.account hs hx

lemma Reported.done (hs : BoxesSound n s) (h : Reported s) (no : ℕ) (e : TxEnd) :
    Reported (mailboxDone no e s) := by
  have hs' := hs.done no e
  rw [mailboxDone] at hs' ⊢
  rcases hm : s.mailbox no with _ | ⟨u, msg'⟩ | ⟨u, msg', txok'⟩ | ⟨u, msg', txok'⟩
  · exact h
  · simp only [hm] at hs'
    have hne : s.mailbox no ≠ .empty := by
      rw [hm]
      simp
    obtain ⟨t, msg, rest, hdata, hsent, hplace⟩ := hs.sent hne
    obtain ⟨rfl, rfl⟩ := Sent.of_request (hm ▸ hsent)
    rcases hx : s.sender u with ⟨pc, data⟩
    rw [hx] at hdata hplace
    obtain rfl : data = msg' :: rest := hdata
    have hself : s.sender = Function.update s.sender u ⟨pc, msg' :: rest⟩ := by
      rw [← hx, Function.update_eq_self]
    have hplace' : pc = .wait no ∨ pc = .suspended no := hplace.imp And.left And.left
    refine Reported.moved hs hs' h u ⟨pc, msg' :: rest⟩ [(msg', e.ok)] [] hself ?_ rfl
      (List.append_nil _).symm ?_ (BitVec.add_zero _).symm (BitVec.add_zero _).symm rfl ?_
    · intro k _ hk
      refine ⟨rfl, Function.update_of_ne ?_ _ _⟩
      rintro rfl
      rcases hplace' with rfl | rfl
      · exact hk rfl
      · exact hk rfl
    · rw [hx]
      rcases hplace' with rfl | rfl
      · simp [untold, hm]
      · simp [untold, hm]
    · intro _ k
      rcases hplace' with rfl | rfl
      · simp
      · simp
  · exact h
  · exact h

omit [Fintype T] [DecidableEq T] in
lemma untold_cleared (x : Sender) (buffer : ℕ → SndBox T) (mailbox : ℕ → Mailbox T) :
    untold x buffer (fun no => (mailbox no).cleared) = untold x buffer mailbox := by
  obtain ⟨pc, data⟩ := x
  have hbox (no : ℕ) : untold ⟨.wait no, data⟩ buffer (fun no => (mailbox no).cleared) =
      untold ⟨.wait no, data⟩ buffer mailbox := by
    simp only [untold]
    cases mailbox no <;> rfl
  cases pc with
  | idle | take | pop | release ok | account ok | init no | send no | refused no => rfl
  | wait no | suspended no | resumed no | collect no => exact hbox no

omit [Fintype T] in
lemma Reported.setRqcp (h : Reported s) : Reported (setRqcp s) := by
  refine ⟨fun t => ?_, h.sndpkg, h.dropedsndpkg, h.refused⟩
  exact (h.each t).trans (congrArg _ (untold_cleared _ _ _).symm)

lemma Reported.tell (hs : BoxesSound n s) (h : Reported s) {no : ℕ} {u : T} {msg' : CanMsg}
    {txok : Bool} (hm : s.mailbox no = .complete u msg' txok) : Reported (tellTx txok no s) := by
  refine Reported.setRqcp ?_
  have hs' := hs.told hm txok
  have hne : s.mailbox no ≠ .empty := by
    rw [hm]
    simp
  obtain ⟨t, msg, rest, hdata, hsent, hplace⟩ := hs.sent hne
  obtain ⟨rfl, rfl⟩ : u = t ∧ msg' = msg := by
    rw [hm] at hsent
    rcases hsent with heq | ⟨_, heq | heq⟩
    · cases heq
    · exact ⟨(Mailbox.complete.inj heq).1, (Mailbox.complete.inj heq).2.1⟩
    · cases heq
  rcases hx : s.sender u with ⟨pc, data⟩
  rw [hx] at hdata hplace
  obtain rfl : data = msg' :: rest := hdata
  have hframe (pc' : TxPc) (k : ℕ) (hown : pc'.owns = some no) (hk : pc'.owns ≠ some k) :
      Function.update s.buffer no (.told txok) k = s.buffer k ∧
        Function.update s.mailbox no .empty k = s.mailbox k := by
    have hne : k ≠ no := by
      rintro rfl
      exact hk hown
    exact ⟨Function.update_of_ne hne _ _, Function.update_of_ne hne _ _⟩
  rcases hplace with ⟨hpc, hc⟩ | ⟨hpc, hc⟩
  · obtain rfl : pc = .wait no := hpc
    rw [rtHwCanIsrTx_waiting txok hc] at hs' ⊢
    have hself : s.sender = Function.update s.sender u ⟨.wait no, msg' :: rest⟩ := by
      rw [← hx, Function.update_eq_self]
    refine Reported.moved hs hs' h u ⟨.wait no, msg' :: rest⟩ [] [] hself
      (fun k _ hk => hframe (.wait no) k rfl hk) (List.append_nil _).symm (List.append_nil _).symm ?_
      (BitVec.add_zero _).symm (BitVec.add_zero _).symm rfl (by simp)
    rw [hx]
    cases txok <;> simp [untold, hm, TxSystem.setBox, SndBox.told]
  · obtain rfl : pc = .suspended no := hpc
    rw [rtHwCanIsrTx_suspended txok hc] at hs' ⊢
    refine Reported.moved hs hs' h u ⟨.resumed no, msg' :: rest⟩ [] [] ?_
      (fun k _ hk => hframe (.resumed no) k rfl hk) (List.append_nil _).symm
      (List.append_nil _).symm ?_ (BitVec.add_zero _).symm (BitVec.add_zero _).symm rfl
      (by simp)
    · change Function.update s.sender u { s.sender u with pc := .resumed no } = _
      rw [hx]
    · rw [hx]
      cases txok <;> simp [untold, hm, TxSystem.setBox, TxSystem.at, SndBox.told]

lemma Reported.txIsr (hs : BoxesSound n s) (h : Reported s) (nos : List ℕ) :
    Reported (canTxIsr s nos) := by
  rcases canTxIsr_cases s nos with hsame | ⟨no, u, msg, txok, hm, hisr⟩
  · rw [hsame]
    exact h
  · rw [hisr]
    exact h.tell hs hm

lemma Reported.sceIsr (hs : BoxesSound n s) (h : Reported s) (nos : List ℕ) :
    Reported (canSceIsr s nos) := by
  rcases canSceIsr_cases s nos with hsame | ⟨-, no, u, msg, txok, hm, hisr⟩
  · rw [hsame]
    exact h
  · rw [hisr]
    cases txok
    · exact h.tell hs hm
    · exact h.setRqcp

omit [Fintype T] in
lemma Reported.heard (h : Reported s) (err : CanBusErr) : Reported (canHeard err s) := by
  rw [canHeard]
  split_ifs
  · exact h
  · exact ⟨h.each, h.sndpkg, h.dropedsndpkg, h.refused⟩

lemma Reported.step (hs : BoxesSound n s) (h : Reported s) (a : TxAction T) :
    Reported (txStep n a s) := by
  cases a with
  | write t data => exact h.write hs t data
  | thread t => exact h.thread hs t
  | done no e => exact h.done hs no e
  | heard err => exact h.heard err
  | txIsr => exact h.txIsr hs _
  | sceIsr => exact h.sceIsr hs _

end Steps

/-- Whatever the order of calls, thread steps and interrupts: what the threads in `_can_int_tx` have
gone on with is, message by message, what became of the messages, and `sndpkg` and `dropedsndpkg`
count it. -/
theorem tx_reports_true [Fintype T] [DecidableEq T] (listening : Bool) (n : ℕ)
    (as : List (TxAction T)) : Reported (run (txStep n) as (rtCanOpenTx listening n)) := by
  have hstart : Reported (rtCanOpenTx listening n : TxSystem T) :=
    ⟨fun _ => rfl, rfl, rfl, by simp [rtCanOpenTx]⟩
  exact (run_invariant (I := fun s => BoxesSound n s ∧ Reported s)
    (fun a _ s hs => ⟨hs.1.step a s, hs.2.step hs.1 a⟩)
    ⟨boxesSound_rtCanOpenTx listening n, hstart⟩).2

end YkLock
