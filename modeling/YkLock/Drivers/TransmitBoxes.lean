import YkLock.Drivers.BoxOwners

/-! The send boxes over any interleaving of threads and interrupts: who has which box, and what its
mailbox and completion are then. -/

namespace YkLock

open Library.Parties Library.Runs

variable {T : Type}

def Sent (t : T) (msg : CanMsg) (mailbox : Mailbox T) : Prop :=
  mailbox = .request t msg ∨ ∃ txok, mailbox = .complete t msg txok ∨ mailbox = .lost t msg txok

def Station (t : T) (x : Sender) (buffer : ℕ → SndBox T) (mailbox : ℕ → Mailbox T) : Prop :=
  match x.pc with
  | .idle => True
  | .take | .pop | .release _ | .account _ => x.data ≠ []
  | .init no | .refused no => x.data ≠ [] ∧ mailbox no = .empty
  | .send no => x.data ≠ [] ∧ mailbox no = .empty ∧ (buffer no).completion = ⟨false, none⟩
  | .wait no => ∃ msg rest, x.data = msg :: rest ∧ (buffer no).completion.suspended = none ∧
      (((buffer no).completion.completed = false ∧ Sent t msg (mailbox no)) ∨
        ((buffer no).completion.completed = true ∧ mailbox no = .empty))
  | .suspended no => ∃ msg rest, x.data = msg :: rest ∧
      (buffer no).completion = ⟨false, some t⟩ ∧ Sent t msg (mailbox no)
  | .resumed no => x.data ≠ [] ∧ mailbox no = .empty ∧ (buffer no).completion = ⟨true, none⟩
  | .collect no => x.data ≠ [] ∧ mailbox no = .empty

lemma Station.frame {t : T} {x : Sender} {buffer buffer' : ℕ → SndBox T}
    {mailbox mailbox' : ℕ → Mailbox T} (h : Station t x buffer mailbox)
    (hsame : ∀ no, x.pc.owns = some no → buffer' no = buffer no ∧ mailbox' no = mailbox no) :
    Station t x buffer' mailbox' := by
  obtain ⟨pc, data⟩ := x
  cases pc with
  | idle | take | pop | release ok | account ok => exact h
  | init no | send no | wait no | suspended no | resumed no | collect no | refused no =>
    obtain ⟨hbuffer, hmailbox⟩ := hsame no rfl
    simp only [Station, hbuffer, hmailbox] at h ⊢
    exact h

structure BoxesSound [Fintype T] (n : ℕ) (s : TxSystem T) : Prop where
  boxes : Boxes n s.sem s.freelist s.pcs
  station : ∀ t, Station t (s.sender t) s.buffer s.mailbox
  unowned : ∀ no, (∀ t, (s.sender t).pc.owns ≠ some no) → s.mailbox no = .empty

section Steps

variable [Fintype T] [DecidableEq T] {n : ℕ} {s s' : TxSystem T}

lemma BoxesSound.moved (h : BoxesSound n s) (t : T) (x : Sender)
    (hsender : s'.sender = Function.update s.sender t x)
    (hboxes : Boxes n s'.sem s'.freelist (Function.update s.pcs t x.pc))
    (hframe : ∀ no, (s.sender t).pc.owns ≠ some no → x.pc.owns ≠ some no →
      s'.buffer no = s.buffer no ∧ s'.mailbox no = s.mailbox no)
    (hstation : Station t x s'.buffer s'.mailbox)
    (hleft : ∀ no, (s.sender t).pc.owns = some no → x.pc.owns ≠ some no →
      s'.mailbox no = .empty) : BoxesSound n s' := by
  have hpcs : s'.pcs = Function.update s.pcs t x.pc := by
    funext u
    by_cases hu : u = t
    · rw [hu, Function.update_self, TxSystem.pcs, hsender, Function.update_self]
    · rw [Function.update_of_ne hu, TxSystem.pcs, hsender, Function.update_of_ne hu, TxSystem.pcs]
  constructor
  · rw [hpcs]
    exact hboxes
  · intro u
    rw [hsender]
    by_cases hu : u = t
    · rw [hu, Function.update_self]
      exact hstation
    · rw [Function.update_of_ne hu]
      refine (h.station u).frame fun no hno => hframe no ?_ ?_
      · exact fun ht => hu (h.boxes.sole u t no hno ht)
      · intro ht
        refine hu (hboxes.sole u t no ?_ ?_)
        · rw [Function.update_of_ne hu]
          exact hno
        · rw [Function.update_self]
          exact ht
  · intro no hno
    have hx : x.pc.owns ≠ some no := by
      have ht := hno t
      rwa [hsender, Function.update_self] at ht
    by_cases ht : (s.sender t).pc.owns = some no
    · exact hleft no ht hx
    · rw [(hframe no ht hx).2]
      refine h.unowned no fun u => ?_
      by_cases hu : u = t
      · rw [hu]
        exact ht
      · have hu' := hno u
        rwa [hsender, Function.update_of_ne hu] at hu'

omit [DecidableEq T] in
lemma boxesSound_rtCanOpenTx (listening : Bool) (n : ℕ) :
    BoxesSound n (rtCanOpenTx listening n : TxSystem T) :=
  ⟨boxes_rtCanOpenTx n, fun _ => trivial, fun _ _ => rfl⟩

lemma BoxesSound.write (h : BoxesSound n s) (t : T) (data : List CanMsg) :
    BoxesSound n (rtCanWrite t data s) := by
  rw [rtCanWrite]
  by_cases hc : (s.sender t).pc = .idle ∧ data ≠ []
  · rw [if_pos hc]
    refine h.moved t ⟨.take, data⟩ rfl (h.boxes.pass s.sem ?_ ?_) (fun _ _ _ => ⟨rfl, rfl⟩) hc.2 ?_
    · rw [TxSystem.pcs, hc.1]
      rfl
    · rw [TxSystem.pcs, hc.1]
      rfl
    · intro no hno
      rw [hc.1] at hno
      cases hno
  · rw [if_neg hc]
    exact h

lemma BoxesSound.go (h : BoxesSound n s) {t : T} {pc pc' : TxPc} {no : ℕ} (hpc : (s.sender t).pc = pc)
    (hno : pc.owns = some no) {buffer : ℕ → SndBox T} {mailbox : ℕ → Mailbox T}
    {outcomes : List (T × CanMsg × Bool)} (howns : pc'.owns = some no)
    (hpermit : pc'.permit = pc.permit)
    (hsame : ∀ k, k ≠ no → buffer k = s.buffer k ∧ mailbox k = s.mailbox k)
    (hstation : Station t ⟨pc', (s.sender t).data⟩ buffer mailbox) :
    BoxesSound n (TxSystem.at
      { s with buffer := buffer, mailbox := mailbox, outcomes := outcomes } t pc') := by
  refine h.moved t { s.sender t with pc := pc' } rfl ?_ ?_ hstation ?_
  · refine h.boxes.pass s.sem ?_ ?_
    · rw [TxSystem.pcs, hpc, hno, howns]
    · rw [TxSystem.pcs, hpc, hpermit]
  · intro k hk _
    refine hsame k ?_
    rintro rfl
    rw [hpc] at hk
    exact hk hno
  · intro k hk hk'
    rw [hpc, hno] at hk
    rw [howns] at hk'
    exact absurd hk hk'

lemma BoxesSound.at (h : BoxesSound n s) {t : T} {pc pc' : TxPc} (hpc : (s.sender t).pc = pc)
    {sem : ℕ} {freelist : List ℕ}
    (hboxes : Boxes n sem freelist (Function.update s.pcs t pc'))
    (hstation : Station t ⟨pc', (s.sender t).data⟩ s.buffer s.mailbox)
    (hleft : ∀ no, pc.owns = some no → s.mailbox no = .empty) :
    BoxesSound n (TxSystem.at { s with sem := sem, freelist := freelist } t pc') := by
  refine h.moved t { s.sender t with pc := pc' } rfl hboxes (fun _ _ _ => ⟨rfl, rfl⟩) hstation ?_
  intro no hno _
  rw [hpc] at hno
  exact hleft no hno

lemma BoxesSound.thread_permit (h : BoxesSound n s) {t : T} (howns : (s.sender t).pc.owns = none) :
    BoxesSound n (canIntTx t s) := by
  have hstation := h.station t
  rcases hx : s.sender t with ⟨pc, data⟩
  rw [hx] at hstation howns
  have hpc : (s.sender t).pc = pc := by rw [hx]
  have hdata : (s.sender t).data = data := by rw [hx]
  have hleft (no : ℕ) (hno : pc.owns = some no) : s.mailbox no = .empty := by
    rw [howns] at hno
    cases hno
  rw [canIntTx, hx]
  cases pc with
  | idle => exact h
  | take =>
    change BoxesSound n (if s.sem = 0 then s else TxSystem.at { s with sem := s.sem - 1 } t .pop)
    by_cases hsem : s.sem = 0
    · rw [if_pos hsem]
      exact h
    · rw [if_neg hsem]
      refine h.at hpc (h.boxes.pass (s.sem - 1) ?_ ?_) ?_ hleft
      · rw [TxSystem.pcs, hpc]
        rfl
      · rw [TxSystem.pcs, hpc]
        exact Nat.sub_add_cancel (Nat.pos_of_ne_zero hsem)
      · rw [hdata]
        exact hstation
  | pop =>
    rcases hfree : s.freelist with _ | ⟨no, rest⟩
    · exact h
    · have hboxes := h.boxes
      rw [hfree] at hboxes
      refine h.at hpc (hboxes.pop hpc) ?_ hleft
      rw [hdata]
      refine ⟨hstation, h.unowned no fun u hu => ?_⟩
      exact (hboxes.owned u no hu).2 List.mem_cons_self
  | release ok =>
    refine h.at hpc (h.boxes.pass (s.sem + 1) ?_ ?_) ?_ hleft
    · rw [TxSystem.pcs, hpc]
      rfl
    · rw [TxSystem.pcs, hpc]
      rfl
    · rw [hdata]
      exact hstation
  | account ok =>
    rcases data with _ | ⟨msg, rest⟩
    · exact h
    · have hidle : Boxes n s.sem s.freelist
          (Function.update s.pcs t (if ok = true ∧ rest ≠ [] then .take else .idle)) := by
        refine h.boxes.pass s.sem ?_ ?_
        · rw [TxSystem.pcs, hpc]
          split <;> rfl
        · rw [TxSystem.pcs, hpc]
          split <;> rfl
      cases ok
      · exact h.moved t ⟨.idle, []⟩ rfl hidle (fun _ _ _ => ⟨rfl, rfl⟩) trivial
          (fun no hno => absurd (hx ▸ hno) (by simp [TxPc.owns]))
      · rcases rest with _ | ⟨msg', rest⟩
        · exact h.moved t ⟨.idle, []⟩ rfl hidle (fun _ _ _ => ⟨rfl, rfl⟩) trivial
            (fun no hno => absurd (hx ▸ hno) (by simp [TxPc.owns]))
        · exact h.moved t ⟨.take, msg' :: rest⟩ rfl hidle (fun _ _ _ => ⟨rfl, rfl⟩)
            (List.cons_ne_nil _ _) (fun no hno => absurd (hx ▸ hno) (by simp [TxPc.owns]))
  | init no | send no | wait no | suspended no | resumed no | collect no | refused no => cases howns

omit [Fintype T] [DecidableEq T] in
lemma canSendmsg_empty {no : ℕ} (t : T) (msg : CanMsg) (hempty : s.mailbox no = .empty) :
    canSendmsg t msg no s = if s.listening = true then
      (true, { s with mailbox := Function.update s.mailbox no (.request t msg) }) else (false, s) := by
  rw [canSendmsg, hempty]

lemma BoxesSound.thread_box (h : BoxesSound n s) {t : T} {no : ℕ}
    (howns : (s.sender t).pc.owns = some no) :
    BoxesSound n (canIntTx t s) := by
  have hstation := h.station t
  have hown : (s.pcs t).owns = some no := howns
  rcases hx : s.sender t with ⟨pc, data⟩
  rw [hx] at hstation howns
  have hpc : (s.sender t).pc = pc := by rw [hx]
  have hdata : (s.sender t).data = data := by rw [hx]
  have hbox (box : SndBox T) (k : ℕ) (hk : k ≠ no) :
      Function.update s.buffer no box k = s.buffer k ∧ s.mailbox k = s.mailbox k :=
    ⟨Function.update_of_ne hk _ _, rfl⟩
  rw [canIntTx, hx]
  cases pc with
  | init no' =>
    obtain rfl : no' = no := Option.some.inj howns
    refine h.go hpc rfl rfl rfl (hbox ⟨.wait, false, none⟩) ?_
    rw [hdata]
    refine ⟨hstation.1, hstation.2, ?_⟩
    rw [Function.update_self]
  | send no' =>
    obtain rfl : no' = no := Option.some.inj howns
    obtain ⟨hne, hempty, hcompletion⟩ := hstation
    rcases data with _ | ⟨msg, rest⟩
    · exact h
    · simp only [canSendmsg_empty t msg hempty]
      by_cases hl : s.listening = true
      · simp only [if_pos hl]
        refine h.go hpc rfl rfl rfl (fun k hk => ⟨rfl, Function.update_of_ne hk _ _⟩) ?_
        rw [hdata]
        refine ⟨msg, rest, rfl, ?_, Or.inl ⟨?_, Or.inl (Function.update_self _ _ _)⟩⟩
        · rw [hcompletion]
        · rw [hcompletion]
      · simp only [if_neg hl]
        refine h.go hpc rfl rfl rfl (fun _ _ => ⟨rfl, rfl⟩) ?_
        rw [hdata]
        exact ⟨hne, hempty⟩
  | wait no' =>
    obtain rfl : no' = no := Option.some.inj howns
    obtain ⟨msg, rest, rfl, hsuspended, hcase⟩ := hstation
    change BoxesSound n (if (s.buffer no').completion.completed = true then _ else _)
    rcases hcase with ⟨hflag, hsent⟩ | ⟨hflag, hempty⟩
    · rw [if_neg (Bool.eq_false_iff.mp hflag)]
      refine h.go hpc rfl rfl rfl (hbox _) ?_
      rw [hdata]
      refine ⟨msg, rest, rfl, ?_, hsent⟩
      rw [Function.update_self]
    · rw [if_pos hflag]
      refine h.go hpc rfl rfl rfl (hbox _) ?_
      rw [hdata]
      exact ⟨List.cons_ne_nil _ _, hempty⟩
  | suspended no' => exact h
  | resumed no' =>
    obtain rfl : no' = no := Option.some.inj howns
    refine h.go hpc rfl rfl rfl (hbox _) ?_
    rw [hdata]
    exact ⟨hstation.1, hstation.2.1⟩
  | collect no' =>
    obtain rfl : no' = no := Option.some.inj howns
    have hnot := (h.boxes.owned t no' hown).2
    change BoxesSound n (TxSystem.at { s with freelist := s.freelist.erase no' ++ [no'] } t _)
    rw [List.erase_of_not_mem hnot]
    refine h.at hpc (h.boxes.giveBack hown _) ?_ fun k hk => ?_
    · rw [hdata]
      exact hstation.1
    · obtain rfl : no' = k := Option.some.inj hk
      exact hstation.2
  | refused no' =>
    obtain rfl : no' = no := Option.some.inj howns
    refine h.at hpc (h.boxes.giveBack hown false) ?_ fun k hk => ?_
    · rw [hdata]
      exact hstation.1
    · obtain rfl : no' = k := Option.some.inj hk
      exact hstation.2
  | idle | take | pop | release ok | account ok => cases howns

omit [DecidableEq T] in
lemma BoxesSound.sent (h : BoxesSound n s) {no : ℕ} (hne : s.mailbox no ≠ .empty) :
    ∃ t msg rest, (s.sender t).data = msg :: rest ∧ Sent t msg (s.mailbox no) ∧
      (((s.sender t).pc = .wait no ∧ (s.buffer no).completion = ⟨false, none⟩) ∨
        ((s.sender t).pc = .suspended no ∧ (s.buffer no).completion = ⟨false, some t⟩)) := by
  obtain ⟨t, ht⟩ : ∃ t, (s.sender t).pc.owns = some no := by
    by_contra hnone
    exact hne (h.unowned no fun t ht => hnone ⟨t, ht⟩)
  have hstation := h.station t
  rcases hx : s.sender t with ⟨pc, data⟩
  rw [hx] at hstation ht
  cases pc with
  | wait no' =>
    obtain rfl : no' = no := Option.some.inj ht
    obtain ⟨msg, rest, hdata, hsuspended, ⟨hflag, hsent⟩ | ⟨-, hempty⟩⟩ := hstation
    · refine ⟨t, msg, rest, ?_, hsent, Or.inl ⟨?_, ?_⟩⟩
      · rw [hx]
        exact hdata
      · rw [hx]
      · rw [← hflag, ← hsuspended]
    · exact absurd hempty hne
  | suspended no' =>
    obtain rfl : no' = no := Option.some.inj ht
    obtain ⟨msg, rest, hdata, hcompletion, hsent⟩ := hstation
    refine ⟨t, msg, rest, ?_, hsent, Or.inr ⟨?_, hcompletion⟩⟩
    · rw [hx]
      exact hdata
    · rw [hx]
  | init no' | refused no' | collect no' =>
    obtain rfl : no' = no := Option.some.inj ht
    exact absurd hstation.2 hne
  | send no' | resumed no' =>
    obtain rfl : no' = no := Option.some.inj ht
    exact absurd hstation.2.1 hne
  | idle | take | pop | release ok | account ok => cases ht

omit [Fintype T] [DecidableEq T] in
lemma Sent.of_request {t u : T} {msg msg' : CanMsg} (h : Sent t msg (.request u msg')) :
    u = t ∧ msg' = msg := by
  rcases h with heq | ⟨_, heq | heq⟩
  · exact ⟨(Mailbox.request.inj heq).1, (Mailbox.request.inj heq).2⟩
  · cases heq
  · cases heq

lemma BoxesSound.done (h : BoxesSound n s) (no : ℕ) (e : TxEnd) :
    BoxesSound n (mailboxDone no e s) := by
  rw [mailboxDone]
  rcases hm : s.mailbox no with _ | ⟨u, msg'⟩ | ⟨u, msg', txok'⟩ | ⟨u, msg', txok'⟩
  · exact h
  · have hne : s.mailbox no ≠ .empty := by
      rw [hm]
      nofun
    obtain ⟨t, msg, rest, hdata, hsent, hplace⟩ := h.sent hne
    obtain ⟨rfl, rfl⟩ := Sent.of_request (hm ▸ hsent)
    have hself : Function.update s.sender u (s.sender u) = s.sender := Function.update_eq_self _ _
    have hnew : Sent u msg' (Function.update s.mailbox no (.complete u msg' e.ok) no) :=
      Or.inr ⟨e.ok, Or.inl (Function.update_self _ _ _)⟩
    have hown : (s.sender u).pc.owns = some no := by
      rcases hplace with ⟨hpc, -⟩ | ⟨hpc, -⟩
      · rw [hpc]
        rfl
      · rw [hpc]
        rfl
    refine h.moved u (s.sender u) hself.symm ?_ ?_ ?_ ?_
    · exact h.boxes.pass s.sem rfl rfl
    · intro k hk _
      refine ⟨rfl, Function.update_of_ne ?_ _ _⟩
      rintro rfl
      exact hk hown
    · rcases hx : s.sender u with ⟨pc, data⟩
      rw [hx] at hdata hplace
      obtain rfl : data = msg' :: rest := hdata
      rcases hplace with ⟨hpc, hc⟩ | ⟨hpc, hc⟩
      · obtain rfl : pc = .wait no := hpc
        exact ⟨msg', rest, rfl, by rw [hc], Or.inl ⟨by rw [hc], hnew⟩⟩
      · obtain rfl : pc = .suspended no := hpc
        exact ⟨msg', rest, rfl, hc, hnew⟩
    · exact fun k hk hk' => absurd hk hk'
  · exact h
  · exact h

def SndBox.told (txok : Bool) : SndBox T := ⟨if txok = true then .ok else .err, true, none⟩

omit [Fintype T] [DecidableEq T] in
lemma setBox_setBox (s : TxSystem T) (no : ℕ) (box box' : SndBox T) :
    (s.setBox no box).setBox no box' = s.setBox no box' := by
  rw [TxSystem.setBox, TxSystem.setBox, Function.update_idem]
  rfl

omit [Fintype T] in
lemma rtHwCanIsrTx_waiting {no : ℕ} (txok : Bool)
    (hc : (s.buffer no).completion = ⟨false, none⟩) :
    rtHwCanIsrTx txok no s = s.setBox no (.told txok) := by
  rw [rtHwCanIsrTx, rtCompletionDone]
  simp only [TxSystem.setBox, Function.update_self, hc, Bool.false_eq_true, if_false]
  exact setBox_setBox s no _ _

omit [Fintype T] in
lemma rtHwCanIsrTx_suspended {no : ℕ} {t : T} (txok : Bool)
    (hc : (s.buffer no).completion = ⟨false, some t⟩) :
    rtHwCanIsrTx txok no s = (s.setBox no (.told txok)).at t (.resumed no) := by
  rw [rtHwCanIsrTx, rtCompletionDone]
  simp only [TxSystem.setBox, Function.update_self, hc, Bool.false_eq_true, if_false]
  exact congrArg (fun s' => TxSystem.at s' t (.resumed no)) (setBox_setBox s no _ _)

omit [Fintype T] [DecidableEq T] in
lemma cleared_eq_empty {m : Mailbox T} : m.cleared = .empty ↔ m = .empty := by
  cases m <;> simp [Mailbox.cleared]

omit [Fintype T] [DecidableEq T] in
lemma Sent.cleared {t : T} {msg : CanMsg} {m : Mailbox T} (h : Sent t msg m) :
    Sent t msg m.cleared := by
  rcases h with rfl | ⟨txok, rfl | rfl⟩
  · exact Or.inl rfl
  · exact Or.inr ⟨txok, Or.inr rfl⟩
  · exact Or.inr ⟨txok, Or.inr rfl⟩

omit [Fintype T] [DecidableEq T] in
lemma Station.cleared {t : T} {x : Sender} {buffer : ℕ → SndBox T} {mailbox : ℕ → Mailbox T}
    (h : Station t x buffer mailbox) : Station t x buffer fun no => (mailbox no).cleared := by
  obtain ⟨pc, data⟩ := x
  cases pc with
  | idle | take | pop | release ok | account ok => exact h
  | init no | refused no | collect no => exact ⟨h.1, cleared_eq_empty.mpr h.2⟩
  | send no | resumed no => exact ⟨h.1, cleared_eq_empty.mpr h.2.1, h.2.2⟩
  | wait no =>
    obtain ⟨msg, rest, hdata, hsuspended, hcase⟩ := h
    refine ⟨msg, rest, hdata, hsuspended, ?_⟩
    exact hcase.imp (And.imp_right Sent.cleared) (And.imp_right cleared_eq_empty.mpr)
  | suspended no =>
    obtain ⟨msg, rest, hdata, hcompletion, hsent⟩ := h
    exact ⟨msg, rest, hdata, hcompletion, hsent.cleared⟩

omit [DecidableEq T] in
lemma BoxesSound.setRqcp (h : BoxesSound n s) : BoxesSound n (setRqcp s) :=
  ⟨h.boxes, fun t => (h.station t).cleared, fun no hno => cleared_eq_empty.mpr (h.unowned no hno)⟩

lemma BoxesSound.told (h : BoxesSound n s) {no : ℕ} {u : T} {msg' : CanMsg} {txok' : Bool}
    (hm : s.mailbox no = .complete u msg' txok') (txok : Bool) : BoxesSound n
      { rtHwCanIsrTx txok no s with mailbox := Function.update s.mailbox no .empty } := by
  have hne : s.mailbox no ≠ .empty := by
    rw [hm]
    nofun
  obtain ⟨t, msg, rest, hdata, -, hplace⟩ := h.sent hne
  rcases hplace with ⟨hpc, hc⟩ | ⟨hpc, hc⟩
  · have hsame : (s.sender t : Sender) = { s.sender t with pc := .wait no } := by
      rw [← hpc]
    rw [rtHwCanIsrTx_waiting txok hc]
    have hgo : BoxesSound n (TxSystem.at { s with
        buffer := Function.update s.buffer no (.told txok)
        mailbox := Function.update s.mailbox no .empty
        outcomes := s.outcomes } t (.wait no)) := by
      refine h.go hpc rfl rfl rfl
        (fun k hk => ⟨Function.update_of_ne hk _ _, Function.update_of_ne hk _ _⟩) ?_
      rw [hdata]
      refine ⟨msg, rest, rfl, ?_, Or.inr ⟨?_, Function.update_self _ _ _⟩⟩
      · rw [Function.update_self]
        rfl
      · rw [Function.update_self]
        rfl
    rw [TxSystem.at, ← hsame, Function.update_eq_self] at hgo
    exact hgo
  · rw [rtHwCanIsrTx_suspended txok hc]
    change BoxesSound n (TxSystem.at { s with
        buffer := Function.update s.buffer no (.told txok)
        mailbox := Function.update s.mailbox no .empty
        outcomes := s.outcomes } t (.resumed no))
    refine h.go hpc rfl rfl rfl
      (fun k hk => ⟨Function.update_of_ne hk _ _, Function.update_of_ne hk _ _⟩) ?_
    rw [hdata]
    refine ⟨List.cons_ne_nil _ _, Function.update_self _ _ _, ?_⟩
    rw [Function.update_self]
    rfl

lemma BoxesSound.tell (h : BoxesSound n s) {no : ℕ} {u : T} {msg : CanMsg} {txok' : Bool}
    (hm : s.mailbox no = .complete u msg txok') (txok : Bool) : BoxesSound n (tellTx txok no s) :=
  (h.told hm txok).setRqcp

omit [Fintype T] in
lemma canTxIsr_cases (s : TxSystem T) (nos : List ℕ) : canTxIsr s nos = s ∨
    ∃ no t msg txok, s.mailbox no = .complete t msg txok ∧ canTxIsr s nos = tellTx txok no s := by
  induction nos with
  | nil => exact Or.inl rfl
  | cons no nos ih =>
    rw [canTxIsr]
    rcases hm : s.mailbox no with _ | ⟨t, msg⟩ | ⟨t, msg, txok⟩ | ⟨t, msg, txok⟩
    · exact ih
    · exact ih
    · exact Or.inr ⟨no, t, msg, txok, hm, rfl⟩
    · exact ih

omit [Fintype T] in
lemma canSceIsr_cases (s : TxSystem T) (nos : List ℕ) : canSceIsr s nos = s ∨
    s.lec = .ackErr ∧ ∃ no t msg txok, s.mailbox no = .complete t msg txok ∧
      canSceIsr s nos = if txok = true then setRqcp s else tellTx false no s := by
  rw [canSceIsr]
  by_cases hlec : s.lec = .ackErr
  · rw [if_pos hlec]
    induction nos with
    | nil => exact Or.inl rfl
    | cons no nos ih =>
      rw [canSceIsrAck]
      rcases hm : s.mailbox no with _ | ⟨t, msg⟩ | ⟨t, msg, txok⟩ | ⟨t, msg, txok⟩
      · exact ih
      · exact ih
      · exact Or.inr ⟨hlec, no, t, msg, txok, hm, rfl⟩
      · exact ih
  · rw [if_neg hlec]
    exact Or.inl rfl

lemma BoxesSound.txIsr (h : BoxesSound n s) (nos : List ℕ) : BoxesSound n (canTxIsr s nos) := by
  rcases canTxIsr_cases s nos with hsame | ⟨no, u, msg, txok, hm, hisr⟩
  · rw [hsame]
    exact h
  · rw [hisr]
    exact h.tell hm txok

lemma BoxesSound.sceIsr (h : BoxesSound n s) (nos : List ℕ) : BoxesSound n (canSceIsr s nos) := by
  rcases canSceIsr_cases s nos with hsame | ⟨-, no, u, msg, txok, hm, hisr⟩
  · rw [hsame]
    exact h
  · rw [hisr]
    cases txok
    · exact h.tell hm false
    · exact h.setRqcp

omit [DecidableEq T] in
lemma BoxesSound.heard (h : BoxesSound n s) (err : CanBusErr) : BoxesSound n (canHeard err s) := by
  rw [canHeard]
  split_ifs
  · exact h
  · exact ⟨h.boxes, h.station, h.unowned⟩

lemma BoxesSound.step (a : TxAction T) (s : TxSystem T) (h : BoxesSound n s) :
    BoxesSound n (txStep n a s) := by
  cases a with
  | write t data => exact h.write t data
  | thread t =>
    rcases howns : (s.sender t).pc.owns with _ | no
    · exact h.thread_permit howns
    · exact h.thread_box howns
  | done no e => exact h.done no e
  | heard err => exact h.heard err
  | txIsr => exact h.txIsr _
  | sceIsr => exact h.sceIsr _

end Steps

section Results

variable [Fintype T] [DecidableEq T]

/-- Whatever the order of calls, thread steps and interrupts: every send box is free or has exactly
one thread, the permits of the semaphore never exceed the free boxes, a thread requests a mailbox
only when it is empty, and a completion has at most its own thread suspended on it. -/
theorem tx_boxes_sound (listening : Bool) (n : ℕ) (as : List (TxAction T)) :
    BoxesSound n (run (txStep n) as (rtCanOpenTx listening n)) :=
  run_invariant (fun a _ => BoxesSound.step a) (boxesSound_rtCanOpenTx listening n)

end Results

end YkLock
