import YkLock.Drivers.I2cTransfers

/-! What has gone over the bus when a transfer succeeds, in the order of time. -/

namespace YkLock

open Library.StatePrograms Library.TwoWire

variable {slave : Slave} {ops : RtI2cBitOps}

def answered (x : Byte) (tries : ℕ) : List Item :=
  (List.replicate tries [.written x false, .stop, .start]).flatten ++ [.written x true]

def readItems : List Byte → List Item
  | [] => []
  | x :: xs => .read x (0 < xs.length) :: readItems xs

def RtI2cMsg.opening (msg : RtI2cMsg) (tries : ℕ × ℕ) : List Item :=
  if msg.has rtI2cAddr10bit = true then
    answered msg.addr10 tries.1 ++ .written msg.addr10Low true ::
      if msg.read = true then .start :: answered (msg.addr10 ||| 1) tries.2 else []
  else answered msg.addr7 tries.1

def RtI2cMsg.transcript (msg : RtI2cMsg) (tries : ℕ × ℕ) : List Item :=
  .start :: (msg.opening tries ++
    if msg.read = true then readItems msg.buf else msg.buf.map (.written · true))

def transcripts (msgs : List RtI2cMsg) (tries : List (ℕ × ℕ)) : List Item :=
  (List.zipWith RtI2cMsg.transcript msgs tries).flatten

section Parts

variable {items : List Item}

lemma answered_succ (x : Byte) (tries : ℕ) :
    answered x (tries + 1) = .written x false :: .stop :: .start :: answered x tries := by
  rw [answered, List.replicate_succ, List.flatten_cons, List.append_assoc]
  rfl

lemma address_found {x : Byte} {retries : ℕ} (h : (slave.address x retries items).1 = true) :
    ∃ tries ≤ retries,
      (slave.address x retries items).2 = (answered x tries).reverse ++ items := by
  induction retries generalizing items with
  | zero =>
    have hack : slave.ack items x = true := h
    refine ⟨0, le_rfl, ?_⟩
    rw [Slave.address, hack]
    rfl
  | succ retries ih =>
    rw [Slave.address] at h ⊢
    by_cases hack : slave.ack items x = true
    · rw [if_pos hack]
      exact ⟨0, Nat.zero_le _, rfl⟩
    · rw [if_neg hack] at h ⊢
      obtain ⟨tries, hle, hitems⟩ := ih h
      refine ⟨tries + 1, Nat.succ_le_succ hle, ?_⟩
      rw [hitems, answered_succ]
      simp

lemma writes_found {xs : List Byte} (h : (slave.writes xs items).1 = true) :
    (slave.writes xs items).2 = (xs.map (Item.written · true)).reverse ++ items := by
  induction xs generalizing items with
  | nil => rfl
  | cons x xs ih =>
    rw [Slave.writes] at h ⊢
    by_cases hack : slave.ack items x = true
    · rw [if_pos hack] at h ⊢
      rw [ih h]
      simp
    · rw [if_neg hack] at h
      cases h

lemma reads_items (n : ℕ) (items : List Item) : (slave.reads n items).2 =
    (readItems (slave.reads n items).1).reverse ++ items := by
  induction n generalizing items with
  | zero => rfl
  | succ n ih =>
    have hlen := reads_length slave n (.read (slave.data items) (0 < n) :: items)
    change (slave.reads n _).2 = (readItems (slave.data items :: (slave.reads n _).1)).reverse ++ items
    rw [ih, readItems, hlen]
    simp

lemma select_found {msg : RtI2cMsg} {retries : ℕ} (h : (msg.select slave retries items).1 = true) :
    ∃ tries : ℕ × ℕ, tries.1 ≤ retries ∧ tries.2 ≤ retries ∧
      (msg.select slave retries items).2 = (msg.opening tries).reverse ++ items := by
  rw [RtI2cMsg.select] at h ⊢
  by_cases h10 : msg.has rtI2cAddr10bit = true
  · rw [if_pos h10] at h ⊢
    generalize hr : slave.address msg.addr10 retries items = r at h ⊢
    rcases r with ⟨_ | _, items₁⟩
    · cases h
    · obtain ⟨tries, hle, hitems⟩ := address_found (congrArg Prod.fst hr)
      obtain rfl : items₁ = (answered msg.addr10 tries).reverse ++ items := by
        rw [← hitems, hr]
      dsimp only at h ⊢
      rw [if_neg (by decide)] at h ⊢
      generalize hack : slave.ack _ msg.addr10Low = ack at h ⊢
      rcases ack with _ | _
      · cases h
      · rcases hread : msg.read with _ | _
        · refine ⟨(tries, 0), hle, Nat.zero_le _, ?_⟩
          rw [RtI2cMsg.opening, if_pos h10, hread]
          simp
        · rw [hread] at h
          obtain ⟨tries', hle', hitems'⟩ := address_found h
          refine ⟨(tries, tries'), hle, hle', ?_⟩
          rw [RtI2cMsg.opening, if_pos h10, hread]
          refine hitems'.trans ?_
          simp
  · rw [if_neg h10] at h ⊢
    obtain ⟨tries, hle, hitems⟩ := address_found h
    refine ⟨(tries, 0), hle, Nat.zero_le _, ?_⟩
    rw [hitems, RtI2cMsg.opening, if_neg h10]

lemma pass_found {msg : RtI2cMsg} (h : (msg.pass slave items).1 = none) :
    (msg.pass slave items).2.2 =
      (if msg.read = true then readItems (msg.pass slave items).2.1.buf
        else (msg.pass slave items).2.1.buf.map (Item.written · true)).reverse ++ items := by
  rw [RtI2cMsg.pass] at h ⊢
  rcases hread : msg.read with _ | _
  · rw [hread] at h
    have hok : (slave.writes msg.buf items).1 = true := by
      by_contra hne
      have hsome : (if (slave.writes msg.buf items).1 = true then none else some (-rtError)) = none :=
        h
      rw [if_neg hne] at hsome
      cases hsome
    exact writes_found hok
  · exact reads_items msg.buf.length items

lemma transcript_congr {msg msg' : RtI2cMsg} (haddr : msg'.addr = msg.addr)
    (hflags : msg'.flags = msg.flags) (tries : ℕ × ℕ) : msg'.transcript tries =
      .start :: (msg.opening tries ++
        if msg.read = true then readItems msg'.buf else msg'.buf.map (.written · true)) := by
  obtain ⟨addr, flags, buf⟩ := msg'
  obtain rfl : addr = msg.addr := haddr
  obtain rfl : flags = msg.flags := hflags
  rfl

lemma exchange_addr (retries : ℕ) (msg : RtI2cMsg) (items : List Item) :
    (msg.exchange slave retries items).2.1.addr = msg.addr := by
  rw [RtI2cMsg.exchange]
  generalize msg.select slave retries (.start :: items) = r
  rcases r with ⟨_ | _, items'⟩
  · rfl
  · change (msg.pass slave items').2.1.addr = msg.addr
    rw [RtI2cMsg.pass]
    cases msg.read <;> rfl

lemma message_found {msg : RtI2cMsg} {retries : ℕ}
    (h : (msg.exchange slave retries items).1 = none) :
    ∃ tries : ℕ × ℕ, tries.1 ≤ retries ∧ tries.2 ≤ retries ∧
      (msg.exchange slave retries items).2.2 =
        ((msg.exchange slave retries items).2.1.transcript tries).reverse ++ items := by
  simp only [transcript_congr (exchange_addr retries msg items)
    (exchange_flags slave retries msg items)]
  rw [RtI2cMsg.exchange] at h ⊢
  generalize hr : msg.select slave retries (.start :: items) = r at h ⊢
  rcases r with ⟨_ | _, items₁⟩
  · cases h
  · obtain ⟨tries, hle, hle', hitems⟩ := select_found (congrArg Prod.fst hr)
    obtain rfl : items₁ = (msg.opening tries).reverse ++ .start :: items := by
      rw [← hitems, hr]
    refine ⟨tries, hle, hle', ?_⟩
    refine (pass_found h).trans ?_
    simp

end Parts

structure RtI2cMsg.Returned (msg msg' : RtI2cMsg) : Prop where
  addr : msg'.addr = msg.addr
  flags : msg'.flags = msg.flags
  length : msg'.buf.length = msg.buf.length
  buf : msg.read = false → msg'.buf = msg.buf

section Messages

variable {items : List Item} {retries : ℕ}

lemma exchange_returned (slave : Slave) (retries : ℕ) (msg : RtI2cMsg) (items : List Item) :
    msg.Returned (msg.exchange slave retries items).2.1 := by
  refine ⟨exchange_addr retries msg items, exchange_flags slave retries msg items, ?_, ?_⟩
  · rw [RtI2cMsg.exchange]
    generalize msg.select slave retries (.start :: items) = r
    rcases r with ⟨_ | _, items'⟩
    · rfl
    · change (msg.pass slave items').2.1.buf.length = msg.buf.length
      rw [RtI2cMsg.pass]
      cases msg.read
      · rfl
      · exact reads_length slave msg.buf.length items'
  · intro hread
    rw [RtI2cMsg.exchange]
    generalize msg.select slave retries (.start :: items) = r
    rcases r with ⟨_ | _, items'⟩
    · rfl
    · change (msg.pass slave items').2.1.buf = msg.buf
      rw [RtI2cMsg.pass, hread]
      rfl

lemma exchange_error {msg : RtI2cMsg} {e : ℤ}
    (h : (msg.exchange slave retries items).1 = some e) : e < 0 := by
  rw [RtI2cMsg.exchange] at h
  generalize msg.select slave retries (.start :: items) = r at h
  rcases r with ⟨_ | _, items'⟩
  · obtain rfl := Option.some.inj h
    decide
  · have hpass : (msg.pass slave items').1 = some e := h
    rw [RtI2cMsg.pass] at hpass
    rcases hread : msg.read with _ | _
    · rw [hread] at hpass
      have herror : (if (slave.writes msg.buf items').1 = true then none else some (-rtError)) =
          some e := hpass
      by_cases hok : (slave.writes msg.buf items').1 = true
      · rw [if_pos hok] at herror
        cases herror
      · rw [if_neg hok] at herror
        obtain rfl := Option.some.inj herror
        decide
    · rw [hread] at hpass
      cases hpass

lemma exchange_found (slave : Slave) (retries : ℕ) (msgs : List RtI2cMsg) (items : List Item) :
    let r := exchange slave retries msgs items
    List.Forall₂ RtI2cMsg.Returned msgs r.2.1 ∧
      ((∃ e < 0, r.1 = some e) ∨ r.1 = none ∧
        ∃ tries : List (ℕ × ℕ), tries.length = msgs.length ∧
          (∀ t ∈ tries, t.1 ≤ retries ∧ t.2 ≤ retries) ∧
          r.2.2 = (transcripts r.2.1 tries).reverse ++ items) := by
  induction msgs generalizing items with
  | nil => exact ⟨List.Forall₂.nil, Or.inr ⟨rfl, [], rfl, by simp, rfl⟩⟩
  | cons msg msgs ih =>
    have hreturned := exchange_returned slave retries msg items
    rw [exchange]
    generalize hr : msg.exchange slave retries items = r at hreturned
    obtain ⟨ret, msg', items₁⟩ := r
    have hret : (msg.exchange slave retries items).1 = ret := congrArg Prod.fst hr
    rcases ret with _ | e
    · obtain ⟨hforall, hcase⟩ := ih items₁
      refine ⟨List.Forall₂.cons hreturned hforall, ?_⟩
      rcases hcase with herror | ⟨hnone, tries, hlen, hle, hitems⟩
      · exact Or.inl herror
      · obtain ⟨t, ht, ht', hitems₁⟩ := message_found hret
        rw [hr] at hitems₁
        obtain rfl : items₁ = (msg'.transcript t).reverse ++ items := hitems₁
        refine Or.inr ⟨hnone, t :: tries, congrArg (· + 1) hlen, ?_, ?_⟩
        · exact List.forall_mem_cons.mpr ⟨⟨ht, ht'⟩, hle⟩
        · refine hitems.trans ?_
          simp [transcripts]
    · refine ⟨List.Forall₂.cons hreturned ?_, Or.inl ⟨e, exchange_error hret, rfl⟩⟩
      exact List.forall₂_same.mpr fun m _ => ⟨rfl, rfl, rfl, fun _ => rfl⟩

end Messages

/-- Over any slave that lets the clock go in time, a transfer on the pins is the exchange of bytes it
stands for and leaves both lines free, whether or not it fails. If it reports success, every message
has gone over the bus in its order, with one start in front and one stop behind all: its address,
after at most `retries` refused tries, and all its bytes, each acknowledged but for the last read. -/
theorem i2c_transfer_on_wire (h : InTime slave ops) (retries : ℕ) {msgs : List RtI2cMsg}
    (hne : msgs ≠ []) (hmsgs : ∀ msg ∈ msgs, msg.Plain) {items : List Item} {s : I2cBus}
    (hs : Free slave items s) :
    let out := (i2cBitXfer slave ops retries msgs).run s
    let r := exchange slave retries msgs items
    out.1 = (r.1.getD msgs.length, r.2.1) ∧ Free slave (.stop :: r.2.2) out.2 ∧
      List.Forall₂ RtI2cMsg.Returned msgs out.1.2 ∧
      (out.1.1 < 0 ∨ out.1.1 = msgs.length ∧
        ∃ tries : List (ℕ × ℕ), tries.length = msgs.length ∧
          (∀ t ∈ tries, t.1 ≤ retries ∧ t.2 ≤ retries) ∧
          r.2.2 = (transcripts out.1.2 tries).reverse ++ items) := by
  obtain ⟨hret, hfree⟩ := i2cBitXfer_spec h retries hne hmsgs hs
  obtain ⟨hforall, hcase⟩ := exchange_found slave retries msgs items
  refine ⟨hret, hfree, ?_, ?_⟩
  · rw [hret]
    exact hforall
  · rw [hret]
    rcases hcase with ⟨e, he, hsome⟩ | ⟨hnone, htries⟩
    · rw [hsome]
      exact Or.inl he
    · rw [hnone]
      exact Or.inr ⟨rfl, htries⟩

def constantSlave : Slave := ⟨fun _ _ => true, fun _ => 0x5A, fun _ => 0⟩

theorem i2c_transfer_on_wire_read :
    let ops : RtI2cBitOps := ⟨5, id⟩
    let msgs : List RtI2cMsg := [⟨0x50, 0, [0x00, 0x10]⟩, ⟨0x50, rtI2cRd, [0, 0]⟩]
    let out := (i2cBitXfer constantSlave ops 0 msgs).run (busHigh constantSlave true false [])
    let r := exchange constantSlave 0 msgs []
    out.1 = (r.1.getD msgs.length, r.2.1) ∧ Free constantSlave (.stop :: r.2.2) out.2 ∧
      List.Forall₂ RtI2cMsg.Returned msgs out.1.2 ∧
      (out.1.1 < 0 ∨ out.1.1 = msgs.length ∧
        ∃ tries : List (ℕ × ℕ), tries.length = msgs.length ∧ (∀ t ∈ tries, t.1 ≤ 0 ∧ t.2 ≤ 0) ∧
          r.2.2 = (transcripts out.1.2 tries).reverse ++ []) := by
  refine i2c_transfer_on_wire (fun _ => rfl) 0 (List.cons_ne_nil _ _) ?_ ⟨false, [], rfl, rfl, rfl⟩
  rintro msg (_ | ⟨_, _ | ⟨_, _ | _⟩⟩)
  · exact ⟨by decide, by decide, by decide, by decide, by decide⟩
  · exact ⟨by decide, by decide, by decide, by decide, by decide⟩

end YkLock
