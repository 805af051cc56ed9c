import YkLock.Drivers.I2cTransfers

/-! A slave that a restart left in the middle of a byte, `i2c_bus_unlock`, and the transfers that
come after it. -/

namespace YkLock

open Library.StatePrograms Library.TwoWire

variable {slave : Slave} {ops : RtI2cBitOps} {items : List Item}

def Prompt (slave : Slave) : Prop := ∀ symbols, slave.stretch symbols = 0

lemma Prompt.inTime (h : Prompt slave) (ops : RtI2cBitOps) : InTime slave ops := by
  intro symbols
  rw [h symbols]
  rfl

def clocked (slave : Slave) : ℕ → List Symbol → List Symbol
  | 0, symbols => symbols
  | n + 1, symbols => clocked slave n (.bit (!slave.pulls (decode symbols)) :: symbols)

section Clocks

variable {symbols : List Symbol}

lemma getSda_run (s : I2cBus) : getSda.run s = (s.lines.sda, s) := rfl

lemma setSclH_low (h : Prompt slave) :
    (setSclH slave).run (busLow slave true symbols) = ((), busHigh slave true true symbols) := by
  simp [setSclH, h symbols, I2cBus.settle, Monitor.watch, busLow, busHigh]

lemma setSclH_high :
    (setSclH slave).run (busHigh slave true true symbols) =
      ((), busHigh slave true true symbols) := by
  simp [setSclH, I2cBus.settle, Monitor.watch, busHigh]

lemma i2cUnlockClocks_low (h : Prompt slave) (n : ℕ) (symbols : List Symbol) :
    (i2cUnlockClocks slave n).run (busLow slave true symbols) =
      ((), busLow slave true (clocked slave n symbols)) := by
  induction n generalizing symbols with
  | zero => rfl
  | succ n ih =>
    rw [i2cUnlockClocks, run_bind, setSclH_low h, run_bind, sclL_steady, Bool.true_and]
    exact ih _

lemma i2cUnlockClocks_high (h : Prompt slave) (n : ℕ) :
    (i2cUnlockClocks slave (n + 1)).run (busHigh slave true true symbols) =
      ((), busLow slave true (clocked slave (n + 1) symbols)) := by
  rw [i2cUnlockClocks, run_bind, setSclH_high, run_bind, sclL_steady, Bool.true_and]
  exact i2cUnlockClocks_low h n _

lemma clocked_idle (n : ℕ) (hd : decode symbols = ⟨items, .idle⟩) :
    decode (clocked slave n symbols) = ⟨items, .idle⟩ := by
  induction n generalizing symbols with
  | zero => exact hd
  | succ n ih =>
    refine ih ?_
    rw [decode_cons, hd]
    rfl

lemma clocked_fromSlave {n : ℕ} {bits : List Bool} (hlen : bits.length ≤ 8)
    (hn : 9 ≤ bits.length + n) (hd : decode symbols = ⟨items, .fromSlave bits⟩) :
    ∃ x, decode (clocked slave n symbols) = ⟨.read x false :: items, .idle⟩ := by
  induction n generalizing symbols bits with
  | zero => omega
  | succ n ih =>
    rcases Nat.lt_or_eq_of_le hlen with hlt | heq
    · have hnext : decode (.bit (!slave.pulls (decode symbols)) :: symbols) =
          ⟨items, .fromSlave ((!slave.pulls (decode symbols)) :: bits)⟩ := by
        rw [decode_cons, hd, Frames.take]
        exact if_pos hlt
      apply ih _ _ hnext
      · exact hlt
      · rw [List.length_cons]
        omega
    · have hpulls : slave.pulls (decode symbols) = false := by
        simp [hd, Slave.pulls, heq]
      refine ⟨ofBits bits, clocked_idle n ?_⟩
      rw [hpulls, decode_cons, hd, Frames.take]
      simp only [heq]
      rfl

end Clocks

lemma i2cBusUnlock_spec (h : Prompt slave) {symbols : List Symbol} {bits : List Bool}
    (hd : decode symbols = ⟨items, .fromSlave bits⟩)
    (hstuck : slave.pulls (decode symbols) = true) : ∃ x,
      ((i2cBusUnlock slave).run (busHigh slave true true symbols)).1 = rtEok ∧
        Taken slave ⟨.read x false :: items, .idle⟩
          ((i2cBusUnlock slave).run (busHigh slave true true symbols)).2 := by
  have hlen : bits.length < 8 := by
    rw [hd] at hstuck
    simp only [Slave.pulls, Bool.and_eq_true, decide_eq_true_eq] at hstuck
    exact hstuck.1
  obtain ⟨x, hx⟩ := clocked_fromSlave (n := 9) hlen.le (Nat.le_add_left _ _) hd
  have hlow : (busHigh slave true true symbols).lines.sda = false := by
    simp [busHigh, hstuck]
  have hfree : (busLow slave true (clocked slave 9 symbols)).lines.sda = true := by
    rw [busLow, hx]
    rfl
  have hrun : (i2cBusUnlock slave).run (busHigh slave true true symbols) =
      (rtEok, busLow slave true (clocked slave 9 symbols)) := by
    rw [i2cBusUnlock, run_bind, getSda_run, hlow]
    dsimp only
    rw [if_pos rfl, run_bind, i2cUnlockClocks_high h, run_bind, getSda_run, hfree]
    rfl
  rw [hrun]
  exact ⟨x, rfl, true, _, rfl, hx⟩

section Deaf

variable {s : I2cBus} {msg : RtI2cMsg}

lemma i2cStart_low {f : Frames} (hs : Taken slave f s) :
    Taken slave f ((i2cStart slave).run s).2 := by
  obtain ⟨sda, symbols, rfl, hd⟩ := hs
  exact ⟨false, symbols, rfl, hd⟩

lemma i2cBitSendAddress_idle (h : InTime slave ops) (hmsg : msg.Plain)
    (hs : Taken slave ⟨items, .idle⟩ s) : ∃ s',
      (i2cBitSendAddress slave ops 0 msg).run s = (-rtEio, s') ∧
        Taken slave ⟨items, .idle⟩ s' := by
  have hfail (x : Byte) (m : I2c ℤ) :
      (i2cSendAddress slave ops x 0 >>= fun ret =>
        if ret ≠ 1 ∧ false = false then pure (-rtEio) else m).run s =
          (-rtEio, ((i2cWriteb slave ops x).run s).2) := by
    rw [run_bind, run_ite, i2cSendAddress, (i2cWriteb_idle h x hs).1]
    rfl
  rw [i2cBitSendAddress, hmsg.nack]
  by_cases h10 : msg.has rtI2cAddr10bit = true
  · rw [if_pos h10]
    exact ⟨_, hfail _ _, (i2cWriteb_idle h _ hs).2⟩
  · rw [if_neg h10]
    exact ⟨_, hfail _ _, (i2cWriteb_idle h _ hs).2⟩

lemma i2cBitXfer_idle (h : InTime slave ops) {msgs : List RtI2cMsg} (hne : msgs ≠ [])
    (hmsgs : ∀ msg ∈ msgs, msg.Plain) (hs : Taken slave ⟨items, .idle⟩ s) : ∃ s',
      (i2cBitXfer slave ops 0 msgs).run s = ((-rtEio, msgs), s') ∧
        Free slave (.stop :: items) s' := by
  obtain ⟨msg, msgs, rfl⟩ := List.exists_cons_of_ne_nil hne
  have hmsg := hmsgs msg List.mem_cons_self
  obtain ⟨s', haddr, hidle⟩ := i2cBitSendAddress_idle h hmsg (i2cStart_low hs)
  have hxfer : (i2cXferMsg slave ops 0 true msg).run s = ((some (-rtEio), msg), s') := by
    rw [i2cXferMsg, hmsg.start, if_neg Bool.false_ne_true, if_pos rfl, run_bind, run_bind, haddr,
      hmsg.nack]
    rfl
  have hfrom : (i2cXferFrom slave ops 0 true (msg :: msgs) msg).run s =
      ((some (-rtEio), msg :: msgs, msg), s') := by
    rw [i2cXferFrom, run_bind, hxfer]
    rfl
  refine ⟨((i2cStop slave ops).run s').2, ?_, i2cStop_spec h hidle rfl⟩
  rw [i2cBitXfer, run_bind, hfrom]
  dsimp only
  rw [hmsg.stop]
  rfl

end Deaf

section Runs

def exchanges (slave : Slave) (retries : ℕ) :
    List (List RtI2cMsg) → List Item → List (ℤ × List RtI2cMsg) × List Item
  | [], items => ([], items)
  | msgs :: later, items =>
    let (ret, done, items) := exchange slave retries msgs items
    let (rets, items) := exchanges slave retries later (.stop :: items)
    ((ret.getD msgs.length, done) :: rets, items)

lemma i2cBitXfers_spec (h : InTime slave ops) (retries : ℕ) {transfers : List (List RtI2cMsg)}
    (hmsgs : ∀ msgs ∈ transfers, msgs ≠ [] ∧ ∀ msg ∈ msgs, msg.Plain) {s : I2cBus}
    (hs : Free slave items s) :
    ((transfers.mapM (i2cBitXfer slave ops retries)).run s).1 =
        (exchanges slave retries transfers items).1 ∧
      Free slave (exchanges slave retries transfers items).2
        ((transfers.mapM (i2cBitXfer slave ops retries)).run s).2 := by
  induction transfers generalizing items s with
  | nil => exact ⟨rfl, hs⟩
  | cons msgs later ih =>
    obtain ⟨hne, hplain⟩ := hmsgs msgs List.mem_cons_self
    obtain ⟨hret, hfree⟩ := i2cBitXfer_spec h retries hne hplain hs
    obtain ⟨hrets, hlast⟩ := ih (fun m hm => hmsgs m (List.mem_cons_of_mem msgs hm)) hfree
    rw [List.mapM_cons, run_bind, run_bind, exchanges, hret]
    exact ⟨congrArg (_ :: ·) hrets, hlast⟩

end Runs

/-- A slave that was left anywhere in a byte it sends lets the data line go during the nine clocks,
but they leave the clock low, so the transfer behind them starts without a start: it fails with
nothing but a stop on the bus, and every transfer from then on is the exchange it stands for. -/
theorem i2c_bus_recovers (h : Prompt slave) {symbols : List Symbol} {bits : List Bool}
    (hd : decode symbols = ⟨items, .fromSlave bits⟩)
    (hstuck : slave.pulls (decode symbols) = true) {msgs : List RtI2cMsg}
    {later : List (List RtI2cMsg)}
    (hmsgs : ∀ m ∈ msgs :: later, m ≠ [] ∧ ∀ msg ∈ m, msg.Plain) : ∃ x,
      let unlocked := (i2cBusUnlock slave).run (busHigh slave true true symbols)
      let out := ((msgs :: later).mapM (i2cBitXfer slave ops 0)).run unlocked.2
      let r := exchanges slave 0 later (.stop :: .read x false :: items)
      unlocked.1 = rtEok ∧ out.1 = (-rtEio, msgs) :: r.1 ∧ Free slave r.2 out.2 := by
  obtain ⟨x, hret, htaken⟩ := i2cBusUnlock_spec h hd hstuck
  obtain ⟨hne, hplain⟩ := hmsgs msgs List.mem_cons_self
  obtain ⟨s', hfirst, hfree⟩ := i2cBitXfer_idle (h.inTime ops) hne hplain htaken
  obtain ⟨hrets, hlast⟩ := i2cBitXfers_spec (h.inTime ops) 0
    (fun m hm => hmsgs m (List.mem_cons_of_mem msgs hm)) hfree
  refine ⟨x, hret, ?_⟩
  rw [List.mapM_cons, run_bind, run_bind, hfirst]
  exact ⟨congrArg (_ :: ·) hrets, hlast⟩

def zeroSlave : Slave := ⟨fun _ _ => true, fun _ => 0, fun _ => 0⟩

def leftSymbols : List Symbol :=
  List.replicate 4 (.bit false) ++ (tops 0xA1 8).map .bit ++ [.start]

theorem i2c_bus_recovers_zeros : ∃ x,
    let ops : RtI2cBitOps := ⟨5, id⟩
    let msgs : List RtI2cMsg := [⟨0x50, rtI2cRd, [0xFF]⟩]
    let unlocked := (i2cBusUnlock zeroSlave).run (busHigh zeroSlave true true leftSymbols)
    let out := ([msgs, msgs].mapM (i2cBitXfer zeroSlave ops 0)).run unlocked.2
    let r := exchanges zeroSlave 0 [msgs] (.stop :: .read x false :: [.written 0xA1 true, .start])
    unlocked.1 = rtEok ∧ out.1 = (-rtEio, msgs) :: r.1 ∧ Free zeroSlave r.2 out.2 := by
  have hd : decode leftSymbols =
      ⟨[.written 0xA1 true, .start], .fromSlave [false, false, false]⟩ := by decide
  refine i2c_bus_recovers (fun _ => rfl) hd (by decide) ?_
  simp only [List.mem_cons, List.not_mem_nil, or_false, or_self, forall_eq]
  exact ⟨List.cons_ne_nil _ _, by decide, by decide, by decide, by decide, by decide⟩

end YkLock
