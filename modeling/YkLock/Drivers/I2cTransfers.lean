import YkLock.Drivers.I2cBytes

/-! `i2c_bit_xfer` for messages with plain flags, against the exchange of bytes it stands for. -/

namespace YkLock

open Library.StatePrograms Library.TwoWire

variable {slave : Slave} {ops : RtI2cBitOps}

def RtI2cMsg.read (msg : RtI2cMsg) : Bool := msg.has rtI2cRd

def RtI2cMsg.addr7 (msg : RtI2cMsg) : Byte :=
  if msg.read = true then (msg.addr <<< 1).setWidth 8 ||| 1 else (msg.addr <<< 1).setWidth 8

def RtI2cMsg.addr10 (msg : RtI2cMsg) : Byte := 0xf0 ||| (msg.addr >>> 7 &&& 0x06).setWidth 8

def RtI2cMsg.addr10Low (msg : RtI2cMsg) : Byte := (msg.addr &&& 0xff).setWidth 8

def RtI2cMsg.select (slave : Slave) (retries : ℕ) (msg : RtI2cMsg) (items : List Item) :
    Bool × List Item :=
  if msg.has rtI2cAddr10bit = true then
    let (found, items) := slave.address msg.addr10 retries items
    if found = false then (false, items)
    else
      let ack := slave.ack items msg.addr10Low
      let items := .written msg.addr10Low ack :: items
      if ack = false ∨ msg.read = false then (ack, items)
      else slave.address (msg.addr10 ||| 1) retries (.start :: items)
  else slave.address msg.addr7 retries items

def RtI2cMsg.pass (slave : Slave) (msg : RtI2cMsg) (items : List Item) :
    Option ℤ × RtI2cMsg × List Item :=
  if msg.read = true then
    let (bytes, items) := slave.reads msg.buf.length items
    (none, { msg with buf := bytes }, items)
  else
    let (ok, items) := slave.writes msg.buf items
    (if ok = true then none else some (-rtError), msg, items)

def RtI2cMsg.exchange (slave : Slave) (retries : ℕ) (msg : RtI2cMsg) (items : List Item) :
    Option ℤ × RtI2cMsg × List Item :=
  let (found, items) := msg.select slave retries (.start :: items)
  if found = false then (some (-rtEio), msg, items) else msg.pass slave items

def exchange (slave : Slave) (retries : ℕ) :
    List RtI2cMsg → List Item → Option ℤ × List RtI2cMsg × List Item
  | [], items => (none, [], items)
  | msg :: msgs, items =>
    let (ret, msg, items) := msg.exchange slave retries items
    if ret.isSome = true then (ret, msg :: msgs, items)
    else
      let (ret, done, items) := exchange slave retries msgs items
      (ret, msg :: done, items)

structure RtI2cMsg.Plain (msg : RtI2cMsg) : Prop where
  start : msg.has rtI2cNoStart = false
  nack : msg.has rtI2cIgnoreNack = false
  readAck : msg.has rtI2cNoReadAck = false
  stop : msg.has rtI2cNoStop = false
  read : msg.read = true → msg.buf ≠ []

section Data

variable {items : List Item} {s : I2cBus}

lemma i2cSendFrom_spec (h : InTime slave ops) (xs : List Byte) (n : ℕ)
    (hs : Taken slave ⟨items, .toSlave false []⟩ s) :
    ((i2cSendFrom slave ops false xs n).run s).1 =
        (if (slave.writes xs items).1 = true then ((n + xs.length : ℕ) : ℤ) else 0) ∧
      Taken slave ⟨(slave.writes xs items).2,
          if (slave.writes xs items).1 = true then .toSlave false [] else .idle⟩
        ((i2cSendFrom slave ops false xs n).run s).2 := by
  induction xs generalizing items s n with
  | nil => exact ⟨rfl, hs⟩
  | cons x xs ih =>
    obtain ⟨hret, hnext⟩ := i2cWriteb_spec h x hs
    rw [i2cSendFrom, run_bind, run_ite, hret, Slave.writes]
    rcases hack : slave.ack items x with _ | _
    · rw [hack] at hnext
      simp only [Bool.false_eq_true, if_false]
      exact ⟨by simp, hnext⟩
    · rw [hack] at hnext
      obtain ⟨hrest, hlast⟩ := ih (n + 1) hnext
      simp only [if_true, zero_lt_one, true_or]
      rw [hrest, List.length_cons, Nat.add_comm xs.length 1, ← Nat.add_assoc]
      exact ⟨rfl, hlast⟩

lemma i2cRecvFrom_succ (h : InTime slave ops) (count : ℕ) (bytes : List Byte)
    (hs : Taken slave ⟨items, .fromSlave []⟩ s) : ∃ s',
      (i2cRecvFrom slave ops false (count + 1) bytes).run s =
        (i2cRecvFrom slave ops false count (bytes ++ [slave.data items])).run s' ∧
      Taken slave ⟨.read (slave.data items) (0 < count) :: items, afterRead (0 < count)⟩ s' := by
  obtain ⟨hval, hack, hnext⟩ := i2cRead_spec h (decide (0 < count)) hs
  refine ⟨_, ?_, hnext⟩
  rw [i2cRecvFrom, run_bind, hval]
  change (i2cSendAckOrNack slave ops (decide (0 < count)) >>= fun ret => if ret < 0 then
    pure (ret, bytes ++ [slave.data items])
    else i2cRecvFrom slave ops false count (bytes ++ [slave.data items])).run _ = _
  rw [run_bind, hack, run_ite, if_neg rtEok_not_neg]

lemma i2cRecvFrom_spec (h : InTime slave ops) (count : ℕ) (bytes : List Byte)
    (hs : Taken slave ⟨items, .fromSlave []⟩ s) :
    ((i2cRecvFrom slave ops false (count + 1) bytes).run s).1 =
        (((bytes.length + (count + 1) : ℕ) : ℤ), bytes ++ (slave.reads (count + 1) items).1) ∧
      Taken slave ⟨(slave.reads (count + 1) items).2, .idle⟩
        ((i2cRecvFrom slave ops false (count + 1) bytes).run s).2 := by
  induction count generalizing items s bytes with
  | zero =>
    obtain ⟨s', hrun, hnext⟩ := i2cRecvFrom_succ h 0 bytes hs
    rw [hrun, i2cRecvFrom, run_pure]
    exact ⟨by simp [Slave.reads], hnext⟩
  | succ count ih =>
    obtain ⟨s', hrun, hnext⟩ := i2cRecvFrom_succ h (count + 1) bytes hs
    have hmore : decide (0 < count + 1) = true := by simp
    rw [hmore] at hnext
    obtain ⟨hret, hlast⟩ := ih (bytes ++ [slave.data items]) hnext
    have hreads : slave.reads (count + 1 + 1) items =
        (slave.data items :: (slave.reads (count + 1) (.read (slave.data items) true :: items)).1,
          (slave.reads (count + 1) (.read (slave.data items) true :: items)).2) := by
      rw [Slave.reads, hmore]
    rw [hrun, hret, hreads]
    refine ⟨Prod.ext ?_ ?_, hlast⟩
    · simp only [List.length_append, List.length_singleton]
      congr 1
      omega
    · simp

lemma reads_length (slave : Slave) (n : ℕ) (items : List Item) :
    (slave.reads n items).1.length = n := by
  induction n generalizing items with
  | zero => rfl
  | succ n ih => exact congrArg (· + 1) (ih _)

def behindAddress (read : Bool) : Turn := if read = true then .fromSlave [] else .toSlave false []

lemma afterWritten_true (x : Byte) : afterWritten true x true = behindAddress (x.getLsbD 0) := by
  simp [afterWritten, behindAddress]

lemma i2cSendAddress_spec (h : InTime slave ops) (x : Byte) (retries : ℕ)
    (hs : Taken slave ⟨items, .toSlave true []⟩ s) :
    ((i2cSendAddress slave ops x retries).run s).1 =
        (if (slave.address x retries items).1 = true then 1 else 0) ∧
      Taken slave ⟨(slave.address x retries items).2,
          if (slave.address x retries items).1 = true then behindAddress (x.getLsbD 0) else .idle⟩
        ((i2cSendAddress slave ops x retries).run s).2 := by
  induction retries generalizing items s with
  | zero =>
    obtain ⟨hret, hnext⟩ := i2cWriteb_spec h x hs
    rw [i2cSendAddress, Slave.address]
    refine ⟨hret, ?_⟩
    rcases hack : slave.ack items x with _ | _
    · rw [hack] at hnext
      exact hnext
    · rw [hack, afterWritten_true] at hnext
      exact hnext
  | succ retries ih =>
    obtain ⟨hret, hnext⟩ := i2cWriteb_spec h x hs
    rw [i2cSendAddress, run_bind, run_ite, hret, Slave.address]
    rcases hack : slave.ack items x with _ | _
    · rw [hack] at hnext
      simp only [Bool.false_eq_true, if_false, zero_ne_one]
      have hfree := i2cStop_spec h hnext rfl
      exact ih (i2cStart_spec hfree)
    · rw [hack, afterWritten_true] at hnext
      simp only [if_true]
      exact ⟨rfl, hnext⟩

end Data

section Messages

variable {items : List Item} {s : I2cBus} {msg : RtI2cMsg}

lemma addr7_read (msg : RtI2cMsg) : msg.addr7.getLsbD 0 = msg.read := by
  rw [RtI2cMsg.addr7]
  cases msg.read <;> simp

lemma addr10_write (msg : RtI2cMsg) : msg.addr10.getLsbD 0 = false := by
  simp [RtI2cMsg.addr10]

lemma addr10_read (msg : RtI2cMsg) : (msg.addr10 ||| 1).getLsbD 0 = true := by
  simp

lemma i2cSendAddress_bind (h : InTime slave ops) (x : Byte) (retries : ℕ) (m : I2c ℤ)
    (hs : Taken slave ⟨items, .toSlave true []⟩ s) : ∃ s',
      (i2cSendAddress slave ops x retries >>= fun ret =>
          if ret ≠ 1 ∧ false = false then pure (-rtEio) else m).run s =
        (if (slave.address x retries items).1 = true then m.run s' else (-rtEio, s')) ∧
      Taken slave ⟨(slave.address x retries items).2,
        if (slave.address x retries items).1 = true then behindAddress (x.getLsbD 0)
        else .idle⟩ s' := by
  obtain ⟨hret, hnext⟩ := i2cSendAddress_spec h x retries hs
  refine ⟨_, ?_, hnext⟩
  rw [run_bind, run_ite, hret]
  cases (slave.address x retries items).1 <;> rfl

lemma i2cWriteb_bind (h : InTime slave ops) (x : Byte) (m : I2c ℤ)
    (hs : Taken slave ⟨items, .toSlave false []⟩ s) : ∃ s',
      (i2cWriteb slave ops x >>= fun ret =>
          if ret ≠ 1 ∧ false = false then pure (-rtEio) else m).run s =
        (if slave.ack items x = true then m.run s' else (-rtEio, s')) ∧
      Taken slave ⟨.written x (slave.ack items x) :: items,
        afterWritten false x (slave.ack items x)⟩ s' := by
  obtain ⟨hret, hnext⟩ := i2cWriteb_spec h x hs
  refine ⟨_, ?_, hnext⟩
  rw [run_bind, run_ite, hret]
  cases slave.ack items x <;> rfl

def Selected (slave : Slave) (read : Bool) (r : Bool × List Item) (out : ℤ × I2cBus) : Prop :=
  out.1 = (if r.1 = true then rtEok else -rtEio) ∧
    Taken slave ⟨r.2, if r.1 = true then behindAddress read else .idle⟩ out.2

lemma address_selected (h : InTime slave ops) (x : Byte) (retries : ℕ)
    (hs : Taken slave ⟨items, .toSlave true []⟩ s) :
    Selected slave (x.getLsbD 0) (slave.address x retries items)
      ((i2cSendAddress slave ops x retries >>= fun ret =>
        if ret ≠ 1 ∧ false = false then pure (-rtEio) else pure rtEok).run s) := by
  obtain ⟨s', hrun, hnext⟩ := i2cSendAddress_bind h x retries (pure rtEok) hs
  rw [hrun]
  generalize slave.address x retries items = r at hnext
  rcases r with ⟨_ | _, items'⟩
  · exact ⟨rfl, hnext⟩
  · exact ⟨rfl, hnext⟩

lemma addr10Low_selected (h : InTime slave ops) (retries : ℕ)
    (hs : Taken slave ⟨items, .toSlave false []⟩ s) :
    Selected slave msg.read
      (let ack := slave.ack items msg.addr10Low
        if ack = false ∨ msg.read = false then (ack, .written msg.addr10Low ack :: items)
        else slave.address (msg.addr10 ||| 1) retries
          (.start :: .written msg.addr10Low ack :: items))
      ((i2cWriteb slave ops msg.addr10Low >>= fun ret =>
        if ret ≠ 1 ∧ false = false then pure (-rtEio)
        else if msg.read = true then
          i2cRestart slave ops >>= fun _ =>
            i2cSendAddress slave ops (msg.addr10 ||| 1) retries >>= fun ret =>
              if ret ≠ 1 ∧ false = false then pure (-rtEio) else pure rtEok
        else pure rtEok).run s) := by
  obtain ⟨s', hrun, hnext⟩ := i2cWriteb_bind h msg.addr10Low
    (if msg.read = true then
      i2cRestart slave ops >>= fun _ =>
        i2cSendAddress slave ops (msg.addr10 ||| 1) retries >>= fun ret =>
          if ret ≠ 1 ∧ false = false then pure (-rtEio) else pure rtEok
      else pure rtEok) hs
  rw [hrun]
  rcases hack : slave.ack items msg.addr10Low with _ | _
  · rw [hack] at hnext
    exact ⟨rfl, hnext⟩
  · rw [hack] at hnext
    rcases hread : msg.read with _ | _
    · exact ⟨rfl, hnext⟩
    · have hstart := i2cRestart_spec h hnext rfl
      have hselected := address_selected h (msg.addr10 ||| 1) retries hstart
      rw [addr10_read] at hselected
      exact hselected

lemma i2cBitSendAddress_spec (h : InTime slave ops) (retries : ℕ)
    (hack : msg.has rtI2cIgnoreNack = false) (hs : Taken slave ⟨items, .toSlave true []⟩ s) :
    Selected slave msg.read (msg.select slave retries items)
      ((i2cBitSendAddress slave ops retries msg).run s) := by
  rw [i2cBitSendAddress, hack, RtI2cMsg.select]
  rcases h10 : msg.has rtI2cAddr10bit with _ | _
  · have hselected := address_selected h msg.addr7 retries hs
    rw [addr7_read] at hselected
    exact hselected
  · obtain ⟨s', hrun, hnext⟩ := i2cSendAddress_bind h msg.addr10 retries
      (i2cWriteb slave ops msg.addr10Low >>= fun ret =>
        if ret ≠ 1 ∧ false = false then pure (-rtEio)
        else if msg.read = true then
          i2cRestart slave ops >>= fun _ =>
            i2cSendAddress slave ops (msg.addr10 ||| 1) retries >>= fun ret =>
              if ret ≠ 1 ∧ false = false then pure (-rtEio) else pure rtEok
        else pure rtEok) hs
    refine hrun ▸ ?_
    rw [addr10_write] at hnext
    generalize slave.address msg.addr10 retries items = r at hnext
    rcases r with ⟨_ | _, items'⟩
    · exact ⟨rfl, hnext⟩
    · exact addr10Low_selected h retries hnext

def Released (slave : Slave) (items : List Item) (s : I2cBus) : Prop :=
  ∃ turn, slave.pulls ⟨items, turn⟩ = false ∧ Taken slave ⟨items, turn⟩ s

lemma writes_nil_iff {xs : List Byte} (hok : (slave.writes xs items).1 = false) : 0 < xs.length := by
  rcases xs with _ | ⟨x, xs⟩
  · cases hok
  · exact Nat.succ_pos _

lemma i2cRecvBytes_spec (h : InTime slave ops) (hmsg : msg.Plain) (hread : msg.read = true)
    (hs : Taken slave ⟨items, .fromSlave []⟩ s) :
    ((i2cRecvBytes slave ops msg).run s).1 =
        ((msg.buf.length : ℤ), { msg with buf := (slave.reads msg.buf.length items).1 }) ∧
      Taken slave ⟨(slave.reads msg.buf.length items).2, .idle⟩
        ((i2cRecvBytes slave ops msg).run s).2 := by
  obtain ⟨count, hcount⟩ : ∃ count, msg.buf.length = count + 1 :=
    Nat.exists_eq_add_one.mpr (List.length_pos_of_ne_nil (hmsg.read hread))
  obtain ⟨hret, hnext⟩ := i2cRecvFrom_spec h count [] hs
  rw [← hcount] at hret hnext
  have hlen := reads_length slave msg.buf.length items
  rw [i2cRecvBytes, hmsg.readAck, run_bind, hret]
  refine ⟨?_, hnext⟩
  change (((([] : List Byte).length + msg.buf.length : ℕ) : ℤ), { msg with
    buf := [] ++ (slave.reads msg.buf.length items).1 ++
      msg.buf.drop ([] ++ (slave.reads msg.buf.length items).1).length }) = _
  rw [List.nil_append, hlen, List.drop_length, List.append_nil, List.length_nil, Nat.zero_add]

def Passed (slave : Slave) (r : Option ℤ × RtI2cMsg × List Item)
    (out : (Option ℤ × RtI2cMsg) × I2cBus) : Prop :=
  out.1 = (r.1, r.2.1) ∧ Released slave r.2.2 out.2

lemma i2cXferData_spec (h : InTime slave ops) (hmsg : msg.Plain)
    (hs : Taken slave ⟨items, behindAddress msg.read⟩ s) :
    Passed slave (msg.pass slave items) ((i2cXferData slave ops msg).run s) := by
  rcases hread : msg.read with _ | _
  · rw [hread] at hs
    obtain ⟨hret, hnext⟩ := i2cSendFrom_spec h msg.buf 0 hs
    have hsend : (i2cXferData slave ops msg).run s =
        (if ((i2cSendFrom slave ops false msg.buf 0).run s).1 < msg.buf.length then
          (some (if 0 ≤ ((i2cSendFrom slave ops false msg.buf 0).run s).1 then -rtError
            else ((i2cSendFrom slave ops false msg.buf 0).run s).1), msg)
          else (none, msg), ((i2cSendFrom slave ops false msg.buf 0).run s).2) := by
      rw [i2cXferData, show msg.has rtI2cRd = false from hread, if_neg Bool.false_ne_true, run_bind,
        i2cSendBytes, hmsg.nack, run_ite]
      split <;> rfl
    rw [hsend, RtI2cMsg.pass, hread, if_neg Bool.false_ne_true, hret, Nat.zero_add]
    generalize hr : slave.writes msg.buf items = r at hnext
    rcases r with ⟨_ | _, items'⟩
    · have hpos : (0 : ℤ) < msg.buf.length := by
        exact_mod_cast writes_nil_iff (congrArg Prod.fst hr)
      rw [if_neg Bool.false_ne_true, if_pos hpos]
      exact ⟨rfl, .idle, rfl, hnext⟩
    · rw [if_pos rfl, if_neg (lt_irrefl _)]
      exact ⟨rfl, .toSlave false [], rfl, hnext⟩
  · rw [hread] at hs
    obtain ⟨hret, hnext⟩ := i2cRecvBytes_spec h hmsg hread hs
    have hlen := reads_length slave msg.buf.length items
    rw [i2cXferData, show msg.has rtI2cRd = true from hread, if_pos rfl, run_bind, hret,
      RtI2cMsg.pass, hread, if_pos rfl]
    change Passed slave _ ((if (msg.buf.length : ℤ) < (slave.reads msg.buf.length items).1.length
      then _ else _ : I2c _).run _)
    rw [hlen, if_neg (lt_irrefl _)]
    exact ⟨rfl, .idle, rfl, hnext⟩

lemma exchange_flags (slave : Slave) (retries : ℕ) (msg : RtI2cMsg) (items : List Item) :
    (msg.exchange slave retries items).2.1.flags = msg.flags := by
  rw [RtI2cMsg.exchange]
  generalize msg.select slave retries (.start :: items) = r
  rcases r with ⟨_ | _, items'⟩
  · rfl
  · change (msg.pass slave items').2.1.flags = msg.flags
    rw [RtI2cMsg.pass]
    cases msg.read <;> rfl

def Between (slave : Slave) (first : Bool) (items : List Item) (s : I2cBus) : Prop :=
  if first = true then Free slave items s else Released slave items s

lemma i2cXferMsg_spec (h : InTime slave ops) (hmsg : msg.Plain) (retries : ℕ) {first : Bool}
    (hs : Between slave first items s) :
    Passed slave (msg.exchange slave retries items)
      ((i2cXferMsg slave ops retries first msg).run s) := by
  have hstart : Taken slave ⟨.start :: items, .toSlave true []⟩
      ((if first = true then i2cStart slave else i2cRestart slave ops : I2c Unit).run s).2 := by
    rw [Between] at hs
    cases first
    · obtain ⟨turn, hturn, htaken⟩ := hs
      exact i2cRestart_spec h htaken hturn
    · exact i2cStart_spec hs
  obtain ⟨hret, hnext⟩ := i2cBitSendAddress_spec h retries hmsg.nack hstart
  have hrun : (i2cXferMsg slave ops retries first msg).run s =
      (i2cBitSendAddress slave ops retries msg >>= fun ret =>
        if ret ≠ rtEok ∧ msg.has rtI2cIgnoreNack = false then pure (some ret, msg)
        else i2cXferData slave ops msg).run
          ((if first = true then i2cStart slave else i2cRestart slave ops : I2c Unit).run s).2 := by
    rw [i2cXferMsg, hmsg.start]
    cases first <;> rfl
  rw [hrun, run_bind, run_ite, hret, hmsg.nack, RtI2cMsg.exchange]
  generalize msg.select slave retries (.start :: items) = r at hnext
  rcases r with ⟨_ | _, items'⟩
  · exact ⟨rfl, .idle, rfl, hnext⟩
  · exact i2cXferData_spec h hmsg hnext

lemma i2cXferFrom_spec (h : InTime slave ops) (retries : ℕ) {msgs : List RtI2cMsg}
    (hmsgs : ∀ msg ∈ msgs, msg.Plain) {first : Bool} (hfirst : first = true → msgs ≠ [])
    {last : RtI2cMsg} (hlast : last.has rtI2cNoStop = false) (hs : Between slave first items s) :
    ∃ last', last'.has rtI2cNoStop = false ∧
      ((i2cXferFrom slave ops retries first msgs last).run s).1 =
        ((exchange slave retries msgs items).1, (exchange slave retries msgs items).2.1, last') ∧
      Released slave (exchange slave retries msgs items).2.2
        ((i2cXferFrom slave ops retries first msgs last).run s).2 := by
  induction msgs generalizing first last items s with
  | nil =>
    rcases first with _ | _
    · exact ⟨last, hlast, rfl, hs⟩
    · exact absurd rfl (hfirst rfl)
  | cons msg msgs ih =>
    have hmsg := hmsgs msg List.mem_cons_self
    obtain ⟨hret, hnext⟩ := i2cXferMsg_spec h hmsg retries hs
    have hflags := exchange_flags slave retries msg items
    rw [i2cXferFrom, run_bind, hret, exchange]
    generalize msg.exchange slave retries items = r at hnext hflags
    obtain ⟨ret, msg', items'⟩ := r
    have hstop : msg'.has rtI2cNoStop = false := by
      rw [RtI2cMsg.has, show msg'.flags = msg.flags from hflags]
      exact hmsg.stop
    rcases ret with _ | ret
    · have hbetween : Between slave false items' ((i2cXferMsg slave ops retries first msg).run s).2 :=
        hnext
      obtain ⟨last', hlast', hrun, hreleased⟩ :=
        ih (fun m hm => hmsgs m (List.mem_cons_of_mem msg hm)) (by simp) hstop hbetween
      refine ⟨last', hlast', ?_, hreleased⟩
      exact congrArg (fun r => (r.1, msg' :: r.2.1, r.2.2)) hrun
    · exact ⟨msg', hstop, rfl, hnext⟩

end Messages

lemma i2cBitXfer_spec (h : InTime slave ops) (retries : ℕ) {msgs : List RtI2cMsg}
    (hne : msgs ≠ []) (hmsgs : ∀ msg ∈ msgs, msg.Plain) {items : List Item} {s : I2cBus}
    (hs : Free slave items s) :
    ((i2cBitXfer slave ops retries msgs).run s).1 =
        ((exchange slave retries msgs items).1.getD msgs.length,
          (exchange slave retries msgs items).2.1) ∧
      Free slave (.stop :: (exchange slave retries msgs items).2.2)
        ((i2cBitXfer slave ops retries msgs).run s).2 := by
  obtain ⟨msg, msgs, rfl⟩ := List.exists_cons_of_ne_nil hne
  have hfirst : true = true → msg :: msgs ≠ [] := fun _ => hne
  obtain ⟨last, hlast, hrun, turn, hturn, htaken⟩ := i2cXferFrom_spec h retries hmsgs hfirst
    (hmsgs msg List.mem_cons_self).stop (show Between slave true items s from hs)
  have hxfer : (i2cBitXfer slave ops retries (msg :: msgs)).run s =
      (((exchange slave retries (msg :: msgs) items).1.getD (msg :: msgs).length,
        (exchange slave retries (msg :: msgs) items).2.1),
        ((i2cStop slave ops).run
          ((i2cXferFrom slave ops retries true (msg :: msgs) msg).run s).2).2) := by
    rw [i2cBitXfer, run_bind, hrun]
    dsimp only
    rw [hlast]
    rfl
  rw [hxfer]
  exact ⟨rfl, i2cStop_spec h htaken hturn⟩

end YkLock
