import YkLock.Model.I2cBitOps

/-! The bit operations, byte by byte: what a listener decodes and what the driver gets back. -/

namespace YkLock

open Library.StatePrograms Library.TwoWire

variable {slave : Slave} {ops : RtI2cBitOps}

def InTime (slave : Slave) (ops : RtI2cBitOps) : Prop :=
  ∀ symbols, sclPolls ops (slave.stretch symbols) 0 = true

def busLow (slave : Slave) (sda : Bool) (symbols : List Symbol) : I2cBus :=
  ⟨false, sda, false, ⟨false, sda && !slave.pulls (decode symbols), false, symbols⟩⟩

def busHigh (slave : Slave) (sda steady : Bool) (symbols : List Symbol) : I2cBus :=
  ⟨true, sda, false, ⟨true, sda && !slave.pulls (decode symbols), steady, symbols⟩⟩

lemma rtEok_not_neg : ¬ rtEok < 0 := by decide

section Edges

variable {sda : Bool} {symbols : List Symbol}

lemma setSda_low (val : Bool) :
    (setSda slave val).run (busLow slave sda symbols) = ((), busLow slave val symbols) := rfl

lemma sclL_low : (sclL slave).run (busLow slave sda symbols) = ((), busLow slave sda symbols) := rfl

lemma sclH_low (h : InTime slave ops) : (sclH slave ops).run (busLow slave sda symbols) =
    (rtEok, busHigh slave sda true symbols) := by
  have hrise : I2cBus.settle slave { busLow slave sda symbols with scl := true } =
      busHigh slave sda true symbols := by
    simp [I2cBus.settle, Monitor.watch, busLow, busHigh]
  rw [← hrise]
  exact if_pos (h symbols)

lemma sclL_steady : (sclL slave).run (busHigh slave sda true symbols) =
    ((), busLow slave sda (.bit (sda && !slave.pulls (decode symbols)) :: symbols)) := rfl

lemma sclL_moved : (sclL slave).run (busHigh slave sda false symbols) =
    ((), busLow slave sda symbols) := rfl

lemma setSda_start {steady : Bool} (h : slave.pulls (decode symbols) = false) :
    (setSda slave false).run (busHigh slave true steady symbols) =
      ((), busHigh slave false false (.start :: symbols)) := by
  simp [setSda, I2cBus.settle, busHigh, Monitor.watch, h]

lemma pulls_stop : slave.pulls (decode (.stop :: symbols)) = false := rfl

lemma setSda_stop {steady : Bool} (h : slave.pulls (decode symbols) = false) :
    (setSda slave true).run (busHigh slave false steady symbols) =
      ((), busHigh slave true false (.stop :: symbols)) := by
  simp [setSda, I2cBus.settle, busHigh, Monitor.watch, pulls_stop, h, -decode_cons]

end Edges

section Bits

def Falls (slave : Slave) (s : I2cBus) (sda : Bool) (symbols : List Symbol) : Prop :=
  (sclL slave).run s = ((), busLow slave sda symbols)

def sentBits (x : Byte) : ℕ → List Symbol → List Symbol
  | 0, symbols => symbols
  | i + 1, symbols => sentBits x i (.bit (x.getLsbD i) :: symbols)

def Quietly (slave : Slave) (x : Byte) : ℕ → List Symbol → Prop
  | 0, _ => True
  | i + 1, symbols =>
    slave.pulls (decode symbols) = false ∧ Quietly slave x i (.bit (x.getLsbD i) :: symbols)

variable {sda : Bool} {symbols : List Symbol} {s : I2cBus}

lemma falls_low (sda : Bool) : Falls slave (busLow slave sda symbols) sda symbols := sclL_low

lemma i2cWriteBits_run (h : InTime slave ops) (x : Byte) {i : ℕ} (hs : Falls slave s sda symbols)
    (hquiet : Quietly slave x i symbols) : ∃ s' sda',
      (i2cWriteBits slave ops x i).run s = (true, s') ∧
        Falls slave s' sda' (sentBits x i symbols) := by
  induction i generalizing s sda symbols with
  | zero => exact ⟨s, sda, rfl, hs⟩
  | succ i ih =>
    obtain ⟨hpulls, hrest⟩ := hquiet
    have hfalls : Falls slave (busHigh slave (x.getLsbD i) true symbols) (x.getLsbD i)
        (.bit (x.getLsbD i) :: symbols) := by
      have hline : (x.getLsbD i && !slave.pulls (decode symbols)) = x.getLsbD i := by
        rw [hpulls, Bool.not_false, Bool.and_true]
      rw [Falls, sclL_steady, hline]
    obtain ⟨s', sda', hrun, hfall⟩ := ih hfalls hrest
    refine ⟨s', sda', ?_, hfall⟩
    rw [i2cWriteBits, run_bind, hs, run_bind, setSda_low, run_bind, sclH_low h, run_ite,
      if_neg rtEok_not_neg]
    exact hrun

lemma i2cWaitack_run (h : InTime slave ops) :
    (i2cWaitack slave ops).run (busLow slave sda symbols) =
      (if slave.pulls (decode symbols) = true then 1 else 0,
        busLow slave true (.bit (!slave.pulls (decode symbols)) :: symbols)) := by
  rw [i2cWaitack, run_bind, setSda_low, run_bind, sclH_low h, run_ite, if_neg rtEok_not_neg, run_bind,
    run_bind]
  change (if (true && !slave.pulls (decode symbols)) = true then 0 else 1,
    busLow slave true (.bit (true && !slave.pulls (decode symbols)) :: symbols)) = _
  cases slave.pulls (decode symbols) <;> rfl

lemma i2cWriteb_run (h : InTime slave ops) (x : Byte) (hquiet : Quietly slave x 8 symbols) :
    (i2cWriteb slave ops x).run (busLow slave sda symbols) =
      (if slave.pulls (decode (sentBits x 8 symbols)) = true then 1 else 0,
        busLow slave true (.bit (!slave.pulls (decode (sentBits x 8 symbols))) ::
          sentBits x 8 symbols)) := by
  obtain ⟨s', sda', hrun, hfall⟩ := i2cWriteBits_run h x (falls_low sda) hquiet
  rw [i2cWriteb, run_bind, hrun, run_ite, if_pos rfl, run_bind, hfall]
  exact i2cWaitack_run h

variable {items : List Item} {x : Byte}

lemma sentBits_toSlave (slave : Slave) {first : Bool} {i k : ℕ} (hik : k + i = 8)
    (hd : decode symbols = ⟨items, .toSlave first (tops x k)⟩) : Quietly slave x i symbols ∧
      decode (sentBits x i symbols) = ⟨items, .toSlave first (tops x 8)⟩ := by
  induction i generalizing k symbols with
  | zero =>
    obtain rfl : k = 8 := hik
    exact ⟨trivial, hd⟩
  | succ i ih =>
    have hk : k < 8 := by omega
    have hbit : x.getLsbD i = x.getMsbD k := by
      rw [BitVec.getMsbD_eq_getLsbD, decide_eq_true hk, Bool.true_and]
      congr 1
      omega
    have hnext : decode (.bit (x.getLsbD i) :: symbols) =
        ⟨items, .toSlave first (tops x (k + 1))⟩ := by
      rw [decode_cons, hd, hbit, take_toSlave hk]
    obtain ⟨hquiet, hlast⟩ := ih (by omega) hnext
    refine ⟨⟨?_, hquiet⟩, hlast⟩
    rw [hd, pulls_toSlave slave hk]

lemma sentBits_idle (slave : Slave) {i : ℕ} (hd : decode symbols = ⟨items, .idle⟩) :
    Quietly slave x i symbols ∧ decode (sentBits x i symbols) = ⟨items, .idle⟩ := by
  induction i generalizing symbols with
  | zero => exact ⟨trivial, hd⟩
  | succ i ih =>
    have hnext : decode (.bit (x.getLsbD i) :: symbols) = ⟨items, .idle⟩ := by
      rw [decode_cons, hd]
      rfl
    obtain ⟨hquiet, hlast⟩ := ih hnext
    refine ⟨⟨?_, hquiet⟩, hlast⟩
    rw [hd]
    rfl

lemma i2cReadBits_run (h : InTime slave ops) {n k : ℕ} (hnk : k + n = 8)
    (hx : slave.data items = x) (hd : decode symbols = ⟨items, .fromSlave (tops x k)⟩) :
    ∃ symbols', (i2cReadBits slave ops (ofBits (tops x k)) n).run (busLow slave true symbols) =
        (some x, busLow slave true symbols') ∧
      decode symbols' = ⟨items, .fromSlave (tops x 8)⟩ := by
  induction n generalizing k symbols with
  | zero =>
    obtain rfl : k = 8 := hnk
    refine ⟨symbols, ?_, hd⟩
    rw [ofBits_tops]
    rfl
  | succ n ih =>
    have hk : k < 8 := by omega
    have hline : (true && !slave.pulls (decode symbols)) = x.getMsbD k := by
      rw [hd, pulls_fromSlave slave hk, hx, Bool.not_not, Bool.true_and]
    have hnext : decode (.bit (x.getMsbD k) :: symbols) = ⟨items, .fromSlave (tops x (k + 1))⟩ := by
      rw [decode_cons, hd, take_fromSlave hk]
    obtain ⟨symbols', hrun, hlast⟩ := ih (by omega) hnext
    refine ⟨symbols', ?_, hlast⟩
    rw [i2cReadBits, run_bind, sclH_low h, run_ite, if_neg rtEok_not_neg, run_bind, run_bind]
    change (i2cReadBits slave ops (ofBits (tops x k) <<< 1 |||
      if (true && !slave.pulls (decode symbols)) = true then 1 else 0) n).run
        (busLow slave true (.bit (true && !slave.pulls (decode symbols)) :: symbols)) = _
    rw [hline]
    exact hrun

end Bits

section Frames

variable {f : Frames} {items : List Item} {first : Bool} {s : I2cBus}

def Taken (slave : Slave) (f : Frames) (s : I2cBus) : Prop :=
  ∃ sda symbols, s = busLow slave sda symbols ∧ decode symbols = f

def Free (slave : Slave) (items : List Item) (s : I2cBus) : Prop :=
  ∃ steady symbols, s = busHigh slave true steady symbols ∧ (decode symbols).items = items ∧
    slave.pulls (decode symbols) = false

lemma i2cStart_spec (h : Free slave items s) :
    Taken slave ⟨.start :: items, .toSlave true []⟩ ((i2cStart slave).run s).2 := by
  obtain ⟨steady, symbols, rfl, rfl, hpulls⟩ := h
  refine ⟨false, .start :: symbols, ?_, rfl⟩
  rw [i2cStart, run_bind, setSda_start hpulls, sclL_moved]

lemma i2cRestart_spec (h : InTime slave ops) (hs : Taken slave f s) (hf : slave.pulls f = false) :
    Taken slave ⟨.start :: f.items, .toSlave true []⟩ ((i2cRestart slave ops).run s).2 := by
  obtain ⟨sda, symbols, rfl, rfl⟩ := hs
  refine ⟨false, .start :: symbols, ?_, rfl⟩
  rw [i2cRestart, run_bind, setSda_low, run_bind, sclH_low h, run_bind, setSda_start hf, sclL_moved]

lemma i2cStop_spec (h : InTime slave ops) (hs : Taken slave f s) (hf : slave.pulls f = false) :
    Free slave (.stop :: f.items) ((i2cStop slave ops).run s).2 := by
  obtain ⟨sda, symbols, rfl, rfl⟩ := hs
  refine ⟨false, .stop :: symbols, ?_, rfl, pulls_stop⟩
  rw [i2cStop, run_bind, setSda_low, run_bind, sclH_low h, setSda_stop hf]

lemma i2cWriteb_spec (h : InTime slave ops) (x : Byte)
    (hs : Taken slave ⟨items, .toSlave first []⟩ s) :
    ((i2cWriteb slave ops x).run s).1 = (if slave.ack items x = true then 1 else 0) ∧
      Taken slave ⟨.written x (slave.ack items x) :: items,
        afterWritten first x (slave.ack items x)⟩ ((i2cWriteb slave ops x).run s).2 := by
  obtain ⟨sda, symbols, rfl, hd⟩ := hs
  obtain ⟨hquiet, hsent⟩ := sentBits_toSlave slave (x := x) (i := 8) (k := 0) rfl hd
  rw [i2cWriteb_run h x hquiet, hsent, pulls_ack]
  refine ⟨rfl, true, _, rfl, ?_⟩
  rw [decode_cons, hsent, take_written, Bool.not_not]

lemma i2cWriteb_idle (h : InTime slave ops) (x : Byte) (hs : Taken slave ⟨items, .idle⟩ s) :
    ((i2cWriteb slave ops x).run s).1 = 0 ∧
      Taken slave ⟨items, .idle⟩ ((i2cWriteb slave ops x).run s).2 := by
  obtain ⟨sda, symbols, rfl, hd⟩ := hs
  obtain ⟨hquiet, hsent⟩ := sentBits_idle slave (x := x) (i := 8) hd
  rw [i2cWriteb_run h x hquiet, hsent]
  refine ⟨rfl, true, _, rfl, ?_⟩
  rw [decode_cons, hsent]
  rfl

lemma i2cRead_spec (h : InTime slave ops) (ack : Bool)
    (hs : Taken slave ⟨items, .fromSlave []⟩ s) :
    ((i2cReadb slave ops).run s).1 = some (slave.data items) ∧
      ((i2cSendAckOrNack slave ops ack).run ((i2cReadb slave ops).run s).2).1 = rtEok ∧
      Taken slave ⟨.read (slave.data items) ack :: items, afterRead ack⟩
        ((i2cSendAckOrNack slave ops ack).run ((i2cReadb slave ops).run s).2).2 := by
  obtain ⟨sda, symbols, rfl, hd⟩ := hs
  obtain ⟨symbols', hrun, hd'⟩ := i2cReadBits_run (n := 8) (k := 0) h rfl rfl hd
  have hread : (i2cReadb slave ops).run (busLow slave sda symbols) =
      (some (slave.data items), busLow slave true symbols') := by
    rw [i2cReadb, run_bind, setSda_low]
    exact hrun
  have hpulls : slave.pulls (decode symbols') = false := by rw [hd', pulls_sent]
  have hack : (i2cSendAckOrNack slave ops ack).run (busLow slave true symbols') =
      (rtEok, busLow slave (!ack) (.bit (!ack) :: symbols')) := by
    have htail (v : Bool) : (sclH slave ops >>= fun ret => if ret < 0 then pure (-rtEtimeout)
        else sclL slave >>= fun _ => pure rtEok).run (busLow slave v symbols') =
          (rtEok, busLow slave v (.bit v :: symbols')) := by
      rw [run_bind, sclH_low h, run_ite, if_neg rtEok_not_neg, run_bind, sclL_steady, hpulls,
        Bool.not_false, Bool.and_true]
      rfl
    cases ack
    · exact htail true
    · exact htail false
  rw [hread, hack]
  refine ⟨rfl, rfl, _, _, rfl, ?_⟩
  rw [decode_cons, hd', take_read, Bool.not_not]

end Frames

end YkLock
