import Mathlib

/-! A clock and a data line: what a listener makes of their levels, in symbols and in bytes, and
what a device that is addressed does with the data line. -/

namespace YkLock.Library.TwoWire

inductive Symbol
  | start | stop | bit (b : Bool)
  deriving DecidableEq, Repr

/-- The levels of the two lines, whether the data line has stood still since the clock rose, and the
symbols so far, the newest first. -/
structure Monitor where
  scl : Bool
  sda : Bool
  steady : Bool
  symbols : List Symbol
  deriving DecidableEq, Repr

/-- A bit is the level that the data line keeps while the clock is high, and is there when the clock
falls; the data line moves under a high clock in a start or a stop. -/
def Monitor.watch (scl sda : Bool) (m : Monitor) : Monitor :=
  match m.scl, scl with
  | false, false => { m with sda := sda }
  | false, true => { m with scl := true, sda := sda, steady := true }
  | true, false =>
    ⟨false, sda, false, if m.steady = true then .bit m.sda :: m.symbols else m.symbols⟩
  | true, true =>
    if sda = m.sda then m
    else ⟨true, sda, false, (if sda = true then .stop else .start) :: m.symbols⟩

inductive Item
  | start | stop | written (x : BitVec 8) (ack : Bool) | read (x : BitVec 8) (ack : Bool)
  deriving DecidableEq, Repr

inductive Turn
  | idle | toSlave (first : Bool) (bits : List Bool) | fromSlave (bits : List Bool)
  deriving DecidableEq, Repr

structure Frames where
  items : List Item
  turn : Turn
  deriving DecidableEq, Repr

def ofBits : List Bool → BitVec 8
  | [] => 0
  | b :: bits => ofBits bits <<< 1 ||| if b = true then 1 else 0

def afterWritten (first : Bool) (x : BitVec 8) (ack : Bool) : Turn :=
  if ack = false then .idle
  else if first = true ∧ x.getLsbD 0 = true then .fromSlave []
  else .toSlave false []

def afterRead (ack : Bool) : Turn := if ack = false then .idle else .fromSlave []

def Frames.take (s : Symbol) (f : Frames) : Frames :=
  match s with
  | .start => ⟨.start :: f.items, .toSlave true []⟩
  | .stop => ⟨.stop :: f.items, .idle⟩
  | .bit b =>
    match f.turn with
    | .idle => f
    | .toSlave first bits =>
      if bits.length < 8 then { f with turn := .toSlave first (b :: bits) }
      else ⟨.written (ofBits bits) (!b) :: f.items, afterWritten first (ofBits bits) (!b)⟩
    | .fromSlave bits =>
      if bits.length < 8 then { f with turn := .fromSlave (b :: bits) }
      else ⟨.read (ofBits bits) (!b) :: f.items, afterRead (!b)⟩

def decode (symbols : List Symbol) : Frames := symbols.foldr Frames.take ⟨[], .idle⟩

/-- The other side of the bus: which bytes it acknowledges, which it sends, and for how many polls
it holds the clock after a symbol. -/
structure Slave where
  ack : List Item → BitVec 8 → Bool
  data : List Item → BitVec 8
  stretch : List Symbol → ℕ

def Slave.pulls (slave : Slave) (f : Frames) : Bool :=
  match f.turn with
  | .idle => false
  | .toSlave _ bits => bits.length = 8 && slave.ack f.items (ofBits bits)
  | .fromSlave bits => bits.length < 8 && !(slave.data f.items).getMsbD bits.length

def Slave.writes (slave : Slave) : List (BitVec 8) → List Item → Bool × List Item
  | [], items => (true, items)
  | x :: xs, items =>
    if slave.ack items x = true then slave.writes xs (.written x true :: items)
    else (false, .written x false :: items)

def Slave.reads (slave : Slave) : ℕ → List Item → List (BitVec 8) × List Item
  | 0, items => ([], items)
  | n + 1, items =>
    let (xs, items') := slave.reads n (.read (slave.data items) (0 < n) :: items)
    (slave.data items :: xs, items')

def Slave.address (slave : Slave) (x : BitVec 8) : ℕ → List Item → Bool × List Item
  | 0, items => (slave.ack items x, .written x (slave.ack items x) :: items)
  | retries + 1, items =>
    if slave.ack items x = true then (true, .written x true :: items)
    else slave.address x retries (.start :: .stop :: .written x false :: items)

def tops (x : BitVec 8) : ℕ → List Bool
  | 0 => []
  | k + 1 => x.getMsbD k :: tops x k

@[simp] lemma tops_length (x : BitVec 8) (k : ℕ) : (tops x k).length = k := by
  induction k with
  | zero => rfl
  | succ k ih => rw [tops, List.length_cons, ih]

lemma ofBits_tops (x : BitVec 8) : ofBits (tops x 8) = x := by
  revert x
  decide

@[simp] lemma decode_cons (s : Symbol) (symbols : List Symbol) :
    decode (s :: symbols) = (decode symbols).take s := rfl

section Bytes

variable {items : List Item} {first : Bool} {x : BitVec 8} {k : ℕ}

lemma take_toSlave (hk : k < 8) : Frames.take (.bit (x.getMsbD k)) ⟨items, .toSlave first (tops x k)⟩ =
    ⟨items, .toSlave first (tops x (k + 1))⟩ := by
  rw [Frames.take]
  simp only [tops_length, if_pos hk]
  rfl

lemma take_fromSlave (hk : k < 8) : Frames.take (.bit (x.getMsbD k)) ⟨items, .fromSlave (tops x k)⟩ =
    ⟨items, .fromSlave (tops x (k + 1))⟩ := by
  rw [Frames.take]
  simp only [tops_length, if_pos hk]
  rfl

lemma take_written (b : Bool) : Frames.take (.bit b) ⟨items, .toSlave first (tops x 8)⟩ =
    ⟨.written x (!b) :: items, afterWritten first x (!b)⟩ := by
  rw [Frames.take]
  simp only [tops_length, ofBits_tops]
  rfl

lemma take_read (b : Bool) : Frames.take (.bit b) ⟨items, .fromSlave (tops x 8)⟩ =
    ⟨.read x (!b) :: items, afterRead (!b)⟩ := by
  rw [Frames.take]
  simp only [tops_length, ofBits_tops]
  rfl

variable (slave : Slave)

lemma pulls_toSlave (hk : k < 8) : slave.pulls ⟨items, .toSlave first (tops x k)⟩ = false := by
  simp [Slave.pulls, hk.ne]

lemma pulls_ack :
    slave.pulls ⟨items, .toSlave first (tops x 8)⟩ = slave.ack items x := by
  simp [Slave.pulls, ofBits_tops]

lemma pulls_fromSlave (hk : k < 8) :
    slave.pulls ⟨items, .fromSlave (tops x k)⟩ = !(slave.data items).getMsbD k := by
  simp [Slave.pulls, hk]

lemma pulls_sent : slave.pulls ⟨items, .fromSlave (tops x 8)⟩ = false := by
  simp [Slave.pulls]

end Bytes

end YkLock.Library.TwoWire
