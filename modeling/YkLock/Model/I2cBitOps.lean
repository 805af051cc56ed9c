import YkLock.Library.StatePrograms
import YkLock.Library.TwoWire
import YkLock.Model.Button

/-! The I2C bus of the EEPROM: `i2c-bit-ops.c` over the two pins of `soft_i2c.c`. -/

namespace YkLock

open Library.TwoWire

/-- What the pins are set to (a pin set to 1 leaves its line to the pull-up), whether the slave
holds the clock down, and what there is on the lines. -/
structure I2cBus where
  scl : Bool
  sda : Bool
  held : Bool
  lines : Monitor
  deriving DecidableEq, Repr

/-- `rt_i2c_bit_ops`, as far as it is not pins: the timeout, and the ticks that have passed when the
clock is polled for the `k`-th time. -/
structure RtI2cBitOps where
  timeout : ℕ
  ticks : ℕ → ℕ

abbrev I2c := StateM I2cBus

def rtEio : ℤ := 8

section Pins

variable (slave : Slave)

def I2cBus.settle (s : I2cBus) : I2cBus :=
  let lines := s.lines.watch (s.scl && !s.held) (s.sda && !slave.pulls (decode s.lines.symbols))
  { s with lines := lines.watch lines.scl (s.sda && !slave.pulls (decode lines.symbols)) }

def setSda (val : Bool) : I2c Unit := modify fun s => I2cBus.settle slave { s with sda := val }

def sclL : I2c Unit := modify fun s => I2cBus.settle slave { s with scl := false, held := false }

def getSda : I2c Bool := fun s => (s.lines.sda, s)

variable (ops : RtI2cBitOps)

def sclPolls : ℕ → ℕ → Bool
  | 0, _ => true
  | left + 1, k => if ops.timeout < ops.ticks k then false else sclPolls left (k + 1)

def sclH : I2c ℤ := fun s =>
  let polls := if s.lines.scl = true then 0 else slave.stretch s.lines.symbols
  if sclPolls ops polls 0 = true then
    (rtEok, I2cBus.settle slave { s with scl := true, held := false })
  else (-rtEtimeout, I2cBus.settle slave { s with scl := true, held := true })

def i2cStart : I2c Unit := do
  setSda slave false
  sclL slave

def i2cRestart : I2c Unit := do
  setSda slave true
  let _ ← sclH slave ops
  setSda slave false
  sclL slave

def i2cStop : I2c Unit := do
  setSda slave false
  let _ ← sclH slave ops
  setSda slave true

def i2cWaitack : I2c ℤ := do
  setSda slave true
  if (← sclH slave ops) < 0 then return -rtEtimeout
  else
    let sda ← getSda
    sclL slave
    return if sda = true then 0 else 1

def i2cWriteBits (data : Byte) : ℕ → I2c Bool
  | 0 => return true
  | i + 1 => do
    sclL slave
    setSda slave (data.getLsbD i)
    if (← sclH slave ops) < 0 then return false
    else i2cWriteBits data i

def i2cWriteb (data : Byte) : I2c ℤ := do
  if (← i2cWriteBits slave ops data 8) = true then
    sclL slave
    i2cWaitack slave ops
  else return -rtEtimeout

def i2cReadBits (data : Byte) : ℕ → I2c (Option Byte)
  | 0 => return some data
  | n + 1 => do
    if (← sclH slave ops) < 0 then return none
    else
      let sda ← getSda
      sclL slave
      i2cReadBits (data <<< 1 ||| if sda = true then 1 else 0) n

/-- `none` where the source returns `-RT_ETIMEOUT`. -/
def i2cReadb : I2c (Option Byte) := do
  setSda slave true
  i2cReadBits slave ops 0 8

def i2cSendAckOrNack (ack : Bool) : I2c ℤ := do
  if ack = true then setSda slave false
  if (← sclH slave ops) < 0 then return -rtEtimeout
  else
    sclL slave
    return rtEok

end Pins

structure RtI2cMsg where
  addr : BitVec 16
  flags : BitVec 16
  buf : List Byte
  deriving DecidableEq, Repr

def rtI2cRd : BitVec 16 := 1 <<< 0
def rtI2cAddr10bit : BitVec 16 := 1 <<< 2
def rtI2cNoStart : BitVec 16 := 1 <<< 4
def rtI2cIgnoreNack : BitVec 16 := 1 <<< 5
def rtI2cNoReadAck : BitVec 16 := 1 <<< 6
def rtI2cNoStop : BitVec 16 := 1 <<< 7

def RtI2cMsg.has (msg : RtI2cMsg) (flag : BitVec 16) : Bool := msg.flags &&& flag ≠ 0

section Transfers

variable (slave : Slave) (ops : RtI2cBitOps)

def i2cSendFrom (ignoreNack : Bool) : List Byte → ℕ → I2c ℤ
  | [], bytes => return bytes
  | x :: xs, bytes => do
    let ret ← i2cWriteb slave ops x
    if 0 < ret ∨ (ignoreNack = true ∧ ret = 0) then i2cSendFrom ignoreNack xs (bytes + 1)
    else return ret

def i2cSendBytes (msg : RtI2cMsg) : I2c ℤ :=
  i2cSendFrom slave ops (msg.has rtI2cIgnoreNack) msg.buf 0

def i2cRecvFrom (noReadAck : Bool) : ℕ → List Byte → I2c (ℤ × List Byte)
  | 0, bytes => return (bytes.length, bytes)
  | count + 1, bytes => do
    match ← i2cReadb slave ops with
    | none => return (bytes.length, bytes)
    | some val =>
      let bytes := bytes ++ [val]
      if noReadAck = true then i2cRecvFrom noReadAck count bytes
      else
        let ret ← i2cSendAckOrNack slave ops (0 < count)
        if ret < 0 then return (ret, bytes)
        else i2cRecvFrom noReadAck count bytes

def i2cRecvBytes (msg : RtI2cMsg) : I2c (ℤ × RtI2cMsg) := do
  let (ret, bytes) ← i2cRecvFrom slave ops (msg.has rtI2cNoReadAck) msg.buf.length []
  return (ret, { msg with buf := bytes ++ msg.buf.drop bytes.length })

def i2cSendAddress (addr : Byte) : ℕ → I2c ℤ
  | 0 => i2cWriteb slave ops addr
  | retries + 1 => do
    let ret ← i2cWriteb slave ops addr
    if ret = 1 then return ret
    else
      i2cStop slave ops
      i2cStart slave
      i2cSendAddress addr retries

def i2cBitSendAddress (retries : ℕ) (msg : RtI2cMsg) : I2c ℤ := do
  let ignoreNack := msg.has rtI2cIgnoreNack
  let retries := if ignoreNack = true then 0 else retries
  if msg.has rtI2cAddr10bit = true then
    let addr1 : Byte := 0xf0 ||| (msg.addr >>> 7 &&& 0x06).setWidth 8
    let addr2 : Byte := (msg.addr &&& 0xff).setWidth 8
    let ret ← i2cSendAddress slave ops addr1 retries
    if ret ≠ 1 ∧ ignoreNack = false then return -rtEio
    else
      let ret ← i2cWriteb slave ops addr2
      if ret ≠ 1 ∧ ignoreNack = false then return -rtEio
      else if msg.has rtI2cRd = true then
        i2cRestart slave ops
        let ret ← i2cSendAddress slave ops (addr1 ||| 0x01) retries
        if ret ≠ 1 ∧ ignoreNack = false then return -rtEio
        else return rtEok
      else return rtEok
  else
    let addr1 : Byte := (msg.addr <<< 1).setWidth 8
    let addr1 := if msg.has rtI2cRd = true then addr1 ||| 1 else addr1
    let ret ← i2cSendAddress slave ops addr1 retries
    if ret ≠ 1 ∧ ignoreNack = false then return -rtEio
    else return rtEok

def i2cXferData (msg : RtI2cMsg) : I2c (Option ℤ × RtI2cMsg) := do
  if msg.has rtI2cRd = true then
    let (ret, msg) ← i2cRecvBytes slave ops msg
    if ret < msg.buf.length then return (some (if 0 ≤ ret then -rtEio else ret), msg)
    else return (none, msg)
  else
    let ret ← i2cSendBytes slave ops msg
    if ret < msg.buf.length then return (some (if 0 ≤ ret then -rtError else ret), msg)
    else return (none, msg)

def i2cXferMsg (retries : ℕ) (first : Bool) (msg : RtI2cMsg) : I2c (Option ℤ × RtI2cMsg) := do
  if msg.has rtI2cNoStart = true then i2cXferData slave ops msg
  else
    if first = true then i2cStart slave else i2cRestart slave ops
    let ret ← i2cBitSendAddress slave ops retries msg
    if ret ≠ rtEok ∧ msg.has rtI2cIgnoreNack = false then return (some ret, msg)
    else i2cXferData slave ops msg

def i2cXferFrom (retries : ℕ) (first : Bool) :
    List RtI2cMsg → RtI2cMsg → I2c (Option ℤ × List RtI2cMsg × RtI2cMsg)
  | [], last => return (none, [], last)
  | msg :: msgs, _ => do
    let (ret, msg) ← i2cXferMsg slave ops retries first msg
    if ret.isSome = true then return (ret, msg :: msgs, msg)
    else
      let (ret, done, last) ← i2cXferFrom retries false msgs msg
      return (ret, msg :: done, last)

def i2cBitXfer (retries : ℕ) (msgs : List RtI2cMsg) : I2c (ℤ × List RtI2cMsg) := do
  match msgs with
  | [] => return (0, [])
  | msg :: _ =>
    let (ret, done, last) ← i2cXferFrom slave ops retries true msgs msg
    if last.has rtI2cNoStop = false then i2cStop slave ops
    return (ret.getD msgs.length, done)

/-- `rt_pin_write` of the clock pin, after which nobody polls the line. -/
def setSclH : I2c Unit := modify fun s => I2cBus.settle slave { s with
  scl := true
  held := decide (s.lines.scl = false ∧ 0 < slave.stretch s.lines.symbols) }

def i2cUnlockClocks : ℕ → I2c Unit
  | 0 => return ()
  | n + 1 => do
    setSclH slave
    sclL slave
    i2cUnlockClocks n

def i2cBusUnlock : I2c ℤ := do
  if (← getSda) = false then i2cUnlockClocks slave 9
  return if (← getSda) = false then -rtError else rtEok

end Transfers

end YkLock
