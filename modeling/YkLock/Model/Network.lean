import YkLock.Library.Broadcast
import YkLock.Model.Button
import YkLock.Model.CanChannel

/-! Several nodes on one CAN bus: what one of them writes comes to the controllers of all others. -/

namespace YkLock

open Library.Broadcast

variable {D : Type}

structure Node (D : Type) where
  world : World D
  uselist : List CanMsg

inductive NodeAction
  | receive (tail : ℕ → Byte)
  | cmdModifyDevice (type : Option Word)
  | cmdModifyAddr (addr : Option Word)
  | cmdModifySn (sn : Option Word)
  | press
  | restart

/-- A message that the filter lets through goes to the queue, in place of the oldest one in it if
the queue is full. -/
def Node.arrive (rxMsg : CanMsg) (n : Node D) : Node D :=
  if ∃ item ∈ n.world.filter, item.passes rxMsg then
    let uselist := if n.uselist.length < rtCanmsgBoxSz then n.uselist else n.uselist.tail
    { n with uselist := uselist ++ [rxMsg] }
  else n

def World.written (w w' : World D) : List CanMsg :=
  (w'.sent.take (w'.sent.length - w.sent.length)).reverse.filterMap canChannelWrite

variable (b : Board D)

def Node.restart (n : Node D) : Node D := ⟨boot b n.world, []⟩

/-- `thread_can_rx` with the oldest message in the queue; a handler that resets the device loses the
others. -/
def Node.receive (tail : ℕ → Byte) (n : Node D) : Node D :=
  match n.uselist with
  | [] => n
  | rxMsg :: rest =>
    let w := ((rxCb b ⟨rxMsg.bytes, tail⟩).run n.world).2
    if w.reset = true then Node.restart b ⟨w, rest⟩ else ⟨w, rest⟩

def Node.next (a : NodeAction) (n : Node D) : Node D :=
  match a with
  | .receive tail => n.receive b tail
  | .cmdModifyDevice type => { n with world := ((cmdModifyDevice b type).run n.world).2 }
  | .cmdModifyAddr addr => { n with world := ((cmdModifyAddr b addr).run n.world).2 }
  | .cmdModifySn sn => { n with world := ((cmdModifySn b sn).run n.world).2 }
  | .press => { n with world := ((threadBtnPress b).run n.world).2 }
  | .restart => n.restart b

def Node.act (a : NodeAction) (n : Node D) : Node D × List CanMsg :=
  (n.next b a, n.world.written (n.next b a).world)

variable {T : Type}

def networkStart (b : T → Board D) (w : T → World D) : Medium T (Node D) CanMsg :=
  ⟨fun t => ⟨boot (b t) (w t), []⟩, []⟩

def networkStep [DecidableEq T] (b : T → Board D) :
    Action T NodeAction CanMsg → Medium T (Node D) CanMsg → Medium T (Node D) CanMsg :=
  step (fun t => Node.act (b t)) Node.arrive

end YkLock
