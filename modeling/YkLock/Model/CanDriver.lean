import YkLock.Model.CanChannel

/-! The receive queue of `can.c` as it is built: the entries of one buffer, linked into a free list
and a list of used ones, and a used one also into the list of the filter bank it came through. -/

namespace YkLock

/-- `rt_can_hdr`; `ind` says whether the bank has an indication of its own. -/
structure RtCanHdr where
  connected : Bool
  ind : Bool
  msgs : ℕ
  list : List ℕ

structure RtCanRxFifo (M : Type) where
  data : ℕ → M
  owner : ℕ → Option ℕ
  freelist : List ℕ
  uselist : List ℕ
  freenumbers : ℕ

structure RtCanDevice (M : Type) where
  rxFifo : RtCanRxFifo M
  hdr : ℕ → RtCanHdr
  maxhdr : ℕ
  rcvpkg : Word
  dropedrcvpkg : Word

inductive RxIndicate
  | bank (hdr msgs : ℕ)
  | device (msgs : ℕ)
  deriving DecidableEq, Repr

variable {M : Type}

def rtCanOpenRx (msgboxsz maxhdr : ℕ) (connected : ℕ → Bool) (ind : ℕ → Bool) (zero : M) :
    RtCanDevice M where
  rxFifo := ⟨fun _ => zero, fun _ => none, List.range msgboxsz, [], msgboxsz⟩
  hdr h := ⟨connected h, ind h, 0, []⟩
  maxhdr := maxhdr
  rcvpkg := 0
  dropedrcvpkg := 0

def unlinkHdr (e : ℕ) (can : RtCanDevice M) : RtCanDevice M :=
  { can with
    hdr := fun h =>
      { can.hdr h with
        list := (can.hdr h).list.erase e
        msgs := if can.rxFifo.owner e = some h ∧ (can.hdr h).msgs ≠ 0 then (can.hdr h).msgs - 1
          else (can.hdr h).msgs }
    rxFifo := { can.rxFifo with owner := Function.update can.rxFifo.owner e none } }

def isrTakeEntry (can : RtCanDevice M) : Option ℕ × RtCanDevice M :=
  match can.rxFifo.freelist with
  | e :: rest =>
    (some e, unlinkHdr e { can with
      rxFifo := { can.rxFifo with freelist := rest, freenumbers := can.rxFifo.freenumbers - 1 } })
  | [] =>
    match can.rxFifo.uselist with
    | e :: rest =>
      (some e, unlinkHdr e { can with
        rxFifo := { can.rxFifo with uselist := rest }
        dropedrcvpkg := can.dropedrcvpkg + 1 })
    | [] => (none, can)

def isrUseEntry (e : ℕ) (tmpmsg : M) (hdr : ℕ) (can : RtCanDevice M) : RtCanDevice M :=
  let rxFifo := { can.rxFifo with
    data := Function.update can.rxFifo.data e tmpmsg
    uselist := can.rxFifo.uselist ++ [e] }
  if (can.hdr hdr).connected = true then
    { can with
      rxFifo := { rxFifo with owner := Function.update rxFifo.owner e (some hdr) }
      hdr := Function.update can.hdr hdr
        { can.hdr hdr with
          list := (can.hdr hdr).list ++ [e]
          msgs := (can.hdr hdr).msgs + 1 } }
  else { can with rxFifo := rxFifo }

def isrIndicate (hdr : ℕ) (can : RtCanDevice M) : Option RxIndicate :=
  if (can.hdr hdr).connected = true ∧ (can.hdr hdr).ind = true then
    if (can.hdr hdr).msgs ≠ 0 then some (.bank hdr (can.hdr hdr).msgs) else none
  else if can.rxFifo.uselist.length ≠ 0 then some (.device can.rxFifo.uselist.length) else none

/-- `rt_hw_can_isr` for `RT_CAN_EVENT_RX_IND`, and for `RT_CAN_EVENT_RXOF_IND`, which falls through
to it. `tmpmsg` is what `recvmsg` returned, with the bank it came through. Where no entry is found
the source goes on with an unset bank. -/
def rtHwCanIsrRx (rxof : Bool) (tmpmsg : Option (M × ℕ)) (can : RtCanDevice M) :
    Option RxIndicate × RtCanDevice M :=
  let can := if rxof then { can with dropedrcvpkg := can.dropedrcvpkg + 1 } else can
  match tmpmsg with
  | none => (none, can)
  | some (msg, hdr) =>
    match isrTakeEntry { can with rcvpkg := can.rcvpkg + 1 } with
    | (none, can) => (none, can)
    | (some e, can) =>
      (isrIndicate hdr (isrUseEntry e msg hdr can), isrUseEntry e msg hdr can)

def canIntRxTake (hdr : ℤ) (can : RtCanDevice M) : Option ℕ × RtCanDevice M :=
  match if 0 ≤ hdr ∧ hdr < can.maxhdr then (can.hdr hdr.toNat).list.head? else none with
  | some e =>
    (some e, { can with
      rxFifo := { can.rxFifo with
        uselist := can.rxFifo.uselist.erase e
        owner := Function.update can.rxFifo.owner e none }
      hdr := Function.update can.hdr hdr.toNat
        { can.hdr hdr.toNat with
          list := (can.hdr hdr.toNat).list.erase e
          msgs := if (can.hdr hdr.toNat).msgs ≠ 0 then (can.hdr hdr.toNat).msgs - 1
            else (can.hdr hdr.toNat).msgs } })
  | none =>
    if hdr = -1 then
      match can.rxFifo.uselist with
      | e :: rest =>
        (some e, unlinkHdr e { can with rxFifo := { can.rxFifo with uselist := rest } })
      | [] => (none, can)
    else (none, can)

def canIntRxGive (e : ℕ) (can : RtCanDevice M) : RtCanDevice M :=
  { can with
    rxFifo := { can.rxFifo with
      freelist := can.rxFifo.freelist ++ [e]
      freenumbers := can.rxFifo.freenumbers + 1 } }

/-- The device with its readers, each between its two critical sections: the entry it holds and the
message it found there; next to them what was taken in which order, and what had arrived. -/
structure RxPool where
  can : RtCanDevice Arrival
  held : List (ℕ × Arrival)
  taken : List Arrival
  arrived : List CanMsg
  overruns : ℕ

def poolOpen (msgboxsz maxhdr : ℕ) (connected ind : ℕ → Bool) (zero : CanMsg) : RxPool where
  can := rtCanOpenRx msgboxsz maxhdr connected ind (0, zero)
  held := []
  taken := []
  arrived := []
  overruns := 0

inductive PoolAction
  | isr (rxof : Bool) (tmpmsg : Option (CanMsg × ℕ))
  | take (hdr : ℤ)
  | give (i : ℕ)

def poolIsr (rxof : Bool) (tmpmsg : Option (CanMsg × ℕ)) (s : RxPool) : RxPool :=
  { s with
    can := (rtHwCanIsrRx rxof (tmpmsg.map fun r => ((s.arrived.length, r.1), r.2)) s.can).2
    arrived := s.arrived ++ (tmpmsg.map Prod.fst).toList
    overruns := s.overruns + rxof.toNat }

def poolTake (hdr : ℤ) (s : RxPool) : RxPool :=
  match canIntRxTake hdr s.can with
  | (none, can) => { s with can := can }
  | (some e, can) =>
    { s with
      can := can
      held := s.held ++ [(e, can.rxFifo.data e)]
      taken := s.taken ++ [can.rxFifo.data e] }

def poolGive (i : ℕ) (s : RxPool) : RxPool :=
  match s.held[i]? with
  | none => s
  | some p => { s with can := canIntRxGive p.1 s.can, held := s.held.eraseIdx i }

def poolStep (a : PoolAction) (s : RxPool) : RxPool :=
  match a with
  | .isr rxof tmpmsg => poolIsr rxof tmpmsg s
  | .take hdr => poolTake hdr s
  | .give i => poolGive i s

inductive CanRxPc
  | take | read | copy | give | call
  deriving DecidableEq, Repr

/-- `thread_can_rx` over these lists, with the two critical sections of its read and the copying
between them. -/
structure CanRxSystem where
  pool : RxPool
  sem : ℕ
  pc : CanRxPc
  msgBuff : Option Arrival
  delivered : List (Option Arrival)

/-- The banks are connected as the filter table says, none with an indication of its own. -/
def canRxOpen (maxhdr : ℕ) (connected : ℕ → Bool) (zero : CanMsg) : CanRxSystem where
  pool := poolOpen rtCanmsgBoxSz maxhdr connected (fun _ => false) zero
  sem := 0
  pc := .take
  msgBuff := none
  delivered := []

inductive CanRxAction
  | isr (rxof : Bool) (tmpmsg : Option (CanMsg × ℕ))
  | thread

def canRxIsr (rxof : Bool) (tmpmsg : Option (CanMsg × ℕ)) (s : CanRxSystem) : CanRxSystem :=
  { s with
    pool := poolIsr rxof tmpmsg s.pool
    sem := match (rtHwCanIsrRx rxof
        (tmpmsg.map fun r => ((s.pool.arrived.length, r.1), r.2)) s.pool.can).1 with
      | some (.device _) => s.sem + 1
      | some (.bank _ _) | none => s.sem }

def canRxThread (s : CanRxSystem) : CanRxSystem :=
  match s.pc with
  | .take => if s.sem = 0 then s else { s with sem := s.sem - 1, pc := .read }
  | .read =>
    { s with
      pool := poolTake (-1) s.pool
      pc := if (canIntRxTake (-1) s.pool.can).1.isSome = true then .copy else .call }
  | .copy =>
    match s.pool.held with
    | p :: _ => { s with msgBuff := some (s.pool.can.rxFifo.data p.1), pc := .give }
    | [] => s
  | .give => { s with pool := poolGive 0 s.pool, pc := .call }
  | .call => { s with delivered := s.delivered ++ [s.msgBuff], pc := .take }

def canRxStep (a : CanRxAction) (s : CanRxSystem) : CanRxSystem :=
  match a with
  | .isr rxof tmpmsg => canRxIsr rxof tmpmsg s
  | .thread => canRxThread s

end YkLock
