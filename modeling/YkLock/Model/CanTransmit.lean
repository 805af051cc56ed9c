import YkLock.Model.CanChannel

/-! The send path of `can.c` with its boxes, the mailboxes of the controller behind them, and any
number of threads in `rt_can_write`. -/

namespace YkLock

inductive SndResult
  | ok | err | wait
  deriving DecidableEq, Repr

structure RtCompletion (T : Type) where
  completed : Bool
  suspended : Option T

structure SndBox (T : Type) where
  result : SndResult
  completion : RtCompletion T

inductive CanBusErr
  | noErr | bitPadErr | formatErr | ackErr | implicitBitErr | explicitBitErr | crcErr
  deriving DecidableEq, Repr

/-- A mailbox of the controller: requested, or with the outcome its interrupt has not yet told. The
thread is the one whose message it is. A lost one is empty, and its outcome was told to nobody. -/
inductive Mailbox (T : Type)
  | empty
  | request (t : T) (msg : CanMsg)
  | complete (t : T) (msg : CanMsg) (txok : Bool)
  | lost (t : T) (msg : CanMsg) (txok : Bool)

inductive TxPc
  | idle | take | pop
  | init (no : ℕ)
  | send (no : ℕ)
  | wait (no : ℕ)
  | suspended (no : ℕ)
  | resumed (no : ℕ)
  | collect (no : ℕ)
  | refused (no : ℕ)
  | release (ok : Bool)
  | account (ok : Bool)
  deriving DecidableEq, Repr

structure Sender where
  pc : TxPc
  data : List CanMsg

/-- The device, the controller and the threads, with what became of the messages and what the
threads went on with. -/
structure TxSystem (T : Type) where
  listening : Bool
  sem : ℕ
  freelist : List ℕ
  buffer : ℕ → SndBox T
  mailbox : ℕ → Mailbox T
  lec : CanBusErr
  sender : T → Sender
  sndpkg : Word
  dropedsndpkg : Word
  outcomes : List (T × CanMsg × Bool)
  reports : List (T × CanMsg × Bool)

variable {T : Type}

def rtCansndBoxNum : ℕ := 1

def rtCanOpenTx (listening : Bool) (sndboxnumber : ℕ) : TxSystem T where
  listening := listening
  sem := sndboxnumber
  freelist := List.range sndboxnumber
  buffer _ := ⟨.ok, false, none⟩
  mailbox _ := .empty
  lec := .noErr
  sender _ := ⟨.idle, []⟩
  sndpkg := 0
  dropedsndpkg := 0
  outcomes := []
  reports := []

variable [DecidableEq T]

def TxSystem.at (s : TxSystem T) (t : T) (pc : TxPc) : TxSystem T :=
  { s with sender := Function.update s.sender t { s.sender t with pc := pc } }

def TxSystem.setBox (s : TxSystem T) (no : ℕ) (box : SndBox T) : TxSystem T :=
  { s with buffer := Function.update s.buffer no box }

/-- `_can_sendmsg` up to the registers: an error unless the controller runs and the mailbox is
empty. -/
def canSendmsg (t : T) (msg : CanMsg) (no : ℕ) (s : TxSystem T) : Bool × TxSystem T :=
  if s.listening = true then
    match s.mailbox no with
    | .request _ _ => (false, s)
    | .empty | .complete _ _ _ | .lost _ _ _ =>
      (true, { s with mailbox := Function.update s.mailbox no (.request t msg) })
  else (false, s)

def rtCompletionDone (no : ℕ) (s : TxSystem T) : TxSystem T :=
  let box := s.buffer no
  if box.completion.completed = true then s
  else
    match box.completion.suspended with
    | none => s.setBox no { box with completion := ⟨true, none⟩ }
    | some t => (s.setBox no { box with completion := ⟨true, none⟩ }).at t (.resumed no)

def rtHwCanIsrTx (txok : Bool) (no : ℕ) (s : TxSystem T) : TxSystem T :=
  rtCompletionDone no
    (s.setBox no { s.buffer no with result := if txok = true then .ok else .err })

def Mailbox.cleared : Mailbox T → Mailbox T
  | .complete t msg txok => .lost t msg txok
  | .empty => .empty
  | .request t msg => .request t msg
  | .lost t msg txok => .lost t msg txok

/-- `TSR |= RQCPx`: the flags RQCP are cleared by writing 1, and each one that is set is read and
written back, so that all of them are. -/
def setRqcp (s : TxSystem T) : TxSystem T :=
  { s with mailbox := fun no => (s.mailbox no).cleared }

def tellTx (txok : Bool) (no : ℕ) (s : TxSystem T) : TxSystem T :=
  setRqcp { rtHwCanIsrTx txok no s with mailbox := Function.update s.mailbox no .empty }

def canTxIsr (s : TxSystem T) : List ℕ → TxSystem T
  | [] => s
  | no :: nos =>
    match s.mailbox no with
    | .complete _ _ txok => tellTx txok no s
    | .empty | .request _ _ | .lost _ _ _ => canTxIsr s nos

/-- `_can_sce_isr` in its branch for an acknowledge error: a message that was sent is not told. -/
def canSceIsrAck (s : TxSystem T) : List ℕ → TxSystem T
  | [] => s
  | no :: nos =>
    match s.mailbox no with
    | .complete _ _ txok => if txok = true then setRqcp s else tellTx false no s
    | .empty | .request _ _ | .lost _ _ _ => canSceIsrAck s nos

def canSceIsr (s : TxSystem T) (nos : List ℕ) : TxSystem T :=
  if s.lec = .ackErr then canSceIsrAck s nos else s

def canIntTx (t : T) (s : TxSystem T) : TxSystem T :=
  match (s.sender t).pc with
  | .idle => s
  | .take => if s.sem = 0 then s else TxSystem.at { s with sem := s.sem - 1 } t .pop
  | .pop =>
    match s.freelist with
    | no :: rest => TxSystem.at { s with freelist := rest } t (.init no)
    | [] => s
  | .init no => (s.setBox no ⟨.wait, false, none⟩).at t (.send no)
  | .send no =>
    match (s.sender t).data with
    | [] => s
    | msg :: _ =>
      match canSendmsg t msg no s with
      | (true, s) => s.at t (.wait no)
      | (false, s) =>
        TxSystem.at { s with outcomes := s.outcomes ++ [(t, msg, false)] } t (.refused no)
  | .wait no =>
    let box := s.buffer no
    if box.completion.completed = true then
      (s.setBox no { box with completion := ⟨false, box.completion.suspended⟩ }).at t (.collect no)
    else (s.setBox no { box with completion := ⟨false, some t⟩ }).at t (.suspended no)
  | .suspended _ => s
  | .resumed no =>
    let box := s.buffer no
    (s.setBox no { box with completion := ⟨false, box.completion.suspended⟩ }).at t (.collect no)
  | .collect no =>
    TxSystem.at { s with freelist := s.freelist.erase no ++ [no] } t
      (.release ((s.buffer no).result = .ok))
  | .refused no => TxSystem.at { s with freelist := s.freelist ++ [no] } t (.release false)
  | .release ok => TxSystem.at { s with sem := s.sem + 1 } t (.account ok)
  | .account ok =>
    match (s.sender t).data with
    | [] => s
    | msg :: rest =>
      if ok = true then
        { s with
          sndpkg := s.sndpkg + 1
          reports := s.reports ++ [(t, msg, true)]
          sender := Function.update s.sender t ⟨if rest = [] then .idle else .take, rest⟩ }
      else
        { s with
          dropedsndpkg := s.dropedsndpkg + 1
          reports := s.reports ++ [(t, msg, false)]
          sender := Function.update s.sender t ⟨.idle, []⟩ }

def rtCanWrite (t : T) (data : List CanMsg) (s : TxSystem T) : TxSystem T :=
  if (s.sender t).pc = .idle ∧ data ≠ [] then
    { s with sender := Function.update s.sender t ⟨.take, data⟩ }
  else s

/-- How the controller ends an attempt, which is the only one (`AutoRetransmission` is off). -/
inductive TxEnd
  | txok | alst
  | terr (err : CanBusErr)

def TxEnd.ok : TxEnd → Bool
  | .txok => true
  | .alst | .terr _ => false

def TxEnd.lec (lec : CanBusErr) : TxEnd → CanBusErr
  | .txok => .noErr
  | .alst => lec
  | .terr err => err

def mailboxDone (no : ℕ) (e : TxEnd) (s : TxSystem T) : TxSystem T :=
  match s.mailbox no with
  | .request t msg =>
    { s with
      mailbox := Function.update s.mailbox no (.complete t msg e.ok)
      lec := e.lec s.lec
      outcomes := s.outcomes ++ [(t, msg, e.ok)] }
  | .empty | .complete _ _ _ | .lost _ _ _ => s

/-- What the controller hears of other nodes; only a sender misses an acknowledge. -/
def canHeard (err : CanBusErr) (s : TxSystem T) : TxSystem T :=
  if err = .ackErr then s else { s with lec := err }

inductive TxAction (T : Type)
  | write (t : T) (data : List CanMsg)
  | thread (t : T)
  | done (no : ℕ) (e : TxEnd)
  | heard (err : CanBusErr)
  | txIsr
  | sceIsr

def txStep (sndboxnumber : ℕ) (a : TxAction T) (s : TxSystem T) : TxSystem T :=
  match a with
  | .write t data => rtCanWrite t data s
  | .thread t => canIntTx t s
  | .done no e => mailboxDone no e s
  | .heard err => canHeard err s
  | .txIsr => canTxIsr s (List.range sndboxnumber)
  | .sceIsr => canSceIsr s (List.range sndboxnumber)

end YkLock
