import YkLock.Model.CanChannel

/-! The registers of the CAN controller as `drv_can.c` and the HAL below it write and read them. -/

namespace YkLock

structure CanTxMailBox where
  tir : Word
  tdtr : Word
  tdlr : Word
  tdhr : Word

structure CanFifoMailBox where
  rir : Word
  rdtr : Word
  rdlr : Word
  rdhr : Word

def canTi0rTxrq : Word := 0x1

def canRtrRemote : Word := 0x2

def canIdExt : Word := 0x4

def canRi0rStid : Word := 0xFFE00000

def canRi0rExid : Word := 0x001FFFF8

def dataRegister (data : ℕ → Byte) (i : ℕ) : Word :=
  (data (i + 3)).setWidth 32 <<< 24 ||| (data (i + 2)).setWidth 32 <<< 16 |||
    (data (i + 1)).setWidth 32 <<< 8 ||| (data i).setWidth 32 <<< 0

/-- `_can_sendmsg` from the empty mailbox on; `none` where one of its assertions fails. -/
def canSendmsgBox (pmsg : CanMsg) (box : CanTxMailBox) : Option CanTxMailBox :=
  if 8 < pmsg.len.toNat then none
  else if pmsg.ide = false ∧ 0x7FF < pmsg.id.toNat then none
  else
    let rtr := if pmsg.rtr = false then 0 else canRtrRemote
    let id : Word := pmsg.id.setWidth 32
    let tir := (box.tir &&& canTi0rTxrq) |||
      if pmsg.ide = false then id <<< 21 ||| rtr else id <<< 3 ||| canIdExt ||| rtr
    some {
      tir := tir ||| canTi0rTxrq
      tdtr := pmsg.len.setWidth 32 &&& 0x0F
      tdhr := dataRegister pmsg.data 4
      tdlr := dataRegister pmsg.data 0 }

def halCanGetRxMessage (box : CanFifoMailBox) : CanRxHeader × Vector Byte 8 :=
  let ide := canIdExt &&& box.rir
  ({ ide := ide ≠ 0
     rtr := canRtrRemote &&& box.rir ≠ 0
     stdId := if ide = 0 then ((canRi0rStid &&& box.rir) >>> 21).setWidth 11 else 0
     extId := if ide = 0 then 0 else (((canRi0rExid ||| canRi0rStid) &&& box.rir) >>> 3).setWidth 29
     dlc := ((0x0F &&& box.rdtr) >>> 0).setWidth 4 },
    #v[byteAt box.rdlr 0, byteAt box.rdlr 8, byteAt box.rdlr 16, byteAt box.rdlr 24,
      byteAt box.rdhr 0, byteAt box.rdhr 8, byteAt box.rdhr 16, byteAt box.rdhr 24])

/-- `rt_can_filter_item` with the fields that only the driver reads; `mode` is the list mode. -/
structure RtCanFilterItem extends CanFilterItem where
  mode : Bool
  hdrBank : Word

def CanFilterItem.init (item : CanFilterItem) : RtCanFilterItem := ⟨item, false, -1⟩

structure CanFilterTypeDef where
  filterIdHigh : Word
  filterIdLow : Word
  filterMaskIdHigh : Word
  filterMaskIdLow : Word
  filterBank : Word
  filterMode : Bool

structure CanFilterBank where
  fa1 : Bool
  fm1 : Bool
  fr1 : Word
  fr2 : Word

def halves (high low : Word) : Word := (high &&& 0x0000FFFF) <<< 16 ||| low &&& 0x0000FFFF

def RtCanFilterItem.bank (item : RtCanFilterItem) (i : ℕ) : Word :=
  if item.hdrBank = -1 then BitVec.ofNat 32 i else item.hdrBank

def canFilterConfig (i : ℕ) (item : RtCanFilterItem) : CanFilterTypeDef :=
  let id : Word := item.id.setWidth 32
  let ide : Word := if item.ide = true then 1 else 0
  let rtr : Word := if item.rtr = true then 1 else 0
  let maskTail : Word := if item.mode = false then 0x06 else ide <<< 2 ||| rtr <<< 1
  { filterIdHigh :=
      if item.ide = false then ((id <<< 18) >>> 13) &&& 0xFFFF else (id >>> 13) &&& 0xFFFF
    filterIdLow :=
      if item.ide = false then (id <<< 18 ||| ide <<< 2 ||| rtr <<< 1) &&& 0xFFFF
      else (id <<< 3 ||| ide <<< 2 ||| rtr <<< 1) &&& 0xFFFF
    filterMaskIdHigh :=
      if item.ide = false then ((item.mask <<< 21) >>> 16) &&& 0xFFFF
      else ((item.mask <<< 3) >>> 16) &&& 0xFFFF
    filterMaskIdLow :=
      if item.ide = false then (item.mask <<< 21 ||| maskTail) &&& 0xFFFF
      else (item.mask <<< 3 ||| maskTail) &&& 0xFFFF
    filterBank := item.bank i
    filterMode := item.mode }

def CanFilterTypeDef.written (cfg : CanFilterTypeDef) : CanFilterBank where
  fa1 := true
  fm1 := cfg.filterMode
  fr1 := halves cfg.filterIdHigh cfg.filterIdLow
  fr2 := halves cfg.filterMaskIdHigh cfg.filterMaskIdLow

/-- `HAL_CAN_ConfigFilter`; `none` where the controller has no such bank. -/
def halCanConfigFilter (cfg : CanFilterTypeDef) (banks : Fin 14 → CanFilterBank) :
    Option (Fin 14 → CanFilterBank) :=
  if h : cfg.filterBank.toNat < 14 then
    some (Function.update banks ⟨cfg.filterBank.toNat, h⟩ cfg.written)
  else none

def canSetFilterFrom (i : ℕ) :
    List RtCanFilterItem → (Fin 14 → CanFilterBank) → Option (Fin 14 → CanFilterBank)
  | [], banks => some banks
  | item :: items, banks =>
    (halCanConfigFilter (canFilterConfig i item) banks).bind (canSetFilterFrom (i + 1) items)

def canSetFilter (items : List RtCanFilterItem) (banks : Fin 14 → CanFilterBank) :
    Option (Fin 14 → CanFilterBank) := canSetFilterFrom 0 items banks

def canConfigBanks : Fin 14 → CanFilterBank :=
  Function.update (fun _ => ⟨false, false, 0, 0⟩) 0 (CanFilterTypeDef.written ⟨0, 0, 0, 0, 0, false⟩)

def boxByte (low high : Word) (i : ℕ) : Byte :=
  if i < 4 then byteAt low (8 * i) else byteAt high (8 * (i - 4))

/-- The message of a sending mailbox as it stands in a receiving one: only what a frame has on the
bus is the same, which is the eleven bits of a standard id, and no data in a remote frame. -/
structure Carried (tx : CanTxMailBox) (rx : CanFifoMailBox) : Prop where
  ide : rx.rir.getLsbD 2 = tx.tir.getLsbD 2
  rtr : rx.rir.getLsbD 1 = tx.tir.getLsbD 1
  std : tx.tir.getLsbD 2 = false → rx.rir >>> 21 = tx.tir >>> 21
  ext : tx.tir.getLsbD 2 = true → rx.rir >>> 3 = tx.tir >>> 3
  dlc : rx.rdtr &&& 0x0F = tx.tdtr &&& 0x0F
  data : tx.tir.getLsbD 1 = false → ∀ i, i < (tx.tdtr &&& 0x0F).toNat →
    boxByte rx.rdlr rx.rdhr i = boxByte tx.tdlr tx.tdhr i

/-- The bits that tell messages apart: the id, with as many bits as it has, IDE and RTR. -/
def identMask (rir : Word) : Word :=
  if rir.getLsbD 2 = true then 0xFFFFFFFE else 0xFFE00006

/-- A bank in mask mode lets a message through when it agrees on all bits of the mask, in list mode
when it is one of the two. -/
def CanFilterBank.Accepts (bank : CanFilterBank) (rir : Word) : Prop :=
  bank.fa1 = true ∧
    if bank.fm1 = false then (rir ^^^ bank.fr1) &&& bank.fr2 = 0
    else (rir ^^^ bank.fr1) &&& identMask rir = 0 ∨ (rir ^^^ bank.fr2) &&& identMask rir = 0

instance (bank : CanFilterBank) (rir : Word) : Decidable (bank.Accepts rir) :=
  inferInstanceAs (Decidable (_ ∧ ite _ _ _))

end YkLock
