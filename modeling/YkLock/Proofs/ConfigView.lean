import YkLock.Proofs.ReliableTransfers
import YkLock.Proofs.HandlerReads

/-! The configuration as the three copies of it show it, when EEPROM transfers succeed. -/

namespace YkLock

open Library.Storage Library.StatePrograms

variable {D : Type}

structure View where
  record : Info
  set : List HandlerIndexTable
  installed : Bool
  filter : List CanFilterItem
  sent : List (List Byte)
  reset : Bool

structure Shows (b : Board D) (content : D → Image) (v : View) (w : World D) : Prop where
  record : w.record content = v.record
  cache : w.cache = v.record
  info : w.info = v.record.lockInfo b
  set : w.set = v.set
  installed : w.installed = v.installed
  filter : w.filter = v.filter
  sent : w.sent = v.sent
  reset : w.reset = v.reset

def Buffer.sn (d : Buffer) (i : ℕ) : BitVec 24 := d.get i ++ d.get (i + 1) ++ d.get (i + 2)

lemma or_eq_add (n : ℕ) (x : Byte) : n * 2 ^ 8 ||| x.toNat = n * 2 ^ 8 + x.toNat := by
  rw [← Nat.shiftLeft_eq]
  exact (Nat.shiftLeft_add_eq_or_of_lt x.isLt n).symm

lemma word_of_bytes (x y z : Byte) :
    x.setWidth 32 <<< 16 + y.setWidth 32 <<< 8 + z.setWidth 32 = (x ++ y ++ z).setWidth 32 := by
  apply BitVec.eq_of_toNat_eq
  have hx := x.isLt
  have hy := y.isLt
  have hz := z.isLt
  simp only [BitVec.toNat_add, BitVec.toNat_shiftLeft, BitVec.toNat_setWidth, BitVec.toNat_append,
    Nat.shiftLeft_eq, or_eq_add]
  omega

lemma Buffer.snAt_val (d : Buffer) (i : ℕ) (w : World D) :
    ((d.snAt i).run w).1 = (d.sn i).setWidth 32 := word_of_bytes _ _ _

@[simp] lemma byteAt_setWidth (x : BitVec 24) (k : ℕ) :
    byteAt (x.setWidth 32) k = x.extractLsb' k 8 := by
  apply BitVec.eq_of_toNat_eq
  have hx : x.toNat % 2 ^ 32 = x.toNat := Nat.mod_eq_of_lt (x.isLt.trans (by norm_num))
  simp only [byteAt, BitVec.toNat_setWidth, BitVec.toNat_ushiftRight, BitVec.extractLsb'_toNat, hx]

section Effects

variable {b : Board D} {content : D → Image} {v : View}

lemma shows_config (w : World D) (hw : Shows b content v w) : w.Synced content :=
  hw.cache.trans hw.record.symm

lemma at_shows (d : Buffer) (i : ℕ) :
    Returns (Shows b content v) (d.at i) (d.get i) (Shows b content v) :=
  fun _ ⟨h1, h2, h3, h4, h5, h6, h7, h8⟩ => ⟨rfl, h1, h2, h3, h4, h5, h6, h7, h8⟩

lemma snAt_shows (d : Buffer) (i : ℕ) :
    Returns (Shows b content v) (d.snAt i) ((d.sn i).setWidth 32) (Shows b content v) :=
  fun w ⟨h1, h2, h3, h4, h5, h6, h7, h8⟩ => ⟨d.snAt_val i w, h1, h2, h3, h4, h5, h6, h7, h8⟩

lemma channelWrite_shows (buff : List Byte) : Triple (Shows b content v) (channelWrite buff)
    fun _ => Shows b content { v with sent := buff :: v.sent } :=
  fun _ ⟨h1, h2, h3, h4, h5, h6, h7, h8⟩ => ⟨h1, h2, h3, h4, h5, h6, congrArg _ h7, h8⟩

lemma rtHwCpuReset_shows :
    Triple (Shows b content v) rtHwCpuReset fun _ => Shows b content { v with reset := true } :=
  fun _ ⟨h1, h2, h3, h4, h5, h6, h7, _⟩ => ⟨h1, h2, h3, h4, h5, h6, h7, rfl⟩

variable (h : b.at24cxx.Reliable content)
include h

lemma getConfig_shows (k : ConfigT) :
    Returns (Shows b content v) (getConfig b k) (v.record.get k) (Shows b content v) := by
  intro w hw
  rw [getConfig_synced h.read k (shows_config w hw), hw.cache]
  exact ⟨rfl, hw⟩

lemma getAddr_shows : Returns (Shows b content v) (getAddr b) v.record.addr (Shows b content v) :=
  getConfig_shows h .addr

lemma getSn_shows :
    Returns (Shows b content v) (getSn b) (v.record.sn.setWidth 32) (Shows b content v) :=
  getConfig_shows h .sn

lemma getTimeoutExec_shows :
    Returns (Shows b content v) (getTimeoutExec b) v.record.timeoutExec (Shows b content v) :=
  getConfig_shows h .timeoutExec

lemma getTimeoutCmd_shows :
    Returns (Shows b content v) (getTimeoutCmd b) v.record.timeoutCmd (Shows b content v) :=
  getConfig_shows h .timeoutCmd

lemma getDevice_shows : Returns (Shows b content v) (getDevice b)
    (.sanitised v.record.devType) (Shows b content v) := by
  intro w hw
  rw [getDevice_synced h.read (shows_config w hw), hw.cache]
  exact ⟨rfl, hw⟩

lemma configModify_shows (k : ConfigT) (x : k.Value) :
    Returns (Shows b content v) (configModify b k x) .eok
      (Shows b content { v with record := v.record.set k x }) := by
  intro w hw
  rw [configModify_reliable h, hw.cache]
  exact ⟨rfl, record_stored h _ w, rfl, rfl, hw.set, hw.installed, hw.filter, hw.sent, hw.reset⟩

lemma modifyAddr_shows (addr : Byte) : Returns (Shows b content v) (modifyAddr b addr) .eok
    (Shows b content { v with record := { v.record with addr := addr } }) :=
  configModify_shows h .addr addr

lemma modifyDevice_shows (type : Byte) : Returns (Shows b content v) (modifyDevice b type) .eok
    (Shows b content { v with record := { v.record with devType := type } }) :=
  configModify_shows h .deviceType type

lemma modifySn_shows (sn : BitVec 24) : Returns (Shows b content v) (modifySn b (sn.setWidth 32)) .eok
    (Shows b content { v with record := { v.record with sn := sn } }) := by
  have hset : v.record.set .sn (sn.setWidth 32) = { v.record with sn := sn } := by
    change { v.record with sn := (sn.setWidth 32).setWidth 24 } = _
    simp
  have hm := configModify_shows (v := v) h .sn (sn.setWidth 32)
  rwa [hset] at hm

lemma modifyTimeoutExec_shows (timeout : Byte) :
    Returns (Shows b content v) (modifyTimeoutExec b timeout) .eok
      (Shows b content { v with record := { v.record with timeoutExec := timeout } }) :=
  configModify_shows h .timeoutExec timeout

lemma modifyTimeoutCmd_shows (timeout : Byte) :
    Returns (Shows b content v) (modifyTimeoutCmd b timeout) .eok
      (Shows b content { v with record := { v.record with timeoutCmd := timeout } }) :=
  configModify_shows h .timeoutCmd timeout

lemma avcRelayStateSave_shows (s : AvcRelayState) :
    Returns (Shows b content v) (avcRelayStateSave b s) .eok
      (Shows b content { v with record := v.record.set .avcSwitchState s.toByte }) := by
  intro w hw
  rw [avcRelayStateSave_reliable h, loaded_of_synced (shows_config w hw), hw.record]
  refine ⟨rfl, ?_⟩
  by_cases hs : v.record.avcRelayState = s.toByte
  · have hset : v.record.set .avcSwitchState s.toByte = v.record :=
      (Library.Records.Fields.set_eq_self_iff (F := Info.fields) .avcSwitchState
        (Info.fits_of_ne_sn (by decide) _) _).mpr hs
    rw [if_pos hs, hset]
    exact hw
  · rw [if_neg hs]
    exact ⟨record_stored h _ w, rfl, rfl, hw.set, hw.installed, hw.filter, hw.sent, hw.reset⟩

omit h

def Unseen (b : Board D) (content : D → Image) (w w' : World D) : Prop :=
  ∀ v, Shows b content v w → Shows b content v w'

instance : Std.Refl (Unseen b content) := ⟨fun _ _ h => h⟩

instance : IsTrans (World D) (Unseen b content) := ⟨fun _ _ _ h h' v hv => h' v (h v hv)⟩

lemma unseen_pins (w : World D) (pins : List PinEvent) :
    Unseen b content w { w with pins := pins } :=
  fun _ ⟨h1, h2, h3, h4, h5, h6, h7, h8⟩ => ⟨h1, h2, h3, h4, h5, h6, h7, h8⟩

lemma Unseen.triple {α : Type} {m : Fw D α} (hm : Moves (Unseen b content) m) :
    Triple (Shows b content v) m fun _ => Shows b content v :=
  hm.triple fun _ _ hs hi => hi v hs

lemma queryState_shows (type : QueryState) :
    Triple (Shows b content v) (queryState b type) fun _ => Shows b content v :=
  Unseen.triple (queryState_moves (fun w _ _ => unseen_pins w _) type)

lemma queryState_cold_shows :
    Returns (Shows b content v) (queryState b .coldLockState) 0 (Shows b content v) :=
  fun _ hw => ⟨rfl, hw⟩

lemma setResult_shows (isAction isSet : Bool) :
    Triple (Shows b content v) (setResult isAction isSet) fun _ => Shows b content v :=
  fun _ ⟨h1, h2, h3, h4, h5, h6, h7, h8⟩ => ⟨h1, h2, h3, h4, h5, h6, h7, h8⟩

lemma setSave_shows (result : RtErr) :
    Triple (Shows b content v) (setSave result) fun _ => Shows b content v :=
  fun _ ⟨h1, h2, h3, h4, h5, h6, h7, h8⟩ => ⟨h1, h2, h3, h4, h5, h6, h7, h8⟩

lemma controlYk_shows (port : Byte) (state : Bool) {k0 k1 k2 k3 : Fw D Unit}
    (h0 : Moves (Unseen b content) k0) (h1 : Moves (Unseen b content) k1)
    (h2 : Moves (Unseen b content) k2) (h3 : Moves (Unseen b content) k3) :
    Triple (Shows b content v) (controlYk b port state k0 k1 k2 k3) fun _ => Shows b content v :=
  Unseen.triple (controlYk_moves (fun w _ _ => unseen_pins w _) (fun w _ => unseen_pins w _)
    (fun _ => h0) h1 h2 h3)

include h

lemma controlAvcSwitch_shows (s : AvcRelayState) {pulse : Fw D Unit}
    (hp : Moves (Unseen b content) pulse) :
    Triple (Shows b content v) (controlAvcSwitch b s pulse)
      fun _ => Shows b content { v with record := v.record.set .avcSwitchState s.toByte } := by
  have hcheck : Triple (Shows b content v) (avcRelayCheck b) fun _ => Shows b content v :=
    Unseen.triple (rtPinRead_moves (fun w _ _ => unseen_pins w _) _)
  have hsave : Triple (Shows b content v) (avcRelayStateSave b s >>= setSave)
      fun _ => Shows b content { v with record := v.record.set .avcSwitchState s.toByte } :=
    (avcRelayStateSave_shows h s).bind (setSave_shows _)
  refine hcheck.bind fun _ => Triple.ite (fun _ => ?_) fun _ => ?_
  · exact (setResult_shows _ _).bind fun _ => hsave
  · refine (Unseen.triple hp).bind fun _ => hcheck.bind fun _ => ?_
    exact (Triple.ite (fun _ => setResult_shows _ _) fun _ => setResult_shows _ _).bind fun _ => hsave

lemma control_shows (type : LockControl) (port : Byte) :
    Triple (Shows b content v) (control b type port) fun _ => Shows b content
      { v with record := match type with
        | .avcSwitchEngage => v.record.set .avcSwitchState AvcRelayState.stateClose.toByte
        | .avcSwitchDisengage => v.record.set .avcSwitchState AvcRelayState.stateOpen.toByte
        | _ => v.record } := by
  have hpins {m : Fw D Unit} (hm : ∀ w, ∃ pins, (m.run w).2 = { w with pins := pins }) :
      Moves (Unseen b content) m := by
    intro w
    obtain ⟨pins, hw⟩ := hm w
    rw [hw]
    exact unseen_pins w pins
  refine Triple.bind ?_ fun _ => Triple.pure fun _ hw => hw
  cases type with
  | ykOpen =>
    exact controlYk_shows _ _ (hpins fun _ => ⟨_, rfl⟩) (hpins fun _ => ⟨_, rfl⟩)
      (hpins fun _ => ⟨_, rfl⟩) (Moves.pure _)
  | ykClose =>
    exact controlYk_shows _ _ (hpins fun _ => ⟨_, rfl⟩) (hpins fun _ => ⟨_, rfl⟩)
      (hpins fun _ => ⟨_, rfl⟩) (Moves.pure _)
  | avcSwitchEngage => exact controlAvcSwitch_shows h _ (hpins fun _ => ⟨_, rfl⟩)
  | avcSwitchDisengage => exact controlAvcSwitch_shows h _ (hpins fun _ => ⟨_, rfl⟩)
  | coldLockPowerOn => exact Triple.pure fun _ hw => hw
  | coldLockPowerOff => exact Triple.pure fun _ hw => hw

end Effects

end YkLock
