import YkLock.Model.Bytes
import YkLock.Library.Records

/-! The configuration record of `config.c` and its eight bytes in the EEPROM. -/

namespace YkLock

open Library.Records

inductive ConfigT
  | deviceType | addr | sn | timeoutExec | timeoutCmd | avcSwitchState
  deriving DecidableEq, Repr

abbrev ConfigT.width : ConfigT → ℕ
  | .sn => 32
  | .deviceType | .addr | .timeoutExec | .timeoutCmd | .avcSwitchState => 8

abbrev ConfigT.Value (k : ConfigT) : Type := BitVec k.width

abbrev ConfigWrite : Type := (k : ConfigT) × k.Value

structure Info where
  avcRelayState : Byte
  devType : Byte
  timeoutExec : Byte
  timeoutCmd : Byte
  addr : Byte
  sn : BitVec 24
  deriving DecidableEq, Repr

def Info.get : (k : ConfigT) → Info → k.Value
  | .deviceType, i => i.devType
  | .addr, i => i.addr
  | .sn, i => i.sn.setWidth 32
  | .timeoutExec, i => i.timeoutExec
  | .timeoutCmd, i => i.timeoutCmd
  | .avcSwitchState, i => i.avcRelayState

def Info.set : (k : ConfigT) → k.Value → Info → Info
  | .deviceType, v, i => { i with devType := v }
  | .addr, v, i => { i with addr := v }
  | .sn, v, i => { i with sn := v.setWidth 24 }
  | .timeoutExec, v, i => { i with timeoutExec := v }
  | .timeoutCmd, v, i => { i with timeoutCmd := v }
  | .avcSwitchState, v, i => { i with avcRelayState := v }

def Info.fields : Fields ConfigT ConfigT.Value Info where
  get := Info.get
  set := Info.set
  get_set_self k v r s := by cases k <;> rfl
  get_set_of_ne k j v r h := by cases k <;> cases j <;> first | rfl | exact (h rfl).elim
  ext r s h := by
    have hsn : r.sn.setWidth 32 = s.sn.setWidth 32 := h .sn
    have hsn' : r.sn = s.sn := by
      simpa using congrArg (BitVec.setWidth 24) hsn
    cases r
    cases s
    simp_all only [Info.mk.injEq]
    exact ⟨h .avcSwitchState, h .deviceType, h .timeoutExec, h .timeoutCmd, h .addr, trivial⟩

lemma Info.fits_of_ne_sn {k : ConfigT} (hk : k ≠ .sn) (v : k.Value) : Info.fields.Fits k v := by
  intro r
  cases k <;> first | rfl | exact (hk rfl).elim

lemma Info.fits_sn_iff (v : ConfigT.Value .sn) : Info.fields.Fits .sn v ↔ v.toNat < 2 ^ 24 := by
  have hv (r : Info) : Info.fields.get .sn (Info.fields.set .sn v r) =
      (v.setWidth 24).setWidth 32 := rfl
  constructor
  · intro h
    have hh := hv ⟨0, 0, 0, 0, 0, 0⟩
    rw [h] at hh
    rw [hh]
    exact (BitVec.toNat_setWidth_of_le (by norm_num)).trans_lt (v.setWidth 24).isLt
  · intro h r
    rw [hv]
    apply BitVec.eq_of_toNat_eq
    simp only [BitVec.toNat_setWidth]
    omega

abbrev Image := Vector Byte 8

/-- The struct as it lies in memory: the bit-fields `addr : 8, sn : 24` share a little-endian word. -/
def Info.encode (i : Info) : Image :=
  #v[i.avcRelayState, i.devType, i.timeoutExec, i.timeoutCmd, i.addr,
    i.sn.extractLsb' 0 8, i.sn.extractLsb' 8 8, i.sn.extractLsb' 16 8]

def Info.decode (m : Image) : Info where
  avcRelayState := m[0]
  devType := m[1]
  timeoutExec := m[2]
  timeoutCmd := m[3]
  addr := m[4]
  sn := m[7] ++ m[6] ++ m[5]

lemma bytes_append (a b c : Byte) :
    (a ++ b ++ c).extractLsb' 0 8 = c ∧ (a ++ b ++ c).extractLsb' 8 8 = b ∧
      (a ++ b ++ c).extractLsb' 16 8 = a := by
  refine ⟨?_, ?_, ?_⟩ <;>
  · apply BitVec.eq_of_getLsbD_eq
    intro i hi
    simp only [BitVec.getLsbD_extractLsb', BitVec.getLsbD_append]
    interval_cases i <;> simp

lemma append_bytes (x : BitVec 24) :
    x.extractLsb' 16 8 ++ x.extractLsb' 8 8 ++ x.extractLsb' 0 8 = x := by
  apply BitVec.eq_of_getLsbD_eq
  intro i hi
  simp only [BitVec.getLsbD_extractLsb', BitVec.getLsbD_append]
  interval_cases i <;> simp

@[simp] lemma Info.decode_encode (i : Info) : Info.decode i.encode = i := by
  simpa [Info.decode, Info.encode] using congrArg _ (append_bytes i.sn)

@[simp] lemma Info.encode_decode (m : Image) : (Info.decode m).encode = m := by
  obtain ⟨h0, h1, h2⟩ := bytes_append m[7] m[6] m[5]
  simp only [Info.encode, Info.decode, h0, h1, h2]
  ext i hi
  interval_cases i <;> rfl

def Info.image : Info ≃ Image := ⟨Info.encode, Info.decode, Info.decode_encode, Info.encode_decode⟩

end YkLock
