import YkLock.Proofs.DeviceSteps
import YkLock.Library.Runs

/-! The device as a register machine. -/

namespace YkLock

open Library.Storage Library.StatePrograms Library.Runs

variable {D : Type}

structure Registers where
  addr : Byte
  sn : BitVec 24
  type : Fin 5
  timeoutExec : Byte
  timeoutCmd : Byte
  relay : Byte

def frameByte (frame : List Byte) (i : ℕ) : Byte := frame.getD i 0

def frameSn (frame : List Byte) (i : ℕ) : BitVec 24 :=
  frameByte frame i ++ frameByte frame (i + 1) ++ frameByte frame (i + 2)

def snBytes (sn : BitVec 24) : List Byte :=
  [sn.extractLsb' 16 8, sn.extractLsb' 8 8, sn.extractLsb' 0 8]

namespace Registers

def moved (code : Byte) (frame : List Byte) (r : Registers) : Registers :=
  if code = 0x07 then { r with sn := frameSn frame 6, type := 0 }
  else if code = 0x37 then { r with sn := frameSn frame 6, type := 4 }
  else if code = 0x03 ∨ code = 0x23 then
    if frameSn frame 6 = r.sn then { r with addr := frameByte frame 5 } else r
  else if code = 0x2A then
    { r with timeoutExec := frameByte frame 5, timeoutCmd := frameByte frame 6 }
  else if code = 0x35 then
    if frameByte frame 5 = 0x10 then { r with relay := 1 }
    else if frameByte frame 5 = 0x01 then { r with relay := 0 }
    else r
  else r

def step (frame : List Byte) (r : Registers) : Registers := r.moved (frameByte frame 4) frame

def state (code s : Byte) (r : Registers) : List Byte :=
  withCrc ([0, 0, 0, 0x06, code, r.addr] ++ snBytes r.sn ++ [s])

def answers (r : Registers) (code : Byte) (frame : List Byte) (s s' : Byte) (r' : Registers) :
    List (List Byte) :=
  if code = 0x01 ∨ code = 0x04 ∨ code = 0x21 ∨ code = 0x25 ∨ code = 0x31 then [r.state code s]
  else if code = 0x3F then [r.state 0x31 s]
  else if code = 0x02 then [withCrc [0, 0, 0, 0x03, 0x02, r.addr, s]]
  else if code = 0x07 then [withCrc ([0, 0, 0, 0x05, 0x07, 0x00] ++ snBytes r'.sn)]
  else if code = 0x37 then [withCrc ([0, 0, 0, 0x06, 0x37, r'.addr] ++ snBytes r'.sn ++ [0x10])]
  else if code = 0x23 then
    [withCrc ([0, 0, 0, 0x06, 0x23, r'.addr] ++ snBytes (frameSn frame 6) ++ [0])]
  else if code = 0x2A then
    [withCrc [0, 0, 0, 0x06, 0x2A, r'.addr, r.timeoutExec, r.timeoutCmd, r'.timeoutExec,
      r'.timeoutCmd]]
  else if code = 0x35 ∧ (frameByte frame 5 = 0x10 ∨ frameByte frame 5 = 0x01) then
    [withCrc [0, 0, 0, 0x05, 0x35, 0x03, r.addr, s, s']]
  else []

def replies (frame : List Byte) (s s' : Byte) (r : Registers) : List (List Byte) :=
  r.answers (frameByte frame 4) frame s s' (r.step frame)

def info (r : Registers) : Info where
  avcRelayState := r.relay
  devType := BitVec.ofNat 8 r.type
  timeoutExec := r.timeoutExec
  timeoutCmd := r.timeoutCmd
  addr := r.addr
  sn := r.sn

end Registers

structure Matches (content : D → Image) (r : Registers) (w : World D) : Prop where
  record : w.record content = r.info
  cache : w.cache = r.info
  addr : w.info.addr = r.addr
  sn : w.info.sn = r.sn.setWidth 32
  lockType : w.info.lockType.toByte = BitVec.ofNat 8 r.type
  devId : some w.info.devId = deviceIdTable[r.type.val]?

/-- An accepted frame with its full payload, other than the two that read it elsewhere or act twice. -/
def Regular (d : Buffer) (w : World D) : Prop :=
  (accepted w d).isSome = true ∧ minLen (d.get 4) ≤ d.len ∧ d.get 4 ≠ 0x32 ∧ d.get 4 ≠ 0x33

instance (d : Buffer) (w : World D) : Decidable (Regular d w) :=
  inferInstanceAs (Decidable (_ ∧ _))

lemma frameByte_eq {d : Buffer} {i : ℕ} (hi : i < d.len) : d.get i = frameByte d.bytes i := by
  rw [frameByte, d.get_of_lt hi, List.getD_eq_getElem _ _ hi]

lemma frameSn_eq {d : Buffer} {i : ℕ} (hi : i + 2 < d.len) : d.sn i = frameSn d.bytes i := by
  rw [Buffer.sn, frameSn, frameByte_eq (by omega), frameByte_eq (by omega), frameByte_eq hi]

lemma info_devType_le (r : Registers) : r.info.devType.toNat ≤ 5 := by
  have hr := r.type.isLt
  simp only [Registers.info, BitVec.toNat_ofNat]
  omega

lemma command_info {r : Registers} {i : HandlerIndex} {d : Buffer} (hcode : d.get 4 = i.funcCode)
    (hlen : minLen (d.get 4) ≤ d.len) (h5 : 5 ≤ d.len) (h32 : d.get 4 ≠ 0x32)
    (h33 : d.get 4 ≠ 0x33) : r.info.command i d = (r.step d.bytes).info := by
  have hframe : frameByte d.bytes 4 = i.funcCode := (frameByte_eq (by omega)).symm.trans hcode
  have hmin {n : ℕ} (hn : minLen i.funcCode = n) : n ≤ d.len := by
    rw [← hn, ← hcode]
    exact hlen
  have hsn (h : 9 ≤ d.len) : d.sn 6 = frameSn d.bytes 6 := frameSn_eq (by omega)
  have hfive (h : 6 ≤ d.len) : d.get 5 = frameByte d.bytes 5 := frameByte_eq (by omega)
  have hsix (h : 7 ≤ d.len) : d.get 6 = frameByte d.bytes 6 := frameByte_eq (by omega)
  have hfollow (sn : BitVec 24) (type : LockType) : Info.follow { r.info with sn := sn } type =
      { r.info with sn := sn, devType := type.toByte } :=
    Info.follow_of_valid (r := { r.info with sn := sn }) (info_devType_le r) type
  rw [Registers.step, hframe]
  cases i with
  | ykModifyAddr =>
    have h10 : 10 ≤ d.len := hmin rfl
    change (if d.sn 6 = r.sn then _ else _) = (if frameSn d.bytes 6 = r.sn then _ else _ : Registers).info
    rw [hsn (by omega), hfive (by omega)]
    split <;> rfl
  | ykProductionModifySn =>
    have h10 : 10 ≤ d.len := hmin rfl
    rw [Info.command, hfollow, hsn (by omega)]
    rfl
  | avcControlCommand =>
    have h7 : 7 ≤ d.len := hmin rfl
    change (if d.get 5 = 0x10 then _ else if d.get 5 = 0x01 then _ else _) =
      (if frameByte d.bytes 5 = 0x10 then _ else if frameByte d.bytes 5 = 0x01 then _ else _ : Registers).info
    rw [hfive (by omega)]
    split
    · rfl
    · split <;> rfl
  | avcControlRequest => exact (h32 hcode).elim
  | avcModifyAddrType => exact (h33 hcode).elim
  | avcModifySn =>
    have h10 : 10 ≤ d.len := hmin rfl
    rw [Info.command, hfollow, hsn (by omega)]
    rfl
  | coldLockModifyTimeout =>
    have h8 : 8 ≤ d.len := hmin rfl
    rw [Info.command, hfive (by omega), hsix (by omega)]
    rfl
  | coldLockModifyAddr =>
    have h10 : 10 ≤ d.len := hmin rfl
    change (if d.sn 6 = r.sn then _ else _) = (if frameSn d.bytes 6 = r.sn then _ else _ : Registers).info
    rw [hsn (by omega), hfive (by omega)]
    split <;> rfl
  | _ => rfl

lemma replies_info {r r' : Registers} {i : HandlerIndex} {d : Buffer}
    (hcode : d.get 4 = i.funcCode) (hlen : minLen (d.get 4) ≤ d.len) (h32 : d.get 4 ≠ 0x32)
    (h33 : d.get 4 ≠ 0x33) (s s' : Byte) :
    ∃ s₁ s₁', replies i d r.info r'.info s s' = r.answers i.funcCode d.bytes s₁ s₁' r' := by
  have hmin {n : ℕ} (hn : minLen i.funcCode = n) : n ≤ d.len := by
    rw [← hn, ← hcode]
    exact hlen
  cases i with
  | avcControlCommand =>
    have h7 : 7 ≤ d.len := hmin rfl
    refine ⟨s, s', ?_⟩
    have hfive : d.get 5 = frameByte d.bytes 5 := frameByte_eq (by omega)
    change (if d.get 5 = 0x10 ∨ d.get 5 = 0x01 then _ else _) =
      (if HandlerIndex.avcControlCommand.funcCode = 0x35 ∧
        (frameByte d.bytes 5 = 0x10 ∨ frameByte d.bytes 5 = 0x01) then _ else _)
    rw [hfive]
    simp only [HandlerIndex.funcCode, true_and]
    rfl
  | avcControlRequest => exact (h32 hcode).elim
  | avcModifyAddrType => exact (h33 hcode).elim
  | coldLockQueryAll => exact ⟨0, s', rfl⟩
  | coldLockControl => exact ⟨0, s', rfl⟩
  | coldLockModifyAddr =>
    have h10 : 10 ≤ d.len := hmin rfl
    refine ⟨s, s', ?_⟩
    rw [replies, frameSn_eq (by omega)]
    rfl
  | _ => exact ⟨s, s', rfl⟩

def Running (b : Board D) (content : D → Image) (r : Registers) (w : World D) : Prop :=
  ∃ v, Shows b content v w ∧ v.record = r.info ∧ v.installed = true ∧ v.reset = false ∧
    ∃ t, v.set = (protocolSet t).getD []

lemma Running.matches {b : Board D} {content : D → Image} {r : Registers} {w : World D}
    (h : Running b content r w) : Matches content r w := by
  obtain ⟨v, hv, hr, -⟩ := h
  have hinfo : w.info = r.info.lockInfo b := by rw [hv.info, hr]
  have htype : (LockType.sanitised r.info.devType).toByte = BitVec.ofNat 8 r.type :=
    (sanitised_toByte_iff _).mpr (info_devType_le r)
  refine ⟨hv.record.trans hr, hv.cache.trans hr, by rw [hinfo]; rfl, by rw [hinfo]; rfl, ?_, ?_⟩
  · rw [hinfo]
    exact htype
  · have hlt : r.type.val < deviceIdTable.length := r.type.isLt
    have hval : (BitVec.ofNat 8 r.type).toNat = r.type.val :=
      Nat.mod_eq_of_lt (r.type.isLt.trans (by norm_num))
    have hid : w.info.devId = getDeviceIdByLockType b (.sanitised r.info.devType) := by rw [hinfo]; rfl
    rw [hid, getDeviceIdByLockType, htype, hval, List.getD_eq_getElem _ _ hlt,
      List.getElem?_eq_getElem hlt]

lemma protocolSet_isSome (r : Registers) :
    (protocolSet (.sanitised r.info.devType)).isSome = true := by
  have htype : (LockType.sanitised r.info.devType).toByte = BitVec.ofNat 8 r.type :=
    (sanitised_toByte_iff _).mpr (info_devType_le r)
  cases ht : LockType.sanitised r.info.devType with
  | deviceTypeMax =>
    have hval := congrArg BitVec.toNat htype
    have hr := r.type.isLt
    rw [ht, BitVec.toNat_ofNat, Nat.mod_eq_of_lt (by omega)] at hval
    exact absurd hr (by rw [← hval]; decide)
  | _ => rfl

lemma running_of_boot {b : Board D} {content : D → Image} {r : Registers} {v : View}
    {w : World D} (hr : v.record = r.info) (hw : Shows b content (v.boot b) w) : Running b content r w :=
  ⟨_, hw, hr, by rw [View.boot, hr]; exact protocolSet_isSome r, rfl, _, rfl⟩

section Simulation

variable {b : Board D} {content : D → Image} (h : b.at24cxx.Reliable content)
include h

lemma running_boot {r : Registers} {w : World D} (hr : w.record content = r.info) :
    Running b content r (boot b w) :=
  running_of_boot (v := ⟨r.info, [], false, [], w.sent, false⟩) rfl (boot_shows h hr rfl)

lemma running_step {r : Registers} {w : World D} {d : Buffer} (hw : Running b content r w)
    (hd : Regular d w) : Running b content (r.step d.bytes) (deliver b d w) ∧
      ∃ s s', (deliver b d w).sent = r.replies d.bytes s s' ++ w.sent := by
  obtain ⟨v, hv, hr, hinst, hreset, t, ht⟩ := hw
  obtain ⟨hacc, hlen, h32, h33⟩ := hd
  obtain ⟨i, hi⟩ := Option.isSome_iff_exists.mp hacc
  rw [accepted_eq, hv.info, hv.set] at hi
  obtain ⟨⟨-, hl, -⟩, hlookup⟩ := parse_eq_some_iff.mp hi
  rw [ht, lookup_eq_some_iff] at hlookup
  have hcode : d.get 4 = i.funcCode := funcCode_eq hlookup
  have h5 := lengthOk_len hl
  obtain ⟨s, s', hshows⟩ := deliver_shows h hv hinst hi
  have hcommand : v.record.command i d = (r.step d.bytes).info := by
    rw [hr]
    exact command_info hcode hlen h5 h32 h33
  have hsent (w' : World D) (hw' : w'.sent = (v.command i d s s').sent) :
      ∃ s s', w'.sent = r.replies d.bytes s s' ++ w.sent := by
    obtain ⟨s₁, s₁', hreplies⟩ := replies_info hcode hlen h32 h33 s s'
    refine ⟨s₁, s₁', ?_⟩
    rw [hw', View.command, hcommand, hr, hreplies, Registers.replies, hv.sent,
      ← frameByte_eq (by omega), hcode]
  rw [View.deliver] at hshows
  by_cases hrestart : (v.command i d s s').reset = true
  · rw [if_pos hrestart] at hshows
    exact ⟨running_of_boot hcommand hshows, hsent _ hshows.sent⟩
  · rw [if_neg hrestart] at hshows
    exact ⟨⟨_, hshows, hcommand, hinst, Bool.not_eq_true _ ▸ hrestart, t, ht⟩, hsent _ hshows.sent⟩

end Simulation

structure Refines (b : Board D) (content : D → Image) (frames : List Buffer) (r : Registers)
    (w : World D) : Prop where
  states : ∀ pre, pre <+: frames → Matches content
    (run (fun d => Registers.step d.bytes) pre r) (run (deliver b) pre w)
  replies : ∀ pre d, pre ++ [d] <+: frames → ∃ s s', (run (deliver b) (pre ++ [d]) w).sent =
    (run (fun d => Registers.step d.bytes) pre r).replies d.bytes s s' ++ (run (deliver b) pre w).sent

theorem device_refines_registers (b : Board D) (content : D → Image) (r : Registers) (w : World D)
    (frames : List Buffer) (h : b.at24cxx.Reliable content) (hr : w.record content = r.info)
    (hframes : Enabled (deliver b) Regular frames (boot b w)) :
    Refines b content frames r (boot b w) := by
  have hrun (pre : List Buffer) (hpre : pre <+: frames) : Running b content
      (run (fun d => Registers.step d.bytes) pre r) (run (deliver b) pre (boot b w)) := by
    obtain ⟨post, rfl⟩ := hpre
    have hstep : ∀ (d : Buffer) (r : Registers) (w : World D), Running b content r w →
        Regular d w → Running b content (r.step d.bytes) (deliver b d w) :=
      fun d r w hw hd => (running_step h hw hd).1
    have hpre := ((enabled_append _ _ _).mp hframes).1
    exact hpre.relate hstep (running_boot h hr)
  refine ⟨fun pre hpre => (hrun pre hpre).matches, fun pre d hpre => ?_⟩
  have hprefix : pre <+: frames := (List.prefix_append _ _).trans hpre
  obtain ⟨post, rfl⟩ := hpre
  have hd := ((enabled_append _ _ _).mp ((enabled_append _ _ _).mp hframes).1).2.1
  simpa using (running_step h (hrun pre hprefix) hd).2

theorem device_refines_registers_bench : Refines (bench followingRelay) id
    [⟨withCrc [0x19, 0x00, 0x01, 0x02, 0x35, 0x10], fun _ => 0⟩,
      ⟨withCrc [0x19, 0x00, 0x01, 0x05, 0x07, 0x00, 0x12, 0x34, 0x56], fun _ => 0⟩,
      ⟨withCrc [0x03, 0x00, 0x01, 0x05, 0x37, 0x00, 0x00, 0x00, 0x02], fun _ => 0⟩]
    ⟨1, 1, 4, 5, 5, 0⟩ (boot (bench followingRelay) (powered ⟨0, 4, 5, 5, 1, 1⟩)) :=
  device_refines_registers _ _ _ _ _ (bench_reliable _) (by decide +kernel) (by decide +kernel)

end YkLock
