import YkLock.Model.Button
import YkLock.Proofs.DeviceSteps
import YkLock.Proofs.HandlerRules
import YkLock.Proofs.ReceiveBuffers
import YkLock.Library.Runs

/-! The frames the device sends, and their way through the channel. -/

namespace YkLock

open Library.StatePrograms Library.Runs

variable {D : Type} {b : Board D}

structure WellFormed (buff : List Byte) : Prop where
  lower : 8 ≤ buff.length
  upper : buff.length ≤ 11
  length : (buff.getD 3 0).toNat = buff.length - 5
  crc : buff.getLast? = some (crc8 buff.dropLast)

lemma Reply.wellFormed {body : List Byte} (h : Reply body) : WellFormed (withCrc body) := by
  obtain ⟨hlower, hupper, hlength⟩ := h
  refine ⟨?_, ?_, ?_, by simp [withCrc]⟩
  · simp only [withCrc, List.length_append, List.length_singleton]
    omega
  · simp only [withCrc, List.length_append, List.length_singleton]
    omega
  · rw [withCrc, List.getD_append _ _ _ _ (by omega), hlength]
    simp

def SendsWellFormed (w w' : World D) : Prop :=
  ∃ l, w'.sent = l ++ w.sent ∧ ∀ buff ∈ l, WellFormed buff

instance : Std.Refl (SendsWellFormed (D := D)) := inferInstanceAs (Std.Refl (Sends WellFormed))

instance : IsTrans (World D) SendsWellFormed := inferInstanceAs (IsTrans _ (Sends WellFormed))

lemma wellFormed_coded : CodedCommands b (Sends WellFormed) (fun _ => True) fun _ => True :=
  sends_commands fun _ hb _ => hb.wellFormed

lemma wellFormed_commands : Commands b SendsWellFormed fun _ => True where
  toStores := wellFormed_coded.toStores
  toWired := (wellFormed_coded (b := b)).toWired
  reply _ hb := channelWrite_sends hb.wellFormed

section Device

lemma boot_sends (w : World D) : SendsWellFormed w (boot b w) := by
  obtain ⟨pins, hboot⟩ := boot_run (b := b) (w := w) rfl
  have hinit : SendsWellFormed w.cleared ((configInit b).run w.cleared).2 := by
    apply sends_none
    rcases hr : b.at24cxx.read w.cleared.dev with ⟨_ | image, d⟩ <;> simp [configInit, hr]
  obtain ⟨l, hl, hwf⟩ := IsTrans.trans _ _ _ hinit (lockInfoUpdate_moves (b := b) sends_config _)
  rw [hboot]
  exact ⟨l, hl, hwf⟩

lemma threadBtnPress_sends : Moves SendsWellFormed (threadBtnPress b) := by
  refine Moves.bind Moves.get fun _ => Moves.ite (fun _ => Moves.pure _) fun _ => ?_
  change Moves SendsWellFormed (getAddr b >>= fun addr => avcRelayCheck b >>= fun check =>
    channelWrite (withCrc [0, 0, 0, 0x03, 0x32, addr, if check then 0x01 else 0x10]) >>= fun _ =>
      pure true)
  refine Moves.bind (getConfig_moves sends_config _) fun _ => ?_
  refine Moves.bind (rtPinRead_moves (wellFormed_commands (b := b)).pinRead _) fun _ => ?_
  exact Moves.bind (channelWrite_sends (Reply.wellFormed ⟨by simp, by simp, rfl⟩)) fun _ => Moves.pure _

inductive Stimulus
  | event (e : Event)
  | press

def stimulate (b : Board D) (s : Stimulus) (w : World D) : World D :=
  match s with
  | .event e => event b e w
  | .press => ((threadBtnPress b).run w).2

lemma run_sends (ss : List Stimulus) (w : World D) :
    SendsWellFormed w (run (stimulate b) ss w) := by
  refine run_relates (fun s _ w => ?_) w
  cases s with
  | event e => exact event_moves wellFormed_commands.handles boot_sends e w
  | press => exact threadBtnPress_sends w

end Device

section Channel

lemma frameId_toNat (x y z : Byte) : (canTxDefaultMessage.id +
    (x.setWidth 32 <<< 16 + y.setWidth 32 <<< 8 + z.setWidth 32 <<< 0 : Word).setWidth 29).toNat =
      x.toNat * 65536 + y.toNat * 256 + z.toNat := by
  have hx := x.isLt
  have hy := y.isLt
  have hz := z.isLt
  have hdefault : canTxDefaultMessage.id.toNat = 0 := rfl
  simp only [hdefault, BitVec.toNat_setWidth, BitVec.toNat_add, BitVec.toNat_shiftLeft,
    Nat.shiftLeft_eq]
  omega

lemma byteAt_of_toNat {id : BitVec 29} {x y z : Byte}
    (h : id.toNat = x.toNat * 65536 + y.toNat * 256 + z.toNat) :
    byteAt (id.setWidth 32) 16 = x ∧ byteAt (id.setWidth 32) 8 = y ∧
      byteAt (id.setWidth 32) 0 = z := by
  have hx := x.isLt
  have hy := y.isLt
  have hz := z.isLt
  refine ⟨?_, ?_, ?_⟩ <;>
  · apply BitVec.eq_of_toNat_eq
    rw [byteAt, BitVec.toNat_setWidth, BitVec.toNat_ushiftRight, Nat.shiftRight_eq_div_pow,
      BitVec.toNat_setWidth_of_le (by norm_num), h]
    omega

def CrossesChannel (buff : List Byte) : Prop :=
  ∃ txMsg, canChannelWrite buff = some txMsg ∧ txMsg.id.toNat < 2 ^ 24 ∧ txMsg.len.toNat ≤ 8 ∧
    canChannelRead txMsg (txMsg.len.toNat + 3) = buff

lemma crossesChannel {buff : List Byte} (hlower : 3 ≤ buff.length) (hupper : buff.length ≤ 11) :
    CrossesChannel buff := by
  obtain ⟨x, y, z, data, rfl⟩ : ∃ x y z data, buff = x :: y :: z :: data := by
    match buff, hlower with
    | x :: y :: z :: data, _ => exact ⟨x, y, z, data, rfl⟩
  have hx := x.isLt
  have hy := y.isLt
  have hz := z.isLt
  have hid := frameId_toNat x y z
  have hdata : data.length ≤ 8 := by
    simp only [List.length_cons] at hupper
    omega
  have hlen : (BitVec.ofNat 8 ((x :: y :: z :: data).length - 3)).toNat = data.length := by
    simp only [List.length_cons, BitVec.toNat_ofNat]
    omega
  refine ⟨_, if_neg (not_lt.mpr hlower), ?_, hlen.trans_le hdata, (bytes_eq _).trans ?_⟩
  · refine hid.trans_lt ?_
    omega
  · rw [hlen]
    simp only [List.cons.injEq]
    obtain ⟨h0, h1, h2⟩ := byteAt_of_toNat hid
    refine ⟨h0, h1, h2, List.ext_getElem (by simp) fun i _ hi => ?_⟩
    simp [hi, Nat.add_comm 3 i]

/-- What the parser of another node checks before it looks at the function code. -/
def PassesChecks (buff : List Byte) : Prop :=
  ∀ txMsg tail, canChannelWrite buff = some txMsg →
    CrcOk ⟨canChannelRead txMsg (txMsg.len.toNat + 3), tail⟩ ∧
      LengthOk ⟨canChannelRead txMsg (txMsg.len.toNat + 3), tail⟩

lemma WellFormed.passesChecks {buff : List Byte} (h : WellFormed buff) : PassesChecks buff := by
  intro txMsg tail hw
  have hlower := h.lower
  obtain ⟨txMsg', hw', -, -, hread⟩ := crossesChannel (by omega) h.upper
  rw [hw] at hw'
  obtain rfl := Option.some.inj hw'
  have hne : buff ≠ [] := by
    rintro rfl
    simp at hlower
  have hsplit : buff.dropLast ++ [crc8 buff.dropLast] = buff := by
    have hlast : buff.getLast hne = crc8 buff.dropLast := by
      have hcrc := h.crc
      rw [List.getLast?_eq_some_getLast hne] at hcrc
      exact Option.some.inj hcrc
    rw [← hlast, List.dropLast_append_getLast]
  rw [hread]
  constructor
  · rw [crcOk_iff (by simp only [Buffer.len]; omega)]
    rw [← hsplit]
    simp [Buffer.get, Buffer.len]
  · rw [lengthOk_iff (by simp only [Buffer.len]; omega)]
    have h3 : 3 < buff.length := by omega
    simpa [Buffer.get, Buffer.len, h3] using h.length

end Channel

theorem sent_frames_well_formed (b : Board D) (w : World D) (ss : List Stimulus) :
    (∃ l, (run (stimulate b) ss w).sent = l ++ w.sent ∧
      ∀ buff ∈ l, WellFormed buff ∧ PassesChecks buff) ∧
    ∀ buff : List Byte, 3 ≤ buff.length → buff.length ≤ 11 → CrossesChannel buff := by
  obtain ⟨l, hl, hwf⟩ := run_sends (b := b) ss w
  exact ⟨⟨l, hl, fun buff hb => ⟨hwf buff hb, (hwf buff hb).passesChecks⟩⟩,
    fun _ hlower hupper => crossesChannel hlower hupper⟩

end YkLock
