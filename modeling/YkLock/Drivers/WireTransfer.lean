import YkLock.Drivers.FilterBanks
import YkLock.Proofs.AddressSelectivity
import YkLock.Proofs.SentFrames

/-! From `can_channel_write` on one node to the parser of another, over the registers of both
controllers. -/

namespace YkLock

variable {D : Type} {b : Board D}

lemma SameFrame.bytes {msg pmsg : CanMsg} (h : SameFrame msg pmsg) (hrtr : pmsg.rtr = false) :
    msg.bytes = pmsg.bytes := by
  have hdata : (List.range msg.len.toNat).map msg.data =
      (List.range pmsg.len.toNat).map pmsg.data := by
    rw [h.len]
    exact List.map_congr_left fun i hi => h.data hrtr i (List.mem_range.mp hi)
  rw [bytes_eq, bytes_eq, h.id, hdata]

lemma canChannelWrite_flags {buff : List Byte} {txMsg : CanMsg}
    (h : canChannelWrite buff = some txMsg) : txMsg.ide = true ∧ txMsg.rtr = false := by
  rw [canChannelWrite] at h
  split at h
  · cases h
  · obtain rfl := Option.some.inj h
    exact ⟨rfl, rfl⟩

lemma canSendmsgBox_ext {pmsg : CanMsg} (hlen : pmsg.len.toNat ≤ 8) (hide : pmsg.ide = true)
    (box : CanTxMailBox) : ∃ tx, canSendmsgBox pmsg box = some tx := by
  have hstd : ¬ (pmsg.ide = false ∧ 0x7FF < pmsg.id.toNat) := by simp [hide]
  rw [canSendmsgBox, if_neg (Nat.not_lt.mpr hlen), if_neg hstd]
  exact ⟨_, rfl⟩

lemma boot_filter (w : World D) : (boot b w).filter ≠ [] ∧ (boot b w).filter.length ≤ 14 ∧
    ∀ item ∈ (boot b w).filter, item.ide = true := by
  rw [(boot_started b w).filter, mainFilter]
  split
  · exact ⟨List.cons_ne_nil _ _, by simp, by simp [rtCanFilterExtInit]⟩
  · exact ⟨List.cons_ne_nil _ _, by simp, by simp [rtCanFilterExtInit]⟩

/-- A frame given to `can_channel_write` is read byte for byte at every other node, and a started
node acts on it exactly if a filter bank of its controller accepts it and its parser takes it. -/
theorem frame_over_wire (b : Board D) (w : World D) {buff : List Byte} (hlower : 3 ≤ buff.length)
    (hupper : buff.length ≤ 11) (box : CanTxMailBox) :
    ∃ txMsg tx banks, canChannelWrite buff = some txMsg ∧ canSendmsgBox txMsg box = some tx ∧
      canSetFilter ((boot b w).filter.map CanFilterItem.init) canConfigBanks = some banks ∧
      ∀ rx behind, Carried tx rx → (rx.msg behind).bytes = buff ∧
        ∀ tail, Receives (boot b w) (rx.msg behind) tail ↔ (∃ n, (banks n).Accepts rx.rir) ∧
          (boot b w).installed = true ∧ (accepted (boot b w) ⟨buff, tail⟩).isSome = true := by
  obtain ⟨txMsg, hwrite, -, hlen, hread⟩ := crossesChannel hlower hupper
  obtain ⟨hide, hrtr⟩ := canChannelWrite_flags hwrite
  obtain ⟨tx, hsend⟩ := canSendmsgBox_ext hlen hide box
  obtain ⟨hne, hfilter, hext⟩ := boot_filter (b := b) w
  obtain ⟨banks, hset, hbanks⟩ := started_banks_accept_iff hne hfilter hext
  refine ⟨txMsg, tx, banks, hwrite, hsend, hset, fun rx behind hbus => ?_⟩
  have hsame := received_as_sent behind hsend hbus
  have hbytes : (rx.msg behind).bytes = buff := (hsame.bytes hrtr).trans hread
  refine ⟨hbytes, fun tail => ?_⟩
  rw [Receives, hbytes, hbanks behind hsend hbus]

theorem frame_over_wire_query : let buff := withCrc [0x03, 0, 5, 0x01, 0x01]
    ∃ txMsg tx banks, canChannelWrite buff = some txMsg ∧
      canSendmsgBox txMsg ⟨0, 0, 0, 0⟩ = some tx ∧
      canSetFilter (startedYk.filter.map CanFilterItem.init) canConfigBanks = some banks ∧
      ∀ rx behind, Carried tx rx → (rx.msg behind).bytes = buff ∧
        ∀ tail, Receives startedYk (rx.msg behind) tail ↔ (∃ n, (banks n).Accepts rx.rir) ∧
          startedYk.installed = true ∧ (accepted startedYk ⟨buff, tail⟩).isSome = true :=
  frame_over_wire (bench followingRelay) (powered ⟨0, 0, 5, 5, 0xD6, 1⟩) (by decide) (by decide) _

end YkLock
