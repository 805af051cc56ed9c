import YkLock.Proofs.HandlerReads
import YkLock.Proofs.ReliableTransfers

/-! Frames that the parser or their handler refuses. -/

namespace YkLock

open Library.StatePrograms

variable {D : Type} {b : Board D} {content : D → Image}

structure Unaffected (content : D → Image) (w w' : World D) : Prop where
  sent : w'.sent = w.sent
  pins : w'.pins = w.pins
  record : w'.record content = w.record content
  info : w'.info = w.info
  avcState : w'.avcState = w.avcState
  reset : w'.reset = w.reset

def Refused (b : Board D) (d : Buffer) (w : World D) : Prop :=
  accepted w d = none ∨ ∃ i, accepted w d = some i ∧
    ((protocolHandler b ⟨i, d⟩).run ((protocolParser d).run w).2).1 = .error

lemma unaffected_reads (w : World D) (indices : List ℕ) :
    Unaffected content w { w with reads := indices } := ⟨rfl, rfl, rfl, rfl, rfl, rfl⟩

lemma Unaffected.trans {w w' w'' : World D} (h : Unaffected content w w')
    (h' : Unaffected content w' w'') : Unaffected content w w'' :=
  ⟨h'.sent.trans h.sent, h'.pins.trans h.pins, h'.record.trans h.record, h'.info.trans h.info,
    h'.avcState.trans h.avcState, h'.reset.trans h.reset⟩

lemma getConfig_unaffected (hread : ∀ d, content (b.at24cxx.read d).2 = content d) (k : ConfigT)
    (w : World D) : Unaffected content w ((getConfig b k).run w).2 := by
  have hdev := hread w.dev
  rw [getConfig_run]
  rcases hr : b.at24cxx.read w.dev with ⟨_ | image, d⟩
  · rw [hr] at hdev
    exact ⟨rfl, rfl, congrArg Info.decode hdev, rfl, rfl, rfl⟩
  · rw [hr] at hdev
    exact ⟨rfl, rfl, congrArg Info.decode hdev, rfl, rfl, rfl⟩

def HarmlessError (content : D → Image) (w : World D) (m : Fw D RtErr) : Prop :=
  Triple (Unaffected content w) m fun r w' => r = .error → Unaffected content w w'

section Handlers

variable (d : Buffer) (w : World D)

lemma at_unaffected (i : ℕ) :
    Returns (Unaffected content w) (d.at i) (d.get i) (Unaffected content w) :=
  fun s hs => ⟨rfl, hs.trans (unaffected_reads s _)⟩

lemma error_harmless : HarmlessError content w (pure .error) := Triple.pure fun _ hs _ => hs

lemma funcYkModifyAddr_harmless (hread : ∀ d, content (b.at24cxx.read d).2 = content d) :
    HarmlessError content w (funcYkModifyAddr b d) := by
  have hsn : Triple (Unaffected content w) (getSn b) fun _ => Unaffected content w :=
    fun s hs => hs.trans (getConfig_unaffected hread .sn s)
  have hat : Triple (Unaffected content w) (d.snAt 6) fun _ => Unaffected content w :=
    fun s hs => hs.trans (unaffected_reads s _)
  refine (at_unaffected d w 5).bind (hat.bind fun _ => hsn.bind fun _ => ?_)
  refine Triple.ite (fun _ => error_harmless w) fun _ => ?_
  intro s _ he
  cases he

lemma funcAvcControlCommand_harmless : HarmlessError content w (funcAvcControlCommand b d) := by
  refine (at_unaffected d w 5).bind (Triple.ite (fun _ => ?_) fun _ =>
    Triple.ite (fun _ => ?_) fun _ => error_harmless w)
  · intro s _ he
    cases he
  · intro s _ he
    cases he

lemma funcAvcControlRequest_harmless : HarmlessError content w (funcAvcControlRequest b d) := by
  refine (at_unaffected d w 5).bind ((at_unaffected d w 6).bind (Triple.ite (fun _ => ?_) fun _ =>
    error_harmless w))
  refine Triple.ite (fun _ => ?_) fun _ => Triple.ite (fun _ => ?_) fun _ => error_harmless w
  · intro s _ he
    cases he
  · intro s _ he
    cases he

lemma protocolHandler_harmless (hread : ∀ d, content (b.at24cxx.read d).2 = content d)
    (i : HandlerIndex) : HarmlessError content w (protocolHandler b ⟨i, d⟩) := by
  cases i with
  | ykModifyAddr => exact funcYkModifyAddr_harmless d w hread
  | avcControlCommand => exact funcAvcControlCommand_harmless d w
  | avcControlRequest => exact funcAvcControlRequest_harmless d w
  | _ =>
    intro s _ he
    cases he

end Handlers

theorem refused_frame_has_no_effect (b : Board D) (content : D → Image) (d : Buffer) (w : World D)
    (hread : ∀ d, content (b.at24cxx.read d).2 = content d) (h : Refused b d w) :
    Unaffected content w ((rxCb b d).run w).2 := by
  by_cases hd : w.installed = true → accepted w d = none
  · obtain ⟨indices, hrun⟩ := rxCb_run_of_refused (b := b) hd
    rw [hrun]
    exact unaffected_reads w indices
  · obtain ⟨hw, hd⟩ := Classical.not_imp.mp hd
    obtain ⟨i, hi, he⟩ := h.resolve_left hd
    rw [protocolParser_run] at he
    rw [rxCb_run_of_accepted hw hi]
    exact protocolHandler_harmless d w hread i _ (unaffected_reads w _) he

theorem refused_opt_has_no_effect : Unaffected id startedAvc
    ((rxCb (bench followingRelay) ⟨withCrc [0x19, 0x00, 0x01, 0x02, 0x35, 0x02], fun _ => 0⟩).run
      startedAvc).2 :=
  refused_frame_has_no_effect _ id _ _ (fun _ => rfl)
    (Or.inr ⟨.avcControlCommand, by decide +kernel, by decide +kernel⟩)

end YkLock
