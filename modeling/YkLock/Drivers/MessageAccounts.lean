import YkLock.Drivers.MessagePool

/-! The arrived messages over any order of interrupts and reads: each was taken by one reader, is
queued, or is counted as dropped. -/

namespace YkLock

open Library.Runs

def RxPool.frames (s : RxPool) : List Arrival := s.arrived.zipIdx.map Prod.swap

def RxPool.queue (s : RxPool) : List Arrival := s.can.rxFifo.uselist.map s.can.rxFifo.data

/-- The readers do not hold all the entries when a message arrives. -/
def PoolAction.Room (msgboxsz : ℕ) (a : PoolAction) (s : RxPool) : Prop :=
  match a with
  | .isr _ _ => s.held.length < msgboxsz
  | .take _ => True
  | .give _ => True

instance (msgboxsz : ℕ) (a : PoolAction) (s : RxPool) : Decidable (a.Room msgboxsz s) :=
  match a with
  | .isr _ _ => inferInstanceAs (Decidable (_ < _))
  | .take _ | .give _ => inferInstanceAs (Decidable True)

structure Balanced (s : RxPool) : Prop where
  rcvpkg : s.can.rcvpkg = BitVec.ofNat 32 s.arrived.length
  queue : List.Sublist s.queue s.frames
  parts : ∃ dropped, (s.taken ++ s.queue ++ dropped).Perm s.frames ∧
    s.can.dropedrcvpkg = BitVec.ofNat 32 (s.overruns + dropped.length)

section Steps

variable {msgboxsz : ℕ} {s : RxPool}

lemma frames_poolIsr (rxof : Bool) (msg : CanMsg) (b : ℕ) :
    (poolIsr rxof (some (msg, b)) s).frames = s.frames ++ [(s.arrived.length, msg)] := by
  simp [RxPool.frames, poolIsr, List.zipIdx_append]

lemma map_update (l : List ℕ) (data : ℕ → Arrival) {e : ℕ} (he : e ∉ l) (msg : Arrival) :
    l.map (Function.update data e msg) = l.map data := by
  refine List.map_congr_left fun x hx => Function.update_of_ne ?_ _ _
  rintro rfl
  exact he hx

lemma Intact.queue_isr (h : Intact msgboxsz s) (hheld : s.held.length < msgboxsz) (rxof : Bool)
    (msg : CanMsg) (b : ℕ) :
    (poolIsr rxof (some (msg, b)) s).can.rcvpkg = s.can.rcvpkg + 1 ∧
      ((s.can.rxFifo.freelist ≠ [] ∧
        (poolIsr rxof (some (msg, b)) s).queue = s.queue ++ [(s.arrived.length, msg)] ∧
        (poolIsr rxof (some (msg, b)) s).can.dropedrcvpkg = (s.can.counted rxof).dropedrcvpkg) ∨
      (s.can.rxFifo.freelist = [] ∧ ∃ first rest, s.queue = first :: rest ∧
        (poolIsr rxof (some (msg, b)) s).queue = rest ++ [(s.arrived.length, msg)] ∧
        (poolIsr rxof (some (msg, b)) s).can.dropedrcvpkg =
          (s.can.counted rxof).dropedrcvpkg + 1)) := by
  obtain ⟨e, can, hfound, hisr⟩ := h.isr_cases hheld rxof (s.arrived.length, msg) b
  have hcan : (poolIsr rxof (some (msg, b)) s).can =
      isrUseEntry e (s.arrived.length, msg) b (can.without e) := congrArg Prod.snd hisr
  have hqueue : (poolIsr rxof (some (msg, b)) s).queue =
      (s.can.rxFifo.uselist.erase e).map s.can.rxFifo.data ++ [(s.arrived.length, msg)] := by
    rw [RxPool.queue, hcan, use_data, use_uselist, List.map_append, List.map_singleton,
      Function.update_self]
    change (can.rxFifo.uselist.erase e).map (Function.update can.rxFifo.data e _) ++ _ = _
    rw [map_update _ _ (hfound.linked.nodup.not_mem_erase), hfound.uselist, hfound.data]
  have hdropped : (poolIsr rxof (some (msg, b)) s).can.dropedrcvpkg = can.dropedrcvpkg := by
    rw [hcan, use_dropedrcvpkg]
    rfl
  rw [hqueue, hdropped]
  refine ⟨?_, ?_⟩
  · rw [hcan, use_rcvpkg]
    exact hfound.rcvpkg
  · rcases hfound.place with ⟨hfree, hnot, -, hdrop⟩ | ⟨hfree, -, hhead, -, hdrop⟩
    · refine Or.inl ⟨?_, ?_, hdrop⟩
      · rw [hfree]
        exact List.cons_ne_nil _ _
      · rw [List.erase_of_not_mem hnot]
        rfl
    · obtain ⟨rest, huse⟩ := List.head?_eq_some_iff.mp hhead
      refine Or.inr ⟨hfree, s.can.rxFifo.data e, rest.map s.can.rxFifo.data, ?_, ?_, hdrop⟩
      · rw [RxPool.queue, huse, List.map_cons]
      · rw [huse, List.erase_cons_head]

lemma ofNat_overruns (rxof : Bool) (droped : Word) (n k : ℕ)
    (h : droped = BitVec.ofNat 32 (n + k)) :
    (if rxof then droped + 1 else droped) = BitVec.ofNat 32 (n + rxof.toNat + k) := by
  cases rxof
  · exact h
  · rw [h, if_pos rfl, Bool.toNat_true, Nat.add_right_comm]
    exact (BitVec.ofNat_add _ 1).symm

lemma Balanced.isr (h : Balanced s) (hs : Intact msgboxsz s) (hheld : s.held.length < msgboxsz)
    (rxof : Bool) (tmpmsg : Option (CanMsg × ℕ)) : Balanced (poolIsr rxof tmpmsg s) := by
  obtain ⟨hrcv, hqueue, dropped, hparts, hdroped⟩ := h
  have hover := ofNat_overruns rxof s.can.dropedrcvpkg s.overruns dropped.length hdroped
  rcases tmpmsg with _ | ⟨msg, b⟩
  · have hsame : poolIsr rxof none s = { s with
        can := { s.can with
          dropedrcvpkg := if rxof then s.can.dropedrcvpkg + 1 else s.can.dropedrcvpkg }
        overruns := s.overruns + rxof.toNat } := by
      cases rxof <;> simp [poolIsr, rtHwCanIsrRx]
    rw [hsame]
    exact ⟨hrcv, hqueue, dropped, hparts, hover⟩
  · obtain ⟨hcount, hcase⟩ := hs.queue_isr hheld rxof msg b
    have hnew : ∀ {xs}, List.Sublist xs s.queue →
        List.Sublist (xs ++ [(s.arrived.length, msg)])
          (poolIsr rxof (some (msg, b)) s).frames := by
      intro xs hxs
      rw [frames_poolIsr]
      exact (hxs.trans hqueue).append (List.Sublist.refl _)
    have htaken : (poolIsr rxof (some (msg, b)) s).taken = s.taken := rfl
    constructor
    · change _ = BitVec.ofNat 32 (s.arrived ++ [msg]).length
      rw [hcount, hrcv, List.length_append, List.length_singleton]
      exact (BitVec.ofNat_add _ 1).symm
    · rcases hcase with ⟨-, hq, -⟩ | ⟨-, first, rest, hold, hq, -⟩
      · rw [hq]
        exact hnew (List.Sublist.refl _)
      · rw [hq]
        refine hnew ?_
        rw [hold]
        exact List.sublist_cons_self _ _
    · rcases hcase with ⟨-, hq, hdrop⟩ | ⟨-, first, rest, hold, hq, hdrop⟩
      · refine ⟨dropped, ?_, hdrop.trans hover⟩
        rw [frames_poolIsr, htaken, hq]
        refine List.Perm.trans ?_ (hparts.append_right _)
        rw [← List.append_assoc, List.append_assoc _ _ dropped, List.append_assoc _ dropped]
        exact List.perm_append_comm.append_left _
      · refine ⟨dropped ++ [first], ?_, ?_⟩
        · rw [frames_poolIsr, htaken, hq]
          refine List.Perm.trans ?_ (hparts.append_right _)
          rw [hold]
          simp only [List.append_assoc, List.cons_append, List.nil_append]
          refine List.Perm.append_left _ ?_
          calc (rest ++ (s.arrived.length, msg) :: (dropped ++ [first])).Perm
                (rest ++ (s.arrived.length, msg) :: (first :: dropped)) :=
              ((List.perm_append_singleton _ _).cons _).append_left _
            List.Perm _ (rest ++ first :: (s.arrived.length, msg) :: dropped) :=
              (List.Perm.swap _ _ _).append_left _
            List.Perm _ (first :: (rest ++ (s.arrived.length, msg) :: dropped)) :=
              List.perm_middle
            List.Perm _ (first :: (rest ++ (dropped ++ [(s.arrived.length, msg)]))) :=
              (((List.perm_append_singleton _ _).symm).append_left _).cons _
        · rw [hdrop]
          change (if rxof then s.can.dropedrcvpkg + 1 else s.can.dropedrcvpkg) + 1 = _
          rw [hover, List.length_append, List.length_singleton, ← Nat.add_assoc]
          exact (BitVec.ofNat_add _ 1).symm

lemma Balanced.take (h : Balanced s) (hs : Intact msgboxsz s) (hdr : ℤ) :
    Balanced (poolTake hdr s) := by
  obtain ⟨hrcv, hqueue, dropped, hparts, hdroped⟩ := h
  rw [poolTake]
  rcases canIntRxTake_cases hs.linked hdr with htake | ⟨e, hmem, htake⟩
  · rw [htake]
    exact ⟨hrcv, hqueue, dropped, hparts, hdroped⟩
  · rw [htake]
    constructor
    · exact hrcv
    · exact (List.Sublist.map _ List.erase_sublist).trans hqueue
    · refine ⟨dropped, ?_, hdroped⟩
      change (s.taken ++ [s.can.rxFifo.data e] ++
        (s.can.rxFifo.uselist.erase e).map s.can.rxFifo.data ++ dropped).Perm s.frames
      refine List.Perm.trans (List.Perm.append_right _ ?_) hparts
      rw [List.append_assoc]
      exact ((List.perm_cons_erase hmem).symm.map s.can.rxFifo.data).append_left _

lemma Balanced.step (h : Balanced s) (hs : Intact msgboxsz s) (a : PoolAction)
    (ha : a.Room msgboxsz s) : Balanced (poolStep a s) := by
  cases a with
  | isr rxof tmpmsg => exact h.isr hs ha rxof tmpmsg
  | take hdr => exact h.take hs hdr
  | give i =>
    change Balanced (poolGive i s)
    rw [poolGive]
    rcases s.held[i]? with _ | p
    · exact h
    · exact ⟨h.rcvpkg, h.queue, h.parts⟩

end Steps

/-- As long as the readers leave the interrupt an entry, every message that arrived was taken by one
reader, or is in the queue at its place in the order of arrival, or was dropped, and the counters of
the device say how many came and, with the overruns, how many were dropped. -/
theorem messages_accounted (msgboxsz maxhdr : ℕ) (connected ind : ℕ → Bool) (zero : CanMsg)
    (as : List PoolAction) (h : Enabled poolStep (PoolAction.Room msgboxsz) as
      (poolOpen msgboxsz maxhdr connected ind zero)) :
    Balanced (run poolStep as (poolOpen msgboxsz maxhdr connected ind zero)) := by
  have hstart : Balanced (poolOpen msgboxsz maxhdr connected ind zero) :=
    ⟨rfl, List.Sublist.refl _, [], List.Perm.refl _, rfl⟩
  refine (h.invariant (I := fun s => Intact msgboxsz s ∧ Balanced s) ?_
    ⟨intact_poolOpen maxhdr connected ind zero, hstart⟩).2
  exact fun a s hs ha => ⟨hs.1.step a s, hs.2.step hs.1 a ha⟩

theorem messages_accounted_full :
    let as : List PoolAction := [.isr false (some (canTxDefaultMessage, 0)), .take (-1),
      .isr true (some (canTxDefaultMessage, 0)), .isr false (some (canTxDefaultMessage, 0)), .give 0]
    Balanced (run poolStep as
      (poolOpen 2 1 (fun _ => true) (fun _ => false) canTxDefaultMessage)) :=
  messages_accounted 2 1 _ _ _ _ (by decide)

end YkLock
