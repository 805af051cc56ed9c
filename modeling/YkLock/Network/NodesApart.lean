import YkLock.Model.Network
import YkLock.Network.Unaddressed
import YkLock.Proofs.AddressSelectivity

/-! The nodes of one bus do not disturb each other. -/

namespace YkLock

open Library.Broadcast Library.Parties Library.Runs Library.StatePrograms

variable {D : Type} {b : Board D}

def FromNode (rxMsg : CanMsg) : Prop := rxMsg.id = 0

def Deaf (w : World D) : Prop :=
  ∀ rxMsg, FromNode rxMsg → ¬ ∃ item ∈ w.filter, item.passes rxMsg

lemma itemFor_deaf {addr devId : Byte} (hd : 0 < devId.toNat) (hlt : devId.toNat < 32)
    {rxMsg : CanMsg} (hm : FromNode rxMsg) : ¬ (itemFor addr devId).passes rxMsg := by
  intro hp
  have hid := ((itemFor_passes_iff addr devId rxMsg).mp hp).2.2
  have hnat := filterId_toNat addr devId hlt
  rw [← hid, hm] at hnat
  have hzero : (0 : BitVec 29).toNat = 0 := rfl
  omega

lemma coldItem_deaf {addr : Byte} {rxMsg : CanMsg} (hm : FromNode rxMsg) :
    ¬ (coldItem addr).passes rxMsg := by
  have hmask : (coldItem 0).id &&& (coldItem 0).mask.setWidth 29 ≠
      0 &&& (coldItem 0).mask.setWidth 29 := by
    decide
  rw [coldItem_passes addr 0]
  rintro ⟨-, -, hid⟩
  rw [hm] at hid
  exact hmask ((and_xor_eq_zero_iff _ _ _).mp hid)

lemma boot_deaf (w : World D) : Deaf (boot b w) := by
  obtain ⟨⟨sn, hinfo⟩, -, -, hfilter⟩ := boot_started b w
  intro rxMsg hm
  have hrecord : (boot b w).filter = mainFilter b ((recordOf (boot b w).info.addr
      (boot b w).info.lockType).lockInfo b) := by
    rw [recordOf_lockInfo, hfilter, hinfo]
    rfl
  rw [hrecord, mainFilter_listening]
  simp only [List.mem_cons, List.not_mem_nil, or_false, exists_eq_or_imp, exists_eq_left, not_or]
  refine ⟨?_, itemFor_deaf (by decide) (by decide) hm⟩
  split
  · exact coldItem_deaf hm
  · exact itemFor_deaf (by decide) (by decide) hm

section Steps

lemma deaf_commands : Commands b (Preserves (Deaf (D := D))) fun _ => True where
  get := configGet_moves fun _ _ _ _ => id
  modify c _ := configModify_moves (fun _ _ _ _ => id) c.1 c.2
  pinRead _ _ _ := id
  delay _ _ := id
  avcState _ _ := id
  pinWrite _ _ _ := id
  reads _ _ := id
  reset _ := id
  reply _ _ _ := id

lemma threadBtnPress_deaf : Moves (Preserves (Deaf (D := D))) (threadBtnPress b) := by
  refine Moves.bind Moves.get fun _ => Moves.ite (fun _ => Moves.pure _) fun _ => ?_
  refine Moves.bind (Moves.bind (getConfig_moves (fun _ _ _ _ => id) _) fun _ => ?_) fun _ => ?_
  · exact Moves.bind (rtPinRead_moves (fun _ _ _ => id) _) fun _ => Moves.pure _
  · exact Moves.bind (fun _ => id) fun _ => Moves.pure _

lemma boot_sent (w : World D) : (boot b w).sent = w.sent := by
  obtain ⟨d, c, hinit⟩ := configInit_touches b w.cleared
  obtain ⟨addr, sn, type, d', c', hupdate⟩ :=
    lockInfoUpdate_touches b { w.cleared with dev := d, cache := c }
  rw [← hinit] at hupdate
  obtain ⟨pins, hboot⟩ := boot_run hupdate
  rw [hboot, hinit]
  rfl

variable (b) (a : NodeAction) (n : Node D)

lemma Node.next_deaf (h : Deaf n.world) : Deaf (n.next b a).world := by
  have hs := (deaf_commands (b := b)).toStores
  cases a with
  | receive tail =>
    rw [Node.next, Node.receive]
    rcases n.uselist with _ | ⟨rxMsg, rest⟩
    · exact h
    · have hrx := rxCb_moves (deaf_commands (b := b)).handles ⟨rxMsg.bytes, tail⟩ n.world h
      dsimp only
      split
      · exact boot_deaf _
      · exact hrx
  | cmdModifyDevice type => exact cmdModifyDevice_moves hs (fun _ _ _ => trivial) n.world h
  | cmdModifyAddr addr => exact cmdModifyAddr_moves hs (fun _ _ => trivial) n.world h
  | cmdModifySn sn => exact cmdModifySn_moves hs (fun _ _ => trivial) n.world h
  | press => exact threadBtnPress_deaf n.world h
  | restart => exact boot_deaf n.world

lemma Node.next_sends : Sends Unaddressed n.world (n.next b a).world := by
  have hs := (unaddressed_handles (b := b)).toStores
  cases a with
  | receive tail =>
    rw [Node.next, Node.receive]
    rcases n.uselist with _ | ⟨rxMsg, rest⟩
    · exact sends_none rfl
    · have hrx := rxCb_unaddressed b ⟨rxMsg.bytes, tail⟩ n.world
      dsimp only
      split
      · exact IsTrans.trans _ _ _ hrx (sends_none (boot_sent _))
      · exact hrx
  | cmdModifyDevice type => exact cmdModifyDevice_moves hs (fun _ _ _ => trivial) n.world
  | cmdModifyAddr addr => exact cmdModifyAddr_moves hs (fun _ _ => trivial) n.world
  | cmdModifySn sn => exact cmdModifySn_moves hs (fun _ _ => trivial) n.world
  | press => exact threadBtnPress_unaddressed b n.world
  | restart => exact sends_none (boot_sent n.world)

lemma canChannelWrite_fromNode {buff : List Byte} (h : Unaddressed buff) {txMsg : CanMsg}
    (hw : canChannelWrite buff = some txMsg) : FromNode txMsg := by
  obtain ⟨data, rfl⟩ : ∃ data, buff = 0 :: 0 :: 0 :: data := by
    match buff, h with
    | [x, y, z], h => exact ⟨[], h⟩
    | x :: y :: z :: w :: data, h =>
      refine ⟨w :: data, ?_⟩
      have hxyz : [x, y, z] = [0, 0, 0] := h
      simp only [List.cons.injEq, and_true] at hxyz
      rw [hxyz.1, hxyz.2.1, hxyz.2.2]
  rw [canChannelWrite, if_neg (by simp)] at hw
  obtain rfl := Option.some.inj hw
  exact BitVec.eq_of_toNat_eq (frameId_toNat 0 0 0)

lemma written_fromNode {w w' : World D} (h : Sends Unaddressed w w') :
    ∀ rxMsg ∈ w.written w', FromNode rxMsg := by
  obtain ⟨l, hl, hu⟩ := h
  intro rxMsg hm
  rw [World.written, hl, List.length_append, Nat.add_sub_cancel, List.take_left,
    List.mem_filterMap] at hm
  obtain ⟨buff, hbuff, hw⟩ := hm
  exact canChannelWrite_fromNode (hu buff (List.mem_reverse.mp hbuff)) hw

end Steps

lemma Node.arrive_deaf (rxMsg : CanMsg) (n : Node D) (h : Deaf n.world) :
    Deaf (n.arrive rxMsg).world := by
  rw [Node.arrive]
  split
  · exact h
  · exact h

lemma Node.arrive_fromNode (rxMsg : CanMsg) (n : Node D) (hm : FromNode rxMsg)
    (h : Deaf n.world) : n.arrive rxMsg = n := if_neg (h rxMsg hm)

/-- Whatever the host sends and whatever happens at the nodes, in whatever order: every node is in
the state it would be in, and has sent what it would have sent, with the host alone on the bus. -/
theorem nodes_apart {T : Type} [DecidableEq T] (b : T → Board D) (w : T → World D)
    (as : List (Action T NodeAction CanMsg)) (t : T) :
    (run (networkStep b) as (networkStart b w)).view t =
      run (seenStep (Node.act (b t)) Node.arrive) (as.filterMap (Action.seen t))
        (⟨boot (b t) (w t), []⟩, []) := by
  have hact (u : T) (a : NodeAction) (n : Node D) (h : Deaf n.world) :
      Deaf (n.act (b u) a).1.world ∧ ∀ rxMsg ∈ (n.act (b u) a).2, FromNode rxMsg :=
    ⟨n.next_deaf (b u) a h, written_fromNode (n.next_sends (b u) a)⟩
  exact run_view (I := fun n => Deaf n.world) hact Node.arrive_deaf Node.arrive_fromNode as
    (fun u => boot_deaf (w u)) t

end YkLock
