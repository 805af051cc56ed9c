import YkLock.Library.Runs
import YkLock.Model.CanDriver

/-! The entries of the receive buffer over any order of interrupts and reads: no entry is lost, none
is in two places, and the lists and counters of the filter banks agree with the queue. -/

namespace YkLock

open Library.Runs

variable {M : Type}

structure Linked (can : RtCanDevice M) : Prop where
  nodup : can.rxFifo.uselist.Nodup
  list : ∀ h, (can.hdr h).list = can.rxFifo.uselist.filter fun e => can.rxFifo.owner e = some h
  msgs : ∀ h, (can.hdr h).msgs = (can.hdr h).list.length
  owner : ∀ e, e ∉ can.rxFifo.uselist → can.rxFifo.owner e = none

def RtCanDevice.without (e : ℕ) (can : RtCanDevice M) : RtCanDevice M :=
  unlinkHdr e { can with rxFifo := { can.rxFifo with uselist := can.rxFifo.uselist.erase e } }

section Links

variable {can : RtCanDevice M} {e : ℕ}

lemma mem_list_iff (h : Linked can) (b : ℕ) :
    e ∈ (can.hdr b).list ↔ can.rxFifo.owner e = some b := by
  rw [h.list b, List.mem_filter]
  constructor
  · rintro ⟨-, ho⟩
    exact of_decide_eq_true ho
  · intro ho
    refine ⟨?_, decide_eq_true ho⟩
    by_contra hmem
    rw [h.owner e hmem] at ho
    cases ho

lemma Linked.without (h : Linked can) (e : ℕ) : Linked (can.without e) := by
  constructor
  · exact h.nodup.erase e
  · intro b
    change (can.hdr b).list.erase e =
      (can.rxFifo.uselist.erase e).filter fun x => Function.update can.rxFifo.owner e none x = some b
    rw [h.list b, (h.nodup.filter _).erase_eq_filter, h.nodup.erase_eq_filter, List.filter_filter,
      List.filter_filter]
    refine List.filter_congr fun x _ => ?_
    by_cases hx : x = e
    · simp [hx]
    · rw [Function.update_of_ne hx, Bool.and_comm]
  · intro b
    change (if can.rxFifo.owner e = some b ∧ (can.hdr b).msgs ≠ 0 then (can.hdr b).msgs - 1
      else (can.hdr b).msgs) = ((can.hdr b).list.erase e).length
    rw [List.length_erase, h.msgs b]
    simp only [mem_list_iff h b]
    by_cases ho : can.rxFifo.owner e = some b
    · have hne : (can.hdr b).list.length ≠ 0 :=
        (List.length_pos_of_mem ((mem_list_iff h b).mpr ho)).ne'
      rw [if_pos ⟨ho, hne⟩, if_pos ho]
    · rw [if_neg fun hc => ho hc.1, if_neg ho]
  · intro x hx
    change Function.update can.rxFifo.owner e none x = none
    by_cases hxe : x = e
    · rw [hxe, Function.update_self]
    · rw [Function.update_of_ne hxe]
      exact h.owner x fun hmem => hx ((List.mem_erase_of_ne hxe).mpr hmem)

lemma Linked.use (h : Linked can) (he : e ∉ can.rxFifo.uselist) (tmpmsg : M) (b : ℕ) :
    Linked (isrUseEntry e tmpmsg b can) := by
  have hne (x : ℕ) (hx : x ∈ can.rxFifo.uselist) : x ≠ e := by
    rintro rfl
    exact he hx
  have hnodup : (can.rxFifo.uselist ++ [e]).Nodup := by
    rw [List.nodup_append]
    refine ⟨h.nodup, List.nodup_singleton e, fun x hx y hy => ?_⟩
    rw [List.mem_singleton.mp hy]
    exact hne x hx
  rw [isrUseEntry]
  by_cases hc : (can.hdr b).connected = true
  · rw [if_pos hc]
    have hfilter (c : ℕ) : (can.rxFifo.uselist.filter fun x =>
        Function.update can.rxFifo.owner e (some b) x = some c) = (can.hdr c).list := by
      rw [h.list c]
      refine List.filter_congr fun x hx => ?_
      rw [Function.update_of_ne (hne x hx)]
    constructor
    · exact hnodup
    · intro c
      change (Function.update can.hdr b _ c).list = (can.rxFifo.uselist ++ [e]).filter fun x =>
        Function.update can.rxFifo.owner e (some b) x = some c
      rw [List.filter_append, hfilter c, List.filter_singleton, Function.update_self]
      by_cases hcb : c = b
      · subst hcb
        simp
      · simp [Function.update_of_ne hcb, Ne.symm hcb]
    · intro c
      change (Function.update can.hdr b _ c).msgs = (Function.update can.hdr b _ c).list.length
      by_cases hcb : c = b
      · subst hcb
        simp [h.msgs c]
      · rw [Function.update_of_ne hcb, h.msgs c]
    · intro x hx
      obtain ⟨hxu, hxe⟩ := not_or.mp (mt List.mem_append.mpr hx)
      change Function.update can.rxFifo.owner e (some b) x = none
      rw [Function.update_of_ne fun hx' => hxe (List.mem_singleton.mpr hx'), h.owner x hxu]
  · rw [if_neg hc]
    constructor
    · exact hnodup
    · intro c
      change (can.hdr c).list = (can.rxFifo.uselist ++ [e]).filter _
      rw [List.filter_append, ← h.list c, List.filter_singleton, h.owner e he]
      simp
    · exact h.msgs
    · intro x hx
      exact h.owner x fun hmem => hx (List.mem_append_left _ hmem)

lemma isrTakeEntry_cases (can : RtCanDevice M) :
    (∃ e rest, can.rxFifo.freelist = e :: rest ∧
      isrTakeEntry can = (some e, unlinkHdr e { can with
        rxFifo := { can.rxFifo with
          freelist := rest
          freenumbers := can.rxFifo.freenumbers - 1 } })) ∨
    (∃ e rest, can.rxFifo.freelist = [] ∧ can.rxFifo.uselist = e :: rest ∧
      isrTakeEntry can =
        (some e, { can.without e with dropedrcvpkg := can.dropedrcvpkg + 1 })) ∨
    (can.rxFifo.freelist = [] ∧ can.rxFifo.uselist = [] ∧ isrTakeEntry can = (none, can)) := by
  rcases hfree : can.rxFifo.freelist with _ | ⟨e, rest⟩
  · rcases huse : can.rxFifo.uselist with _ | ⟨e, rest⟩
    · refine Or.inr (Or.inr ⟨rfl, rfl, ?_⟩)
      rw [isrTakeEntry, hfree, huse]
    · refine Or.inr (Or.inl ⟨e, rest, rfl, rfl, ?_⟩)
      rw [isrTakeEntry, hfree, huse, RtCanDevice.without, huse, List.erase_cons_head]
      rfl
  · refine Or.inl ⟨e, rest, rfl, ?_⟩
    rw [isrTakeEntry, hfree]

lemma canIntRxTake_cases (h : Linked can) (hdr : ℤ) :
    canIntRxTake hdr can = (none, can) ∨
      ∃ e ∈ can.rxFifo.uselist, canIntRxTake hdr can = (some e, can.without e) := by
  rw [canIntRxTake]
  rcases hhead : (if 0 ≤ hdr ∧ hdr < can.maxhdr then (can.hdr hdr.toNat).list.head? else none) with
    _ | e
  · by_cases hdr1 : hdr = -1
    · rcases huse : can.rxFifo.uselist with _ | ⟨e, rest⟩
      · exact Or.inl (by simp [hdr1])
      · refine Or.inr ⟨e, List.mem_cons_self, ?_⟩
        simp [hdr1, RtCanDevice.without, huse]
    · exact Or.inl (by simp [hdr1])
  · have hmem : e ∈ (can.hdr hdr.toNat).list := by
      by_cases hb : 0 ≤ hdr ∧ hdr < can.maxhdr
      · rw [if_pos hb] at hhead
        exact List.mem_of_mem_head? hhead
      · rw [if_neg hb] at hhead
        cases hhead
    have ho := (mem_list_iff h _).mp hmem
    have huse : e ∈ can.rxFifo.uselist := by
      rw [h.list, List.mem_filter] at hmem
      exact hmem.1
    refine Or.inr ⟨e, huse, congrArg (Prod.mk (some e)) ?_⟩
    rw [RtCanDevice.without, unlinkHdr]
    congr 1
    funext b
    by_cases hb : b = hdr.toNat
    · rw [hb, Function.update_self]
      simp [ho]
    · have hother : e ∉ (can.hdr b).list := by
        rw [mem_list_iff h b, ho]
        exact fun hc => hb (Option.some.inj hc).symm
      rw [Function.update_of_ne hb, List.erase_of_not_mem hother, ho]
      simp [Ne.symm hb]

section Fields

variable (can e) (tmpmsg : M) (b : ℕ)

@[simp] lemma use_data : (isrUseEntry e tmpmsg b can).rxFifo.data =
    Function.update can.rxFifo.data e tmpmsg := by
  rw [isrUseEntry]
  split <;> rfl

@[simp] lemma use_uselist :
    (isrUseEntry e tmpmsg b can).rxFifo.uselist = can.rxFifo.uselist ++ [e] := by
  rw [isrUseEntry]
  split <;> rfl

@[simp] lemma use_freelist :
    (isrUseEntry e tmpmsg b can).rxFifo.freelist = can.rxFifo.freelist := by
  rw [isrUseEntry]
  split <;> rfl

@[simp] lemma use_freenumbers :
    (isrUseEntry e tmpmsg b can).rxFifo.freenumbers = can.rxFifo.freenumbers := by
  rw [isrUseEntry]
  split <;> rfl

@[simp] lemma use_rcvpkg : (isrUseEntry e tmpmsg b can).rcvpkg = can.rcvpkg := by
  rw [isrUseEntry]
  split <;> rfl

@[simp] lemma use_dropedrcvpkg :
    (isrUseEntry e tmpmsg b can).dropedrcvpkg = can.dropedrcvpkg := by
  rw [isrUseEntry]
  split <;> rfl

end Fields

def RtCanDevice.counted (rxof : Bool) (can : RtCanDevice M) : RtCanDevice M :=
  { can with
    rcvpkg := can.rcvpkg + 1
    dropedrcvpkg := if rxof then can.dropedrcvpkg + 1 else can.dropedrcvpkg }

lemma isr_some (rxof : Bool) (tmpmsg : M) (b : ℕ) : rtHwCanIsrRx rxof (some (tmpmsg, b)) can =
    match isrTakeEntry (can.counted rxof) with
    | (none, can) => (none, can)
    | (some e, can) =>
      (isrIndicate b (isrUseEntry e tmpmsg b can), isrUseEntry e tmpmsg b can) := by
  cases rxof <;> rfl

lemma Linked.counted (h : Linked can) (rxof : Bool) : Linked (can.counted rxof) :=
  ⟨h.nodup, h.list, h.msgs, h.owner⟩

end Links

structure Intact (msgboxsz : ℕ) (s : RxPool) : Prop where
  entries : (s.can.rxFifo.freelist ++ s.can.rxFifo.uselist ++ s.held.map Prod.fst).Perm
    (List.range msgboxsz)
  freenumbers : s.can.rxFifo.freenumbers = s.can.rxFifo.freelist.length
  linked : Linked s.can
  held : ∀ p ∈ s.held, s.can.rxFifo.data p.1 = p.2

section Pool

variable {msgboxsz : ℕ} {s : RxPool}

lemma intact_poolOpen (maxhdr : ℕ) (connected ind : ℕ → Bool) (zero : CanMsg) :
    Intact msgboxsz (poolOpen msgboxsz maxhdr connected ind zero) := by
  constructor
  · change (List.range msgboxsz ++ [] ++ []).Perm (List.range msgboxsz)
    rw [List.append_nil, List.append_nil]
  · exact List.length_range.symm
  · exact ⟨List.nodup_nil, fun _ => rfl, fun _ => rfl, fun _ _ => rfl⟩
  · exact fun p hp => absurd hp List.not_mem_nil

lemma Intact.nodup (h : Intact msgboxsz s) :
    (s.can.rxFifo.freelist ++ s.can.rxFifo.uselist ++ s.held.map Prod.fst).Nodup :=
  h.entries.nodup_iff.mpr List.nodup_range

lemma Intact.length (h : Intact msgboxsz s) :
    s.can.rxFifo.freelist.length + s.can.rxFifo.uselist.length + s.held.length = msgboxsz := by
  have hlen := h.entries.length_eq
  rwa [List.length_append, List.length_append, List.length_map, List.length_range] at hlen

structure Found (rxof : Bool) (s : RxPool) (e : ℕ) (can : RtCanDevice Arrival) : Prop where
  linked : Linked can
  uselist : can.rxFifo.uselist = s.can.rxFifo.uselist
  data : can.rxFifo.data = s.can.rxFifo.data
  rcvpkg : can.rcvpkg = s.can.rcvpkg + 1
  held : e ∉ s.held.map Prod.fst
  place :
    (s.can.rxFifo.freelist = e :: can.rxFifo.freelist ∧ e ∉ s.can.rxFifo.uselist ∧
      can.rxFifo.freenumbers = s.can.rxFifo.freenumbers - 1 ∧
      can.dropedrcvpkg = (s.can.counted rxof).dropedrcvpkg) ∨
    (s.can.rxFifo.freelist = [] ∧ can.rxFifo.freelist = [] ∧
      s.can.rxFifo.uselist.head? = some e ∧
      can.rxFifo.freenumbers = s.can.rxFifo.freenumbers ∧
      can.dropedrcvpkg = (s.can.counted rxof).dropedrcvpkg + 1)

lemma Intact.isr_cases (h : Intact msgboxsz s) (hheld : s.held.length < msgboxsz) (rxof : Bool)
    (msg : Arrival) (b : ℕ) :
    ∃ e can, Found rxof s e can ∧ rtHwCanIsrRx rxof (some (msg, b)) s.can =
      (isrIndicate b (isrUseEntry e msg b (can.without e)),
        isrUseEntry e msg b (can.without e)) := by
  have hnodup := h.nodup
  rw [List.nodup_append, List.nodup_append] at hnodup
  obtain ⟨⟨-, -, hfu⟩, -, hfuh⟩ := hnodup
  rcases isrTakeEntry_cases (s.can.counted rxof) with ⟨e, rest, hfree, htake⟩ |
    ⟨e, rest, hfree, huse, htake⟩ | ⟨hfree, huse, -⟩
  · replace hfree : s.can.rxFifo.freelist = e :: rest := hfree
    have hmem : e ∈ s.can.rxFifo.freelist := by
      rw [hfree]
      exact List.mem_cons_self
    have hnot : e ∉ s.can.rxFifo.uselist := fun hu => hfu e hmem e hu rfl
    refine ⟨e, { s.can.counted rxof with rxFifo := { s.can.rxFifo with
      freelist := rest, freenumbers := s.can.rxFifo.freenumbers - 1 } }, ?_, ?_⟩
    · refine ⟨?_, rfl, rfl, rfl, ?_, Or.inl ⟨hfree, hnot, rfl, rfl⟩⟩
      · exact ⟨h.linked.nodup, h.linked.list, h.linked.msgs, h.linked.owner⟩
      · exact fun hh => hfuh e (List.mem_append_left _ hmem) e hh rfl
    · rw [isr_some, htake, RtCanDevice.without, List.erase_of_not_mem hnot]
      rfl
  · replace hfree : s.can.rxFifo.freelist = [] := hfree
    replace huse : s.can.rxFifo.uselist = e :: rest := huse
    have hmem : e ∈ s.can.rxFifo.uselist := by
      rw [huse]
      exact List.mem_cons_self
    refine ⟨e, { s.can.counted rxof with
      dropedrcvpkg := (s.can.counted rxof).dropedrcvpkg + 1 }, ?_, ?_⟩
    · refine ⟨?_, rfl, rfl, rfl, ?_, Or.inr ⟨hfree, hfree, ?_, rfl, rfl⟩⟩
      · exact ⟨h.linked.nodup, h.linked.list, h.linked.msgs, h.linked.owner⟩
      · exact fun hh => hfuh e (List.mem_append_right _ hmem) e hh rfl
      · rw [huse, List.head?_cons]
    · rw [isr_some, htake]
      rfl
  · replace hfree : s.can.rxFifo.freelist = [] := hfree
    replace huse : s.can.rxFifo.uselist = [] := huse
    have hlen := h.length
    rw [hfree, huse] at hlen
    simp only [List.length_nil, Nat.zero_add] at hlen
    exact absurd hlen hheld.ne

lemma Intact.isr_none (h : Intact msgboxsz s) (hheld : ¬ s.held.length < msgboxsz) (rxof : Bool)
    (msg : Arrival) (b : ℕ) :
    rtHwCanIsrRx rxof (some (msg, b)) s.can = (none, s.can.counted rxof) := by
  have hlen := h.length
  have hfree : s.can.rxFifo.freelist = [] := List.length_eq_zero_iff.mp (by omega)
  have huse : s.can.rxFifo.uselist = [] := List.length_eq_zero_iff.mp (by omega)
  rcases isrTakeEntry_cases (s.can.counted rxof) with ⟨e, rest, hc, -⟩ | ⟨e, rest, -, hc, -⟩ |
    ⟨-, -, htake⟩
  · exact absurd (hfree.symm.trans hc) (List.cons_ne_nil _ _).symm
  · exact absurd (huse.symm.trans hc) (List.cons_ne_nil _ _).symm
  · rw [isr_some, htake]

lemma Intact.isr (h : Intact msgboxsz s) (rxof : Bool) (tmpmsg : Option (CanMsg × ℕ)) :
    Intact msgboxsz (poolIsr rxof tmpmsg s) := by
  rcases tmpmsg with _ | ⟨msg, b⟩
  · cases rxof
    · exact ⟨h.entries, h.freenumbers, h.linked, h.held⟩
    · exact ⟨h.entries, h.freenumbers,
        ⟨h.linked.nodup, h.linked.list, h.linked.msgs, h.linked.owner⟩, h.held⟩
  by_cases hheld : s.held.length < msgboxsz
  · obtain ⟨e, can, hfound, hisr⟩ := h.isr_cases hheld rxof (s.arrived.length, msg) b
    have hcan : (poolIsr rxof (some (msg, b)) s).can =
        isrUseEntry e (s.arrived.length, msg) b (can.without e) := congrArg Prod.snd hisr
    have herase : e ∉ (can.without e).rxFifo.uselist := fun hmem =>
      hfound.linked.nodup.not_mem_erase hmem
    have hnext : (can.rxFifo.freelist ++ (s.can.rxFifo.uselist.erase e ++ [e])).Perm
          (s.can.rxFifo.freelist ++ s.can.rxFifo.uselist) ∧
        can.rxFifo.freenumbers = can.rxFifo.freelist.length := by
      rcases hfound.place with ⟨hfree, hnot, hnum, -⟩ | ⟨hfree, hfree', hhead, hnum, -⟩
      · constructor
        · rw [hfree, List.erase_of_not_mem hnot, ← List.append_assoc]
          exact List.perm_append_singleton _ _
        · rw [hnum, h.freenumbers, hfree, List.length_cons, Nat.add_sub_cancel]
      · constructor
        · rw [hfree, hfree', List.nil_append, List.nil_append]
          exact (List.perm_append_singleton _ _).trans
            (List.perm_cons_erase (List.mem_of_mem_head? hhead)).symm
        · rw [hnum, h.freenumbers, hfree, hfree']
    constructor
    · rw [hcan, use_freelist, use_uselist]
      change (can.rxFifo.freelist ++ (can.rxFifo.uselist.erase e ++ [e]) ++
        s.held.map Prod.fst).Perm _
      rw [hfound.uselist]
      exact (hnext.1.append_right _).trans h.entries
    · rw [hcan, use_freenumbers, use_freelist]
      exact hnext.2
    · rw [hcan]
      exact (hfound.linked.without e).use herase _ b
    · intro p hp
      have hpe : p.1 ≠ e := by
        rintro rfl
        exact hfound.held (List.mem_map_of_mem hp)
      rw [hcan, use_data, Function.update_of_ne hpe]
      change can.rxFifo.data p.1 = p.2
      rw [hfound.data]
      exact h.held p hp
  · have hcan : (poolIsr rxof (some (msg, b)) s).can = s.can.counted rxof :=
      congrArg Prod.snd (h.isr_none hheld rxof (s.arrived.length, msg) b)
    constructor
    · rw [hcan]
      exact h.entries
    · rw [hcan]
      exact h.freenumbers
    · rw [hcan]
      exact h.linked.counted rxof
    · rw [hcan]
      exact h.held

lemma Intact.take (h : Intact msgboxsz s) (hdr : ℤ) : Intact msgboxsz (poolTake hdr s) := by
  rw [poolTake]
  rcases canIntRxTake_cases h.linked hdr with htake | ⟨e, hmem, htake⟩
  · rw [htake]
    exact h
  · rw [htake]
    constructor
    · change (s.can.rxFifo.freelist ++ s.can.rxFifo.uselist.erase e ++
        (s.held ++ [(e, s.can.rxFifo.data e)]).map Prod.fst).Perm (List.range msgboxsz)
      refine List.Perm.trans ?_ h.entries
      rw [List.map_append, List.append_assoc, List.append_assoc]
      refine List.Perm.append_left _ ?_
      calc s.can.rxFifo.uselist.erase e ++ (s.held.map Prod.fst ++ [e])
          |>.Perm (s.can.rxFifo.uselist.erase e ++ (e :: s.held.map Prod.fst)) :=
            (List.perm_append_singleton _ _).append_left _
        List.Perm _ (e :: s.can.rxFifo.uselist.erase e ++ s.held.map Prod.fst) :=
            List.perm_middle
        List.Perm _ (s.can.rxFifo.uselist ++ s.held.map Prod.fst) :=
            (List.perm_cons_erase hmem).symm.append_right _
    · exact h.freenumbers
    · exact h.linked.without e
    · intro p hp
      rcases List.mem_append.mp hp with hp | hp
      · exact h.held p hp
      · rw [List.mem_singleton.mp hp]

lemma Intact.give (h : Intact msgboxsz s) (i : ℕ) : Intact msgboxsz (poolGive i s) := by
  rw [poolGive]
  rcases hi : s.held[i]? with _ | p
  · exact h
  · obtain ⟨hlt, hp⟩ := List.getElem?_eq_some_iff.mp hi
    constructor
    · change (s.can.rxFifo.freelist ++ [p.1] ++ s.can.rxFifo.uselist ++
        (s.held.eraseIdx i).map Prod.fst).Perm (List.range msgboxsz)
      refine List.Perm.trans ?_ h.entries
      rw [List.append_assoc, List.append_assoc, List.append_assoc]
      refine List.Perm.append_left _ ?_
      have hheld : (s.held.map Prod.fst).Perm (p.1 :: (s.held.eraseIdx i).map Prod.fst) := by
        rw [← List.map_cons, ← hp]
        exact ((List.getElem_cons_eraseIdx_perm hlt).symm).map Prod.fst
      change (p.1 :: (s.can.rxFifo.uselist ++ (s.held.eraseIdx i).map Prod.fst)).Perm _
      exact List.perm_middle.symm.trans (hheld.symm.append_left _)
    · change s.can.rxFifo.freenumbers + 1 = (s.can.rxFifo.freelist ++ [p.1]).length
      rw [List.length_append, List.length_singleton, h.freenumbers]
    · exact ⟨h.linked.nodup, h.linked.list, h.linked.msgs, h.linked.owner⟩
    · exact fun q hq => h.held q (List.mem_of_mem_eraseIdx hq)

lemma Intact.step (a : PoolAction) (s : RxPool) (h : Intact msgboxsz s) :
    Intact msgboxsz (poolStep a s) := by
  cases a with
  | isr rxof tmpmsg => exact h.isr rxof tmpmsg
  | take hdr => exact h.take hdr
  | give i => exact h.give i

end Pool

/-- Over any order of interrupts and any number of readers no entry of the buffer is lost or in two
places, the banks' lists and counters are those of the queue, and no message is overwritten while a
reader copies it. -/
theorem pool_intact (msgboxsz maxhdr : ℕ) (connected ind : ℕ → Bool) (zero : CanMsg)
    (as : List PoolAction) :
    Intact msgboxsz (run poolStep as (poolOpen msgboxsz maxhdr connected ind zero)) :=
  run_invariant (fun a _ => Intact.step a) (intact_poolOpen maxhdr connected ind zero)

end YkLock
