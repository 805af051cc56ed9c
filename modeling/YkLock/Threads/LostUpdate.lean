import YkLock.Model.Threads
import YkLock.Model.Bench
import YkLock.Proofs.FaultyTransfers

/-! Two threads that each store one configuration value. -/

namespace YkLock

open Library.Records Library.Storage Library.StatePrograms Library.Runs Library.Interleaving

variable {D : Type}

def Pc.index : Pc → ℕ
  | .copy => 0
  | .write => 1
  | .assign => 2
  | .readAddr => 3
  | .readSn => 4
  | .readType => 5
  | .done => 6

/-- The other thread copies the cache before `x` has assigned its record to it, and then writes
over what `x` wrote. -/
def Lost (s : List Bool) (x : Bool) : Prop :=
  Before s x Pc.write.index (!x) Pc.write.index ∧ Before s (!x) Pc.copy.index x Pc.assign.index

/-- The other thread sets `lock_info` last, with a value it read before `x` wrote. -/
def StaleRead (s : List Bool) (x : Bool) (pc : Pc) : Prop :=
  Before s x Pc.readType.index (!x) Pc.readType.index ∧ Before s (!x) pc.index x Pc.write.index

instance (s : List Bool) (x : Bool) : Decidable (Lost s x) := inferInstanceAs (Decidable (_ ∧ _))
instance (s : List Bool) (x : Bool) (pc : Pc) : Decidable (StaleRead s x pc) :=
  inferInstanceAs (Decidable (_ ∧ _))

structure MaskedThread where
  pc : Pc
  info : Mask
  addr : Mask
  sn : Mask

structure MaskedWorld where
  record : Mask
  cache : Mask
  published : Option (Mask × Mask × Mask)

def maskedStep (x : Bool) (t : MaskedThread) (w : MaskedWorld) : MaskedThread × MaskedWorld :=
  match t.pc with
  | .copy => ({ t with pc := .write, info := w.cache.add x }, w)
  | .write => ({ t with pc := .assign }, { w with record := t.info })
  | .assign => ({ t with pc := .readAddr }, { w with cache := t.info })
  | .readAddr => ({ t with pc := .readSn, addr := w.record }, { w with cache := w.record })
  | .readSn => ({ t with pc := .readType, sn := w.record }, { w with cache := w.record })
  | .readType => ({ t with pc := .done },
      { w with cache := w.record, published := some (t.addr, t.sn, w.record) })
  | .done => (t, w)

def maskedStart : Pool MaskedWorld MaskedThread where
  shared := ⟨(false, false), (false, false), none⟩
  thread _ := ⟨.copy, (false, false), (false, false), (false, false)⟩

def Accounted (s : List Bool) (w : MaskedWorld) : Prop :=
  w.cache = w.record ∧ (∀ x, w.record.has x = true ↔ ¬ Lost s x) ∧
    match w.published with
    | none => False
    | some (addr, sn, type) => type = w.record ∧ ∀ x, w.record.has x = true →
      (addr.has x = true ↔ ¬ StaleRead s x .readAddr) ∧ (sn.has x = true ↔ ¬ StaleRead s x .readSn)

instance (s : List Bool) (w : MaskedWorld) : Decidable (Accounted s w) := by
  unfold Accounted
  rcases w.published with _ | ⟨addr, sn, type⟩ <;> exact inferInstance

lemma accounted_schedules : ∀ s : List Bool, s.length = 12 → s.count true = 6 →
    Accounted s (run (Pool.step maskedStep) s maskedStart).shared := by
  decide +kernel

section Simulation

variable (b : Board D) (content : D → Image) (calls : Bool → ConfigWrite) (r : Info)

def masked (m : Mask) : Info := m.apply Info.fields calls r

def ThreadMasked (t' : MaskedThread) (t : Thread) : Prop :=
  t.pc = t'.pc ∧ match t.pc with
    | .write | .assign => t.info = masked calls r t'.info
    | .readSn => t.addr = (masked calls r t'.addr).addr
    | .readType => t.addr = (masked calls r t'.addr).addr ∧
      t.sn = (masked calls r t'.sn).sn.setWidth 32
    | .copy | .readAddr | .done => True

structure WorldMasked (w' : MaskedWorld) (w : World D) : Prop where
  record : w.record content = masked calls r w'.record
  cache : w.cache = masked calls r w'.cache
  info : ∀ addr sn type, w'.published = some (addr, sn, type) →
    w.info = lockInfo b (masked calls r addr).addr ((masked calls r sn).sn.setWidth 32)
      (.sanitised (masked calls r type).devType)

variable {b content calls r}

lemma twoThreads_masked (h : b.at24cxx.Reliable content)
    (hkeys : (calls true).1 ≠ (calls false).1) : Simulates (twoThreads b calls) maskedStep
      (ThreadMasked calls r) (WorldMasked b content calls r) := by
  rintro x ⟨pc, info', addr', sn'⟩ w' ⟨pc₁, info, addr, sn⟩ w ⟨hpc, hlocals⟩ ⟨hr, hc, hi⟩
  obtain rfl : pc₁ = pc := hpc
  have hload : WorldMasked b content calls r { w' with cache := w'.record } (w.loaded content) :=
    ⟨hr, hr, hi⟩
  cases pc₁ with
  | copy =>
    refine ⟨⟨rfl, ?_⟩, hr, hc, hi⟩
    have hadd : masked calls r (w'.cache.add x) =
        Info.set (calls x).1 (calls x).2 (masked calls r w'.cache) :=
      Mask.apply_add hkeys x w'.cache
    exact (congrArg _ hc).trans hadd.symm
  | write =>
    have hstep : twoThreads b calls x ⟨.write, info, addr, sn⟩ w =
        (⟨.assign, info, addr, sn⟩, { w with dev := (b.at24cxx.write w.dev info.encode).2 }) := by
      rw [twoThreads, threadStep_write b _ _ _ rfl, if_pos (h.write_ok _ _)]
    rw [hstep]
    refine ⟨⟨rfl, hlocals⟩, ?_, hc, hi⟩
    have hwritten : Info.decode (content (b.at24cxx.write w.dev info.encode).2) = info := by
      rw [h.content_write, Info.decode_encode]
    exact hwritten.trans hlocals
  | assign => exact ⟨⟨rfl, trivial⟩, hr, hlocals, hi⟩
  | readAddr =>
    have hget : (getAddr b).run w = ((w.record content).addr, w.loaded content) :=
      getConfig_readable h.read .addr w
    have hstep : twoThreads b calls x ⟨.readAddr, info, addr, sn⟩ w =
        (⟨.readSn, info, (w.record content).addr, sn⟩, w.loaded content) := by
      rw [twoThreads, threadStep, run_bind, hget]
      rfl
    rw [hstep]
    exact ⟨⟨rfl, congrArg Info.addr hr⟩, hload⟩
  | readSn =>
    have hget : (getSn b).run w = ((w.record content).sn.setWidth 32, w.loaded content) :=
      getConfig_readable h.read .sn w
    have hstep : twoThreads b calls x ⟨.readSn, info, addr, sn⟩ w =
        (⟨.readType, info, addr, (w.record content).sn.setWidth 32⟩, w.loaded content) := by
      rw [twoThreads, threadStep, run_bind, hget]
      rfl
    rw [hstep]
    exact ⟨⟨rfl, hlocals, congrArg (fun i : Info => i.sn.setWidth 32) hr⟩, hload⟩
  | readType =>
    obtain ⟨haddr, hsn⟩ := hlocals
    have hstep : twoThreads b calls x ⟨.readType, info, addr, sn⟩ w =
        (⟨.done, info, addr, sn⟩, { w.loaded content with
          info := lockInfo b addr sn (.sanitised (w.record content).devType) }) := by
      rw [twoThreads, threadStep, run_bind, getDevice_readable h.read]
      rfl
    rw [hstep]
    refine ⟨⟨rfl, trivial⟩, hr, hr, ?_⟩
    rintro ma ms mt ⟨⟩
    change lockInfo b addr sn (.sanitised (w.record content).devType) = lockInfo b
      (masked calls r addr').addr ((masked calls r sn').sn.setWidth 32)
      (.sanitised (masked calls r w'.record).devType)
    rw [← haddr, ← hsn, hr]
  | done => exact ⟨⟨rfl, trivial⟩, hr, hc, hi⟩

end Simulation

structure NoLostUpdate (b : Board D) (content : D → Image) (calls : Bool → ConfigWrite) (r : Info)
    (w : World D) : Prop where
  stored : ∀ x, (w.record content).get (calls x).1 = (calls x).2
  kept : ∀ j, (∀ x, j ≠ (calls x).1) → (w.record content).get j = r.get j
  cache : w.cache = w.record content
  info : w.info = (w.record content).lockInfo b

lemma inRange_of_get {k : ConfigT} {v : k.Value} {r : Info} (h : r.get k = v) : InRange k v := by
  cases k with
  | sn =>
    rw [← h]
    exact (BitVec.toNat_setWidth_of_le (by norm_num)).trans_lt r.sn.isLt
  | _ => trivial

def Settled (s : List Bool) (calls : Bool → ConfigWrite) (r : Info) (x : Bool) : Prop :=
  r.get (calls x).1 = (calls x).2 ∨
    (¬ Lost s x ∧ ((calls x).1 = .addr → ¬ StaleRead s x .readAddr) ∧
      ((calls x).1 = .sn → ¬ StaleRead s x .readSn))

section Masks

variable {b : Board D} {content : D → Image} {calls : Bool → ConfigWrite} {r : Info}
  {s : List Bool} {w' : MaskedWorld} {w : World D}

lemma masked_get_of_ne {j : ConfigT} (hj : ∀ x, j ≠ (calls x).1) (m : Mask) :
    (masked calls r m).get j = r.get j :=
  Mask.get_apply_of_ne (F := Info.fields) hj m

lemma masked_get_eq_iff (hkeys : (calls true).1 ≠ (calls false).1) {x : Bool} (m : Mask)
    (hv : InRange (calls x).1 (calls x).2) : (masked calls r m).get (calls x).1 = (calls x).2 ↔
      m.has x = true ∨ r.get (calls x).1 = (calls x).2 := by
  have hget : (masked calls r m).get (calls x).1 = _ :=
    Mask.get_apply_self (F := Info.fields) hkeys x m
  have hfits : Info.fields.get (calls x).1 (Info.fields.set (calls x).1 (calls x).2 r) = _ :=
    fits_of_inRange hv r
  rw [hget, hfits]
  by_cases hm : m.has x = true
  · rw [if_pos hm]
    exact iff_of_true rfl (Or.inl hm)
  · rw [if_neg hm]
    exact ⟨Or.inr, fun h => h.resolve_left hm⟩

lemma masked_get_congr {j : ConfigT} {m n : Mask}
    (h : ∀ x, (calls x).1 = j → (masked calls r m).get (calls x).1 = (calls x).2 ∧
      (masked calls r n).get (calls x).1 = (calls x).2) :
    (masked calls r m).get j = (masked calls r n).get j := by
  by_cases hj : ∃ x, (calls x).1 = j
  · obtain ⟨x, rfl⟩ := hj
    obtain ⟨hm, hn⟩ := h x rfl
    rw [hm, hn]
  · have hne (x : Bool) : j ≠ (calls x).1 := fun hx => hj ⟨x, hx.symm⟩
    rw [masked_get_of_ne hne, masked_get_of_ne hne]

lemma Accounted.info (hrun : WorldMasked b content calls r w' w) (hacc : Accounted s w') :
    ∃ addr sn : Mask, w.info = lockInfo b ((masked calls r addr).get .addr)
        ((masked calls r sn).get .sn) (.sanitised (masked calls r w'.record).devType) ∧
      ∀ x, w'.record.has x = true → (addr.has x = true ↔ ¬ StaleRead s x .readAddr) ∧
        (sn.has x = true ↔ ¬ StaleRead s x .readSn) := by
  obtain ⟨-, -, hpub⟩ := hacc
  rcases hp : w'.published with _ | ⟨addr, sn, type⟩
  · rw [hp] at hpub
    exact hpub.elim
  · rw [hp] at hpub
    obtain ⟨rfl, hread⟩ := hpub
    exact ⟨addr, sn, hrun.info _ _ _ hp, hread⟩

lemma settled_of_noLostUpdate (hkeys : (calls true).1 ≠ (calls false).1)
    (hrun : WorldMasked b content calls r w' w) (hacc : Accounted s w')
    (h : NoLostUpdate b content calls r w) (x : Bool) :
    InRange (calls x).1 (calls x).2 ∧ Settled s calls r x := by
  have hstored := h.stored
  have hlock := h.info
  obtain ⟨addr, sn, hinfo, hread⟩ := hacc.info hrun
  obtain ⟨-, hhas, -⟩ := hacc
  rw [hrun.record] at hstored hlock
  rw [hinfo] at hlock
  have hv := inRange_of_get (hstored x)
  refine ⟨hv, or_iff_not_imp_left.mpr fun hr => ?_⟩
  have hm := ((masked_get_eq_iff hkeys _ hv).mp (hstored x)).resolve_right hr
  have hnew (n : Mask) (hn : (masked calls r n).get (calls x).1 =
      (masked calls r w'.record).get (calls x).1) : n.has x = true :=
    ((masked_get_eq_iff hkeys n hv).mp (hn.trans (hstored x))).resolve_right hr
  refine ⟨(hhas x).mp hm, fun hk => (hread x hm).1.mp (hnew _ ?_),
    fun hk => (hread x hm).2.mp (hnew _ ?_)⟩
  · rw [hk]
    exact congrArg LockInfo.addr hlock
  · rw [hk]
    exact congrArg LockInfo.sn hlock

lemma noLostUpdate_of_settled (hkeys : (calls true).1 ≠ (calls false).1)
    (hrun : WorldMasked b content calls r w' w) (hacc : Accounted s w')
    (h : ∀ x, InRange (calls x).1 (calls x).2 ∧ Settled s calls r x) :
    NoLostUpdate b content calls r w := by
  obtain ⟨addr, sn, hinfo, hread⟩ := hacc.info hrun
  obtain ⟨hcache, hhas, -⟩ := hacc
  have hstored (x : Bool) : (masked calls r w'.record).get (calls x).1 = (calls x).2 := by
    obtain ⟨hv, hx⟩ := h x
    exact (masked_get_eq_iff hkeys _ hv).mpr (hx.symm.imp_left fun hx => (hhas x).mpr hx.1)
  have haddr : (masked calls r addr).get .addr = (masked calls r w'.record).get .addr := by
    refine masked_get_congr fun x hk => ⟨?_, hstored x⟩
    obtain ⟨hv, hx⟩ := h x
    refine (masked_get_eq_iff hkeys addr hv).mpr (hx.symm.imp_left fun hx => ?_)
    exact (hread x ((hhas x).mpr hx.1)).1.mpr (hx.2.1 hk)
  have hsn : (masked calls r sn).get .sn = (masked calls r w'.record).get .sn := by
    refine masked_get_congr fun x hk => ⟨?_, hstored x⟩
    obtain ⟨hv, hx⟩ := h x
    refine (masked_get_eq_iff hkeys sn hv).mpr (hx.symm.imp_left fun hx => ?_)
    exact (hread x ((hhas x).mpr hx.1)).2.mpr (hx.2.2 hk)
  have hrec := hrun.record
  refine ⟨fun x => ?_, fun j hj => ?_, ?_, ?_⟩
  · rw [hrec]
    exact hstored x
  · rw [hrec]
    exact masked_get_of_ne hj _
  · rw [hrun.cache, hrec, hcache]
  · rw [hinfo, haddr, hsn, hrec]
    rfl

end Masks

theorem no_lost_update_iff (b : Board D) (content : D → Image) (calls : Bool → ConfigWrite)
    (w : World D) (threads : Bool → Thread) (s : List Bool) (h : b.at24cxx.Reliable content)
    (hkeys : (calls true).1 ≠ (calls false).1) (hw : w.cache = w.record content)
    (hstart : ∀ x, (threads x).pc = .copy) (hs : ∀ x, s.count x = 6) :
    NoLostUpdate b content calls (w.record content)
        (run (Pool.step (twoThreads b calls)) s ⟨w, threads⟩).shared ↔
      ∀ x, InRange (calls x).1 (calls x).2 ∧ Settled s calls (w.record content) x := by
  have hlen : s.length = 12 := by
    rw [← List.count_true_add_count_false, hs, hs]
  have hrun : WorldMasked b content calls (w.record content)
      (run (Pool.step maskedStep) s maskedStart).shared
      (run (Pool.step (twoThreads b calls)) s ⟨w, threads⟩).shared :=
    (twoThreads_masked h hkeys).run s
      (fun x => ⟨hstart x, by rw [hstart x]; trivial⟩) ⟨rfl, hw, nofun⟩
  have hacc := accounted_schedules s hlen (hs true)
  exact ⟨settled_of_noLostUpdate hkeys hrun hacc, noLostUpdate_of_settled hkeys hrun hacc⟩

def twoCalls (x : Bool) : ConfigWrite := if x = true then ⟨.addr, 7⟩ else ⟨.sn, 2⟩

lemma twoCalls_inRange (x : Bool) : InRange (twoCalls x).1 (twoCalls x).2 := by
  cases x with
  | true => trivial
  | false => exact show (2 : Word).toNat < 2 ^ 24 by decide

def twoCopies (_ : Bool) : Thread := ⟨.copy, ⟨0, 0, 0, 0, 0, 0⟩, 0, 0⟩

theorem no_lost_update_sequential :
    NoLostUpdate (bench followingRelay) id twoCalls (startedYk.record id)
      (run (Pool.step (twoThreads (bench followingRelay) twoCalls))
        (List.replicate 6 true ++ List.replicate 6 false) ⟨startedYk, twoCopies⟩).shared := by
  refine (no_lost_update_iff _ id twoCalls startedYk twoCopies _ (bench_reliable _) (by decide)
    (by decide +kernel) (fun _ => rfl) (by decide)).mpr ?_
  intro x
  refine ⟨twoCalls_inRange x, Or.inr ?_⟩
  revert x
  decide

theorem no_lost_update_fails :
    ¬ ∀ (b : Board Image) (calls : Bool → ConfigWrite) (w : World Image) (threads : Bool → Thread)
      (s : List Bool), b.at24cxx.Reliable id → (calls true).1 ≠ (calls false).1 →
      (∀ x, InRange (calls x).1 (calls x).2) → w.cache = w.record id →
      (∀ x, (threads x).pc = .copy) → (∀ x, s.count x = 6) →
      NoLostUpdate b id calls (w.record id)
        (run (Pool.step (twoThreads b calls)) s ⟨w, threads⟩).shared := by
  intro h
  have hsn := (h (bench followingRelay) twoCalls startedYk twoCopies
    (true :: List.replicate 6 false ++ List.replicate 5 true) (bench_reliable _) (by decide)
    twoCalls_inRange (by decide +kernel) (fun _ => rfl) (by decide)).stored false
  exact absurd hsn (by decide +kernel)

end YkLock
