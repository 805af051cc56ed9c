import YkLock.Buttons.GestureScan

/-! Several buttons in one list, one bit for each: every one is scanned as if it were alone. -/

namespace YkLock

open Library.Transducers

def AtBits (P : ℕ → ℕ × FlexButton → Prop) : List (ℕ × FlexButton) → Prop
  | [] => True
  | e :: rest => P rest.length e ∧ AtBits P rest

structure Rostered (s : FlexButtons) : Prop where
  count : s.buttonCnt.toNat = s.list.length
  le : s.list.length ≤ 32
  nodup : (s.list.map Prod.fst).Nodup
  readable : ∀ e ∈ s.list, e.2.usrButtonRead = true
  level : AtBits (fun j e => s.gLogicLevel.getLsbD j = e.2.pressedLogicLevel) s.list
  free : ∀ j, s.list.length ≤ j → s.gLogicLevel.getLsbD j = false

def FlexButton.pressed (button : FlexButton) (value : Byte) : Bool :=
  value.getLsbD 0 == button.pressedLogicLevel

def scanStep (read : ℕ → Byte) (s : FlexButtons) : FlexButtons × List (ℕ × FlexButtonEvent) :=
  ((flexButtonScan read s).1, (flexButtonScan read s).2.1)

def registerAll (calls : List (Option (ℕ × FlexButton))) (s : FlexButtons) : FlexButtons :=
  calls.foldl (fun s button => (flexButtonRegister button s).2) s

def callOf (p : ℕ) (call : ℕ × FlexButtonEvent) : Option FlexButtonEvent :=
  if call.1 = p then some call.2 else none

section Bits

lemma AtBits.imp {P Q : ℕ → ℕ × FlexButton → Prop} {l : List (ℕ × FlexButton)}
    (h : ∀ j e, j < l.length → e ∈ l → P j e → Q j e) (hl : AtBits P l) : AtBits Q l := by
  induction l with
  | nil => trivial
  | cons e rest ih =>
    refine ⟨h _ _ (Nat.lt_succ_self _) (by simp) hl.1, ih (fun j e hj he => ?_) hl.2⟩
    exact h j e (Nat.lt_succ_of_lt hj) (List.mem_cons_of_mem _ he)

lemma AtBits.map {P : ℕ → ℕ × FlexButton → Prop} {f : ℕ × FlexButton → ℕ × FlexButton}
    {l : List (ℕ × FlexButton)} (h : ∀ j e, P j e → P j (f e)) (hl : AtBits P l) :
    AtBits P (l.map f) := by
  induction l with
  | nil => trivial
  | cons e rest ih =>
    refine ⟨?_, ih hl.2⟩
    rw [List.length_map]
    exact h _ _ hl.1

lemma AtBits.and {P Q : ℕ → ℕ × FlexButton → Prop} {l : List (ℕ × FlexButton)}
    (hp : AtBits P l) (hq : AtBits Q l) : AtBits (fun j e => P j e ∧ Q j e) l := by
  induction l with
  | nil => trivial
  | cons e rest ih => exact ⟨⟨hp.1, hq.1⟩, ih hp.2 hq.2⟩

lemma btnIsPressed_eq {reg : BitVec 32} {i : Byte} {j : ℕ} (hi : i.toNat = j) (hj : j < 32) :
    btnIsPressed reg i = reg.getLsbD j := by
  rw [btnIsPressed, hi]
  change (reg &&& 1#32 <<< j != 0) = _
  rw [← BitVec.twoPow_eq, BitVec.and_twoPow]
  cases reg.getLsbD j with
  | false => rfl
  | true =>
    have hne : BitVec.twoPow 32 j ≠ 0#32 := fun h => by
      have := congrArg (fun x => BitVec.getLsbD x j) h
      simp [hj] at this
    exact bne_iff_ne.mpr hne

lemma shifted_bit {v : Byte} (hv : v.toNat ≤ 1) {k j : ℕ} (hk : k < 32) (hj : j < 32) :
    (v.setWidth 32 <<< k).getLsbD j = (decide (j = k) && v.getLsbD 0) := by
  rcases Nat.lt_trichotomy j k with hlt | rfl | hgt
  · simp [hlt, hlt.ne]
  · simp [hj]
  · have hzero : v.getLsbD (j - k) = false := by
      rw [BitVec.getLsbD]
      refine Nat.testBit_lt_two_pow (hv.trans_lt ?_)
      exact Nat.one_lt_two_pow (by omega)
    simp [hgt.ne', hzero]

variable {read : ℕ → Byte}

lemma readLoop_high (hread : ∀ p, (read p).toNat ≤ 1) {l : List (ℕ × FlexButton)}
    (hl : l.length ≤ 32) {i : Byte} (hi : l ≠ [] → i.toNat + 1 = l.length) (raw : BitVec 32) {j : ℕ}
    (hj : l.length ≤ j) (hj' : j < 32) : (readLoop read l i raw).getLsbD j = raw.getLsbD j := by
  induction l generalizing i raw with
  | nil => rfl
  | cons e rest ih =>
    obtain ⟨p, target⟩ := e
    have hk : i.toNat = rest.length := Nat.succ.inj (hi (by simp))
    rw [List.length_cons] at hl hj
    rw [readLoop]
    split_ifs
    · rw [ih (by omega) (fun hne => ?_) _ (by omega), BitVec.getLsbD_or, hk,
        shifted_bit (hread p) (by omega) hj', decide_eq_false (by omega), Bool.false_and,
        Bool.or_false]
      have := List.length_pos_of_ne_nil hne
      bv_omega
    · rfl

lemma readLoop_bits (hread : ∀ p, (read p).toNat ≤ 1) {l : List (ℕ × FlexButton)}
    (hl : l.length ≤ 32) (hr : ∀ e ∈ l, e.2.usrButtonRead = true) {i : Byte}
    (hi : l ≠ [] → i.toNat + 1 = l.length) (raw : BitVec 32) :
    AtBits (fun j e => (readLoop read l i raw).getLsbD j =
      (raw.getLsbD j || (read e.1).getLsbD 0)) l := by
  induction l generalizing i raw with
  | nil => trivial
  | cons e rest ih =>
    obtain ⟨p, target⟩ := e
    have hk : i.toNat = rest.length := Nat.succ.inj (hi (by simp))
    have hi' : rest ≠ [] → (i - 1).toNat + 1 = rest.length := fun hne => by
      have := List.length_pos_of_ne_nil hne
      bv_omega
    rw [List.length_cons] at hl
    rw [readLoop, if_pos (hr (p, target) (by simp))]
    constructor
    · dsimp only
      rw [readLoop_high hread (by omega) hi' _ le_rfl (by omega), BitVec.getLsbD_or, hk,
        shifted_bit (hread p) (by omega) (by omega), decide_eq_true rfl, Bool.true_and]
    · have hrest := ih (by omega) (fun e he => hr e (by simp [he])) hi'
        (raw ||| ((read p).setWidth 32 <<< i.toNat))
      refine hrest.imp fun j e hj _ h => ?_
      rw [h, BitVec.getLsbD_or, hk, shifted_bit (hread p) (by omega) (by omega),
        decide_eq_false (by omega), Bool.false_and, Bool.or_false]

lemma processLoop_eq {reg : BitVec 32} (press : ℕ × FlexButton → Bool) {l : List (ℕ × FlexButton)}
    (hl : l.length ≤ 32) (hbits : AtBits (fun j e => reg.getLsbD j = press e) l) {i : Byte}
    (hi : l ≠ [] → i.toNat + 1 = l.length) (active : Byte) :
    (processLoop reg l i active).list =
        l.map (fun e => (e.1, (processButton (press e) e.2).1)) ∧
      (processLoop reg l i active).calls =
        l.flatMap (fun e => (processButton (press e) e.2).2.map (Prod.mk e.1)) := by
  induction l generalizing i active with
  | nil => exact ⟨rfl, rfl⟩
  | cons e rest ih =>
    obtain ⟨p, target⟩ := e
    have hk : i.toNat = rest.length := Nat.succ.inj (hi (by simp))
    rw [List.length_cons] at hl
    have hpress : btnIsPressed reg i = press (p, target) :=
      (btnIsPressed_eq hk (by omega)).trans hbits.1
    obtain ⟨hlist, hcalls⟩ := ih (i := i - 1) (by omega) hbits.2 (fun hne => by
      have := List.length_pos_of_ne_nil hne
      bv_omega) (if (processButton (press (p, target)) target).1.status ≠ .stageDefault then
        active + 1 else active)
    simp only [processLoop, hpress, hlist, hcalls, List.map_cons, List.flatMap_cons, and_self]

end Bits

section Scans

variable {s : FlexButtons} {read : ℕ → Byte}

lemma countScan_wiring (button : FlexButton) :
    (countScan button).usrButtonRead = button.usrButtonRead ∧
      (countScan button).pressedLogicLevel = button.pressedLogicLevel := by
  rw [countScan]
  split_ifs <;> exact ⟨rfl, rfl⟩

lemma processButton_wiring (pressed : Bool) (button : FlexButton) :
    (processButton pressed button).1.usrButtonRead = button.usrButtonRead ∧
      (processButton pressed button).1.pressedLogicLevel = button.pressedLogicLevel := by
  rw [processButton, ← (countScan_wiring button).1, ← (countScan_wiring button).2]
  generalize countScan button = target
  have hstart (evt : FlexButtonEvent) : (startEvent evt target).1.usrButtonRead =
      target.usrButtonRead ∧ (startEvent evt target).1.pressedLogicLevel =
      target.pressedLogicLevel := by
    rw [startEvent]
    split_ifs <;> exact ⟨rfl, rfl⟩
  rw [processStage]
  cases target.status with
  | stageDefault =>
    dsimp only
    split_ifs <;> exact ⟨rfl, rfl⟩
  | stageDown =>
    dsimp only
    split_ifs
    · exact ⟨rfl, rfl⟩
    · exact ⟨rfl, rfl⟩
    · exact hstart _
    · exact hstart _
    · exact hstart _
    all_goals exact ⟨rfl, rfl⟩
  | stageMultipleClick =>
    dsimp only
    split_ifs <;> exact ⟨rfl, rfl⟩

def scanned (read : ℕ → Byte) (e : ℕ × FlexButton) : ℕ × FlexButton :=
  (e.1, (processButton (e.2.pressed (read e.1)) e.2).1)

lemma Rostered.scan_eq (h : Rostered s) (hread : ∀ p, (read p).toNat ≤ 1) :
    (scanStep read s).1.list = s.list.map (scanned read) ∧
      (scanStep read s).2 = s.list.flatMap
        (fun e => (processButton (e.2.pressed (read e.1)) e.2).2.map (Prod.mk e.1)) := by
  have hi : s.list ≠ [] → (s.buttonCnt - 1).toNat + 1 = s.list.length := fun hne => by
    have hpos := List.length_pos_of_ne_nil hne
    have hcount := h.count
    have hle := h.le
    bv_omega
  have hle := h.le
  refine processLoop_eq (fun e => e.2.pressed (read e.1)) hle ?_ hi 0
  refine ((readLoop_bits hread hle h.readable hi 0).and h.level).imp fun j e hj _ ⟨hraw, hlevel⟩ => ?_
  change (~~~ readLoop read s.list (s.buttonCnt - 1) 0 ^^^ s.gLogicLevel).getLsbD j = _
  have hzero : (0 : BitVec 32).getLsbD j = false := BitVec.getLsbD_zero
  rw [BitVec.getLsbD_xor, BitVec.getLsbD_not, hraw, hlevel, decide_eq_true (by omega), hzero,
    FlexButton.pressed]
  cases (read e.1).getLsbD 0 <;> cases e.2.pressedLogicLevel <;> rfl

lemma Rostered.scan (h : Rostered s) (hread : ∀ p, (read p).toNat ≤ 1) :
    Rostered (scanStep read s).1 := by
  obtain ⟨hlist, -⟩ := h.scan_eq hread
  have hlength : (scanStep read s).1.list.length = s.list.length := by
    rw [hlist, List.length_map]
  refine ⟨?_, ?_, ?_, ?_, ?_, ?_⟩
  · rw [hlength]
    exact h.count
  · rw [hlength]
    exact h.le
  · rw [hlist, List.map_map]
    exact h.nodup
  · rw [hlist]
    simp only [List.forall_mem_map]
    exact fun e he => (processButton_wiring _ _).1.trans (h.readable e he)
  · rw [hlist]
    exact h.level.map fun j e he => he.trans (processButton_wiring _ _).2.symm
  · rw [hlength]
    exact h.free

lemma calls_of_nodup {l : List (ℕ × FlexButton)} {e : ℕ × FlexButton}
    (calls : ℕ × FlexButton → List FlexButtonEvent) (hl : (l.map Prod.fst).Nodup) (he : e ∈ l) :
    (l.flatMap (fun e => (calls e).map (Prod.mk e.1))).filterMap (callOf e.1) = calls e := by
  have hother (e' : ℕ × FlexButton) (hne : e'.1 ≠ e.1) :
      ((calls e').map (Prod.mk e'.1)).filterMap (callOf e.1) = [] := by
    simp [callOf, hne]
  have hsame : ((calls e).map (Prod.mk e.1)).filterMap (callOf e.1) = calls e := by
    rw [List.filterMap_map]
    exact (List.filterMap_congr fun evt _ => if_pos rfl).trans List.filterMap_some
  induction l with
  | nil => cases he
  | cons e' rest ih =>
    obtain ⟨hnot, hrest⟩ := List.nodup_cons.mp hl
    rw [List.flatMap_cons, List.filterMap_append]
    rcases List.mem_cons.mp he with rfl | he
    · have hnone : (rest.flatMap (fun e => (calls e).map (Prod.mk e.1))).filterMap
          (callOf e.1) = [] := by
        simp only [List.filterMap_flatMap, List.flatMap_eq_nil_iff]
        exact fun e' he' => hother e' fun heq => hnot (heq ▸ List.mem_map_of_mem he')
      rw [hsame, hnone, List.append_nil]
    · rw [hother e' fun heq => hnot (heq ▸ List.mem_map_of_mem he), List.nil_append]
      exact ih hrest he

end Scans

section Registering

variable {s : FlexButtons} {p : ℕ} {button : FlexButton}

lemma rostered_flexButtons : Rostered flexButtons :=
  ⟨rfl, Nat.zero_le _, List.nodup_nil, nofun, trivial, fun _ _ => BitVec.getLsbD_zero⟩

lemma register_new (hcount : s.buttonCnt.toNat ≤ 32) (hp : p ∉ s.list.map Prod.fst) :
    (flexButtonRegister (some (p, button)) s).2 = { s with
      list := (p, registered button) :: s.list
      gLogicLevel := s.gLogicLevel |||
        ((if button.pressedLogicLevel then 1 else 0 : BitVec 32) <<< s.buttonCnt.toNat)
      buttonCnt := s.buttonCnt + 1 } := by
  rw [flexButtonRegister, if_neg (by omega), if_neg hp]

lemma Rostered.register (h : Rostered s) (hlen : s.list.length < 32) (hr : button.usrButtonRead = true)
    (hp : p ∉ s.list.map Prod.fst) : Rostered (flexButtonRegister (some (p, button)) s).2 := by
  have hcount := h.count
  have hbit (j : ℕ) (hj : j < 32) : ((if button.pressedLogicLevel then 1 else 0 : BitVec 32) <<<
      s.buttonCnt.toNat).getLsbD j =
        (decide (j = s.list.length) && button.pressedLogicLevel) := by
    rw [hcount]
    cases button.pressedLogicLevel with
    | false => simp
    | true =>
      rcases Nat.lt_trichotomy j s.list.length with hlt | heq | hgt
      · simp [hlt, hlt.ne]
      · simp [heq, hlen]
      · simp [hgt.ne', Nat.sub_ne_zero_of_lt hgt]
  rw [register_new (by omega) hp]
  refine ⟨?_, hlen, List.nodup_cons.mpr ⟨hp, h.nodup⟩, ?_, ⟨?_, ?_⟩, ?_⟩
  · rw [List.length_cons]
    bv_omega
  · exact fun e he => (List.mem_cons.mp he).elim (fun heq => heq ▸ hr) (h.readable e)
  · dsimp only
    rw [BitVec.getLsbD_or, h.free _ le_rfl, hbit _ hlen, decide_eq_true rfl]
    rfl
  · refine h.level.imp fun j e hj _ hlevel => ?_
    rw [BitVec.getLsbD_or, hlevel, hbit _ (by omega), decide_eq_false hj.ne, Bool.false_and,
      Bool.or_false]
  · intro j hj
    rw [List.length_cons] at hj
    rw [BitVec.getLsbD_or, h.free j (by omega), Bool.false_or]
    rcases Nat.lt_or_ge j 32 with hlt | hge
    · rw [hbit j hlt, decide_eq_false (by omega), Bool.false_and]
    · exact BitVec.getLsbD_of_ge _ j hge

lemma register_known (hp : p ∈ s.list.map Prod.fst) :
    (flexButtonRegister (some (p, button)) s).2 = s := by
  rw [flexButtonRegister]
  split_ifs <;> rfl

lemma mem_register {e : ℕ × FlexButton} (he : e ∈ s.list) (call : Option (ℕ × FlexButton)) :
    e ∈ (flexButtonRegister call s).2.list := by
  rcases call with _ | ⟨q, button⟩
  · exact he
  · rw [flexButtonRegister]
    split_ifs
    · exact he
    · exact he
    all_goals exact List.mem_cons_of_mem _ he

def objects (calls : List (Option (ℕ × FlexButton))) : Finset ℕ :=
  (calls.filterMap (Option.map Prod.fst)).toFinset

lemma mem_objects {calls : List (Option (ℕ × FlexButton))} {p : ℕ} :
    p ∈ objects calls ↔ ∃ button, some (p, button) ∈ calls := by
  simp [objects]

lemma Rostered.length_lt (h : Rostered s) {S : Finset ℕ} (hS : S.card ≤ 32)
    (hlist : ∀ e ∈ s.list, e.1 ∈ S) (hp : p ∉ s.list.map Prod.fst) (hpS : p ∈ S) :
    s.list.length < 32 := by
  have hnodup : (p :: s.list.map Prod.fst).Nodup := List.nodup_cons.mpr ⟨hp, h.nodup⟩
  have hsub : (p :: s.list.map Prod.fst).toFinset ⊆ S := by
    intro q hq
    rcases List.mem_cons.mp (List.mem_toFinset.mp hq) with rfl | hq
    · exact hpS
    · obtain ⟨e, he, rfl⟩ := List.mem_map.mp hq
      exact hlist e he
  have hcard := Finset.card_le_card hsub
  rw [List.toFinset_card_of_nodup hnodup, List.length_cons, List.length_map] at hcard
  omega

lemma Rostered.register_call (h : Rostered s) {S : Finset ℕ} (hS : S.card ≤ 32)
    (hlist : ∀ e ∈ s.list, e.1 ∈ S) {call : Option (ℕ × FlexButton)}
    (hcall : ∀ b ∈ call, b.1 ∈ S ∧ b.2.usrButtonRead = true) :
    Rostered (flexButtonRegister call s).2 ∧ ∀ e ∈ (flexButtonRegister call s).2.list, e.1 ∈ S := by
  rcases call with _ | ⟨p, button⟩
  · exact ⟨h, hlist⟩
  · obtain ⟨hpS, hr⟩ := hcall _ rfl
    by_cases hp : p ∈ s.list.map Prod.fst
    · rw [register_known hp]
      exact ⟨h, hlist⟩
    · refine ⟨h.register (h.length_lt hS hlist hp hpS) hr hp, ?_⟩
      rw [register_new (h.count.le.trans h.le) hp]
      rintro e he
      rcases List.mem_cons.mp he with rfl | he
      · exact hpS
      · exact hlist e he

lemma registerAll_spec (p : ℕ) (button : FlexButton) {S : Finset ℕ} (hS : S.card ≤ 32)
    {calls : List (Option (ℕ × FlexButton))} (h : Rostered s) (hlist : ∀ e ∈ s.list, e.1 ∈ S)
    (hcalls : ∀ call ∈ calls, ∀ b ∈ call, b.1 ∈ S ∧ b.2.usrButtonRead = true) :
    Rostered (registerAll calls s) ∧ (∀ e ∈ s.list, e ∈ (registerAll calls s).list) ∧
      (p ∉ s.list.map Prod.fst →
        calls.find? (fun call => call.map Prod.fst == some p) = some (some (p, button)) →
        (p, registered button) ∈ (registerAll calls s).list) := by
  induction calls generalizing s with
  | nil => exact ⟨h, fun e he => he, nofun⟩
  | cons call calls ih =>
    have hle : s.buttonCnt.toNat ≤ 32 := h.count.le.trans h.le
    obtain ⟨hnext, hlist'⟩ := h.register_call hS hlist (hcalls call (by simp))
    obtain ⟨hrostered, hkeeps, hfirst⟩ := ih hnext hlist' fun c hc => hcalls c (by simp [hc])
    refine ⟨hrostered, fun e he => hkeeps e (mem_register he call), fun hp hfind => ?_⟩
    rw [List.find?_cons] at hfind
    by_cases hcall : call.map Prod.fst = some p
    · rw [beq_iff_eq.mpr hcall] at hfind
      obtain rfl := Option.some.inj hfind
      refine hkeeps _ ?_
      rw [register_new hle hp]
      exact List.mem_cons_self
    · rw [beq_eq_false_iff_ne.mpr hcall] at hfind
      refine hfirst (fun hmem => ?_) hfind
      rcases call with _ | ⟨q, other⟩
      · exact hp hmem
      · by_cases hq : q ∈ s.list.map Prod.fst
        · rw [register_known hq] at hmem
          exact hp hmem
        · rw [register_new hle hq] at hmem
          rcases List.mem_cons.mp hmem with heq | hmem
          · exact hcall (congrArg some heq.symm)
          · exact hp hmem

end Registering

/-- At most 32 objects with a read function that gives 0 or 1, registered in any order and each any
number of times: each button is scanned on its own. It is called back as a lone button that reads
its own level, in every run of scans. -/
theorem buttons_independent {calls : List (Option (ℕ × FlexButton))}
    (hobjects : (objects calls).card ≤ 32)
    (hr : ∀ call ∈ calls, ∀ b ∈ call, b.2.usrButtonRead = true) {p : ℕ} {button : FlexButton}
    (hp : calls.find? (fun call => call.map Prod.fst == some p) = some (some (p, button)))
    {reads : List (ℕ → Byte)} (hreads : ∀ read ∈ reads, ∀ q, (read q).toNat ≤ 1) :
    let presses := reads.map fun read => button.pressed (read p)
    let s := registerAll calls flexButtons
    (p, final processButton presses (registered button)) ∈ (final scanStep reads s).list ∧
      (trace scanStep 1 reads s).filterMap (fun x => (callOf p x.2).map (Prod.mk x.1)) =
        trace processButton 1 presses (registered button) := by
  obtain ⟨hrostered, -, hfirst⟩ := registerAll_spec p button hobjects rostered_flexButtons nofun
    fun call hcall b hb => ⟨mem_objects.mpr ⟨b.2, hb ▸ hcall⟩, hr call hcall b hb⟩
  have hmem := hfirst (by simp [flexButtons]) hp
  let R (btn : FlexButton) (s : FlexButtons) : Prop :=
    Rostered s ∧ (p, btn) ∈ s.list ∧ btn.pressedLogicLevel = button.pressedLogicLevel
  have hstep : ∀ read ∈ reads, ∀ btn s, R btn s →
      R (processButton (button.pressed (read p)) btn).1 (scanStep read s).1 ∧
        (scanStep read s).2.filterMap (callOf p) =
          (processButton (button.pressed (read p)) btn).2 := by
    rintro read hread btn s ⟨hs, hbtn, hlevel⟩
    have hpressed : btn.pressed (read p) = button.pressed (read p) := by
      rw [FlexButton.pressed, hlevel]
      rfl
    obtain ⟨hlist, hcalls⟩ := hs.scan_eq (hreads read hread)
    refine ⟨⟨hs.scan (hreads read hread), ?_, (processButton_wiring _ btn).2.trans hlevel⟩, ?_⟩
    · rw [hlist, ← hpressed]
      exact List.mem_map_of_mem (f := scanned read) hbtn
    · rw [hcalls, ← hpressed]
      exact calls_of_nodup (fun e => (processButton (e.2.pressed (read e.1)) e.2).2) hs.nodup hbtn
  obtain ⟨hfinal, htrace⟩ := trace_of_projects hstep 1 (show R (registered button) _ from
    ⟨hrostered, hmem, rfl⟩)
  exact ⟨hfinal.2.1, htrace⟩

theorem buttons_independent_two :
    let s := registerAll [some (0, userButton), none, some (1, userButton), some (0, userButton)]
      flexButtons
    (1, final processButton [true] (registered userButton)) ∈
        (final scanStep [fun _ => 0] s).list ∧
      (trace scanStep 1 [fun _ => 0] s).filterMap (fun x => (callOf 1 x.2).map (Prod.mk x.1)) =
        trace processButton 1 [true] (registered userButton) :=
  buttons_independent (by decide) (by decide) (by decide)
    (show ∀ read ∈ [fun _ => (0 : Byte)], ∀ q : ℕ, (read q).toNat ≤ 1 from by
      simp only [List.forall_mem_singleton]
      exact fun _ => Nat.zero_le 1)

end YkLock
