import Mathlib

/-! Records with independent fields: what writing one field leaves, and lists of field writes. -/

namespace YkLock.Library.Records

variable {K R : Type} {V : K → Type}

/-- A family of fields that can be written independently and that determine the record. A written
value need not be stored as it is (it may be cut to the field's width). -/
structure Fields (K : Type) (V : K → Type) (R : Type) where
  get : (k : K) → R → V k
  set : (k : K) → V k → R → R
  get_set_self : ∀ k v r s, get k (set k v r) = get k (set k v s)
  get_set_of_ne : ∀ k j v r, j ≠ k → get j (set k v r) = get j r
  ext : ∀ r s, (∀ k, get k r = get k s) → r = s

namespace Fields

variable (F : Fields K V R)

def AgreeOff (k : K) (r s : R) : Prop := ∀ j, j ≠ k → F.get j r = F.get j s

def Fits (k : K) (v : V k) : Prop := ∀ r, F.get k (F.set k v r) = v

variable {F}

lemma AgreeOff.symm {k : K} {r s : R} (h : F.AgreeOff k r s) : F.AgreeOff k s r :=
  fun j hj => (h j hj).symm

lemma agreeOff_set (k : K) (v : V k) (r : R) : F.AgreeOff k (F.set k v r) r :=
  fun j hj => F.get_set_of_ne k j v r hj

lemma set_eq_set_iff (k : K) (v : V k) (r s : R) :
    F.set k v r = F.set k v s ↔ F.AgreeOff k r s := by
  constructor
  · intro h j hj
    have hh := congrArg (F.get j) h
    rwa [F.get_set_of_ne k j v r hj, F.get_set_of_ne k j v s hj] at hh
  · intro h
    refine F.ext _ _ fun j => ?_
    by_cases hj : j = k
    · subst hj
      exact F.get_set_self j v r s
    · rw [F.get_set_of_ne k j v r hj, F.get_set_of_ne k j v s hj, h j hj]

lemma agreeOff_set_iff (k : K) (v : V k) (r s : R) :
    F.AgreeOff k (F.set k v r) s ↔ F.AgreeOff k r s := by
  constructor
  · intro h j hj
    rw [← h j hj, F.get_set_of_ne k j v r hj]
  · intro h j hj
    rw [F.get_set_of_ne k j v r hj, h j hj]

lemma set_set (k : K) (u v : V k) (r : R) : F.set k v (F.set k u r) = F.set k v r :=
  (set_eq_set_iff k v _ _).mpr (agreeOff_set k u r)

lemma set_comm {j k : K} (hjk : j ≠ k) (u : V j) (v : V k) (r : R) :
    F.set j u (F.set k v r) = F.set k v (F.set j u r) := by
  refine F.ext _ _ fun i => ?_
  by_cases hj : i = j
  · subst hj
    rw [F.get_set_of_ne k i v _ hjk]
    exact F.get_set_self i u _ _
  · rw [F.get_set_of_ne j i u _ hj]
    by_cases hk : i = k
    · subst hk
      exact F.get_set_self i v _ _
    · rw [F.get_set_of_ne k i v _ hk, F.get_set_of_ne k i v _ hk, F.get_set_of_ne j i u _ hj]

lemma set_eq_self_iff (k : K) {v : V k} (hv : F.Fits k v) (r : R) :
    F.set k v r = r ↔ F.get k r = v := by
  constructor
  · intro h
    rw [← h]
    exact hv r
  · intro h
    refine F.ext _ _ fun j => ?_
    by_cases hj : j = k
    · subst hj
      rw [hv r, h]
    · exact F.get_set_of_ne k j v r hj

def setAll (F : Fields K V R) (ws : List ((k : K) × V k)) (r : R) : R :=
  ws.foldl (fun s w => F.set w.1 w.2 s) r

@[simp] lemma setAll_nil (r : R) : F.setAll [] r = r := rfl

@[simp] lemma setAll_append_singleton (ws : List ((k : K) × V k)) (w : (k : K) × V k) (r : R) :
    F.setAll (ws ++ [w]) r = F.set w.1 w.2 (F.setAll ws r) := by
  simp [setAll]

section Attempts

def attempt (F : Fields K V R) : List ((k : K) × V k) → (ℕ → Bool) → R → R
  | [], _, r => r
  | w :: ws, o, r => attempt F ws (fun n => o (n + 1)) (if o 0 = true then F.set w.1 w.2 r else r)

def Holds (F : Fields K V R) (ws : List ((k : K) × V k)) (r : R) : Prop :=
  ∀ w ∈ ws, F.get w.1 r = w.2

def Unchanged (F : Fields K V R) (ws : List ((k : K) × V k)) (r s : R) : Prop :=
  ∀ w ∈ ws, F.get w.1 s = F.get w.1 r

def AllOrNothing (F : Fields K V R) (ws : List ((k : K) × V k)) (r s : R) : Prop :=
  F.Holds ws s ∨ F.Unchanged ws r s

variable {ws : List ((k : K) × V k)} {w w' : (k : K) × V k} {o : ℕ → Bool} {r : R}

lemma get_attempt_of_ne {k : K} (hk : ∀ w ∈ ws, k ≠ w.1) (o : ℕ → Bool) (r : R) :
    F.get k (F.attempt ws o r) = F.get k r := by
  induction ws generalizing o r with
  | nil => rfl
  | cons w ws ih =>
    rw [attempt, ih fun w' hw' => hk w' (List.mem_cons_of_mem _ hw')]
    split
    · exact F.get_set_of_ne _ _ _ _ (hk w List.mem_cons_self)
    · rfl

lemma get_attempt_head (hne : ∀ w' ∈ ws, w.1 ≠ w'.1) (hw : F.Fits w.1 w.2) :
    F.get w.1 (F.attempt (w :: ws) o r) = if o 0 = true then w.2 else F.get w.1 r := by
  rw [attempt, get_attempt_of_ne hne]
  split
  · exact hw r
  · rfl

lemma get_attempt_one (hw : F.Fits w.1 w.2) :
    F.get w.1 (F.attempt [w] o r) = if o 0 = true then w.2 else F.get w.1 r :=
  get_attempt_head (fun _ h => (List.not_mem_nil h).elim) hw

lemma get_attempt_first (hne : w.1 ≠ w'.1) (hw : F.Fits w.1 w.2) :
    F.get w.1 (F.attempt [w, w'] o r) = if o 0 = true then w.2 else F.get w.1 r :=
  get_attempt_head (by simpa using hne) hw

lemma get_attempt_second (hne : w'.1 ≠ w.1) (hw' : F.Fits w'.1 w'.2) :
    F.get w'.1 (F.attempt [w, w'] o r) = if o 1 = true then w'.2 else F.get w'.1 r := by
  rw [attempt, get_attempt_one hw']
  refine if_congr Iff.rfl rfl ?_
  split
  · exact F.get_set_of_ne _ _ _ _ hne
  · rfl

lemma holds_one_iff (hw : F.Fits w.1 w.2) :
    F.Holds [w] (F.attempt [w] o r) ↔ o 0 = true ∨ F.get w.1 r = w.2 := by
  simp only [Holds, List.mem_singleton, forall_eq, get_attempt_one hw]
  by_cases ho : o 0 = true <;> simp [ho]

lemma allOrNothing_one (hw : F.Fits w.1 w.2) :
    F.AllOrNothing [w] r (F.attempt [w] o r) := by
  by_cases ho : o 0 = true
  · exact Or.inl ((holds_one_iff hw).mpr (Or.inl ho))
  · refine Or.inr ?_
    simp [Unchanged, get_attempt_one hw, ho]

lemma holds_pair_iff (hne : w.1 ≠ w'.1) (hw : F.Fits w.1 w.2) (hw' : F.Fits w'.1 w'.2) :
    F.Holds [w, w'] (F.attempt [w, w'] o r) ↔
      (o 0 = true ∨ F.get w.1 r = w.2) ∧ (o 1 = true ∨ F.get w'.1 r = w'.2) := by
  simp only [Holds, List.mem_cons, List.not_mem_nil, or_false, forall_eq_or_imp, forall_eq,
    get_attempt_first hne hw, get_attempt_second hne.symm hw']
  by_cases h0 : o 0 = true <;> by_cases h1 : o 1 = true <;> simp [h0, h1]

lemma unchanged_pair_iff (hne : w.1 ≠ w'.1) (hw : F.Fits w.1 w.2) (hw' : F.Fits w'.1 w'.2) :
    F.Unchanged [w, w'] r (F.attempt [w, w'] o r) ↔
      (o 0 = true → F.get w.1 r = w.2) ∧ (o 1 = true → F.get w'.1 r = w'.2) := by
  simp only [Unchanged, List.mem_cons, List.not_mem_nil, or_false, forall_eq_or_imp, forall_eq,
    get_attempt_first hne hw, get_attempt_second hne.symm hw']
  by_cases h0 : o 0 = true <;> by_cases h1 : o 1 = true <;> simp [h0, h1, eq_comm]

lemma allOrNothing_pair_iff (hne : w.1 ≠ w'.1) (hw : F.Fits w.1 w.2) (hw' : F.Fits w'.1 w'.2) :
    F.AllOrNothing [w, w'] r (F.attempt [w, w'] o r) ↔
      o 0 = o 1 ∨ F.get w.1 r = w.2 ∨ F.get w'.1 r = w'.2 := by
  rw [AllOrNothing, holds_pair_iff hne hw hw', unchanged_pair_iff hne hw hw']
  by_cases h0 : o 0 = true <;> by_cases h1 : o 1 = true <;> simp [h0, h1, or_comm]

end Attempts

end Fields

abbrev Mask : Type := Bool × Bool

namespace Mask

def has (m : Mask) (x : Bool) : Bool := if x = true then m.1 else m.2

def add (m : Mask) (x : Bool) : Mask := if x = true then (true, m.2) else (m.1, true)

def apply (F : Fields K V R) (writes : Bool → (k : K) × V k) (r : R) (m : Mask) : R :=
  let s := if m.2 = true then F.set (writes false).1 (writes false).2 r else r
  if m.1 = true then F.set (writes true).1 (writes true).2 s else s

variable {F : Fields K V R} {writes : Bool → (k : K) × V k} {r : R}

@[simp] lemma apply_none : apply F writes r (false, false) = r := rfl

lemma get_apply_of_ne {j : K} (hj : ∀ x, j ≠ (writes x).1) (m : Mask) :
    F.get j (apply F writes r m) = F.get j r := by
  obtain ⟨_ | _, _ | _⟩ := m <;>
    simp [apply, F.get_set_of_ne _ j _ _ (hj true), F.get_set_of_ne _ j _ _ (hj false)]

lemma get_apply_self (hkeys : (writes true).1 ≠ (writes false).1) (x : Bool) (m : Mask) :
    F.get (writes x).1 (apply F writes r m) =
      if m.has x = true then F.get (writes x).1 (F.set (writes x).1 (writes x).2 r)
      else F.get (writes x).1 r := by
  cases x with
  | true =>
    obtain ⟨_ | _, _ | _⟩ := m
    · rfl
    · exact F.get_set_of_ne _ _ _ _ hkeys
    · rfl
    · exact F.get_set_self _ _ _ _
  | false =>
    obtain ⟨_ | _, _ | _⟩ := m
    · rfl
    · rfl
    · exact F.get_set_of_ne _ _ _ _ hkeys.symm
    · exact F.get_set_of_ne _ _ _ _ hkeys.symm

lemma apply_add (hkeys : (writes true).1 ≠ (writes false).1) (x : Bool) (m : Mask) :
    apply F writes r (m.add x) = F.set (writes x).1 (writes x).2 (apply F writes r m) := by
  cases x with
  | true =>
    obtain ⟨_ | _, _ | _⟩ := m
    · rfl
    · rfl
    · exact (Fields.set_set _ _ _ _).symm
    · exact (Fields.set_set _ _ _ _).symm
  | false =>
    obtain ⟨_ | _, _ | _⟩ := m
    · rfl
    · exact (Fields.set_set _ _ _ _).symm
    · exact Fields.set_comm hkeys _ _ _
    · exact (congrArg _ (Fields.set_set _ _ _ _).symm).trans (Fields.set_comm hkeys _ _ _)

end Mask

section Values

variable {W : Type} [DecidableEq K]

def written (writes : List (K × W)) (f : K → W) : K → W :=
  writes.foldr (fun a f => Function.update f a.1 a.2) f

lemma written_apply (writes : List (K × W)) (f : K → W) (k : K) :
    written writes f k = ((writes.find? (·.1 = k)).map (·.2)).getD (f k) := by
  induction writes with
  | nil => rfl
  | cons a writes ih =>
    by_cases ha : a.1 = k
    · subst ha
      simp [written]
    · have hskip : written (a :: writes) f k = written writes f k :=
        Function.update_of_ne (Ne.symm ha) _ _
      rw [hskip, ih, List.find?_cons_of_neg (by simpa using ha)]

lemma written_written (writes : List (K × W)) (f : K → W) :
    written writes (written writes f) = written writes f := by
  funext k
  rw [written_apply, written_apply]
  cases writes.find? (·.1 = k) with
  | none => rfl
  | some a => rfl

end Values

end YkLock.Library.Records
