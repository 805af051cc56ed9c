import Mathlib

/-! Runs of a step function over a list of actions. -/

namespace YkLock.Library.Runs

variable {A S T : Type}

def run (step : A → S → S) (as : List A) (s : S) : S := as.foldl (fun s a => step a s) s

def Enabled (step : A → S → S) (allowed : A → S → Prop) : List A → S → Prop
  | [], _ => True
  | a :: as, s => allowed a s ∧ Enabled step allowed as (step a s)

variable {step : A → S → S} {allowed : A → S → Prop}

def Enabled.decide [∀ a s, Decidable (allowed a s)] :
    (as : List A) → (s : S) → Decidable (Enabled step allowed as s)
  | [], _ => isTrue trivial
  | a :: as, s => @instDecidableAnd _ _ _ (Enabled.decide as (step a s))

instance [∀ a s, Decidable (allowed a s)] (as : List A) (s : S) :
    Decidable (Enabled step allowed as s) := Enabled.decide as s

@[simp] lemma run_nil (s : S) : run step [] s = s := rfl

@[simp] lemma run_cons (a : A) (as : List A) (s : S) :
    run step (a :: as) s = run step as (step a s) := rfl

@[simp] lemma run_append (as bs : List A) (s : S) :
    run step (as ++ bs) s = run step bs (run step as s) := List.foldl_append

lemma enabled_append (as bs : List A) (s : S) : Enabled step allowed (as ++ bs) s ↔
    Enabled step allowed as s ∧ Enabled step allowed bs (run step as s) := by
  induction as generalizing s with
  | nil => simp [Enabled]
  | cons a as ih => simp [Enabled, ih, and_assoc]

lemma enabled_of_forall (h : ∀ a s, allowed a s) (as : List A) (s : S) :
    Enabled step allowed as s := by
  induction as generalizing s with
  | nil => trivial
  | cons a as ih => exact ⟨h a s, ih (step a s)⟩

lemma Enabled.relate {step' : A → T → T} {R : T → S → Prop}
    (hstep : ∀ a t s, R t s → allowed a s → R (step' a t) (step a s)) {as : List A} {t : T} {s : S}
    (h : Enabled step allowed as s) (hr : R t s) : R (run step' as t) (run step as s) := by
  induction as generalizing t s with
  | nil => exact hr
  | cons a as ih => exact ih h.2 (hstep a t s hr h.1)

lemma Enabled.invariant {I : S → Prop} (hstep : ∀ a s, I s → allowed a s → I (step a s))
    {as : List A} {s : S} (h : Enabled step allowed as s) (hs : I s) : I (run step as s) := by
  induction as generalizing s with
  | nil => exact hs
  | cons a as ih => exact ih h.2 (hstep a s hs h.1)

lemma run_invariant {I : S → Prop} {as : List A} (hstep : ∀ a ∈ as, ∀ s, I s → I (step a s)) {s : S}
    (hs : I s) : I (run step as s) := by
  induction as generalizing s with
  | nil => exact hs
  | cons a as ih => exact ih (fun b hb => hstep b (by simp [hb])) (hstep a (by simp) s hs)

lemma forall_prefix_cons {P : List A → Prop} {a : A} {as : List A} :
    (∀ pre, pre <+: a :: as → P pre) ↔ P [] ∧ ∀ pre, pre <+: as → P (a :: pre) := by
  constructor
  · exact fun h => ⟨h _ List.nil_prefix, fun pre hpre => h _ (List.cons_prefix_cons.mpr ⟨rfl, hpre⟩)⟩
  · rintro ⟨hnil, hcons⟩ (_ | ⟨c, pre⟩) hpre
    · exact hnil
    · obtain ⟨hc, hpre'⟩ := List.cons_prefix_cons.mp hpre
      rw [hc]
      exact hcons pre hpre'

lemma forall_prefix_iff_enabled {I P : S → Prop} {good : A → S → Prop} (hI : ∀ s, I s → P s)
    (hgood : ∀ a s, I s → allowed a s → good a s → I (step a s))
    (hbad : ∀ a s, I s → allowed a s → P (step a s) → good a s) {as : List A} {s : S}
    (h : Enabled step allowed as s) (hs : I s) :
    (∀ pre, pre <+: as → P (run step pre s)) ↔ Enabled step good as s := by
  induction as generalizing s with
  | nil => exact iff_of_true (fun pre hpre => by rw [List.prefix_nil.mp hpre]; exact hI s hs) trivial
  | cons a as ih =>
    obtain ⟨ha, has⟩ := h
    rw [forall_prefix_cons]
    simp only [run_nil, run_cons]
    constructor
    · rintro ⟨-, hp⟩
      have hstep := hbad a s hs ha (hp [] List.nil_prefix)
      exact ⟨hstep, (ih has (hgood a s hs ha hstep)).mp hp⟩
    · rintro ⟨hstep, hrest⟩
      exact ⟨hI s hs, (ih has (hgood a s hs ha hstep)).mpr hrest⟩

lemma forall_prefix_iff {I P : S → Prop} {good : A → S → Prop} (hI : ∀ s, I s → P s)
    (hgood : ∀ a s, I s → good a s → I (step a s))
    (hbad : ∀ a s, I s → P (step a s) → good a s) (as : List A) {s : S} (hs : I s) :
    (∀ pre, pre <+: as → P (run step pre s)) ↔ Enabled step good as s := by
  have hall : Enabled step (fun _ _ => True) as s := enabled_of_forall (fun _ _ => trivial) as s
  exact forall_prefix_iff_enabled hI (fun a s h _ => hgood a s h) (fun a s h _ => hbad a s h) hall hs

lemma enabled_not_or {P : A → S → Prop} {I : S → Prop} (hnew : ∀ a s, P a s → I (step a s))
    (hkeep : ∀ a s, I s → I (step a s)) (as : List A) (s : S) :
    Enabled step (fun a s => ¬ P a s) as s ∨ I (run step as s) := by
  induction as generalizing s with
  | nil => exact Or.inl trivial
  | cons a as ih =>
    rw [run_cons]
    by_cases ha : P a s
    · exact Or.inr (run_invariant (fun a _ => hkeep a) (hnew a s ha))
    · exact (ih (step a s)).imp_left fun h => ⟨ha, h⟩

lemma run_relates {R : S → S → Prop} [Std.Refl R] [IsTrans S R] {as : List A}
    (hstep : ∀ a ∈ as, ∀ s, R s (step a s)) (s : S) : R s (run step as s) := by
  induction as generalizing s with
  | nil => exact Std.Refl.refl s
  | cons a as ih =>
    refine IsTrans.trans _ _ _ (hstep a (by simp) s) (ih (fun b hb => hstep b (by simp [hb])) _)

end YkLock.Library.Runs
