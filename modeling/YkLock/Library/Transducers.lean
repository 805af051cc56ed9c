import YkLock.Library.Runs

/-! Machines that answer each input with a list of outputs, and the outputs of a run with the
number of the input each of them answers. -/

namespace YkLock.Library.Transducers

open Runs

variable {A B S T E F : Type}

def final (step : A → S → S × List E) (as : List A) (s : S) : S :=
  run (fun a s => (step a s).1) as s

def trace (step : A → S → S × List E) : ℕ → List A → S → List (ℕ × E)
  | _, [], _ => []
  | n, a :: as, s => (step a s).2.map (Prod.mk n) ++ trace step (n + 1) as (step a s).1

variable {step : A → S → S × List E}

@[simp] lemma final_nil (s : S) : final step [] s = s := rfl

@[simp] lemma final_cons (a : A) (as : List A) (s : S) :
    final step (a :: as) s = final step as (step a s).1 := rfl

lemma final_append (as bs : List A) (s : S) :
    final step (as ++ bs) s = final step bs (final step as s) := run_append as bs s

@[simp] lemma trace_nil (n : ℕ) (s : S) : trace step n [] s = [] := rfl

@[simp] lemma trace_cons (n : ℕ) (a : A) (as : List A) (s : S) : trace step n (a :: as) s =
    (step a s).2.map (Prod.mk n) ++ trace step (n + 1) as (step a s).1 := rfl

lemma trace_append (n : ℕ) (as bs : List A) (s : S) : trace step n (as ++ bs) s =
    trace step n as s ++ trace step (n + as.length) bs (final step as s) := by
  induction as generalizing n s with
  | nil => rfl
  | cons a as ih =>
    rw [List.cons_append, trace_cons, ih, trace_cons, List.append_assoc, final_cons,
      List.length_cons, Nat.add_right_comm n 1, Nat.add_assoc n]

lemma trace_of_simulates {step' : A → T → T × List F} {R : T → S → Prop} {code : F → E}
    (hstep : ∀ a t s, R t s → R (step' a t).1 (step a s).1 ∧ (step a s).2 = (step' a t).2.map code)
    (as : List A) (n : ℕ) {t : T} {s : S} (h : R t s) :
    R (final step' as t) (final step as s) ∧
      trace step n as s = (trace step' n as t).map (Prod.map id code) := by
  induction as generalizing n t s with
  | nil => exact ⟨h, rfl⟩
  | cons a as ih =>
    obtain ⟨hnext, hout⟩ := hstep a t s h
    obtain ⟨hfinal, htrace⟩ := ih (n + 1) hnext
    refine ⟨hfinal, ?_⟩
    rw [trace_cons, trace_cons, htrace, hout, List.map_append, List.map_map, List.map_map]
    rfl

lemma trace_of_projects {step' : B → T → T × List F} {R : T → S → Prop} {g : A → B}
    {f : E → Option F} {as : List A} (hstep : ∀ a ∈ as, ∀ t s, R t s →
      R (step' (g a) t).1 (step a s).1 ∧ (step a s).2.filterMap f = (step' (g a) t).2)
    (n : ℕ) {t : T} {s : S} (h : R t s) :
    R (final step' (as.map g) t) (final step as s) ∧
      (trace step n as s).filterMap (fun x => (f x.2).map (Prod.mk x.1)) =
        trace step' n (as.map g) t := by
  induction as generalizing n t s with
  | nil => exact ⟨h, rfl⟩
  | cons a as ih =>
    obtain ⟨hnext, hout⟩ := hstep a (by simp) t s h
    obtain ⟨hfinal, htrace⟩ := ih (fun b hb => hstep b (by simp [hb])) (n + 1) hnext
    refine ⟨hfinal, ?_⟩
    rw [List.map_cons, trace_cons, trace_cons, List.filterMap_append, htrace, ← hout,
      List.filterMap_map, List.map_filterMap]
    rfl

lemma trace_isChain {I : ℕ × E → ℕ → S → Prop} {Follows : ℕ × E → ℕ × E → Prop} {as : List A} {s : S}
    (hstep : ∀ pre a, pre ++ [a] <+: as → ∀ x n, I x n (final step pre s) →
      ((step a (final step pre s)).2 = [] ∧ I x (n + 1) (final step (pre ++ [a]) s)) ∨
        ∃ e, (step a (final step pre s)).2 = [e] ∧ Follows x (n, e) ∧
          I (n, e) (n + 1) (final step (pre ++ [a]) s))
    {x : ℕ × E} {n : ℕ} (h : I x n s) : List.IsChain Follows (x :: trace step n as s) := by
  induction as generalizing x n s with
  | nil => exact List.IsChain.singleton x
  | cons a as ih =>
    have hnext {y : ℕ × E} (hy : I y (n + 1) (step a s).1) :
        List.IsChain Follows (y :: trace step (n + 1) as (step a s).1) :=
      ih (fun pre b hpre => hstep (a :: pre) b (List.cons_prefix_cons.mpr ⟨rfl, hpre⟩)) hy
    rcases hstep [] a ⟨as, rfl⟩ x n h with ⟨hout, hI⟩ | ⟨e, hout, hfollows, hI⟩
    · rw [trace_cons, show (step a s).2 = [] from hout]
      exact hnext hI
    · rw [trace_cons, show (step a s).2 = [e] from hout]
      exact List.IsChain.cons_cons hfollows (hnext hI)

end YkLock.Library.Transducers
