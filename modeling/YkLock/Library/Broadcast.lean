import YkLock.Library.Parties
import YkLock.Library.Runs

/-! Parties on one medium: what one of them sends, all the others hear. -/

namespace YkLock.Library.Broadcast

open Parties Runs

variable {T S A M : Type}

inductive Action (T A M : Type)
  | own (t : T) (a : A)
  | outside (m : M)

inductive Seen (A M : Type)
  | own (a : A)
  | outside (m : M)

structure Medium (T S M : Type) where
  party : T → S
  log : List (T × M)

def hearAll (hear : M → S → S) (ms : List M) (s : S) : S := ms.foldl (fun s m => hear m s) s

def step [DecidableEq T] (act : T → A → S → S × List M) (hear : M → S → S) (a : Action T A M)
    (s : Medium T S M) : Medium T S M :=
  match a with
  | .own t a =>
    { party := fun u =>
        if u = t then (act t a (s.party t)).1
        else hearAll hear (act t a (s.party t)).2 (s.party u)
      log := s.log ++ (act t a (s.party t)).2.map (Prod.mk t) }
  | .outside m => { s with party := fun u => hear m (s.party u) }

def seenStep (act : A → S → S × List M) (hear : M → S → S) (a : Seen A M) (s : S × List M) :
    S × List M :=
  match a with
  | .own a => ((act a s.1).1, s.2 ++ (act a s.1).2)
  | .outside m => (hear m s.1, s.2)

def Action.seen [DecidableEq T] (t : T) : Action T A M → Option (Seen A M)
  | .own u a => if u = t then some (.own a) else none
  | .outside m => some (.outside m)

def Medium.view [DecidableEq T] (t : T) (s : Medium T S M) : S × List M :=
  (s.party t, mine t s.log)

section Deaf

variable [DecidableEq T] {act : T → A → S → S × List M} {hear : M → S → S} {I : S → Prop}
  {P : M → Prop} {s : Medium T S M}

lemma hearAll_eq_self (hdeaf : ∀ m s, P m → I s → hear m s = s) {ms : List M}
    (hms : ∀ m ∈ ms, P m) {s : S} (hs : I s) : hearAll hear ms s = s := by
  induction ms with
  | nil => rfl
  | cons m ms ih =>
    rw [hearAll, List.foldl_cons, hdeaf m s (hms m List.mem_cons_self) hs]
    exact ih fun m' hm' => hms m' (List.mem_cons_of_mem m hm')

variable (hact : ∀ t a s, I s → I (act t a s).1 ∧ ∀ m ∈ (act t a s).2, P m)
  (hhear : ∀ m s, I s → I (hear m s)) (hdeaf : ∀ m s, P m → I s → hear m s = s)
include hact hdeaf

lemma own_party (h : ∀ t, I (s.party t)) (t : T) (a : A) : (step act hear (.own t a) s).party =
    Function.update s.party t (act t a (s.party t)).1 := by
  funext u
  change (if u = t then _ else _) = _
  by_cases hu : u = t
  · rw [if_pos hu, hu, Function.update_self]
  · rw [if_neg hu, Function.update_of_ne hu,
      hearAll_eq_self hdeaf (hact t a (s.party t) (h t)).2 (h u)]

include hhear

lemma step_party (h : ∀ t, I (s.party t)) (a : Action T A M) (u : T) :
    I ((step act hear a s).party u) := by
  cases a with
  | own t a =>
    rw [own_party hact hdeaf h]
    by_cases hu : u = t
    · rw [hu, Function.update_self]
      exact (hact t a (s.party t) (h t)).1
    · rw [Function.update_of_ne hu]
      exact h u
  | outside m => exact hhear m (s.party u) (h u)

omit hhear in
lemma step_view (h : ∀ t, I (s.party t)) (a : Action T A M) (t : T) :
    (step act hear a s).view t = (a.seen t).elim (s.view t) fun b =>
      seenStep (act t) hear b (s.view t) := by
  cases a with
  | own u a =>
    rw [Medium.view, own_party hact hdeaf h, Action.seen]
    by_cases hu : u = t
    · subst hu
      rw [if_pos rfl, Function.update_self]
      change (_, mine u (s.log ++ _)) = _
      rw [mine_append, mine_own]
      rfl
    · rw [if_neg hu, Function.update_of_ne (Ne.symm hu)]
      change (_, mine t (s.log ++ _)) = _
      rw [mine_append, mine_other hu, List.append_nil]
      rfl
  | outside m => rfl

lemma run_view (as : List (Action T A M)) (h : ∀ t, I (s.party t)) (t : T) :
    (run (step act hear) as s).view t =
      run (seenStep (act t) hear) (as.filterMap (Action.seen t)) (s.view t) := by
  induction as generalizing s with
  | nil => rfl
  | cons a as ih =>
    rw [run_cons, ih (step_party hact hhear hdeaf h a), step_view hact hdeaf h]
    rcases ha : a.seen t with _ | b
    · rw [List.filterMap_cons_none ha]
      rfl
    · rw [List.filterMap_cons_some ha]
      rfl

end Deaf

end YkLock.Library.Broadcast
