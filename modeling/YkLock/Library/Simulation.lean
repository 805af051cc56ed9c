import YkLock.Library.Runs

/-! Simulations in which a step is matched by any number of steps, none included. -/

namespace YkLock.Library.Simulation

open Runs

variable {A B S T : Type} {step : A → S → S} {step' : B → T → T} {allowed : A → S → Prop}
  {allowed' : B → T → Prop} {R : T → S → Prop}

lemma run_simulated (hstep : ∀ a t s, R t s → allowed a s →
      ∃ bs, Enabled step' allowed' bs t ∧ R (run step' bs t) (step a s))
    {as : List A} {t : T} {s : S} (h : Enabled step allowed as s) (hr : R t s) :
    ∃ bs, Enabled step' allowed' bs t ∧ R (run step' bs t) (run step as s) := by
  induction as generalizing t s with
  | nil => exact ⟨[], trivial, hr⟩
  | cons a as ih =>
    obtain ⟨bs, hbs, hnext⟩ := hstep a t s hr h.1
    obtain ⟨cs, hcs, hlast⟩ := ih h.2 hnext
    refine ⟨bs ++ cs, (enabled_append bs cs t).mpr ⟨hbs, hcs⟩, ?_⟩
    rw [run_append]
    exact hlast

lemma invariant_simulated (hstep : ∀ a t s, R t s → allowed a s →
      ∃ bs, Enabled step' allowed' bs t ∧ R (run step' bs t) (step a s))
    {I : T → Prop} (hI : ∀ b t, I t → allowed' b t → I (step' b t))
    {as : List A} {t : T} {s : S} (h : Enabled step allowed as s) (hr : R t s) (ht : I t) :
    ∃ t', I t' ∧ R t' (run step as s) := by
  obtain ⟨bs, hbs, hlast⟩ := run_simulated hstep h hr
  exact ⟨run step' bs t, hbs.invariant hI ht, hlast⟩

end YkLock.Library.Simulation
