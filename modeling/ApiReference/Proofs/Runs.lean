import Mathlib

/-!
# Runs of Steps

A run takes steps one after another, and leads nowhere when one of them cannot be taken.  What holds
at its beginning and is kept by each step that is taken holds at its end.
-/

namespace ApiReference

variable {σ ι : Type*} {step : σ → ι → Option σ} {start final : σ}

/-- Before the last step of a run stands a run, at whose end that step is taken. -/
theorem exists_of_foldlM_append_singleton {steps : List ι} {last : ι}
    (h : (steps ++ [last]).foldlM step start = some final) :
    ∃ state, steps.foldlM step start = some state ∧ step state last = some final := by
  rw [List.foldlM_append] at h
  obtain ⟨state, hstate, hlast⟩ := Option.bind_eq_some_iff.mp h
  exact ⟨state, hstate, by simpa using hlast⟩

/-- What is said of the steps of a run and of the state at its end is shown for no steps, and for
one step more than those of any run. -/
theorem run_induction {P : List ι → σ → Prop} (first : P [] start)
    (further : ∀ steps state last next, steps.foldlM step start = some state →
      step state last = some next → P steps state → P (steps ++ [last]) next)
    {steps : List ι} (h : steps.foldlM step start = some final) : P steps final := by
  induction steps using List.reverseRec generalizing final with
  | nil =>
    cases h
    exact first
  | append_singleton steps last ih =>
    obtain ⟨state, hstate, hlast⟩ := exists_of_foldlM_append_singleton h
    exact further steps state last final hstate hlast (ih hstate)

end ApiReference
