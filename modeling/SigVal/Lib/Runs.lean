import Mathlib.Data.List.Forall2
import Mathlib.Logic.Relation

/-!
# Runs of a step relation

A concurrent component is a step relation: one step is one atomic action of one
of its threads, and a run is any sequence of steps. Every interleaving is a
run, so what a step preserves holds at the end of every interleaving.
-/

namespace SigVal.Runs

variable {State : Type} {Step : State → State → Prop}

/-- `t` can be reached from `s` by some interleaving of the threads. -/
abbrev Run (Step : State → State → Prop) : State → State → Prop := Relation.ReflTransGen Step

/-- What holds at the start and is kept by every step holds at the end of every
run. -/
theorem Run.invariant {Inv : State → Prop} (hstep : ∀ s t, Step s t → Inv s → Inv t)
    {s t : State} (hrun : Run Step s t) (hinit : Inv s) : Inv t := by
  induction hrun with
  | refl => exact hinit
  | tail _ hlast ih => exact hstep _ _ hlast ih

/-! ## Runs with labels -/

section Labelled

variable {Label β : Type} {Step : State → Label → State → Prop}

/-- Steps with these labels lead from one state to the other. -/
inductive Trace (Step : State → Label → State → Prop) : State → List Label → State → Prop
  | refl (s : State) : Trace Step s [] s
  | step {s t u : State} {a : Label} {labels : List Label} :
      Step s a t → Trace Step t labels u → Trace Step s (a :: labels) u

/-- A run seen through a map of the states. -/
theorem Trace.map {State' : Type} {Step' : State' → Label → State' → Prop} (f : State → State')
    (hstep : ∀ s a t, Step s a t → Step' (f s) a (f t)) {s t : State} {labels : List Label}
    (hrun : Trace Step s labels t) : Trace Step' (f s) labels (f t) := by
  induction hrun with
  | refl s => exact .refl (f s)
  | step hfirst _ ih => exact .step (hstep _ _ _ hfirst) ih

theorem Trace.concat {s t u : State} {a : Label} {labels : List Label}
    (hrun : Trace Step s labels t) (hlast : Step t a u) : Trace Step s (labels ++ [a]) u := by
  induction hrun with
  | refl s => exact .step hlast (.refl u)
  | step hfirst _ ih => exact .step hfirst (ih hlast)

/-- The last step of a run. -/
theorem Trace.exists_last {s u : State} {a : Label} :
    ∀ {labels : List Label}, Trace Step s (labels ++ [a]) u →
      ∃ t, Trace Step s labels t ∧ Step t a u := by
  intro labels
  induction labels generalizing s with
  | nil =>
      intro hrun
      cases hrun with
      | step hfirst hrest =>
          cases hrest
          exact ⟨s, .refl s, hfirst⟩
  | cons b rest ih =>
      intro hrun
      cases hrun with
      | step hfirst hrest =>
          obtain ⟨t, hrun, hlast⟩ := ih hrest
          exact ⟨t, .step hfirst hrun, hlast⟩

/-- Where every step adds an item for its label to what is kept, a run adds the items of its
labels in their order. -/
theorem Trace.accumulates {I : State → List β → Prop} {R : Label → β → Prop}
    (hstep : ∀ s a t kept, Step s a t → I s kept → ∃ b, R a b ∧ I t (kept ++ [b]))
    {s t : State} {labels : List Label} (hrun : Trace Step s labels t) :
    ∀ {kept : List β}, I s kept → ∃ added, List.Forall₂ R labels added ∧ I t (kept ++ added) := by
  induction hrun with
  | refl s =>
      intro kept hkept
      refine ⟨[], .nil, ?_⟩
      rw [List.append_nil]
      exact hkept
  | step hfirst _ ih =>
      intro kept hkept
      obtain ⟨b, hb, hafter⟩ := hstep _ _ _ _ hfirst hkept
      obtain ⟨added, hadded, hlast⟩ := ih hafter
      refine ⟨b :: added, .cons hb hadded, ?_⟩
      rw [List.append_cons]
      exact hlast

end Labelled

end SigVal.Runs
