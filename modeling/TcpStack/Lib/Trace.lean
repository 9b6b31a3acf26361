import Mathlib.Data.List.Basic

/-!
# Traces

A run of a labelled transition relation together with every step it took, each
with the states before and after it. A property of the steps of a run follows
from the same property of single steps (`Trace.step_of_mem`), and two properties
that agree on single steps agree along a run (`Trace.forall_iff`).
-/

set_option autoImplicit false

namespace TcpStack.Lib

/-- A step taken: its label and the states before and after it. -/
structure Visit (State Label : Type*) where
  before : State
  label : Label
  after : State

variable {State Label : Type*}

/-- The steps taken from `start` on, and the state reached. -/
inductive Trace (step : State → Label → State → Prop) (start : State) :
    List (Visit State Label) → State → Prop where
  | start : Trace step start [] start
  | step {visits : List (Visit State Label)} {now later : State} {label : Label} :
      Trace step start visits now → step now label later →
        Trace step start (visits ++ [⟨now, label, later⟩]) later

namespace Trace

variable {step : State → Label → State → Prop} {start last : State}
  {visits : List (Visit State Label)}

/-- What is recorded was a step. -/
theorem step_of_mem (run : Trace step start visits last) :
    ∀ visit ∈ visits, step visit.before visit.label visit.after := by
  induction run with
  | start => simp
  | step _ taken ih =>
      rw [List.forall_mem_append, List.forall_mem_singleton]
      exact ⟨ih, taken⟩

/-- Properties that agree on every single step agree on a run. -/
theorem forall_iff {first second : Visit State Label → Prop} (run : Trace step start visits last)
    (same : ∀ visit : Visit State Label, step visit.before visit.label visit.after →
      (first visit ↔ second visit)) :
    (∀ visit ∈ visits, first visit) ↔ ∀ visit ∈ visits, second visit := by
  constructor
  · intro all visit member
    exact (same visit (run.step_of_mem visit member)).mp (all visit member)
  · intro all visit member
    exact (same visit (run.step_of_mem visit member)).mpr (all visit member)

end Trace

end TcpStack.Lib
