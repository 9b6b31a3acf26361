import Mathlib.Data.List.Basic
import Mathlib.Logic.Basic

/-!
# Computations that keep a log

A computation on a state that returns a value or stops, together with the list
of events of its run. The log is there in both cases: what happened before a
computation stopped did happen.

The log and the result of a sequence are those of its parts (`log_bind`,
`result_bind`), and a loop whose body leaves the state alone has the log of all
its turns (`foldlM_steady`). A run whose result is known and whose events are all
of an allowed kind is `RunsTo`, with a rule for each way to put computations
together.
-/

set_option autoImplicit false

namespace TcpStack.Lib

/-- A computation on states `σ` that stops with `φ`, and its log of events
`ε`. -/
def Logged (ε σ φ α : Type) : Type := σ → List ε × Except φ (α × σ)

namespace Logged

variable {ε σ φ α β : Type}

/-- The events of a run. -/
def log (computation : Logged ε σ φ α) (s : σ) : List ε := (computation s).1

/-- What a run ends with. -/
def result (computation : Logged ε σ φ α) (s : σ) : Except φ (α × σ) := (computation s).2

instance : Monad (Logged ε σ φ) where
  pure value := fun s => ([], .ok (value, s))
  bind computation next := fun s =>
    match computation s with
    | (log, .ok (value, later)) => (log ++ (next value later).1, (next value later).2)
    | (log, .error halt) => (log, .error halt)

/-- Put an event into the log. -/
def event (happened : ε) : Logged ε σ φ Unit := fun s => ([happened], .ok ((), s))

/-- Read the state. -/
def get : Logged ε σ φ σ := fun s => ([], .ok (s, s))

/-- Replace the state. -/
def set (later : σ) : Logged ε σ φ Unit := fun _ => ([], .ok ((), later))

/-- Continue with the result of a computation without a log. -/
def lift (outcome : Except φ α) : Logged ε σ φ α := fun s =>
  ([], outcome.map fun value => (value, s))

@[simp] theorem pure_apply (value : α) (s : σ) :
    (pure value : Logged ε σ φ α) s = ([], .ok (value, s)) := rfl

theorem bind_apply (computation : Logged ε σ φ α) (next : α → Logged ε σ φ β) (s : σ) :
    (computation >>= next) s =
      match computation s with
      | (log, .ok (value, later)) => (log ++ (next value later).1, (next value later).2)
      | (log, .error halt) => (log, .error halt) := rfl

/-- A sequence whose first part returns. -/
theorem bind_of_ok {computation : Logged ε σ φ α} {s later : σ} {events : List ε} {value : α}
    (run : computation s = (events, .ok (value, later))) (next : α → Logged ε σ φ β) :
    (computation >>= next) s = (events ++ (next value later).1, (next value later).2) := by
  rw [bind_apply, run]

theorem log_bind (computation : Logged ε σ φ α) (next : α → Logged ε σ φ β) (s : σ) :
    (computation >>= next).log s = computation.log s ++
      match computation.result s with
      | .ok (value, later) => (next value).log later
      | .error _ => [] := by
  simp only [log, result, bind_apply]
  rcases computation s with ⟨events, _ | ⟨value, later⟩⟩
  · exact (List.append_nil _).symm
  · rfl

theorem result_bind (computation : Logged ε σ φ α) (next : α → Logged ε σ φ β) (s : σ) :
    (computation >>= next).result s =
      (computation.result s >>= fun returned => (next returned.1).result returned.2) := by
  simp only [result, bind_apply]
  rcases computation s with ⟨events, _ | ⟨value, later⟩⟩ <;> rfl

/-- A loop whose body leaves the state alone. -/
theorem foldlM_steady {turn : β → α → Logged ε σ φ β} {events : α → List ε} {next : β → α → β}
    {s : σ} (steady : ∀ value item, turn value item s = (events item, .ok (next value item, s)))
    (items : List α) (start : β) :
    items.foldlM turn start s = (items.flatMap events, .ok (items.foldl next start, s)) := by
  induction items generalizing start with
  | nil => rfl
  | cons item items ih =>
      rw [List.foldlM_cons, bind_of_ok (steady start item), ih]
      rfl

/-! ## Runs whose events are allowed -/

/-- The run returns the given value in the given state, and all its events are
allowed. -/
structure RunsTo (computation : Logged ε σ φ α) (allowed : ε → Prop) (s : σ) (value : α)
    (later : σ) : Prop where
  returns : computation.result s = .ok (value, later)
  allows : ∀ happened ∈ computation.log s, allowed happened

namespace RunsTo

variable {allowed : ε → Prop} {s between later : σ}

theorem pure (value : α) : RunsTo (Pure.pure value : Logged ε σ φ α) allowed s value s :=
  ⟨rfl, fun _ member => absurd member List.not_mem_nil⟩

theorem event {happened : ε} (fine : allowed happened) :
    RunsTo (Logged.event happened : Logged ε σ φ Unit) allowed s () s :=
  ⟨rfl, fun _ member => List.mem_singleton.mp member ▸ fine⟩

theorem get : RunsTo (Logged.get : Logged ε σ φ σ) allowed s s s :=
  ⟨rfl, fun _ member => absurd member List.not_mem_nil⟩

theorem set (later : σ) : RunsTo (Logged.set later : Logged ε σ φ Unit) allowed s () later :=
  ⟨rfl, fun _ member => absurd member List.not_mem_nil⟩

/-- **The rule for a sequence.** -/
theorem bind {computation : Logged ε σ φ α} {next : α → Logged ε σ φ β} {value : α} {result : β}
    (first : RunsTo computation allowed s value between)
    (second : RunsTo (next value) allowed between result later) :
    RunsTo (computation >>= next) allowed s result later where
  returns := by
    rw [result_bind, first.returns]
    exact second.returns
  allows := by
    intro happened member
    rw [log_bind, first.returns] at member
    rcases List.mem_append.mp member with before | after
    · exact first.allows happened before
    · exact second.allows happened after

end RunsTo

end Logged

end TcpStack.Lib
