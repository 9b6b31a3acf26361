import TcpStack.Sock.Data
import Mathlib.Data.List.Induction

/-!
# Sleeping and waking

The threads that share a `struct synch_wait`: one that calls `sleep_on` again
and again, and any number that call `wake_up` and `wait_exit`. What runs
without interruption is a critical section. A call of `sleep_on` that blocks is
two of them, since `pthread_cond_wait` gives the lock back; the second may come
without a signal.

No wake-up is lost (`waiter_not_lost`): the flags show a blocked thread to
whoever comes to wake it, and outside a wait `notified` says whether somebody
came since the last call returned.
-/

set_option autoImplicit false

namespace TcpStack

/-! ## The threads -/

/-- Where the thread that sleeps is. -/
inductive Waiter where
  | away
  /-- In `pthread_cond_wait`, and whether a signal or a broadcast was delivered
  since it blocked. -/
  | blocked (signalled : Bool)
  deriving DecidableEq, Repr

/-- The flags, and the thread that sleeps. -/
structure WaitState where
  wait : SynchWait
  waiter : Waiter
  deriving DecidableEq, Repr

/-- What a critical section was. A call of `sleep_on` shows when it blocks and
when it returns. -/
inductive WaitEvent where
  | slept
  | returned
  | wokeUp
  | exited
  deriving DecidableEq, Repr

/-- `pthread_cond_signal` and `pthread_cond_broadcast`, with at most one thread
to reach. -/
def Waiter.signal : Waiter → Waiter
  | .away => .away
  | .blocked _ => .blocked true

/-- Whether `wake_up` signals. -/
def wakeUpSignals (wait : SynchWait) : Bool := !wait.dead && !wait.notified && wait.sleep

/-- `wait_exit`, as far as the flags are concerned. -/
def waitExit (wait : SynchWait) : SynchWait :=
  if wait.dead then wait else { wait with dead := true }

/-- Whether `wait_exit` broadcasts. -/
def waitExitBroadcasts (wait : SynchWait) : Bool := !wait.dead && wait.sleep

namespace WaitState

/-- `wait_init`. -/
def init : WaitState := ⟨waitInit, .away⟩

def wakeUp (now : WaitState) : WaitState where
  wait := TcpStack.wakeUp now.wait
  waiter := if wakeUpSignals now.wait then now.waiter.signal else now.waiter

def waitExit (now : WaitState) : WaitState where
  wait := TcpStack.waitExit now.wait
  waiter := if waitExitBroadcasts now.wait then now.waiter.signal else now.waiter

end WaitState

/-- One critical section. -/
inductive WaitStep : WaitState → WaitEvent → WaitState → Prop where
  | sleeps {wait : SynchWait} : (sleepOn wait).2 = true →
      WaitStep ⟨wait, .away⟩ .slept ⟨(sleepOn wait).1, .blocked false⟩
  | passes {wait : SynchWait} : (sleepOn wait).2 = false →
      WaitStep ⟨wait, .away⟩ .returned ⟨(sleepOn wait).1, .away⟩
  -- without a signal, this is a spurious wake-up
  | resumes {wait : SynchWait} {signalled : Bool} :
      WaitStep ⟨wait, .blocked signalled⟩ .returned ⟨sleepOnWoken wait, .away⟩
  | wakes {now : WaitState} : WaitStep now .wokeUp now.wakeUp
  | exits {now : WaitState} : WaitStep now .exited now.waitExit

/-- The critical sections that ran since `wait_init`, and the state they lead
to. -/
inductive WaitRun : List WaitEvent → WaitState → Prop where
  | init : WaitRun [] .init
  | step {history : List WaitEvent} {now later : WaitState} {event : WaitEvent} :
      WaitRun history now → WaitStep now event later → WaitRun (history ++ [event]) later

/-- Some `wake_up` has run since the last `sleep_on` returned. -/
def WokenSince (history : List WaitEvent) : Prop :=
  ∃ before after, history = before ++ .wokeUp :: after ∧ WaitEvent.returned ∉ after

/-! ## One critical section -/

section History

variable {history : List WaitEvent}

theorem not_wokenSince_nil : ¬ WokenSince [] := by
  rintro ⟨before, after, split, _⟩
  cases before <;> cases split

theorem wokenSince_wokeUp : WokenSince (history ++ [.wokeUp]) :=
  ⟨history, [], rfl, List.not_mem_nil⟩

/-- An event other than a wake-up belongs to what came after the last one. -/
theorem wokenSince_other {event : WaitEvent} (other : event ≠ .wokeUp) :
    WokenSince (history ++ [event]) ↔ event ≠ .returned ∧ WokenSince history := by
  constructor
  · rintro ⟨before, after, split, none⟩
    cases after using List.reverseRecOn with
    | nil =>
        obtain ⟨_, same⟩ := List.append_inj' split rfl
        cases same
        exact absurd rfl other
    | append_singleton rest last =>
        rw [← List.cons_append, ← List.append_assoc] at split
        obtain ⟨same, lasts⟩ := List.append_inj' split rfl
        cases lasts
        refine ⟨?_, before, rest, same, fun inside => none (List.mem_append_left _ inside)⟩
        rintro rfl
        exact none (List.mem_append_right _ List.mem_cons_self)
  · rintro ⟨goes, before, after, rfl, none⟩
    refine ⟨before, after ++ [event], by simp, ?_⟩
    simp only [List.mem_append, List.mem_singleton, not_or]
    exact ⟨none, goes.symm⟩

end History

/-- What the flags say, whatever ran before. -/
structure WaitState.Tells (now : WaitState) (history : List WaitEvent) : Prop where
  /-- A blocked thread that was not signalled is seen. -/
  asleep : now.waiter = .blocked false → now.wait = ⟨false, false, true⟩
  latched : now.wait.dead = false → (now.wait.notified = true ↔ WokenSince history)

namespace WaitState

variable {now : WaitState}

/-- A thread that is seen is signalled by `wake_up`. -/
theorem wakeUp_asleep (seen : now.waiter = .blocked false → now.wait = ⟨false, false, true⟩)
    (asleep : now.waiter = .blocked false) : now.wakeUp.waiter = .blocked true := by
  simp [wakeUp, seen asleep, asleep, wakeUpSignals, Waiter.signal]

/-- A thread that is seen is signalled by `wait_exit`. -/
theorem waitExit_asleep (seen : now.waiter = .blocked false → now.wait = ⟨false, false, true⟩)
    (asleep : now.waiter = .blocked false) : now.waitExit.waiter = .blocked true := by
  simp [waitExit, seen asleep, asleep, waitExitBroadcasts, Waiter.signal]

/-- A signal leaves no thread blocked without one. -/
theorem not_asleep_of_signalled {wakes : Bool}
    (woken : now.waiter = .blocked false → wakes = true)
    (asleep : (if wakes then now.waiter.signal else now.waiter) = .blocked false) : False := by
  cases before : now.waiter with
  | away => simp [before, Waiter.signal] at asleep
  | blocked signalled =>
      cases signalled with
      | true => simp [before, Waiter.signal] at asleep
      | false => simp [woken before, before, Waiter.signal] at asleep

end WaitState

/-- One critical section leaves flags that tell what ran. -/
theorem WaitStep.tells {now later : WaitState} {event : WaitEvent} {history : List WaitEvent}
    (step : WaitStep now event later) (tells : now.Tells history) :
    later.Tells (history ++ [event]) := by
  cases step with
  | @sleeps wait blocks =>
      have awake : wait.dead = false ∧ wait.notified = false := by
        cases dead : wait.dead <;> cases notified : wait.notified <;>
          simp_all [sleepOn]
      have flags : (sleepOn wait).1 = { wait with sleep := true } := by
        simp [sleepOn, awake]
      refine ⟨fun _ => ?_, fun alive => ?_⟩
      · simp [flags, awake]
      · rw [wokenSince_other (by decide), and_iff_right (by decide), ← tells.latched awake.1]
        simp [flags]
  | @passes wait returns =>
      refine ⟨(fun asleep => by cases asleep), fun alive => ?_⟩
      have cleared : (sleepOn wait).1.notified = false := by
        cases dead : wait.dead <;> cases notified : wait.notified <;>
          simp_all [sleepOn]
      simp [cleared, wokenSince_other]
  | @resumes wait signalled =>
      refine ⟨(fun asleep => by cases asleep), fun _ => ?_⟩
      simp [sleepOnWoken, wokenSince_other]
  | wakes =>
      refine ⟨fun asleep => ?_, fun alive => ?_⟩
      · exact (WaitState.not_asleep_of_signalled
          (fun before => by simp [tells.asleep before, wakeUpSignals]) asleep).elim
      · have woken : (wakeUp now.wait).notified = true := by
          cases dead : now.wait.dead <;> cases notified : now.wait.notified <;>
            simp_all [wakeUp, WaitState.wakeUp]
        exact iff_of_true woken wokenSince_wokeUp
  | exits =>
      refine ⟨fun asleep => ?_, fun alive => ?_⟩
      · exact (WaitState.not_asleep_of_signalled
          (fun before => by simp [tells.asleep before, waitExitBroadcasts]) asleep).elim
      · cases dead : now.wait.dead <;> simp_all [waitExit, WaitState.waitExit]

/-! ## Every interleaving -/

theorem WaitRun.tells {history : List WaitEvent} {now : WaitState} (run : WaitRun history now) :
    now.Tells history := by
  induction run with
  | init =>
      refine ⟨(fun asleep => by cases asleep), fun _ => ?_⟩
      exact iff_of_false (by decide) not_wokenSince_nil
  | step _ step tells => exact step.tells tells

/-- **No wake-up is lost.** A blocked thread that was not signalled is seen by
the next `wake_up` and by the next `wait_exit`, and both signal it. While the
structure is not dead, `notified` is set exactly when some `wake_up` has run
since the last `sleep_on` returned, and then the next `sleep_on` returns without
blocking. -/
theorem waiter_not_lost {history : List WaitEvent} {now : WaitState}
    (run : WaitRun history now) :
    (now.waiter = .blocked false →
      now.wait.sleep = true ∧ now.wait.notified = false ∧ now.wait.dead = false ∧
        now.wakeUp.waiter = .blocked true ∧ now.waitExit.waiter = .blocked true) ∧
    (now.wait.dead = false →
      (now.wait.notified = true ↔ WokenSince history) ∧
      (WokenSince history → now.waiter = .away →
        (∃ later, WaitStep now .returned later) ∧ ∀ later, ¬ WaitStep now .slept later)) := by
  have tells := run.tells
  refine ⟨fun asleep => ?_, fun alive => ⟨tells.latched alive, fun woken away => ?_⟩⟩
  · have flags := tells.asleep asleep
    exact ⟨by rw [flags], by rw [flags], by rw [flags],
      WaitState.wakeUp_asleep tells.asleep asleep, WaitState.waitExit_asleep tells.asleep asleep⟩
  · have notified := (tells.latched alive).mpr woken
    obtain ⟨wait, waiter⟩ := now
    subst away
    have returns : (sleepOn wait).2 = false := by
      simp_all [sleepOn]
    refine ⟨⟨_, .passes returns⟩, fun later slept => ?_⟩
    cases slept with
    | sleeps blocks => exact absurd (returns.symm.trans blocks) (by decide)

/-- A wake-up, a call that returns at once, and a call that blocks. -/
theorem waiter_not_lost_second_call :
    ∃ now, WaitRun [.wokeUp, .returned, .slept] now ∧ now.waiter = .blocked false ∧
      now.wait.sleep = true ∧ now.wakeUp.waiter = .blocked true := by
  have run : WaitRun ((([] ++ [.wokeUp]) ++ [.returned]) ++ [.slept])
      ⟨⟨false, false, true⟩, .blocked false⟩ :=
    ((WaitRun.init.step .wakes).step (.passes rfl)).step (.sleeps rfl)
  have seen := (waiter_not_lost run).1 rfl
  exact ⟨_, run, rfl, seen.1, seen.2.2.2.1⟩

end TcpStack
