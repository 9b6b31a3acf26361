import TcpStack.Sock.PassiveOpen

/-!
# The names of closed socks

A sock that was opened and is closed again should be in no table and in no
queue, so that no packet finds it and others can take its port and its 4-tuple.
Closing a listener does take it out of its two tables. Closing a sock in the
middle of a handshake only sets its state: it stays in the bind table, in the
established table or in the queue of half-open connections. Closed socks give back
their names exactly in the runs that close no such sock, and no listener that waits in
a queue itself (`closed_gives_back`).
-/

set_option autoImplicit false

namespace TcpStack

open Lib

/-! ## Giving back names -/

/-- The sock is in no list, no lookup returns it, and a 4-tuple or a port is
refused on account of other socks only. -/
structure Stack.GaveBack (s : Stack) (tsk : SockPtr) : Prop where
  unlinked : ¬ s.Linked tsk
  lookup : ∀ cb, tcpSockLookup s cb ≠ .ok tsk
  tuple : ∀ other later, (s.sock other).state ≠ .closed → tcpHash s other = .ok (-1, later) →
    ∃ holder, holder ≠ tsk ∧ s.InEstablished holder ∧
      (s.sock holder).tuple = (s.sock other).tuple
  port : ∀ sport, tcpPortInUse s sport = .ok true →
    ∃ holder, holder ≠ tsk ∧ s.InBind holder ∧
      (Node.bindHashList holder).portThroughHashList s = .ok sport

/-- The event is orderly. It closes no sock in the middle of a handshake, and no
listener that waits in a queue itself. -/
def Event.GivesBack (s : Stack) (event : Event) : Prop :=
  event.Orderly s ∧ ∀ tsk, event.Closes s tsk →
    (s.sock tsk).state ≠ .synRecv ∧ (s.sock tsk).state ≠ .synSent ∧
      ((s.sock tsk).state = .listen → ¬ s.Queued tsk)

/-- If the sock is closed, it was released and is in no list. -/
def Stack.Settled (s : Stack) (tsk : SockPtr) : Prop :=
  (s.sock tsk).state = .closed → s.Released tsk ∧ ¬ s.Linked tsk

section Names

variable {s later : Stack} {socks : Sequences} {tsk : SockPtr} {event : Event}

/-- A sock that is refused its 4-tuple has a holder of it to thank for that. -/
theorem Stack.Shape.tcpHash_refused (shape : s.Shape socks)
    (notClosed : (s.sock tsk).state ≠ .closed) (done : tcpHash s tsk = .ok (-1, later)) :
    ∃ holder, s.InEstablished holder ∧ (s.sock holder).tuple = (s.sock tsk).tuple := by
  simp only [tcpHash, if_neg notClosed] at done
  split at done
  · obtain ⟨_, _, done⟩ := Outcome.bind_eq_ok.mp done
    cases done
  · obtain ⟨same, found, done⟩ := Outcome.bind_eq_ok.mp done
    rw [shape.find_tuple] at found
    cases found
    split at done
    · rename_i taken
      obtain ⟨holder, inside, tuple⟩ := List.find?_isSome.mp taken
      refine ⟨holder, ⟨_, (shape.established_entries _).symm ▸ inside⟩, ?_⟩
      exact ((s.sock holder).hasTuple_iff _ _ _ _).mp tuple
    · obtain ⟨_, _, done⟩ := Outcome.bind_eq_ok.mp done
      cases done

theorem Stack.Shape.tcpPortInUse_holder (shape : s.Shape socks) {sport : U16}
    (done : tcpPortInUse s sport = .ok true) :
    ∃ holder, s.InBind holder ∧
      (Node.bindHashList holder).portThroughHashList s = .ok sport := by
  rw [shape.tcpPortInUse_eq] at done
  obtain ⟨holder, inside, reads⟩ := List.any_eq_true.mp (Except.ok.inj done)
  exact ⟨holder, shape.inBind_iff.mpr ⟨_, inside⟩, of_decide_eq_true reads⟩

/-- A sock in no list is in nobody's way. -/
theorem Stack.Shape.gaveBack (shape : s.Shape socks) (notNull : tsk ≠ 0)
    (unlinked : ¬ s.Linked tsk) : s.GaveBack tsk where
  unlinked := unlinked
  lookup := by
    intro cb found
    obtain ⟨other, finds, routed⟩ := shape.lookup cb
    rw [found] at finds
    cases finds
    exact unlinked ((routed.resolve_left notNull).imp_right .inl)
  tuple := by
    intro other later notClosed refused
    obtain ⟨holder, inside, same⟩ := shape.tcpHash_refused notClosed refused
    refine ⟨holder, ?_, inside, same⟩
    rintro rfl
    exact unlinked (.inl inside)
  port := by
    intro sport used
    obtain ⟨holder, inside, reads⟩ := shape.tcpPortInUse_holder used
    refine ⟨holder, ?_, inside, reads⟩
    rintro rfl
    exact unlinked (.inr (.inr (.inl inside)))

/-! ## One event -/

/-- Closing is the last that happens to a sock that gives back its names. -/
theorem Stack.Shuts.settled (shuts : s.Shuts later tsk) (settled : s.Settled tsk)
    (notReceived : (s.sock tsk).state ≠ .synRecv) (notSent : (s.sock tsk).state ≠ .synSent)
    (alone : (s.sock tsk).state = .listen → ¬ s.Queued tsk) : later.Settled tsk := by
  intro closed
  rw [shuts.state] at closed
  by_cases listening : (s.sock tsk).state = .listen
  · obtain ⟨released, linked⟩ := shuts.listening listening
    exact ⟨released, fun inside => alone listening (linked.mp inside)⟩
  · have wasClosed : (s.sock tsk).state = .closed := by
      cases state : (s.sock tsk).state <;> simp_all [TcpState.afterClose]
    obtain ⟨released, unlinked⟩ := settled wasClosed
    exact ⟨(shuts.released listening).mpr (.inl released),
      fun inside => unlinked ((shuts.linked listening).mp inside)⟩

/-- One event that gives back names keeps closed socks settled. -/
theorem Event.GivesBack.settled (gives : event.GivesBack s)
    (turns : s.Turns later fun tsk => event.Closes s tsk) (member : tsk ∈ s.allocated)
    (settled : s.Settled tsk) : later.Settled tsk := by
  by_cases closes : event.Closes s tsk
  · obtain ⟨notReceived, notSent, alone⟩ := gives.2 tsk closes
    exact ((turns tsk).1 closes).settled settled notReceived notSent alone
  · intro closed
    rcases (turns tsk).2 closes with rests | opens
    · rw [rests.state] at closed
      obtain ⟨released, unlinked⟩ := settled closed
      exact ⟨rests.released.mpr released, fun inside => unlinked (rests.linked inside)⟩
    · obtain ⟨wasClosed, unreleased⟩ := opens.state member closed
      exact absurd (settled wasClosed).1 unreleased

/-- A sock that is closed by an event was there. -/
theorem Event.Closes.allocated (closes : event.Closes s tsk) (shape : s.Shape socks)
    (possible : event.Possible s) (done : event.run s = .ok later) : tsk ∈ s.allocated := by
  cases event with
  | close other =>
      cases closes
      exact possible
  | arrive packet ip tcp tmp =>
      obtain ⟨matching, found, _⟩ := closes
      have processed : handleTcpPacket s packet ip tcp tmp = .ok later := done
      rw [handleTcpPacket_routed matching found] at processed
      exact shape.allocated_of_hashed (shape.hashed_of_lookup found (tcpProcess_step processed).1)
  | alloc | bind | listen | connect | connectWoken | accept | acceptWoken => exact closes.elim

/-- A sock in the middle of a handshake is in some list. -/
theorem Stack.Pending.linked (pending : s.Pending socks tsk) (shape : s.Shape socks)
    (state : (s.sock tsk).state = .synRecv ∨ (s.sock tsk).state = .synSent) : s.Linked tsk := by
  rcases state with received | sent
  · obtain ⟨parent, member, inside⟩ := pending.received received
    exact shape.linked_iff.mpr ⟨.listenQueue parent, member, inside⟩
  · exact .inr (.inr (.inl (pending.sent sent)))

/-- The next event gives back the names of the socks it closes exactly when it
closes none in the middle of a handshake and no listener that waits. -/
theorem Event.givesBack_iff (orderly : s.Orderly socks) (possible : event.Possible s)
    (inOrder : event.Orderly s) (done : event.run s = .ok later) :
    (∀ tsk ∈ s.allocated, (s.sock tsk).state ≠ .closed → (later.sock tsk).state = .closed →
      later.GaveBack tsk) ↔ event.GivesBack s := by
  obtain ⟨moved, next, turns⟩ := event.turns orderly possible inOrder done
  constructor
  · intro gaveBack
    refine ⟨inOrder, fun tsk closes => ?_⟩
    have member := closes.allocated orderly.sound.shape possible done
    have shuts := (turns tsk).1 closes
    have stuck : (s.sock tsk).state ≠ .closed → (s.sock tsk).state.afterClose = .closed →
        ¬ later.Linked tsk := fun notClosed closed =>
      (gaveBack tsk member notClosed (shuts.state.trans closed)).unlinked
    have midway : ¬ ((s.sock tsk).state = .synRecv ∨ (s.sock tsk).state = .synSent) := by
      intro state
      have linked := (orderly.balances tsk member).pending.linked orderly.sound.shape state
      have notListen : (s.sock tsk).state ≠ .listen := by
        rcases state with state | state <;> simp [state]
      refine stuck ?_ ?_ ((shuts.linked notListen).mpr linked)
      · rcases state with state | state <;> simp [state]
      · rcases state with state | state <;> rw [state] <;> rfl
    refine ⟨fun received => midway (.inl received), fun sent => midway (.inr sent), ?_⟩
    intro listening queued
    refine stuck (by simp [listening]) (by rw [listening]; rfl) ?_
    exact (shuts.listening listening).2.mpr queued
  · intro gives tsk member notClosed closed
    have settled := gives.settled turns member fun wasClosed => absurd wasClosed notClosed
    exact next.sound.shape.gaveBack (orderly.sound.shape.ne_null member) (settled closed).2

end Names

/-! ## Runs -/

/-- Along a run whose events give back names, a sock that was opened is settled
when it is closed. -/
theorem Run.settled {s later : Stack} {socks : Sequences} {tsk : SockPtr}
    (run : Run Event.GivesBack s later) (orderly : s.Orderly socks) (member : tsk ∈ s.allocated)
    (settled : s.Settled tsk) :
    ∃ moved, later.Orderly moved ∧ tsk ∈ later.allocated ∧ later.Settled tsk := by
  induction run with
  | refl => exact ⟨socks, orderly, member, settled⟩
  | tail _ step ih =>
      obtain ⟨between, inOrder, still, settledThere⟩ := ih
      obtain ⟨event, possible, gives, done⟩ := step
      obtain ⟨moved, next, turns⟩ := event.turns inOrder possible gives.1 done
      exact ⟨moved, next, (Stack.Keeps.event possible done).grows still,
        gives.settled turns still settledThere⟩

/-- **A closed sock gives back its names in every run that closes no sock in the
middle of a handshake**, and no listener that waits in a queue itself; and it
does so after one more event exactly when that event keeps to this. -/
theorem closed_gives_back {middle last : Stack} (opening : Run Event.GivesBack initTcpStack middle)
    (run : Run Event.GivesBack middle last) :
    (∀ tsk ∈ middle.allocated, (middle.sock tsk).state ≠ .closed →
      (last.sock tsk).state = .closed → last.GaveBack tsk) ∧
    ∀ (event : Event) (later : Stack), event.Possible last → event.Orderly last →
      event.run last = .ok later →
        ((∀ tsk ∈ last.allocated, (last.sock tsk).state ≠ .closed →
          (later.sock tsk).state = .closed → later.GaveBack tsk) ↔ event.GivesBack last) := by
  have inOrder : ∀ s event, Event.GivesBack s event → event.Orderly s := fun _ _ gives => gives.1
  obtain ⟨socks, orderly⟩ := Run.orderly initTcpStack_orderly inOrder opening
  obtain ⟨moved, settled⟩ := Run.orderly orderly inOrder run
  refine ⟨fun tsk member opened closed => ?_, fun event later possible allowed done =>
    event.givesBack_iff settled possible allowed done⟩
  obtain ⟨_, still, present, gone⟩ :=
    run.settled orderly member fun wasClosed => absurd wasClosed opened
  exact still.sound.shape.gaveBack (still.sound.shape.ne_null present) (gone closed).2

/-- The listener on port 80, closed. -/
def closedListenerStack : Stack := (Event.run listeningStack (.close 1)).stack

/-- The listener gives back its port. It has left both tables when the call releases it for the
second time, where `free` stops the program. -/
theorem closed_gives_back_listener : (listeningStack.sock 1).state = .listen ∧
    (closedListenerStack.sock 1).state = .closed ∧ closedListenerStack.GaveBack 1 := by
  have opening : Run Event.GivesBack initTcpStack listeningStack :=
    listeningStack_reached fun _ _ orderly calm =>
      ⟨orderly, fun tsk closes => absurd closes (calm tsk)⟩
  have alone : ¬ listeningStack.Queued 1 := by
    have only : listeningStack.allocated = [1] := by decide
    have empty : listeningStack.entries (.listenQueue 1) = [] ∧
        listeningStack.entries (.acceptQueue 1) = [] := by decide
    rintro ⟨parent, member, inside⟩
    rw [only, List.mem_singleton] at member
    rw [member, empty.1, empty.2] at inside
    exact inside.elim List.not_mem_nil List.not_mem_nil
  have member : 1 ∈ listeningStack.allocated := by decide
  have closing : Step Event.GivesBack listeningStack closedListenerStack := by
    refine ⟨.close 1, member, ⟨trivial, ?_⟩, rfl⟩
    rintro _ rfl
    exact ⟨by decide, by decide, fun _ => alone⟩
  have gaveBack := (closed_gives_back opening (.single closing)).1
  exact ⟨rfl, rfl, gaveBack 1 member (by decide) rfl⟩

/-- The sock that sent its SYN, closed. -/
def abandonedStack : Stack := (Event.run connectingStack (.close 1)).stack

/-- **A sock that is closed after its SYN stays in the bind table and in the
established table**, and the packets of the peer still find it. -/
theorem closed_keeps_names : ¬∀ (middle last : Stack) (tsk : SockPtr),
    Run (fun _ _ => True) initTcpStack middle → Run (fun _ _ => True) middle last →
      tsk ∈ middle.allocated → (middle.sock tsk).state ≠ .closed →
        (last.sock tsk).state = .closed → last.GaveBack tsk := by
  intro always
  have opening : Run (fun _ _ => True) initTcpStack connectingStack :=
    connectingStack_reached fun _ _ _ _ => trivial
  have member : 1 ∈ connectingStack.allocated := by decide
  have closing : Step (fun _ _ => True) connectingStack abandonedStack :=
    ⟨.close 1, member, trivial, rfl⟩
  have gaveBack := always connectingStack abandonedStack 1 opening (.single closing) member
    (by decide) (by decide)
  exact gaveBack.lookup (peerSock.controlSegment tcpAck).received rfl

end TcpStack
