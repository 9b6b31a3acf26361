import TcpStack.Sock.Isolation
import TcpStack.Sock.Calls

/-!
# The backlog of a listener

The counter of a listener goes up when a segment ends the handshake of one of
its children and down when `accept` takes a child out of the queue.
`tcp_sock_accept_queue_full` compares it with the backlog given to
`tcp_sock_listen`, and nothing calls it. So the backlog is a bound exactly as long
as the network behaves as if somebody did: along a run the counter stays within the
backlog if and only if no handshake of a child ends while the queue is full
(`backlog_bounded_iff`).
-/

set_option autoImplicit false

namespace TcpStack

open Lib

/-- `tcp_sock_accept_queue_full`. -/
def tcpSockAcceptQueueFull (tsk : TcpSock) : Bool := decide (tsk.acceptBacklog ≥ tsk.backlog)

/-! ## Calls -/

/-- What reaches a listener: packets, and calls of `accept`. -/
inductive ListenerCall where
  | packet (arrival : Arrival)
  | accept (tsk : SockPtr)

/-- The packet ends the handshake of a child of the sock. -/
def Arrival.EndsHandshake (listener : SockPtr) (s : Stack) (arrival : Arrival) : Prop :=
  checksumMatches arrival.packet arrival.ip arrival.tcp = true ∧
    ∃ tsk, tcpSockLookup s (tcpCbInit arrival.packet arrival.ip arrival.tcp) = .ok tsk ∧
      (tcpCbInit arrival.packet arrival.ip arrival.tcp).Establishes (s.sock tsk) ∧
      listener = (s.sock tsk).parent

namespace ListenerCall

/-- A packet is handled. A call of `accept` takes a sock if there is one. -/
def run (s : Stack) : ListenerCall → Outcome Stack
  | .packet arrival => handleTcpPacket s arrival.packet arrival.ip arrival.tcp arrival.tmp
  | .accept tsk =>
      if !s.links.listEmpty (.acceptQueue tsk) then do
        let (_, s) ← tcpSockAcceptDequeue s tsk
        pure s
      else pure s

/-- Memory in use is not handed out again. -/
def Spares (listener : SockPtr) : ListenerCall → Prop
  | .packet arrival => listener ≠ arrival.tmp
  | .accept _ => True

/-- The call ends the handshake of a child of the sock. -/
def EndsHandshake (listener : SockPtr) (s : Stack) : ListenerCall → Prop
  | .packet arrival => arrival.EndsHandshake listener s
  | .accept _ => False

end ListenerCall

/-- A run: every call so far with the stack it was made on, and the stack after
the last one. -/
inductive ListenerRun (listener : SockPtr) (start : Stack) :
    List (Stack × ListenerCall) → Stack → Prop where
  | start : ListenerRun listener start [] start
  | call {trace : List (Stack × ListenerCall)} {now later : Stack} {call : ListenerCall} :
      ListenerRun listener start trace now → call.Spares listener → call.run now = .ok later →
        ListenerRun listener start (trace ++ [(now, call)]) later

/-! ## One call -/

section Counter

variable {s later : Stack} {tsk tmp other : SockPtr} {cb : TcpCb}

/-- A segment that ends a handshake counts at the parent. -/
theorem ProcessStep.acceptBacklog_of_establishes (step : ProcessStep s tsk cb tmp later)
    (ends : cb.Establishes (s.sock tsk)) : (later.sock other).acceptBacklog =
      (s.sock other).acceptBacklog + if other = (s.sock tsk).parent then 1 else 0 := by
  obtain ⟨queued, enqueued, rfl⟩ := step.queued_of_establishes ends
  obtain ⟨links, rfl⟩ := tcpSockAcceptEnqueue_ok enqueued
  rw [tcpProcessSynRecv_field TcpSock.acceptBacklog (fun _ _ => rfl),
    (Stack.Touches.setState _ _ _).field TcpSock.acceptBacklog (fun _ _ _ _ => rfl)]
  by_cases isParent : other = (s.sock tsk).parent
  · rw [if_pos isParent, isParent, Stack.modify_sock_self]
  · rw [if_neg isParent, Stack.modify_sock_of_ne _ _ isParent, add_zero]

/-- **The counter of a sock after one segment.** -/
theorem ProcessStep.acceptBacklog (step : ProcessStep s tsk cb tmp later)
    (notMade : other ≠ tmp) : (later.sock other).acceptBacklog =
      (s.sock other).acceptBacklog +
        if cb.Establishes (s.sock tsk) ∧ other = (s.sock tsk).parent then 1 else 0 := by
  by_cases ends : cb.Establishes (s.sock tsk)
  · simp only [step.acceptBacklog_of_establishes ends, ends, true_and]
  · rw [step.field_of_not_establishes TcpSock.acceptBacklog (fun _ _ _ _ _ => rfl) ends notMade,
      if_neg fun both => ends both.1, add_zero]

theorem ProcessStep.backlog (step : ProcessStep s tsk cb tmp later) (notMade : other ≠ tmp) :
    (later.sock other).backlog = (s.sock other).backlog :=
  step.field TcpSock.backlog (fun _ _ _ _ _ _ _ => rfl) notMade

/-- Taking a sock out of the queue changes the counter. -/
theorem tcpSockAcceptDequeue_ok {popSock : Node}
    (done : tcpSockAcceptDequeue s tsk = .ok (popSock, later)) :
    ∃ links, later = ({ s with links := links } : Stack).modify tsk fun sk =>
      { sk with acceptBacklog := sk.acceptBacklog - 1 } := by
  obtain ⟨link, _, done⟩ := Outcome.bind_eq_ok.mp done
  obtain ⟨middle, deleted, done⟩ := Outcome.bind_eq_ok.mp done
  obtain ⟨links, _, rfl⟩ := Stack.relink_eq_ok.mp deleted
  cases done
  exact ⟨_, rfl⟩

end Counter

/-! ## Runs -/

namespace ListenerCall

variable {s later : Stack} {listener : SockPtr} {call : ListenerCall}

/-- A guarded dequeue does nothing, or takes one off the counter. -/
theorem accept_ok {tsk : SockPtr} (done : (accept tsk).run s = .ok later) :
    later = s ∨ ∃ links, later = ({ s with links := links } : Stack).modify tsk fun sk =>
      { sk with acceptBacklog := sk.acceptBacklog - 1 } := by
  simp only [run] at done
  split at done
  · obtain ⟨⟨popSock, middle⟩, dequeued, done⟩ := Outcome.bind_eq_ok.mp done
    cases done
    exact .inr (tcpSockAcceptDequeue_ok dequeued)
  · cases done
    exact .inl rfl

theorem backlog (spares : call.Spares listener) (done : call.run s = .ok later) :
    (later.sock listener).backlog = (s.sock listener).backlog := by
  cases call with
  | packet arrival =>
      rcases handleTcpPacket_cases done with ⟨_, rfl⟩ | ⟨_, tsk, _, _, step⟩
      · rfl
      · exact step.backlog spares
  | accept tsk =>
      rcases accept_ok done with rfl | ⟨links, rfl⟩
      · rfl
      · by_cases same : listener = tsk
        · rw [same, Stack.modify_sock_self]
        · rw [Stack.modify_sock_of_ne _ _ same]

/-- A call that ends a handshake adds one to the counter. -/
theorem acceptBacklog_of_ends (spares : call.Spares listener) (done : call.run s = .ok later)
    (ends : call.EndsHandshake listener s) :
    (later.sock listener).acceptBacklog = (s.sock listener).acceptBacklog + 1 := by
  cases call with
  | packet arrival =>
      obtain ⟨matching, tsk, found, establishes, parent⟩ := ends
      rcases handleTcpPacket_cases done with ⟨wrong, _⟩ | ⟨_, reached, lookup, _, step⟩
      · rw [matching] at wrong
        cases wrong
      · obtain rfl : reached = tsk := Except.ok.inj (lookup.symm.trans found)
        rw [step.acceptBacklog spares, if_pos ⟨establishes, parent⟩]
  | accept tsk => exact ends.elim

/-- Any other call adds nothing. -/
theorem acceptBacklog_of_not_ends (spares : call.Spares listener) (done : call.run s = .ok later)
    (ends : ¬ call.EndsHandshake listener s) :
    (later.sock listener).acceptBacklog ≤ (s.sock listener).acceptBacklog := by
  cases call with
  | packet arrival =>
      rcases handleTcpPacket_cases done with ⟨_, rfl⟩ | ⟨matching, tsk, found, _, step⟩
      · exact le_refl _
      · have none : ¬ ((tcpCbInit arrival.packet arrival.ip arrival.tcp).Establishes (s.sock tsk) ∧
            listener = (s.sock tsk).parent) := fun both => ends ⟨matching, tsk, found, both⟩
        rw [step.acceptBacklog spares, if_neg none, add_zero]
  | accept tsk =>
      rcases accept_ok done with rfl | ⟨links, rfl⟩
      · exact le_refl _
      · by_cases same : listener = tsk
        · rw [same, Stack.modify_sock_self]
          exact Int.sub_le_self _ (by decide)
        · rw [Stack.modify_sock_of_ne _ _ same]

/-- One call keeps the counter within the backlog exactly when it ends no
handshake while the queue is full. -/
theorem bounded_iff (spares : call.Spares listener) (done : call.run s = .ok later)
    (bounded : (s.sock listener).acceptBacklog ≤ (s.sock listener).backlog) :
    (later.sock listener).acceptBacklog ≤ (s.sock listener).backlog ↔
      (call.EndsHandshake listener s → tcpSockAcceptQueueFull (s.sock listener) = false) := by
  rw [tcpSockAcceptQueueFull, decide_eq_false_iff_not]
  by_cases ends : call.EndsHandshake listener s
  · rw [acceptBacklog_of_ends spares done ends, forall_prop_of_true ends]
    omega
  · exact iff_of_true ((acceptBacklog_of_not_ends spares done ends).trans bounded)
      fun establishes => absurd establishes ends

end ListenerCall

theorem ListenerRun.backlog {listener : SockPtr} {start last : Stack}
    {trace : List (Stack × ListenerCall)} (run : ListenerRun listener start trace last) :
    (last.sock listener).backlog = (start.sock listener).backlog := by
  induction run with
  | start => rfl
  | call _ spares done backlog => rw [ListenerCall.backlog spares done, backlog]

/-- **When the backlog is a bound.** From an empty queue, the counter of a listener stays
within the backlog in every state of a run if and only if no packet of the run
ends the handshake of a child of the listener while the queue is full. -/
theorem backlog_bounded_iff (start last : Stack) (listener : SockPtr) (b : ℤ) (nonneg : 0 ≤ b)
    (backlog : (start.sock listener).backlog = b)
    (empty : (start.sock listener).acceptBacklog = 0) (trace : List (Stack × ListenerCall))
    (run : ListenerRun listener start trace last) :
    ((∀ visit ∈ trace, (visit.1.sock listener).acceptBacklog ≤ b) ∧
        (last.sock listener).acceptBacklog ≤ b) ↔
      ∀ visit ∈ trace, visit.2.EndsHandshake listener visit.1 →
        tcpSockAcceptQueueFull (visit.1.sock listener) = false := by
  induction run with
  | start => simp [empty, nonneg]
  | @call trace now later call before spares done ih =>
      have kept : (now.sock listener).backlog = b := before.backlog.trans backlog
      have next := ListenerCall.bounded_iff spares done
      rw [kept] at next
      simp only [List.forall_mem_append, List.forall_mem_singleton]
      rw [← ih]
      exact ⟨fun ⟨earlier, bounded⟩ => ⟨earlier, (next earlier.2).mp bounded⟩,
        fun ⟨earlier, heeded⟩ => ⟨earlier, (next earlier.2).mpr heeded⟩⟩

/-! ## Two handshakes and a backlog of one -/

/-- The sock that a SYN from the given port of host 2 would leave behind. -/
def withChild (s : Stack) (tmp : SockPtr) (port : U16) : Stack :=
  let s := (allocTcpSock s tmp).modify tmp fun sk =>
    { sk with skSip := 1, skSport := 80, skDip := 2, skDport := port, parent := 1,
              state := .synRecv }
  match tcpHash s tmp with
  | .ok (_, s) => s
  | .error halt => halt.stack

/-- A listener with a backlog of one, and two children in `TCP_SYN_RECV`. -/
def twoChildren : Stack :=
  withChild (withChild (Event.run boundStack (.listen 1 1)).stack 2 99) 3 98

/-- The peer at the given port of host 2. -/
def clientAt (port : U16) : TcpSock :=
  { zeroedSock with skSip := 2, skSport := port, skDip := 1, skDport := 80 }

/-- The ACK that ends the handshake with that peer. -/
def lastAck (port : U16) : Arrival where
  packet := tcpSendControlPacketFrame (ipInitHdrWithId 7) (clientAt port) tcpAck fun _ => 0
  ip := packetToIpHdr
  tcp := tcpPlace
  tmp := 4

theorem lastAck_delivers (port : U16) :
    Delivers (lastAck port).packet ((clientAt port).controlSegment tcpAck) :=
  tcpSendControlPacketFrame_delivers (ipInitHdrWithId_fills 7) _ _ _

/-- The stack after the first handshake. -/
def oneQueued : Stack :=
  (tcpProcess twoChildren 2 ((clientAt 99).controlSegment tcpAck).received 4).stack

/-- The stack after the second. -/
def bothQueued : Stack :=
  (tcpProcess oneQueued 3 ((clientAt 98).controlSegment tcpAck).received 4).stack

theorem lastAck_spares (port : U16) : ListenerCall.Spares 1 (.packet (lastAck port)) :=
  show (1 : SockPtr) ≠ 4 by decide

theorem oneQueued_run :
    ListenerRun 1 twoChildren [(twoChildren, .packet (lastAck 99))] oneQueued := by
  have found : tcpSockLookup twoChildren ((clientAt 99).controlSegment tcpAck).received = .ok 2 :=
    rfl
  have handled : ListenerCall.run twoChildren (.packet (lastAck 99)) = .ok oneQueued :=
    ((lastAck_delivers 99).handle found 4).trans rfl
  exact ListenerRun.start.call (lastAck_spares _) handled

/-- **Both children of a listener with a backlog of one are queued.** -/
theorem backlog_exceeded :
    (twoChildren.sock 1).state = .listen ∧ (twoChildren.sock 1).backlog = 1 ∧
      twoChildren.links.listEmpty (.acceptQueue 1) = true ∧
      (twoChildren.sock 1).acceptBacklog = 0 ∧
      (∀ child ∈ [2, 3], (twoChildren.sock child).state = .synRecv ∧
        (twoChildren.sock child).parent = 1) ∧
      ∃ trace, ListenerRun 1 twoChildren trace bothQueued ∧
        ¬ (bothQueued.sock 1).acceptBacklog ≤ 1 := by
  have found : tcpSockLookup oneQueued ((clientAt 98).controlSegment tcpAck).received = .ok 3 :=
    rfl
  have handled : ListenerCall.run oneQueued (.packet (lastAck 98)) = .ok bothQueued :=
    ((lastAck_delivers 98).handle found 4).trans rfl
  exact ⟨by decide, by decide, by decide, by decide, by decide, _,
    oneQueued_run.call (lastAck_spares _) handled, by decide⟩

/-- The first of them is within the backlog. -/
theorem backlog_bounded_iff_first : (oneQueued.sock 1).acceptBacklog ≤ 1 := by
  refine ((backlog_bounded_iff twoChildren oneQueued 1 1 (by decide) (by decide) (by decide) _
    oneQueued_run).mpr ?_).2
  intro visit member _
  obtain rfl := List.mem_singleton.mp member
  decide

end TcpStack
