import TcpStack.Sock.Isolation
import TcpStack.Sock.Waiting

/-!
# Accepting

Two threads share the accept queue of a listener. The packet thread queues a
child and then calls `wake_up`; the application thread calls `tcp_sock_accept`
again and again. What runs without interruption is a list operation, a test of
the queue or a critical section of `sleep_on` and `wake_up`. A thread that sleeps
goes on when it was signalled, and not before.

A child found in the queue at once is taken without regard to the notification
that came with it. If it was the last one, the notification outlives it, and the
next call takes it for a child. As long as no call takes the last child away from
under its notification, every child is returned once and in order
(`accept_in_order`).
-/

set_option autoImplicit false

namespace TcpStack

open Lib

/-! ## The threads -/

/-- Where the application thread is. -/
inductive Caller where
  /-- Between two calls. -/
  | away
  /-- It found the queue not empty. -/
  | foundSock
  /-- It found the queue empty. -/
  | foundNone
  /-- In `pthread_cond_wait`, and whether a signal was delivered since it
  blocked. -/
  | blocked (signalled : Bool)
  /-- Back from `sleep_on`. -/
  | woken
  deriving DecidableEq, Repr

/-- The stack, the application thread, and whether the packet thread is between
queueing a child and waking its parent. -/
structure AcceptState where
  stack : Stack
  caller : Caller
  due : Bool

/-- What a step was. -/
inductive AcceptEvent where
  | queued (child : SockPtr)
  | wokeUp
  | tested
  | slept
  | returned
  | took (popSock : Node)
  deriving DecidableEq, Repr

/-- `pthread_cond_signal`, with at most one thread to reach. -/
def Caller.signal : Caller → Caller
  | .blocked _ => .blocked true
  | caller => caller

/-- The next step of the thread is `tcp_sock_accept_dequeue`. -/
def Caller.takes : Caller → Bool
  | .foundSock | .woken => true
  | _ => false

/-- The test of the queue. -/
def Caller.ofTest (empty : Bool) : Caller := if empty then .foundNone else .foundSock

/-- Change what a listener sleeps on. -/
def Stack.setWaitAccept (s : Stack) (tsk : SockPtr) (change : SynchWait → SynchWait) : Stack :=
  s.modify tsk fun sk => { sk with waitAccept := change sk.waitAccept }

theorem Stack.setWaitAccept_state (s : Stack) (tsk : SockPtr) (change : SynchWait → SynchWait)
    (other : SockPtr) : ((s.setWaitAccept tsk change).sock other).state = (s.sock other).state := by
  by_cases same : other = tsk
  · rw [same, Stack.setWaitAccept, Stack.modify_sock_self]
  · rw [Stack.setWaitAccept, Stack.modify_sock_of_ne _ _ same]

theorem Stack.setWaitAccept_id (s : Stack) (tsk : SockPtr) : s.setWaitAccept tsk id = s := by
  simp [Stack.setWaitAccept, Stack.modify]

/-- One step of either thread, for one listener. -/
inductive AcceptStep (tsk : SockPtr) : AcceptState → AcceptEvent → AcceptState → Prop where
  | queues {s queued : Stack} {caller : Caller} {child : SockPtr} :
      child ∈ s.allocated → (s.sock child).state = .synRecv → (s.sock child).parent = tsk →
      tcpSockAcceptEnqueue s child = .ok queued →
        AcceptStep tsk ⟨s, caller, false⟩ (.queued child)
          ⟨tcpSetState queued child .established, caller, true⟩
  | wakes {s : Stack} {caller : Caller} :
      AcceptStep tsk ⟨s, caller, true⟩ .wokeUp
        ⟨s.setWaitAccept tsk wakeUp,
          if wakeUpSignals (s.sock tsk).waitAccept then caller.signal else caller, false⟩
  | tests {s : Stack} {due : Bool} :
      AcceptStep tsk ⟨s, .away, due⟩ .tested
        ⟨s, .ofTest (s.links.listEmpty (.acceptQueue tsk)), due⟩
  | sleeps {s : Stack} {due : Bool} : (sleepOn (s.sock tsk).waitAccept).2 = true →
      AcceptStep tsk ⟨s, .foundNone, due⟩ .slept
        ⟨s.setWaitAccept tsk fun wait => (sleepOn wait).1, .blocked false, due⟩
  | passes {s : Stack} {due : Bool} : (sleepOn (s.sock tsk).waitAccept).2 = false →
      AcceptStep tsk ⟨s, .foundNone, due⟩ .returned
        ⟨s.setWaitAccept tsk fun wait => (sleepOn wait).1, .woken, due⟩
  | resumes {s : Stack} {due : Bool} :
      AcceptStep tsk ⟨s, .blocked true, due⟩ .returned
        ⟨s.setWaitAccept tsk sleepOnWoken, .woken, due⟩
  | takes {s later : Stack} {caller : Caller} {due : Bool} {popSock : Node} :
      caller.takes = true → tcpSockAcceptDequeue s tsk = .ok (popSock, later) →
        AcceptStep tsk ⟨s, caller, due⟩ (.took popSock) ⟨later, .away, due⟩

/-- The steps taken so far, each of them allowed in the state it was taken in, and
the state they lead to. -/
inductive AcceptRun (tsk : SockPtr) (allowed : AcceptState → AcceptEvent → Prop)
    (start : AcceptState) : List AcceptEvent → AcceptState → Prop where
  | start : AcceptRun tsk allowed start [] start
  | step {history : List AcceptEvent} {now later : AcceptState} {event : AcceptEvent} :
      AcceptRun tsk allowed start history now → allowed now event → AcceptStep tsk now event later →
        AcceptRun tsk allowed start (history ++ [event]) later

theorem AcceptRun.trans {tsk : SockPtr} {allowed : AcceptState → AcceptEvent → Prop}
    {start middle last : AcceptState} {before after : List AcceptEvent}
    (first : AcceptRun tsk allowed start before middle)
    (second : AcceptRun tsk allowed middle after last) :
    AcceptRun tsk allowed start (before ++ after) last := by
  induction second with
  | start => rwa [List.append_nil]
  | step _ permitted step ih =>
      rw [← List.append_assoc]
      exact ih.step permitted step

/-- The children queued, in order. -/
def queuedIn (history : List AcceptEvent) : List SockPtr :=
  history.filterMap fun
    | .queued child => some child
    | _ => none

/-- The nodes that `accept` returned, in order. -/
def takenIn (history : List AcceptEvent) : List Node :=
  history.filterMap fun
    | .took popSock => some popSock
    | _ => none

theorem queuedIn_append (before after : List AcceptEvent) :
    queuedIn (before ++ after) = queuedIn before ++ queuedIn after := List.filterMap_append

theorem takenIn_append (before after : List AcceptEvent) :
    takenIn (before ++ after) = takenIn before ++ takenIn after := List.filterMap_append

namespace AcceptState

variable (tsk : SockPtr) (now : AcceptState)

/-- The children that wait to be accepted. -/
def queue : List SockPtr := now.stack.entries (.acceptQueue tsk)

/-- A `wake_up` has not been taken notice of, or is still to come. -/
def Outstanding : Prop := (now.stack.sock tsk).waitAccept.notified = true ∨ now.due = true

/-- A child found at once is not the last one while a notification is
outstanding. -/
def Patient : AcceptEvent → Prop
  | .took _ => ¬ (now.caller = .foundSock ∧ (now.queue tsk).length = 1 ∧ now.Outstanding tsk)
  | _ => True

/-- What `accept` owes to its callers. -/
structure Serves (history : List AcceptEvent) : Prop where
  /-- No sock is taken from an empty queue. -/
  nonempty : now.caller.takes = true → now.queue tsk ≠ []
  /-- The socks returned are the first ones queued, and the others wait. -/
  order : takenIn history ++ (now.queue tsk).map Node.list = (queuedIn history).map Node.list
  once : (queuedIn history).Nodup
  count : (now.stack.sock tsk).acceptBacklog = (now.queue tsk).length
  /-- A thread that nobody will wake has been given every child. -/
  settled : now.caller = .blocked false → now.due = false →
    takenIn history = (queuedIn history).map Node.list

end AcceptState

/-! ## The calls -/

section Calls

variable {s later : Stack} {tsk : SockPtr}

/-- A call of `tcp_sock_accept` that nobody interrupts. -/
theorem tcpSockAccept_run {result : Option Node} (done : tcpSockAccept s tsk = .ok (result, later))
    (due : Bool) :
    ∃ history, AcceptRun tsk (fun _ _ => True) ⟨s, .away, due⟩ history
      ⟨later, if result.isSome then .away else .blocked false, due⟩ := by
  have tested : AcceptRun tsk (fun _ _ => True) ⟨s, .away, due⟩ [.tested]
      ⟨s, .ofTest (s.links.listEmpty (.acceptQueue tsk)), due⟩ :=
    AcceptRun.start.step trivial .tests
  unfold tcpSockAccept at done
  cases empty : s.links.listEmpty (.acceptQueue tsk) with
  | false =>
      rw [empty] at tested done
      obtain ⟨⟨popSock, middle⟩, dequeued, done⟩ := Outcome.bind_eq_ok.mp done
      cases done
      exact ⟨_, tested.step trivial (.takes rfl dequeued)⟩
  | true =>
      rw [empty] at tested done
      cases sleeping : sleepOn (s.sock tsk).waitAccept with
      | mk wait blocks =>
          simp only [sleeping, Bool.not_true, Bool.false_eq_true, if_false] at done
          have set : (s.modify tsk fun sk => { sk with waitAccept := wait }) =
              s.setWaitAccept tsk fun wait => (sleepOn wait).1 := by
            simp only [Stack.setWaitAccept, Stack.modify, sleeping]
          rw [set] at done
          cases blocks with
          | true =>
              cases done
              exact ⟨_, tested.step trivial (.sleeps (by rw [sleeping]))⟩
          | false =>
              obtain ⟨⟨popSock, middle⟩, dequeued, done⟩ := Outcome.bind_eq_ok.mp done
              cases done
              exact ⟨_, (tested.step trivial (.passes (by rw [sleeping]))).step trivial
                (.takes rfl dequeued)⟩

/-- The end of a handshake, as `tcp_process` runs it. -/
theorem tcpProcess_run {child tmp : SockPtr} {cb : TcpCb} (member : child ∈ s.allocated)
    (ends : cb.Establishes (s.sock child)) (done : tcpProcess s child cb tmp = .ok later)
    (caller : Caller) :
    ∃ next, AcceptRun (s.sock child).parent (fun _ _ => True) ⟨s, caller, false⟩
      [.queued child, .wokeUp] ⟨later, next, false⟩ := by
  obtain ⟨queued, enqueued, rfl⟩ := (tcpProcess_step done).2.queued_of_establishes ends
  have parent : ((tcpSetState queued child .established).sock child).parent =
      (s.sock child).parent := by
    rw [tcpSetState_sock, if_pos rfl]
    exact tcpSockAcceptEnqueue_field TcpSock.parent enqueued (fun _ _ => rfl) child
  rw [tcpProcessSynRecv, parent]
  exact ⟨_, (AcceptRun.start.step trivial (.queues member ends.2.1 rfl enqueued)).step trivial
    .wakes⟩

end Calls

/-! ## Notifications -/

/-- The notifications outstanding: the one taken down in the flags, and the one
still to come. -/
def outstanding (wait : SynchWait) (due : Bool) : ℕ := wait.notified.toNat + due.toNat

/-- How the notifications outstanding and the children that wait are related,
wherever the application thread is. -/
def Caller.Covered (wait : SynchWait) (due : Bool) (waiting : ℕ) : Caller → Prop
  | .away => 0 < outstanding wait due → 0 < waiting
  | .foundSock => 0 < waiting
  | .foundNone => outstanding wait due ≤ waiting ∧ (0 < waiting → 0 < outstanding wait due)
  | .blocked signalled => wait.notified = signalled ∧ wait.sleep = true ∧
      outstanding wait due ≤ waiting ∧ (0 < waiting → 0 < outstanding wait due)
  | .woken => outstanding wait due < waiting

theorem sleepOn_dead (wait : SynchWait) : (sleepOn wait).1.dead = wait.dead := by
  simp only [sleepOn]
  split
  · rfl
  · split <;> rfl

section Covered

variable {wait : SynchWait} {due : Bool} {waiting : ℕ} {caller : Caller}

/-- A child is queued, and its notification is to come. -/
theorem Caller.Covered.queue (covered : caller.Covered wait false waiting) :
    caller.Covered wait true (waiting + 1) := by
  cases caller with
  | away | foundSock => simp [Covered]
  | foundNone | woken =>
      simp only [Covered, outstanding, Bool.toNat_false, Bool.toNat_true] at covered ⊢
      omega
  | blocked signalled =>
      obtain ⟨notified, sleep, bound, some⟩ := covered
      refine ⟨notified, sleep, ?_⟩
      simp only [outstanding, Bool.toNat_false, Bool.toNat_true] at bound some ⊢
      omega

/-- The notification comes. A thread that sleeps is signalled by the first
one. -/
theorem Caller.Covered.wake (covered : caller.Covered wait true waiting)
    (alive : wait.dead = false) :
    Caller.Covered (wakeUp wait) false waiting
      (if wakeUpSignals wait then caller.signal else caller) := by
  obtain ⟨notified, dead, sleep⟩ := wait
  obtain rfl : dead = false := alive
  cases caller with
  | away | foundSock | foundNone | woken =>
      cases notified <;> cases sleep <;>
        simp [Covered, outstanding, wakeUp, wakeUpSignals, Caller.signal] at covered ⊢ <;> omega
  | blocked signalled =>
      obtain ⟨rfl, rfl, bound, some⟩ := covered
      cases notified <;>
        simp [Covered, outstanding, wakeUp, wakeUpSignals, Caller.signal] at bound some ⊢ <;> omega

/-- The queue is tested. -/
theorem Caller.Covered.test (covered : Caller.away.Covered wait due waiting) :
    (Caller.ofTest (decide (waiting = 0))).Covered wait due waiting := by
  cases waiting with
  | zero =>
      have none : ¬ 0 < outstanding wait due := fun some => absurd (covered some) (lt_irrefl 0)
      exact ⟨Nat.le_of_not_lt none, fun some => absurd some (lt_irrefl 0)⟩
  | succ count => exact Nat.succ_pos count

/-- The thread goes to sleep. -/
theorem Caller.Covered.sleep (covered : Caller.foundNone.Covered wait due waiting)
    (blocks : (sleepOn wait).2 = true) :
    (Caller.blocked false).Covered (sleepOn wait).1 due waiting := by
  obtain ⟨notified, dead, sleep⟩ := wait
  cases dead <;> cases notified <;> simp [sleepOn] at blocks
  exact ⟨rfl, rfl, covered⟩

/-- The thread finds a notification, and uses it up. -/
theorem Caller.Covered.pass (covered : Caller.foundNone.Covered wait due waiting)
    (alive : wait.dead = false) (returns : (sleepOn wait).2 = false) :
    Caller.woken.Covered (sleepOn wait).1 due waiting := by
  obtain ⟨notified, dead, sleep⟩ := wait
  obtain rfl : dead = false := alive
  cases notified with
  | false => simp [sleepOn] at returns
  | true =>
      simp only [Covered, outstanding, sleepOn, Bool.toNat_true, Bool.toNat_false, if_true,
        Bool.false_eq_true, if_false] at covered ⊢
      omega

/-- The thread was signalled, and uses the notification up. -/
theorem Caller.Covered.resume (covered : (Caller.blocked true).Covered wait due waiting) :
    Caller.woken.Covered (sleepOnWoken wait) due waiting := by
  obtain ⟨notified, _, bound, _⟩ := covered
  simp only [Covered, outstanding, sleepOnWoken, notified, Bool.toNat_true, Bool.toNat_false]
    at bound ⊢
  omega

/-- A thread that takes a child does so from a queue that has one. -/
theorem Caller.Covered.pos (covered : caller.Covered wait due waiting)
    (takes : caller.takes = true) : 0 < waiting := by
  cases caller with
  | foundSock => exact covered
  | woken => exact Nat.zero_lt_of_lt covered
  | away | foundNone | blocked => cases takes

/-- A child is taken. -/
theorem Caller.Covered.take (covered : caller.Covered wait due (waiting + 1))
    (takes : caller.takes = true)
    (patient : caller = .foundSock → 0 < outstanding wait due → waiting ≠ 0) :
    Caller.away.Covered wait due waiting := by
  intro some
  cases caller with
  | foundSock => exact Nat.pos_of_ne_zero (patient rfl some)
  | woken => exact lt_of_lt_of_le some (Nat.le_of_lt_succ covered)
  | away | foundNone | blocked => cases takes

end Covered

theorem outstanding_pos {tsk : SockPtr} {now : AcceptState} :
    0 < outstanding (now.stack.sock tsk).waitAccept now.due ↔ now.Outstanding tsk := by
  cases notified : (now.stack.sock tsk).waitAccept.notified <;> cases due : now.due <;>
    simp [outstanding, AcceptState.Outstanding, notified, due]

/-! ## One step -/

/-- The invariant, with the sequences that the lists denote. -/
structure AcceptState.Tracks (tsk : SockPtr) (history : List AcceptEvent) (now : AcceptState)
    (socks : Sequences) : Prop where
  shape : now.stack.Shape socks
  member : tsk ∈ now.stack.allocated
  order : takenIn history ++ (socks (.acceptQueue tsk)).map Node.list =
    (queuedIn history).map Node.list
  once : (queuedIn history).Nodup
  established : ∀ child ∈ queuedIn history, (now.stack.sock child).state ≠ .synRecv
  count : (now.stack.sock tsk).acceptBacklog = (socks (.acceptQueue tsk)).length
  alive : (now.stack.sock tsk).waitAccept.dead = false
  covered : now.caller.Covered (now.stack.sock tsk).waitAccept now.due
    (socks (.acceptQueue tsk)).length

namespace AcceptState.Tracks

variable {tsk : SockPtr} {history : List AcceptEvent} {socks : Sequences}

theorem queue_eq {now : AcceptState} (tracks : now.Tracks tsk history socks) :
    now.queue tsk = socks (.acceptQueue tsk) :=
  tracks.shape.entries_eq tracks.member

theorem serves {now : AcceptState} (tracks : now.Tracks tsk history socks) :
    now.Serves tsk history where
  nonempty := by
    intro takes
    rw [tracks.queue_eq]
    exact List.ne_nil_of_length_pos (tracks.covered.pos takes)
  order := by
    rw [tracks.queue_eq]
    exact tracks.order
  once := tracks.once
  count := by
    rw [tracks.queue_eq]
    exact tracks.count
  settled := by
    intro blocked settled
    have covered := tracks.covered
    rw [blocked, settled] at covered
    obtain ⟨notified, _, bound, some⟩ := covered
    have none : socks (.acceptQueue tsk) = [] := by
      refine List.length_eq_zero_iff.mp (Nat.eq_zero_of_not_pos fun waits => ?_)
      simpa [outstanding, notified] using some waits
    simpa [none] using tracks.order

variable {s : Stack} {caller next : Caller} {due coming : Bool}

/-- A step that neither queues nor takes a sock. -/
theorem quiet (tracks : Tracks tsk history ⟨s, caller, due⟩ socks) {event : AcceptEvent}
    (noneQueued : queuedIn [event] = []) (noneTaken : takenIn [event] = [])
    {change : SynchWait → SynchWait} (alive : (change (s.sock tsk).waitAccept).dead = false)
    (covered : next.Covered (change (s.sock tsk).waitAccept) coming
      (socks (.acceptQueue tsk)).length) :
    Tracks tsk (history ++ [event]) ⟨s.setWaitAccept tsk change, next, coming⟩ socks := by
  have queued : queuedIn (history ++ [event]) = queuedIn history := by
    rw [queuedIn_append, noneQueued, List.append_nil]
  have taken : takenIn (history ++ [event]) = takenIn history := by
    rw [takenIn_append, noneTaken, List.append_nil]
  have self : (s.setWaitAccept tsk change).sock tsk =
      { s.sock tsk with waitAccept := change (s.sock tsk).waitAccept } := s.modify_sock_self _ _
  exact
    { shape := tracks.shape.congr rfl rfl
      member := tracks.member
      order := by rw [queued, taken, tracks.order]
      once := by rw [queued]; exact tracks.once
      established := by
        intro child member
        rw [queued] at member
        exact (s.setWaitAccept_state tsk change child).trans_ne (tracks.established child member)
      count := (congrArg TcpSock.acceptBacklog self).trans tracks.count
      alive := by rw [self]; exact alive
      covered := by rw [self]; exact covered }

/-- A child in its handshake was not queued yet. -/
theorem not_queued (tracks : Tracks tsk history ⟨s, caller, due⟩ socks) {child : SockPtr}
    (state : (s.sock child).state = .synRecv) :
    child ∉ queuedIn history ∧ child ∉ socks (.acceptQueue tsk) := by
  have fresh : child ∉ queuedIn history := fun before => tracks.established child before state
  refine ⟨fresh, fun inside => ?_⟩
  have waits : Node.list child ∈ (queuedIn history).map Node.list := by
    rw [← tracks.order]
    exact List.mem_append_right _ (List.mem_map_of_mem inside)
  obtain ⟨other, before, same⟩ := List.mem_map.mp waits
  cases same
  exact fresh before

/-- A child is queued. -/
theorem queue (tracks : Tracks tsk history ⟨s, caller, false⟩ socks) {child : SockPtr}
    {queued : Stack} (member : child ∈ s.allocated) (state : (s.sock child).state = .synRecv)
    (parent : (s.sock child).parent = tsk) (done : tcpSockAcceptEnqueue s child = .ok queued) :
    ∃ moved, Tracks tsk (history ++ [.queued child])
      ⟨tcpSetState queued child .established, caller, true⟩ moved := by
  obtain ⟨fresh, outside⟩ := tracks.not_queued state
  obtain ⟨links, moved, enqueued, shape, _, _, _, back⟩ :=
    tracks.shape.acceptEnqueue member (parent ▸ tracks.member)
  rw [parent] at enqueued back
  have result := Except.ok.inj (done.symm.trans enqueued)
  have events : queuedIn (history ++ [.queued child]) = queuedIn history ++ [child] :=
    queuedIn_append history _
  have taken : takenIn (history ++ [.queued child]) = takenIn history :=
    (takenIn_append history _).trans (List.append_nil _)
  have length : (moved (.acceptQueue tsk)).length = (socks (.acceptQueue tsk)).length + 1 := by
    rw [back outside, List.length_append, List.length_singleton]
  have counted : ((tcpSetState queued child .established).sock tsk).acceptBacklog =
      (s.sock tsk).acceptBacklog + 1 := by
    rw [(Stack.Touches.setState queued child .established).field TcpSock.acceptBacklog
      (fun _ _ _ _ => rfl), result, Stack.modify_sock_self]
  have flags : ((tcpSetState queued child .established).sock tsk).waitAccept =
      (s.sock tsk).waitAccept := by
    rw [(Stack.Touches.setState queued child .established).field TcpSock.waitAccept
      (fun _ _ _ _ => rfl), tcpSockAcceptEnqueue_field TcpSock.waitAccept done (fun _ _ => rfl)]
  have covered := tracks.covered.queue
  rw [← length] at covered
  exact ⟨moved,
    { shape := by
        refine shape.congr ?_ ?_
        · rw [result]; rfl
        · rw [result]; rfl
      member := by rw [result]; exact tracks.member
      order := by
        rw [events, taken, back outside, List.map_append, List.map_append, ← List.append_assoc,
          tracks.order]
      once := by
        rw [events]
        exact tracks.once.append (List.nodup_singleton child) (by simpa using fresh)
      established := by
        intro other before
        rw [tcpSetState_sock]
        split
        · simp
        · rename_i different
          rw [tcpSockAcceptEnqueue_field TcpSock.state done (fun _ _ => rfl)]
          rw [events, List.mem_append, List.mem_singleton, or_iff_left different] at before
          exact tracks.established other before
      count := by
        rw [counted, length, tracks.count, Nat.cast_succ]
      alive := by rw [flags]; exact tracks.alive
      covered := by rw [flags]; exact covered }⟩

/-- A child is taken. -/
theorem take (tracks : Tracks tsk history ⟨s, caller, due⟩ socks) {popSock : Node} {later : Stack}
    (takes : caller.takes = true) (done : tcpSockAcceptDequeue s tsk = .ok (popSock, later))
    (patient : Patient tsk ⟨s, caller, due⟩ (.took popSock)) :
    ∃ moved, Tracks tsk (history ++ [.took popSock]) ⟨later, .away, due⟩ moved := by
  obtain ⟨first, rest, queue⟩ : ∃ first rest, socks (.acceptQueue tsk) = first :: rest :=
    List.exists_cons_of_length_pos (tracks.covered.pos takes)
  obtain ⟨links, dequeued, shape, _⟩ := tracks.shape.acceptDequeue tracks.member queue
  cases done.symm.trans dequeued
  have events : queuedIn (history ++ [.took (.list first)]) = queuedIn history :=
    (queuedIn_append history _).trans (List.append_nil _)
  have taken : takenIn (history ++ [.took (.list first)]) = takenIn history ++ [.list first] :=
    takenIn_append history _
  have self := Stack.modify_sock_self ({ s with links := links } : Stack) tsk fun sk =>
    { sk with acceptBacklog := sk.acceptBacklog - 1 }
  have covered : Caller.away.Covered (s.sock tsk).waitAccept due rest.length := by
    have before := tracks.covered
    rw [queue] at before
    refine before.take takes fun found some none => patient ⟨found, ?_, ?_⟩
    · rw [tracks.queue_eq, queue, List.length_cons, none]
    · exact outstanding_pos.mp some
  refine ⟨_,
    { shape := shape.congr rfl rfl
      member := tracks.member
      order := ?_
      once := by rw [events]; exact tracks.once
      established := ?_
      count := ?_
      alive := by rw [self]; exact tracks.alive
      covered := by rw [self, Function.update_self]; exact covered }⟩
  · rw [events, taken, Function.update_self, ← tracks.order, queue, List.map_cons,
      List.append_assoc, List.singleton_append]
  · intro child before
    rw [events] at before
    by_cases same : child = tsk
    · rw [same, self]
      exact tracks.established tsk (same ▸ before)
    · rw [Stack.modify_sock_of_ne _ _ same]
      exact tracks.established child before
  · rw [self, Function.update_self]
    have count := tracks.count
    rw [queue, List.length_cons, Nat.cast_succ] at count
    exact sub_eq_of_eq_add count

/-- **One step keeps the threads in step**, if it leaves the last child to its
notification. -/
theorem step {now later : AcceptState} {event : AcceptEvent}
    (tracks : now.Tracks tsk history socks) (patient : now.Patient tsk event)
    (step : AcceptStep tsk now event later) :
    ∃ moved, later.Tracks tsk (history ++ [event]) moved := by
  cases step with
  | queues member state parent done => exact tracks.queue member state parent done
  | wakes =>
      exact ⟨socks, tracks.quiet rfl rfl ((wakeUp_dead _).trans tracks.alive)
        (tracks.covered.wake tracks.alive)⟩
  | @tests s due =>
      have tested : Tracks tsk (history ++ [.tested])
          ⟨s.setWaitAccept tsk id, .ofTest (s.links.listEmpty (.acceptQueue tsk)), due⟩ socks := by
        refine tracks.quiet rfl rfl tracks.alive ?_
        rw [tracks.shape.listEmpty_head (show s.IsHead (.acceptQueue tsk) from tracks.member)]
        exact tracks.covered.test
      rw [Stack.setWaitAccept_id] at tested
      exact ⟨socks, tested⟩
  | sleeps blocks =>
      exact ⟨socks, tracks.quiet rfl rfl ((sleepOn_dead _).trans tracks.alive)
        (tracks.covered.sleep blocks)⟩
  | passes returns =>
      exact ⟨socks, tracks.quiet rfl rfl ((sleepOn_dead _).trans tracks.alive)
        (tracks.covered.pass tracks.alive returns)⟩
  | resumes => exact ⟨socks, tracks.quiet rfl rfl tracks.alive tracks.covered.resume⟩
  | takes takes done => exact tracks.take takes done patient

end AcceptState.Tracks

/-! ## A notification without a child -/

section Stale

variable {s : Stack} {socks : Sequences} {tsk : SockPtr}

/-- With an empty queue, a call that finds a notification goes on to take a
sock. -/
theorem takes_of_notified (shape : s.Shape socks) (member : tsk ∈ s.allocated)
    (empty : socks (.acceptQueue tsk) = [])
    (notified : (s.sock tsk).waitAccept.notified = true) (due : Bool) :
    ∃ history last, AcceptRun tsk (fun _ _ => True) ⟨s, .away, due⟩ history last ∧
      last.caller.takes = true ∧ last.queue tsk = [] := by
  have isHead : s.IsHead (.acceptQueue tsk) := member
  have tested : AcceptStep tsk ⟨s, .away, due⟩ .tested ⟨s, .foundNone, due⟩ := by
    have test : AcceptStep tsk ⟨s, .away, due⟩ .tested _ := .tests
    rwa [shape.listEmpty_head isHead, empty] at test
  have returns : (sleepOn (s.sock tsk).waitAccept).2 = false := by
    simp only [sleepOn, notified, if_true]
    split <;> rfl
  refine ⟨_, _, (AcceptRun.start.step trivial tested).step trivial (.passes returns), rfl, ?_⟩
  have later : (s.setWaitAccept tsk fun wait => (sleepOn wait).1).entries (.acceptQueue tsk) =
      socks (.acceptQueue tsk) := (shape.congr rfl rfl).entries_eq isHead
  exact later.trans empty

/-- So does one that finds a notification still to come. -/
theorem takes_of_outstanding (shape : s.Shape socks) (member : tsk ∈ s.allocated)
    (empty : socks (.acceptQueue tsk) = []) (alive : (s.sock tsk).waitAccept.dead = false)
    {due : Bool} (some : AcceptState.Outstanding tsk ⟨s, .away, due⟩) :
    ∃ history last, AcceptRun tsk (fun _ _ => True) ⟨s, .away, due⟩ history last ∧
      last.caller.takes = true ∧ last.queue tsk = [] := by
  cases due with
  | false => exact takes_of_notified shape member empty (some.resolve_right (by simp)) false
  | true =>
      have woken : AcceptStep tsk ⟨s, .away, true⟩ .wokeUp
          ⟨s.setWaitAccept tsk wakeUp, .away, false⟩ := by
        have wake : AcceptStep tsk ⟨s, .away, true⟩ .wokeUp _ := .wakes
        rwa [show Caller.away.signal = .away from rfl, ite_self] at wake
      have notified : ((s.setWaitAccept tsk wakeUp).sock tsk).waitAccept.notified = true := by
        have self : (s.setWaitAccept tsk wakeUp).sock tsk =
            { s.sock tsk with waitAccept := wakeUp (s.sock tsk).waitAccept } :=
          s.modify_sock_self _ _
        rw [self]
        exact wakeUp_notified alive
      have shaped : (s.setWaitAccept tsk wakeUp).Shape socks := shape.congr rfl rfl
      obtain ⟨history, last, run, takes, none⟩ :=
        takes_of_notified shaped member empty notified false
      exact ⟨_, last, (AcceptRun.start.step trivial woken).trans run, takes, none⟩

end Stale

/-- A call that takes the last child from under its notification leaves a
notification for nobody. -/
theorem AcceptState.Tracks.stale {tsk : SockPtr} {history : List AcceptEvent}
    {now later : AcceptState} {event : AcceptEvent} {socks : Sequences}
    (tracks : now.Tracks tsk history socks) (step : AcceptStep tsk now event later)
    (hasty : ¬ now.Patient tsk event) :
    ∃ more last, AcceptRun tsk (fun _ _ => True) later more last ∧
      last.caller.takes = true ∧ last.queue tsk = [] := by
  cases step with
  | queues | wakes | tests | sleeps | passes | resumes => exact absurd trivial hasty
  | @takes s _ caller due popSock takes done =>
      obtain ⟨_, one, some⟩ := not_not.mp hasty
      rw [tracks.queue_eq] at one
      obtain ⟨first, queue⟩ := List.length_eq_one_iff.mp one
      obtain ⟨links, dequeued, shape, _⟩ := tracks.shape.acceptDequeue tracks.member queue
      cases done.symm.trans dequeued
      have self := Stack.modify_sock_self ({ s with links := links } : Stack) tsk fun sk =>
        { sk with acceptBacklog := sk.acceptBacklog - 1 }
      have shaped := shape.modify tsk fun sk => { sk with acceptBacklog := sk.acceptBacklog - 1 }
      refine takes_of_outstanding shaped tracks.member (Function.update_self _ _ _) ?_ ?_
      · rw [self]
        exact tracks.alive
      · refine some.imp_left fun notified => ?_
        show (Stack.sock _ tsk).waitAccept.notified = true
        rw [self]
        exact notified

/-! ## Every interleaving -/

/-- **Accept hands out each child once and in order**, in every interleaving in
which no call takes the last child while a notification is outstanding: no sock
is taken from an empty queue, the socks returned are the first ones queued, and the
counter is the length of the queue. Whenever a call does so, some continuation takes
a sock from an empty queue. -/
theorem accept_in_order (s : Stack) (socks : Sequences) (shape : s.Shape socks) (tsk : SockPtr)
    (member : tsk ∈ s.allocated) (empty : s.entries (.acceptQueue tsk) = [])
    (counted : (s.sock tsk).acceptBacklog = 0) (fresh : (s.sock tsk).waitAccept = waitInit)
    (history : List AcceptEvent) (now : AcceptState)
    (run : AcceptRun tsk (AcceptState.Patient tsk) ⟨s, .away, false⟩ history now) :
    now.Serves tsk history ∧
      ∀ event later, AcceptStep tsk now event later → ¬ now.Patient tsk event →
        ∃ more last, AcceptRun tsk (fun _ _ => True) later more last ∧
          last.caller.takes = true ∧ last.queue tsk = [] := by
  have start : AcceptState.Tracks tsk [] ⟨s, .away, false⟩ socks := by
    have isHead : s.IsHead (.acceptQueue tsk) := member
    have none : socks (.acceptQueue tsk) = [] := (shape.entries_eq isHead).symm.trans empty
    exact
      { shape := shape
        member := member
        order := by rw [none]; rfl
        once := List.nodup_nil
        established := fun child before => absurd before List.not_mem_nil
        count := by rw [none]; exact counted
        alive := by rw [fresh]; rfl
        covered := by rw [fresh]; exact fun some => absurd some (lt_irrefl 0) }
  have tracks : ∃ moved, now.Tracks tsk history moved := by
    induction run with
    | start => exact ⟨socks, start⟩
    | step _ patient step ih =>
        obtain ⟨between, tracks⟩ := ih
        exact tracks.step patient step
  obtain ⟨moved, tracks⟩ := tracks
  exact ⟨tracks.serves, fun event later step hasty => tracks.stale step hasty⟩

/-! ## A second call -/

/-- A listener on port 80 with a child in `TCP_SYN_RECV`. -/
def listenerAndChild : Stack :=
  (allocTcpSock listeningStack 2).modify 2 fun sk => { sk with parent := 1, state := .synRecv }

/-- The child is queued. -/
def childQueued : Stack :=
  tcpSetState (tcpSockAcceptEnqueue listenerAndChild 2).stack 2 .established

/-- Its parent is woken. -/
def childAnnounced : Stack := childQueued.setWaitAccept 1 wakeUp

/-- The child is taken. -/
def childTaken : Stack :=
  match tcpSockAcceptDequeue childAnnounced 1 with
  | .ok (_, s) => s
  | .error halt => halt.stack

theorem childQueued_step : AcceptStep 1 ⟨listenerAndChild, .away, false⟩ (.queued 2)
    ⟨childQueued, .away, true⟩ :=
  .queues (by decide) (by decide) (by decide) rfl

theorem childAnnounced_step : AcceptStep 1 ⟨childQueued, .away, true⟩ .wokeUp
    ⟨childAnnounced, .away, false⟩ := .wakes

theorem listenerAndChild_shape : ∃ socks, listenerAndChild.Shape socks := by
  obtain ⟨socks, tended⟩ := Run.tended listeningStack_run
  exact ⟨_, (tended.sound.shape.alloc (by decide) (by decide)).modify 2 _⟩

/-- **A second call of `accept` returns the head of the empty queue as a sock**, and
the counter drops below zero. -/
theorem accept_takes_head :
    (∃ socks, listenerAndChild.Shape socks) ∧ listenerAndChild.entries (.acceptQueue 1) = [] ∧
      (listenerAndChild.sock 1).acceptBacklog = 0 ∧
      (listenerAndChild.sock 1).waitAccept = waitInit ∧
      ∃ history last, AcceptRun 1 (fun _ _ => True) ⟨listenerAndChild, .away, false⟩ history last ∧
        queuedIn history = [2] ∧ takenIn history = [.list 2, .acceptQueue 1] ∧
        (last.stack.sock 1).acceptBacklog = -1 := by
  refine ⟨listenerAndChild_shape, by decide, by decide, by decide, ?_⟩
  have first : AcceptRun 1 (fun _ _ => True) ⟨listenerAndChild, .away, false⟩
      [.queued 2, .wokeUp, .tested, .took (.list 2)] ⟨childTaken, .away, false⟩ :=
    (((AcceptRun.start.step trivial childQueued_step).step trivial childAnnounced_step).step trivial
      .tests).step trivial (.takes rfl rfl)
  have second : AcceptRun 1 (fun _ _ => True) ⟨childTaken, .away, false⟩
      [.tested, .returned, .took (.acceptQueue 1)] _ :=
    ((AcceptRun.start.step trivial .tests).step trivial (.passes rfl)).step trivial
      (.takes rfl rfl)
  exact ⟨_, _, first.trans second, rfl, rfl, by decide⟩

/-- A call that sleeps until the child is announced returns it. -/
theorem accept_in_order_slept :
    ∃ last, AcceptRun 1 (AcceptState.Patient 1) ⟨listenerAndChild, .away, false⟩
      [.tested, .slept, .queued 2, .wokeUp, .returned, .took (.list 2)] last ∧
      last.Serves 1 [.tested, .slept, .queued 2, .wokeUp, .returned, .took (.list 2)] := by
  obtain ⟨socks, shape⟩ := listenerAndChild_shape
  have asleep : AcceptRun 1 (AcceptState.Patient 1) ⟨listenerAndChild, .away, false⟩
      [.tested, .slept]
      ⟨listenerAndChild.setWaitAccept 1 fun wait => (sleepOn wait).1, .blocked false, false⟩ :=
    (AcceptRun.start.step (by trivial) .tests).step (by trivial) (.sleeps rfl)
  obtain ⟨last, run⟩ : ∃ last, AcceptRun 1 (AcceptState.Patient 1)
      ⟨listenerAndChild, .away, false⟩
      [.tested, .slept, .queued 2, .wokeUp, .returned, .took (.list 2)] last :=
    ⟨_, (((asleep.step (by trivial) (.queues (by decide) (by decide) (by decide) rfl)).step
      (by trivial) .wakes).step (by trivial) .resumes).step
      (fun hasty => by cases hasty.1) (.takes rfl rfl)⟩
  exact ⟨last, run, (accept_in_order listenerAndChild socks shape 1 (by decide) (by decide)
    (by decide) (by decide) _ _ run).1⟩

end TcpStack
