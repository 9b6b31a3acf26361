import TcpStack.Sock.Reconnecting

/-!
# Who sleeps for ever

Two calls sleep: `tcp_sock_accept` until a child is queued, and `tcp_sock_connect`
until the peer answers. No child is ever queued in an orderly run, so the first one
blocks whenever it is called, and nobody wakes it (`accept_never_returns`). The
second one can be woken as long as its sock is hashed and in `TCP_SYN_SENT`, and
then only (`sleeper_woken_iff`): a sock that was not hashed, or that was closed
in the meantime by the application, by a FIN or by a reset, leaves its caller
asleep for ever.
-/

set_option autoImplicit false

namespace TcpStack

open Lib

/-! ## Notifications -/

/-- The wait is as alive as before, and it is notified only if it was before. -/
structure SynchWait.Calms (before after : SynchWait) : Prop where
  dead : after.dead = before.dead
  notified : after.notified = true → before.notified = true

namespace SynchWait.Calms

variable {first second third : SynchWait}

theorem refl (wait : SynchWait) : wait.Calms wait := ⟨rfl, id⟩

theorem of_eq (same : second = first) : first.Calms second := same ▸ .refl first

theorem trans (one : first.Calms second) (two : second.Calms third) : first.Calms third :=
  ⟨two.dead.trans one.dead, one.notified ∘ two.notified⟩

theorem sleepOn (wait : SynchWait) : wait.Calms (sleepOn wait).1 := by
  rw [TcpStack.sleepOn]
  split
  · exact .refl wait
  · split
    · exact ⟨rfl, fun notified => nomatch notified⟩
    · exact ⟨rfl, id⟩

theorem sleepOnWoken (wait : SynchWait) : wait.Calms (sleepOnWoken wait) :=
  ⟨rfl, fun notified => nomatch notified⟩

end SynchWait.Calms

/-- Nobody who sleeps on a wait of the sock is woken. -/
structure Stack.Calms (s later : Stack) (tsk : SockPtr) : Prop where
  connect : (s.sock tsk).waitConnect.Calms (later.sock tsk).waitConnect
  accept : (s.sock tsk).waitAccept.Calms (later.sock tsk).waitAccept

namespace Stack.Calms

variable {s middle later : Stack} {tsk other : SockPtr}

theorem refl (s : Stack) (tsk : SockPtr) : s.Calms s tsk := ⟨.refl _, .refl _⟩

theorem trans (first : s.Calms middle other) (second : middle.Calms later other) :
    s.Calms later other :=
  ⟨first.connect.trans second.connect, first.accept.trans second.accept⟩

theorem modify (s : Stack) (tsk : SockPtr) {change : TcpSock → TcpSock}
    (connect : (s.sock tsk).waitConnect.Calms (change (s.sock tsk)).waitConnect)
    (accept : (s.sock tsk).waitAccept.Calms (change (s.sock tsk)).waitAccept)
    (other : SockPtr) :
    s.Calms (s.modify tsk change) other := by
  by_cases same : other = tsk
  · rw [same]
    constructor
    · rw [Stack.modify_sock_self]
      exact connect
    · rw [Stack.modify_sock_self]
      exact accept
  · constructor
    · rw [Stack.modify_sock_of_ne _ _ same]
      exact .refl _
    · rw [Stack.modify_sock_of_ne _ _ same]
      exact .refl _

/-- A change of a record that touches neither wait, and what follows it. -/
theorem after {change : TcpSock → TcpSock} (rest : (s.modify tsk change).Calms later other)
    (connect : ∀ sk : TcpSock, (change sk).waitConnect = sk.waitConnect)
    (accept : ∀ sk : TcpSock, (change sk).waitAccept = sk.waitAccept) : s.Calms later other :=
  (modify s tsk (.of_eq (connect _)) (.of_eq (accept _)) other).trans rest

theorem relinked (s : Stack) (links : Heap Node) (other : SockPtr) :
    s.Calms { s with links := links } other := ⟨.refl _, .refl _⟩

theorem touched (touches : s.Touches tsk later) (other : SockPtr) : s.Calms later other :=
  ⟨.of_eq (touches.field TcpSock.waitConnect (fun _ _ _ _ => rfl) other),
    .of_eq (touches.field TcpSock.waitAccept (fun _ _ _ _ => rfl) other)⟩

theorem hash {result : ℤ} (done : tcpHash s tsk = .ok (result, later)) (other : SockPtr) :
    s.Calms later other :=
  ⟨.of_eq (tcpHash_field TcpSock.waitConnect done (fun _ _ => rfl) other),
    .of_eq (tcpHash_field TcpSock.waitAccept done (fun _ _ => rfl) other)⟩

theorem bindHash (done : tcpBindHash s tsk = .ok later) (other : SockPtr) :
    s.Calms later other := by
  obtain ⟨links, rfl⟩ := tcpBindHash_ok done
  exact (relinked s links other).trans
    (.after (.refl _ other) (fun _ => rfl) (fun _ => rfl))

theorem dequeue {popped : Node} (done : tcpSockAcceptDequeue s tsk = .ok (popped, later))
    (other : SockPtr) : s.Calms later other := by
  obtain ⟨links, rfl⟩ := tcpSockAcceptDequeue_ok done
  exact (relinked s links other).trans
    (.after (.refl _ other) (fun _ => rfl) (fun _ => rfl))

end Stack.Calms

section Calls

variable {s later : Stack} {tsk other : SockPtr}

theorem tcpSockBind_calms {skaddr : SockAddr} {result : ℤ}
    (done : tcpSockBind s tsk skaddr = .ok (result, later)) : s.Calms later other := by
  rcases tcpSockSetSport_ok done with rfl | ⟨chosen, hashed⟩
  · exact .refl _ other
  · exact (Stack.Calms.bindHash hashed other).after (fun _ => rfl) (fun _ => rfl)

theorem tcpSockListen_calms {backlog result : ℤ}
    (done : tcpSockListen s tsk backlog = .ok (result, later)) : s.Calms later other := by
  have hashed : tcpHash (tcpSetState (s.modify tsk fun sk => { sk with backlog := backlog }) tsk
    .listen) tsk = .ok (result, later) := done
  exact ((Stack.Calms.touched (.setState _ tsk .listen) other).trans
    (.hash hashed other)).after (fun _ => rfl) (fun _ => rfl)

/-- Up to its sleep, `tcp_sock_connect` wakes nobody. -/
theorem tcpSockConnect_sleeps {skaddr : SockAddr} {cursorIp : U32} {result : Option ℤ}
    (done : tcpSockConnect s tsk skaddr cursorIp = .ok (result, later)) :
    ∃ hashed, (∀ other, s.Calms hashed other) ∧
      result = (if (sleepOn (hashed.sock tsk).waitConnect).2 then none else some 0) ∧
      later = hashed.modify tsk fun sk =>
        { sk with waitConnect := (sleepOn (hashed.sock tsk).waitConnect).1 } := by
  obtain ⟨port, _, done⟩ := Outcome.bind_eq_ok.mp done
  obtain ⟨bound, binding, done⟩ := Outcome.bind_eq_ok.mp done
  obtain ⟨⟨_, hashed⟩, hashing, done⟩ := Outcome.bind_eq_ok.mp done
  cases done
  refine ⟨hashed, fun other => ?_, rfl, rfl⟩
  have sent : bound.Calms (tcpSetState (tcpSendControlPacket bound tsk tcpSyn) tsk .synSent)
      other := .touched ((Stack.Touches.sendControl bound tsk tcpSyn).trans (.setState _ tsk _))
        other
  exact (((Stack.Calms.bindHash binding other).trans
    (sent.trans (.hash hashing other))).after (fun _ => rfl) (fun _ => rfl)).after
      (fun _ => rfl) (fun _ => rfl)

theorem tcpSockConnect_calms {skaddr : SockAddr} {cursorIp : U32} {result : Option ℤ}
    (done : tcpSockConnect s tsk skaddr cursorIp = .ok (result, later)) :
    s.Calms later other := by
  obtain ⟨hashed, calms, _, rfl⟩ := tcpSockConnect_sleeps done
  exact (calms other).trans (.modify hashed tsk (.sleepOn _) (.refl _) other)

theorem tcpSockAccept_calms {popped : Option Node}
    (done : tcpSockAccept s tsk = .ok (popped, later)) : s.Calms later other := by
  obtain ⟨before, called, rest⟩ := tcpSockAccept_ok done
  have slept : s.Calms before other := by
    rcases called with rfl | rfl
    · exact .refl _ other
    · exact .modify s tsk (.refl _) (.sleepOn _) other
  rcases rest with rfl | ⟨node, dequeued⟩
  · exact slept
  · exact slept.trans (.dequeue dequeued other)

/-- What a segment does to the waits of a sock, when no sock has a parent. -/
theorem ProcessStep.wakes {cb : TcpCb} {tmp : SockPtr} (step : ProcessStep s tsk cb tmp later)
    (notRecv : (s.sock tsk).state ≠ .synRecv) (notMade : other ≠ tmp) :
    s.Calms later other ∨
      other = tsk ∧ (s.sock tsk).state = .synSent ∧ later = tcpProcessSynSent s tsk := by
  cases step with
  | dropped | ignored => exact .inl (.refl s other)
  | answered => exact .inl ⟨.refl _, .refl _⟩
  | rst _ _ closing =>
      exact .inl (.touched ((Stack.Touches.sendControl s tsk tcpAck).trans
        (tcpSockClose_touches closing)) other)
  | fin _ _ closing => exact .inl (.touched (tcpSockClose_touches closing) other)
  | syn _ _ _ opened =>
      have same := tcpProcessSyn_other opened notMade
      exact .inl ⟨.of_eq (congrArg TcpSock.waitConnect same),
        .of_eq (congrArg TcpSock.waitAccept same)⟩
  | ack _ state => exact absurd state notRecv
  | synSent _ _ _ state =>
      by_cases same : other = tsk
      · exact .inr ⟨same, state, rfl⟩
      · have apart : (tcpProcessSynSent s tsk).sock other =
            (tcpSendControlPacket (tcpSetState s tsk .established) tsk tcpAck).sock other :=
          Stack.modify_sock_of_ne _ _ same
        have sent := Stack.Calms.touched ((Stack.Touches.setState s tsk .established).trans
          (.sendControl _ tsk tcpAck)) other
        exact .inl (sent.trans ⟨.of_eq (congrArg TcpSock.waitConnect apart),
          .of_eq (congrArg TcpSock.waitAccept apart)⟩)

/-- An event wakes nobody, or it establishes the sock that waits. -/
theorem Stack.Reached.wakes {event : Event} (reached : s.Reached) (possible : event.Possible s)
    (done : event.run s = .ok later) (member : other ∈ s.allocated) :
    s.Calms later other ∨ (s.InEstablished other ∧ (s.sock other).state = .synSent) ∧
      later = tcpProcessSynSent s other := by
  cases event with
  | alloc tsk =>
      cases done
      have same : (allocTcpSock s tsk).sock other = s.sock other :=
        Function.update_of_ne (ne_of_mem_of_not_mem member possible.2) _ _
      exact .inl ⟨.of_eq (congrArg TcpSock.waitConnect same),
        .of_eq (congrArg TcpSock.waitAccept same)⟩
  | bind tsk skaddr =>
      obtain ⟨⟨result, final⟩, called, done⟩ := Outcome.bind_eq_ok.mp done
      cases done
      exact .inl (tcpSockBind_calms called)
  | listen tsk backlog =>
      obtain ⟨⟨result, final⟩, called, done⟩ := Outcome.bind_eq_ok.mp done
      cases done
      exact .inl (tcpSockListen_calms called)
  | connect tsk skaddr cursorIp =>
      obtain ⟨⟨result, final⟩, called, done⟩ := Outcome.bind_eq_ok.mp done
      cases done
      exact .inl (tcpSockConnect_calms called)
  | connectWoken tsk =>
      cases done
      have woken : s.Calms (s.modify tsk fun sk =>
          { sk with waitConnect := sleepOnWoken sk.waitConnect }) other :=
        .modify s tsk (.sleepOnWoken _) (.refl _) other
      exact .inl woken
  | accept tsk =>
      obtain ⟨⟨result, final⟩, called, done⟩ := Outcome.bind_eq_ok.mp done
      cases done
      exact .inl (tcpSockAccept_calms called)
  | acceptWoken tsk =>
      obtain ⟨⟨result, final⟩, called, done⟩ := Outcome.bind_eq_ok.mp done
      cases done
      have woken : s.Calms (s.modify tsk fun sk =>
          { sk with waitAccept := sleepOnWoken sk.waitAccept }) other :=
        .modify s tsk (.refl _) (.sleepOnWoken _) other
      exact .inl (woken.trans (.dequeue called other))
  | close tsk => exact .inl (.touched (tcpSockClose_touches done) other)
  | arrive packet ip tcp tmp =>
      obtain ⟨_, orderly⟩ := reached.inOrder
      rcases handleTcpPacket_cases done with ⟨_, rfl⟩ | ⟨_, tsk, found, notNull, step⟩
      · exact .inl (.refl _ other)
      · have hashed := orderly.sound.shape.hashed_of_lookup found notNull
        have handed := orderly.sound.shape.allocated_of_hashed hashed
        have notRecv : (s.sock tsk).state ≠ .synRecv := fun state =>
          orderly.sound.children tsk handed state (reached.childless tsk handed)
        rcases step.wakes notRecv (ne_of_mem_of_not_mem member possible.2) with
          calms | ⟨rfl, state, same⟩
        · exact .inl calms
        · refine .inr ⟨⟨hashed.resolve_right fun listed => ?_, state⟩, same⟩
          rw [(reached.standing.stands other member).listening, state] at listed
          cases listed

end Calls

/-! ## States -/

section States

variable {s later : Stack} {tsk : SockPtr}

/-- What an effect does to the state of a sock that was there before. -/
inductive StateMove (s : Stack) (tsk : SockPtr) (later : Stack) : Prop where
  | same : (later.sock tsk).state = (s.sock tsk).state → StateMove s tsk later
  | closes : (later.sock tsk).state = (s.sock tsk).state.afterClose → StateMove s tsk later
  | establishes : (s.sock tsk).state = .synSent → (later.sock tsk).state = .established →
      StateMove s tsk later
  | listens : ¬ s.Hashed tsk → (later.sock tsk).state = .listen → StateMove s tsk later
  | connects : ¬ s.InBind tsk → ¬ s.Released tsk → (later.sock tsk).state = .synSent →
      StateMove s tsk later

theorem SegmentEffect.stateMove {cb : TcpCb} {altered : SockPtr}
    (effect : SegmentEffect s altered cb later) : StateMove s tsk later := by
  cases effect with
  | ignored same => exact .same (by rw [same])
  | answered _ _ _ same => exact .same (same ▸ (tcpSendReset_stays s cb tsk).state)
  | establishes _ _ state establishes =>
      by_cases same : tsk = altered
      · subst same
        exact .establishes state establishes.state
      · exact .same (establishes.alters.others tsk same).state
  | finished _ closed | aborted _ closed =>
      by_cases same : tsk = altered
      · subst same
        exact .closes closed.state
      · exact .same (closed.alters.others tsk same).state

theorem Effect.stateMove {event : Event} (effect : Effect s event later)
    (allowed : event.Orderly s) (member : tsk ∈ s.allocated) : StateMove s tsk later := by
  cases effect with
  | quiet quiet => exact .same (quiet.stays tsk).state
  | makes makes =>
      exact .same (makes.others tsk (ne_of_mem_of_not_mem member makes.absent)).state
  | @names altered _ _ named =>
      by_cases same : tsk = altered
      · subst same
        exact .same named.state
      · exact .same (named.alters.others tsk same).state
  | @listens altered _ _ listens =>
      by_cases same : tsk = altered
      · subst same
        exact .listens allowed.2 listens.state
      · exact .same (listens.alters.others tsk same).state
  | @connects altered _ _ _ connects =>
      obtain ⟨_, _, _, alters⟩ := connects.alters
      by_cases same : tsk = altered
      · subst same
        exact .connects allowed.2.1 allowed.1 connects.state
      · exact .same (alters.others tsk same).state
  | @closes altered _ closed =>
      by_cases same : tsk = altered
      · subst same
        exact .closes closed.state
      · exact .same (closed.alters.others tsk same).state
  | arrives _ _ segment => exact segment.stateMove

/-- The sock has been established. -/
def TcpState.connected (state : TcpState) : Prop := state = .established ∨ state = .finWait1

theorem TcpState.connected_of_afterClose {state : TcpState}
    (connected : state.afterClose.connected) : state.connected := by
  cases state <;> simp [TcpState.connected, TcpState.afterClose] at connected ⊢

theorem StateMove.connected (moves : StateMove s tsk later) (stands : s.Stands tsk)
    (connected : (s.sock tsk).state.connected) : (later.sock tsk).state.connected := by
  have inside := stands.connected connected
  cases moves with
  | same state => exact state ▸ connected
  | closes state =>
      rw [state]
      rcases connected with before | before
      · rw [before]
        exact .inr rfl
      · rw [before]
        exact .inr rfl
  | establishes _ state => exact .inl state
  | listens unhashed _ => exact absurd (.inl inside) unhashed
  | connects unbound unreleased _ =>
      exact absurd (stands.sndNxt_eq_zero unreleased unbound) (stands.opened inside)

/-- A connection that was closed stays closed. -/
theorem StateMove.finWait1 (moves : StateMove s tsk later) (stands : s.Stands tsk)
    (state : (s.sock tsk).state = .finWait1) : (later.sock tsk).state = .finWait1 := by
  have inside := stands.connected (.inr state)
  cases moves with
  | same same => exact same.trans state
  | closes closed =>
      rw [closed, state]
      rfl
  | establishes before _ =>
      rw [state] at before
      cases before
  | listens unhashed _ => exact absurd (.inl inside) unhashed
  | connects unbound unreleased _ =>
      exact absurd (stands.sndNxt_eq_zero unreleased unbound) (stands.opened inside)

/-- A sock that has sent its SYN does not come back to `TCP_SYN_SENT`. -/
theorem StateMove.synSent (moves : StateMove s tsk later) (stands : s.Stands tsk)
    (sent : (s.sock tsk).sndNxt ≠ 0) (state : (later.sock tsk).state = .synSent) :
    (s.sock tsk).state = .synSent := by
  cases moves with
  | same same => exact same ▸ state
  | closes closed =>
      rw [closed] at state
      cases before : (s.sock tsk).state <;> rw [before] at state <;> cases state
  | establishes _ after =>
      rw [after] at state
      cases state
  | listens _ after =>
      rw [after] at state
      cases state
  | connects unbound unreleased _ =>
      exact absurd (stands.sndNxt_eq_zero unreleased unbound) sent

end States

/-! ## Queues -/

section Queues

variable {s later : Stack}

theorem Stack.Alters.unqueued {tsk : SockPtr} {emitted : List Segment}
    (alters : s.Alters tsk emitted later) (none : ∀ other, ¬ s.Queued other) (other : SockPtr) :
    ¬ later.Queued other := by
  by_cases same : other = tsk
  · rw [same]
    exact fun queued => none tsk (alters.queued queued)
  · exact fun queued => none other ((alters.others other same).queued queued)

/-- No sock comes into a queue. -/
theorem Effect.unqueued {event : Event} (effect : Effect s event later)
    (none : ∀ other, ¬ s.Queued other) (other : SockPtr) : ¬ later.Queued other := by
  cases effect with
  | quiet quiet => exact fun queued => none other ((quiet.stays other).queued queued)
  | @makes tsk _ makes =>
      by_cases same : other = tsk
      · rw [same]
        exact fun queued => makes.unlinked (.inr (.inr (.inr queued)))
      · exact fun queued => none other ((makes.others other same).queued queued)
  | names named => exact named.alters.unqueued none other
  | listens listens => exact listens.alters.unqueued none other
  | connects connects =>
      obtain ⟨_, _, _, alters⟩ := connects.alters
      exact alters.unqueued none other
  | closes closed => exact closed.alters.unqueued none other
  | arrives _ _ segment =>
      cases segment with
      | ignored same => exact same ▸ none other
      | answered _ _ _ same =>
          rw [same]
          exact fun queued => none other ((tcpSendReset_stays s _ other).queued queued)
      | establishes _ _ _ establishes => exact establishes.alters.unqueued none other
      | finished _ closed | aborted _ closed => exact closed.alters.unqueued none other

end Queues

/-! ## Runs -/

/-- What an orderly run keeps true of the waits of a sock. -/
structure Stack.Waits (s : Stack) (tsk : SockPtr) : Prop where
  connectAlive : (s.sock tsk).waitConnect.dead = false
  acceptAlive : (s.sock tsk).waitAccept.dead = false
  connect : (s.sock tsk).waitConnect.notified = true → (s.sock tsk).state.connected
  accept : (s.sock tsk).waitAccept.notified = false

/-- What an orderly run keeps true of those who sleep. -/
structure Stack.Sleeps (s : Stack) : Prop where
  reached : s.Reached
  waits : ∀ tsk ∈ s.allocated, s.Waits tsk
  unqueued : ∀ tsk, ¬ s.Queued tsk

section Runs

variable {s later : Stack} {tsk : SockPtr}

theorem Stack.Waits.calms (waits : s.Waits tsk) (calms : s.Calms later tsk)
    (connected : (s.sock tsk).state.connected → (later.sock tsk).state.connected) :
    later.Waits tsk where
  connectAlive := calms.connect.dead.trans waits.connectAlive
  acceptAlive := calms.accept.dead.trans waits.acceptAlive
  connect := fun notified => connected (waits.connect (calms.connect.notified notified))
  accept := by
    rw [← Bool.not_eq_true]
    intro notified
    have before := calms.accept.notified notified
    rw [waits.accept] at before
    cases before

theorem Stack.Waits.established (waits : s.Waits tsk) : (tcpProcessSynSent s tsk).Waits tsk := by
  obtain ⟨state, connect⟩ := tcpProcessSynSent_sock s tsk
  have accept : ((tcpProcessSynSent s tsk).sock tsk).waitAccept = (s.sock tsk).waitAccept := by
    rw [tcpProcessSynSent, Stack.modify_sock_self]
    exact ((Stack.Touches.setState s tsk .established).trans (.sendControl _ tsk tcpAck)).field
      TcpSock.waitAccept (fun _ _ _ _ => rfl) tsk
  constructor
  · rw [connect, wakeUp_dead]
    exact waits.connectAlive
  · rw [accept]
    exact waits.acceptAlive
  · exact fun _ => .inl state
  · rw [accept]
    exact waits.accept

/-- One event. -/
theorem Stack.Sleeps.event {event : Event} (sleeps : s.Sleeps) (possible : event.Possible s)
    (allowed : event.Orderly s) (done : event.run s = .ok later) : later.Sleeps := by
  have effect := sleeps.reached.effect possible allowed done
  refine ⟨sleeps.reached.event possible allowed done, fun tsk member => ?_,
    effect.unqueued sleeps.unqueued⟩
  rcases effect.origin possible done member with ⟨before, _⟩ | zeroed
  · rcases sleeps.reached.wakes possible done before with calms | ⟨_, rfl⟩
    · have moves := effect.stateMove allowed before
      exact (sleeps.waits tsk before).calms calms
        (moves.connected (sleeps.reached.standing.stands tsk before))
    · exact (sleeps.waits tsk before).established
  · constructor
    · rw [zeroed]
      rfl
    · rw [zeroed]
      rfl
    · rw [zeroed]
      exact fun notified => nomatch notified
    · rw [zeroed]
      rfl

theorem initTcpStack_sleeps : initTcpStack.Sleeps where
  reached := initTcpStack_reached
  waits := fun _ member => nomatch member
  unqueued := by
    rintro _ ⟨_, member, _⟩
    cases member

theorem Run.sleeps (run : Run Event.Orderly s later) (sleeps : s.Sleeps) : later.Sleeps := by
  induction run with
  | refl => exact sleeps
  | tail _ step ih =>
      obtain ⟨event, possible, allowed, done⟩ := step
      exact ih.event possible allowed done

end Runs

/-! ## Accepting -/

/-- A call of `tcp_sock_accept` finds nothing and blocks. -/
theorem Stack.Sleeps.accept_blocks {s : Stack} {tsk : SockPtr} (sleeps : s.Sleeps)
    (member : tsk ∈ s.allocated) :
    s.entries (.acceptQueue tsk) = [] ∧ ∃ later, tcpSockAccept s tsk = .ok (none, later) := by
  obtain ⟨socks, orderly⟩ := sleeps.reached.inOrder
  have waits := sleeps.waits tsk member
  have isHead : s.IsHead (.acceptQueue tsk) := member
  have empty : s.entries (.acceptQueue tsk) = [] :=
    List.eq_nil_iff_forall_not_mem.mpr fun other inside =>
      sleeps.unqueued other ⟨tsk, member, .inr inside⟩
  have listEmpty : s.links.listEmpty (.acceptQueue tsk) = true := by
    rw [orderly.sound.shape.listEmpty_head isHead, ← orderly.sound.shape.entries_eq isHead, empty]
    rfl
  have blocks : (sleepOn (s.sock tsk).waitAccept).2 = true := by
    simp [sleepOn, waits.acceptAlive, waits.accept]
  refine ⟨empty, ?_⟩
  simp only [tcpSockAccept, listEmpty, Bool.not_true, Bool.false_eq_true, if_false, blocks, if_true]
  exact ⟨_, rfl⟩

/-- **`tcp_sock_accept` never returns.** After any orderly run, whatever packets came, the
accept queue of every sock is empty, a call blocks, and nobody who sleeps in one
has been notified. -/
theorem accept_never_returns (s : Stack) (run : Run Event.Orderly initTcpStack s) (tsk : SockPtr)
    (member : tsk ∈ s.allocated) :
    s.entries (.acceptQueue tsk) = [] ∧ (s.sock tsk).waitAccept.notified = false ∧
      ∃ later, tcpSockAccept s tsk = .ok (none, later) := by
  have sleeps := run.sleeps initTcpStack_sleeps
  obtain ⟨empty, blocks⟩ := sleeps.accept_blocks member
  exact ⟨empty, (sleeps.waits tsk member).accept, blocks⟩

/-- A listener that was sent an ACK. -/
theorem accept_never_returns_listener : ∃ s later,
    handleTcpPacket listeningStack (clientPacket tcpAck) packetToIpHdr tcpPlace 2 = .ok s ∧
      tcpSockAccept s 1 = .ok (none, later) := by
  have listening : Run Event.Orderly initTcpStack listeningStack :=
    listeningStack_reached fun _ _ orderly _ => orderly
  have answers : handleTcpPacket listeningStack (clientPacket tcpAck) packetToIpHdr tcpPlace 2 =
      .ok (tcpSendReset listeningStack (clientSock.controlSegment tcpAck).received) :=
    ((clientPacket_delivers tcpAck).handle rfl 2).trans rfl
  have answered : Step Event.Orderly listeningStack _ :=
    ⟨.arrive (clientPacket tcpAck) packetToIpHdr tcpPlace 2, ⟨by decide, by decide⟩, trivial,
      answers⟩
  obtain ⟨_, _, later, blocks⟩ := accept_never_returns _ (listening.tail answered) 1 (by decide)
  exact ⟨_, later, answers, blocks⟩

/-! ## Connecting -/

/-- The sock may still be answered. -/
def Stack.Answerable (s : Stack) (tsk : SockPtr) : Prop :=
  s.InEstablished tsk ∧ (s.sock tsk).state = .synSent

section Connecting

variable {s later : Stack} {tsk : SockPtr}

/-- In a run, a wait that is notified was notified before or could be. -/
theorem Run.sleeper (run : Run Event.Orderly s later) (reached : s.Reached)
    (member : tsk ∈ s.allocated) (sent : (s.sock tsk).sndNxt ≠ 0) :
    ((later.sock tsk).waitConnect.notified = true →
        (s.sock tsk).waitConnect.notified = true ∨ s.Answerable tsk) ∧
      (later.Answerable tsk → s.Answerable tsk) := by
  induction run with
  | refl => exact ⟨.inl, id⟩
  | tail before step ih =>
      obtain ⟨event, possible, allowed, done⟩ := step
      obtain ⟨woken, answerable⟩ := ih
      have between := Run.reached before reached
      have abides := Run.abides before reached member sent
      have effect := between.effect possible allowed done
      obtain ⟨_, orderly⟩ := between.inOrder
      have next := effect.abides between.standing orderly.sound.shape allowed abides.member
        abides.sent
      constructor
      · rcases between.wakes possible done abides.member with calms | ⟨waiting, _⟩
        · exact fun notified => woken (calms.connect.notified notified)
        · exact fun _ => .inr (answerable waiting)
      · rintro ⟨inside, state⟩
        have stands := between.standing.stands tsk abides.member
        exact answerable ⟨next.inEstablished.mp inside,
          (effect.stateMove allowed abides.member).synSent stands abides.sent state⟩

end Connecting

/-- **Who sleeps for ever in `tcp_sock_connect`.** After any orderly run, a sock that has
sent its SYN can be notified in what follows if and only if it was notified already,
or it is hashed and still in `TCP_SYN_SENT`. So nobody wakes the caller of a sock
that was not hashed, or that was closed before the peer answered. -/
theorem sleeper_woken_iff (s : Stack) (run : Run Event.Orderly initTcpStack s) (tsk : SockPtr)
    (member : tsk ∈ s.allocated) (sent : (s.sock tsk).sndNxt ≠ 0) :
    (∃ last, Run Event.Orderly s last ∧ (last.sock tsk).waitConnect.notified = true) ↔
      (s.sock tsk).waitConnect.notified = true ∨ s.Answerable tsk := by
  have sleeps := run.sleeps initTcpStack_sleeps
  constructor
  · rintro ⟨last, more, notified⟩
    exact (Run.sleeper more sleeps.reached member sent).1 notified
  · rintro (notified | ⟨inside, state⟩)
    · exact ⟨s, .refl, notified⟩
    · refine ⟨_, .single (sleeps.reached.establish inside state), ?_⟩
      rw [(tcpProcessSynSent_sock s tsk).2]
      exact wakeUp_notified (sleeps.waits tsk member).connectAlive

/-- The stack after the application closed the sock that connects. -/
def hungUpStack : Stack := (Event.run connectingStack (.close 1)).stack

/-- A sock that was closed before the peer answered. -/
theorem sleeper_woken_iff_hung_up : ¬∃ last, Run Event.Orderly hungUpStack last ∧
    (last.sock 1).waitConnect.notified = true := by
  have connecting : Run Event.Orderly initTcpStack connectingStack :=
    connectingStack_reached fun _ _ orderly _ => orderly
  have member : 1 ∈ connectingStack.allocated := by decide
  have closing : Step Event.Orderly connectingStack hungUpStack :=
    ⟨.close 1, member, trivial, rfl⟩
  rw [sleeper_woken_iff hungUpStack (connecting.tail closing) 1 (by decide) (by decide)]
  rintro (before | ⟨_, state⟩)
  · exact absurd before (by decide)
  · exact absurd state (by decide)

end TcpStack
