import TcpStack.Sock.Process
import TcpStack.Packet.RoundTrip

/-!
# What one segment does

The effect of one call of `tcp_sock_close` and of `tcp_process` on the records
of the socks and on the segments emitted, branch by branch. A close touches
three fields of the sock closed and nothing of any other
(`tcpSockClose_touches`). What `tcp_process` does is decided by whether the
segment is accepted, by two exact comparisons of its flags, and by the state of
the sock.
-/

set_option autoImplicit false

namespace TcpStack

open Lib

/-! ## Unlinking -/

/-- `tcp_unhash` and `tcp_bind_unhash` are one function of the node. -/
theorem unlink_ok {s later : Stack} {tsk : SockPtr} {node : Node}
    (done : (if !s.links.listEmpty node then do
        let s ← s.relink (s.links.listDeleteEntry Node.valid node)
        pure (freeTcpSock s tsk)
      else pure s : Outcome Stack) = .ok later) :
    later = s ∨ ∃ links, s.links.listDeleteEntry Node.valid node = .ok links ∧
      later = freeTcpSock { s with links := links } tsk := by
  split at done
  · obtain ⟨middle, relinked, freed⟩ := Outcome.bind_eq_ok.mp done
    obtain ⟨links, deleted, rfl⟩ := Stack.relink_eq_ok.mp relinked
    cases freed
    exact .inr ⟨links, deleted, rfl⟩
  · cases done
    exact .inl rfl

/-! ## Linking -/

theorem tcpHash_ok {s later : Stack} {tsk : SockPtr} {result : ℤ}
    (done : tcpHash s tsk = .ok (result, later)) :
    later = s ∨ ∃ links, later = tcpSockIncRefCnt { s with links := links } tsk := by
  simp only [tcpHash] at done
  split at done
  · cases done
    exact .inl rfl
  · split at done
    · obtain ⟨middle, relinked, done⟩ := Outcome.bind_eq_ok.mp done
      obtain ⟨links, _, rfl⟩ := Stack.relink_eq_ok.mp relinked
      cases done
      exact .inr ⟨links, rfl⟩
    · obtain ⟨same, _, done⟩ := Outcome.bind_eq_ok.mp done
      split at done
      · cases done
        exact .inl rfl
      · obtain ⟨middle, relinked, done⟩ := Outcome.bind_eq_ok.mp done
        obtain ⟨links, _, rfl⟩ := Stack.relink_eq_ok.mp relinked
        cases done
        exact .inr ⟨links, rfl⟩

theorem tcpHash_field {β : Type} (field : TcpSock → β) {s later : Stack} {tsk : SockPtr}
    {result : ℤ} (done : tcpHash s tsk = .ok (result, later))
    (keeps : ∀ (sk : TcpSock) (refCnt : ℤ), field { sk with refCnt := refCnt } = field sk)
    (other : SockPtr) : field (later.sock other) = field (s.sock other) := by
  rcases tcpHash_ok done with rfl | ⟨links, rfl⟩
  · rfl
  · exact Stack.modify_field field { s with links := links } tsk (fun sk => keeps sk _) other

theorem tcpHash_out {s later : Stack} {tsk : SockPtr} {result : ℤ}
    (done : tcpHash s tsk = .ok (result, later)) : later.out = s.out := by
  rcases tcpHash_ok done with rfl | ⟨links, rfl⟩ <;> rfl

theorem tcpHash_freed {s later : Stack} {tsk : SockPtr} {result : ℤ}
    (done : tcpHash s tsk = .ok (result, later)) : later.freed = s.freed := by
  rcases tcpHash_ok done with rfl | ⟨links, rfl⟩ <;> rfl

/-- Queueing a sock for `accept` changes pointers and the counter of its
parent. -/
theorem tcpSockAcceptEnqueue_ok {s later : Stack} {tsk : SockPtr}
    (done : tcpSockAcceptEnqueue s tsk = .ok later) :
    ∃ links, later = ({ s with links := links } : Stack).modify (s.sock tsk).parent fun sk =>
      { sk with acceptBacklog := sk.acceptBacklog + 1 } := by
  unfold tcpSockAcceptEnqueue at done
  split at done
  · obtain ⟨middle, removed, done⟩ := Outcome.bind_eq_ok.mp done
    obtain ⟨unlinked, _, rfl⟩ := Stack.relink_eq_ok.mp removed
    obtain ⟨linked, added, done⟩ := Outcome.bind_eq_ok.mp done
    obtain ⟨links, _, rfl⟩ := Stack.relink_eq_ok.mp added
    cases done
    exact ⟨links, rfl⟩
  · obtain ⟨middle, kept, done⟩ := Outcome.bind_eq_ok.mp done
    cases kept
    obtain ⟨linked, added, done⟩ := Outcome.bind_eq_ok.mp done
    obtain ⟨links, _, rfl⟩ := Stack.relink_eq_ok.mp added
    cases done
    exact ⟨links, rfl⟩

theorem tcpSockAcceptEnqueue_field {β : Type} (field : TcpSock → β) {s later : Stack}
    {tsk : SockPtr} (done : tcpSockAcceptEnqueue s tsk = .ok later)
    (keeps : ∀ (sk : TcpSock) (count : ℤ), field { sk with acceptBacklog := count } = field sk)
    (other : SockPtr) : field (later.sock other) = field (s.sock other) := by
  obtain ⟨links, rfl⟩ := tcpSockAcceptEnqueue_ok done
  exact Stack.modify_field field { s with links := links } _ (fun sk => keeps sk _) other

theorem tcpSockAcceptEnqueue_out {s later : Stack} {tsk : SockPtr}
    (done : tcpSockAcceptEnqueue s tsk = .ok later) : later.out = s.out := by
  obtain ⟨links, rfl⟩ := tcpSockAcceptEnqueue_ok done
  rfl

/-- The sock made for a SYN, before it is linked anywhere. -/
def synSock (tsk : SockPtr) (cb : TcpCb) : TcpSock :=
  { zeroedSock with skSip := cb.daddr, skSport := cb.dport, skDip := cb.saddr, skDport := cb.sport,
                    parent := tsk }

/-- The stack in which a passive open has made its sock. -/
def madeForSyn (s : Stack) (tsk : SockPtr) (cb : TcpCb) (tmp : SockPtr) : Stack :=
  (allocTcpSock s tmp).modify tmp fun _ => synSock tsk cb

/-- The stack in which a passive open has answered the SYN. -/
def answeredSyn (s : Stack) (tmp : SockPtr) : Stack :=
  tcpSetState (tcpSendControlPacket s tmp (tcpSyn ||| tcpAck)) tmp .synRecv

@[simp] theorem madeForSyn_allocated (s : Stack) (tsk : SockPtr) (cb : TcpCb) (tmp : SockPtr) :
    (madeForSyn s tsk cb tmp).allocated = tmp :: s.allocated := rfl

@[simp] theorem madeForSyn_freed (s : Stack) (tsk : SockPtr) (cb : TcpCb) (tmp : SockPtr) :
    (madeForSyn s tsk cb tmp).freed = s.freed := rfl

theorem madeForSyn_parent (s : Stack) {tsk tmp : SockPtr} (cb : TcpCb) (different : tsk ≠ tmp) :
    ((madeForSyn s tsk cb tmp).sock tsk).parent = (s.sock tsk).parent := by
  rw [madeForSyn, Stack.modify_sock_of_ne _ _ different]
  exact congrArg TcpSock.parent (Function.update_of_ne different _ _)

@[simp] theorem answeredSyn_links (s : Stack) (tmp : SockPtr) :
    (answeredSyn s tmp).links = s.links := by
  simp [answeredSyn]

@[simp] theorem answeredSyn_allocated (s : Stack) (tmp : SockPtr) :
    (answeredSyn s tmp).allocated = s.allocated := by
  simp [answeredSyn]

@[simp] theorem answeredSyn_freed (s : Stack) (tmp : SockPtr) :
    (answeredSyn s tmp).freed = s.freed := by
  simp [answeredSyn]

/-- A passive open makes a sock, queues it, answers the SYN and hashes the
sock. -/
theorem tcpProcessSyn_eq (s : Stack) (tsk : SockPtr) (cb : TcpCb) (tmp : SockPtr) :
    tcpProcessSyn s tsk cb tmp =
      ((madeForSyn s tsk cb tmp).relink ((madeForSyn s tsk cb tmp).links.listAddTail
        Node.valid (.list tmp) (.listenQueue ((madeForSyn s tsk cb tmp).sock tsk).parent)) >>=
      fun queued => tcpHash (answeredSyn queued tmp) tmp >>= fun hashed => pure hashed.2) := by
  have made : ((allocTcpSock s tmp).modify tmp fun sk =>
      { sk with skSip := cb.daddr, skSport := cb.dport, skDip := cb.saddr, skDport := cb.sport,
                parent := tsk }) = madeForSyn s tsk cb tmp := by
    simp [madeForSyn, Stack.modify, allocTcpSock, synSock]
  rw [tcpProcessSyn, made]
  rfl

/-- A passive open stops the program when the listener has no parent: the queue
it asks for is behind a null pointer. -/
theorem tcpProcessSyn_orphan {s : Stack} {tsk tmp : SockPtr} (cb : TcpCb) (different : tsk ≠ tmp)
    (orphan : (s.sock tsk).parent = 0) :
    tcpProcessSyn s tsk cb tmp = .error ⟨.badPointer, madeForSyn s tsk cb tmp⟩ := by
  rw [tcpProcessSyn_eq, madeForSyn_parent s cb different, orphan, Heap.listAddTail_of_dangling rfl]
  rfl

theorem tcpProcessSyn_ok {s later : Stack} {tsk tmp : SockPtr} {cb : TcpCb}
    (done : tcpProcessSyn s tsk cb tmp = .ok later) :
    ∃ links result,
      tcpHash (answeredSyn { madeForSyn s tsk cb tmp with links := links } tmp) tmp =
        .ok (result, later) := by
  rw [tcpProcessSyn_eq] at done
  obtain ⟨queued, added, done⟩ := Outcome.bind_eq_ok.mp done
  obtain ⟨links, _, rfl⟩ := Stack.relink_eq_ok.mp added
  obtain ⟨⟨result, final⟩, hashed, done⟩ := Outcome.bind_eq_ok.mp done
  cases done
  exact ⟨links, result, hashed⟩

/-! ## Closing -/

/-- Between two stacks one sock changed at most in its state, its reference
count and its next sequence number, and the other socks did not change. -/
structure Stack.Touches (s : Stack) (tsk : SockPtr) (later : Stack) : Prop where
  own : later.sock tsk = { s.sock tsk with
    state := (later.sock tsk).state
    refCnt := (later.sock tsk).refCnt
    sndNxt := (later.sock tsk).sndNxt }
  others : ∀ other, other ≠ tsk → later.sock other = s.sock other
  allocated : later.allocated = s.allocated
  freed : ∀ other, other ≠ tsk → (later.Released other ↔ s.Released other)

namespace Stack.Touches

variable {s middle later : Stack} {tsk : SockPtr}

theorem refl (s : Stack) (tsk : SockPtr) : s.Touches tsk s :=
  ⟨rfl, fun _ _ => rfl, rfl, fun _ _ => Iff.rfl⟩

theorem trans (first : s.Touches tsk middle) (second : middle.Touches tsk later) :
    s.Touches tsk later where
  own := by
    rw [second.own, first.own]
  others := fun other different =>
    (second.others other different).trans (first.others other different)
  allocated := second.allocated.trans first.allocated
  freed := fun other different => (second.freed other different).trans (first.freed other different)

theorem relinked (s : Stack) (tsk : SockPtr) (links : Heap Node) :
    s.Touches tsk { s with links := links } :=
  ⟨rfl, fun _ _ => rfl, rfl, fun _ _ => Iff.rfl⟩

theorem free (s : Stack) (tsk : SockPtr) : s.Touches tsk (freeTcpSock s tsk) where
  own := by rw [freeTcpSock_sock, if_pos rfl]
  others := fun other different => by rw [freeTcpSock_sock, if_neg different]
  allocated := by simp
  freed := by
    intro other different
    rw [Stack.Released, freeTcpSock_freed]
    split
    · exact List.mem_cons.trans (or_iff_right different)
    · rfl

theorem incRefCnt (s : Stack) (tsk : SockPtr) : s.Touches tsk (tcpSockIncRefCnt s tsk) where
  own := by rw [tcpSockIncRefCnt_sock, if_pos rfl]
  others := fun other different => by rw [tcpSockIncRefCnt_sock, if_neg different]
  allocated := rfl
  freed := fun _ _ => Iff.rfl

theorem setState (s : Stack) (tsk : SockPtr) (state : TcpState) :
    s.Touches tsk (tcpSetState s tsk state) where
  own := by rw [tcpSetState_sock, if_pos rfl]
  others := fun other different => by rw [tcpSetState_sock, if_neg different]
  allocated := by simp
  freed := fun _ _ => Iff.rfl

theorem sendControl (s : Stack) (tsk : SockPtr) (flags : U8) :
    s.Touches tsk (tcpSendControlPacket s tsk flags) where
  own := by rw [tcpSendControlPacket_sock, if_pos rfl]
  others := fun other different => by rw [tcpSendControlPacket_sock, if_neg different]
  allocated := by simp
  freed := fun _ _ => by rw [Stack.Released, tcpSendControlPacket_freed, Stack.Released]

theorem unlink {node : Node} (done : (if !s.links.listEmpty node then do
      let s ← s.relink (s.links.listDeleteEntry Node.valid node)
      pure (freeTcpSock s tsk)
    else pure s : Outcome Stack) = .ok later) : s.Touches tsk later := by
  rcases unlink_ok done with rfl | ⟨links, _, rfl⟩
  · exact .refl _ _
  · exact (relinked s tsk links).trans (free _ _)

/-- A field other than the three. -/
theorem field {β : Type} (field : TcpSock → β) (touches : s.Touches tsk later)
    (keeps : ∀ (sk : TcpSock) (state : TcpState) (refCnt : ℤ) (sndNxt : U32),
      field { sk with state := state, refCnt := refCnt, sndNxt := sndNxt } = field sk)
    (other : SockPtr) : field (later.sock other) = field (s.sock other) := by
  by_cases same : other = tsk
  · rw [same, touches.own, keeps]
  · rw [touches.others other same]

theorem rcvNxt (touches : s.Touches tsk later) (other : SockPtr) :
    (later.sock other).rcvNxt = (s.sock other).rcvNxt :=
  touches.field TcpSock.rcvNxt (fun _ _ _ _ => rfl) other

theorem parent (touches : s.Touches tsk later) (other : SockPtr) :
    (later.sock other).parent = (s.sock other).parent :=
  touches.field TcpSock.parent (fun _ _ _ _ => rfl) other

end Stack.Touches

/-- A close touches the sock closed only. -/
theorem tcpSockClose_touches {s later : Stack} {tsk : SockPtr}
    (done : tcpSockClose s tsk = .ok later) : s.Touches tsk later := by
  cases state : (s.sock tsk).state <;> simp only [tcpSockClose, state] at done
  case listen =>
    obtain ⟨unhashed, first, done⟩ := Outcome.bind_eq_ok.mp done
    obtain ⟨unbound, second, done⟩ := Outcome.bind_eq_ok.mp done
    cases done
    exact (Stack.Touches.unlink first).trans ((Stack.Touches.unlink second).trans
      ((Stack.Touches.setState _ _ _).trans (.free _ _)))
  case closed =>
    cases done
    exact .refl _ _
  case synRecv | synSent =>
    cases done
    exact (Stack.Touches.setState _ _ _).trans (.free _ _)
  case established =>
    cases done
    exact (Stack.Touches.sendControl _ _ _).trans
      ((Stack.Touches.setState _ _ _).trans (.free _ _))
  case closeWait =>
    cases done
    exact (Stack.Touches.sendControl _ _ _).trans ((Stack.Touches.sendControl _ _ _).trans
      ((Stack.Touches.setState _ _ _).trans (.free _ _)))
  all_goals
    cases done
    exact .free _ _

/-! ## What a close emits -/

/-- Unlinking emits nothing, whether it returns or stops. -/
theorem unlink_out (s : Stack) (tsk : SockPtr) (node : Node) :
    (Outcome.stack (if !s.links.listEmpty node then do
        let s ← s.relink (s.links.listDeleteEntry Node.valid node)
        pure (freeTcpSock s tsk)
      else pure s)).out = s.out := by
  split
  · cases deleted : s.links.listDeleteEntry Node.valid node with
    | ok links =>
        simp only [Stack.relink, bind, Except.bind, pure, Except.pure, Outcome.stack_ok]
        rw [freeTcpSock_out]
    | error fault => rfl
  · rfl

/-- Closing a listener emits nothing. -/
theorem tcpSockClose_listen_out {s : Stack} {tsk : SockPtr}
    (listening : (s.sock tsk).state = .listen) : (tcpSockClose s tsk).stack.out = s.out := by
  have first : (tcpUnhash s tsk).stack.out = s.out := unlink_out s tsk _
  simp only [tcpSockClose, listening]
  cases unhashed : tcpUnhash s tsk with
  | error halt =>
      rw [unhashed] at first
      exact first
  | ok middle =>
      rw [unhashed, Outcome.stack_ok] at first
      have second : (tcpBindUnhash middle tsk).stack.out = middle.out := unlink_out middle tsk _
      simp only [bind, Except.bind]
      cases unbound : tcpBindUnhash middle tsk with
      | error halt =>
          rw [unbound] at second
          exact second.trans first
      | ok later =>
          rw [unbound, Outcome.stack_ok] at second
          simp only [pure, Except.pure, Outcome.stack_ok, freeTcpSock_out, tcpSetState_out]
          exact second.trans first

/-- What a close emits acknowledges what the sock has received. -/
theorem tcpSockClose_out (s : Stack) (tsk : SockPtr) :
    ∃ emitted, (tcpSockClose s tsk).stack.out = s.out ++ emitted ∧
      ∀ sent ∈ emitted, sent.ack = (s.sock tsk).rcvNxt := by
  cases state : (s.sock tsk).state
  case listen => exact ⟨[], by rw [tcpSockClose_listen_out state, List.append_nil], by simp⟩
  case established =>
    refine ⟨[(s.sock tsk).controlSegment tcpFin], ?_, ?_⟩
    · simp [tcpSockClose, state, pure, Except.pure]
    · simp [TcpSock.controlSegment]
  case closeWait =>
    have between : ((tcpSendControlPacket s tsk tcpAck).sock tsk).rcvNxt = (s.sock tsk).rcvNxt :=
      (Stack.Touches.sendControl s tsk tcpAck).rcvNxt tsk
    refine ⟨[(s.sock tsk).controlSegment tcpAck,
      ((tcpSendControlPacket s tsk tcpAck).sock tsk).controlSegment tcpFin], ?_, ?_⟩
    · simp [tcpSockClose, state, pure, Except.pure]
    · simp [TcpSock.controlSegment, between]
  all_goals exact ⟨[], by simp [tcpSockClose, state, pure, Except.pure], by simp⟩

/-! ## The branches of `tcp_process` -/

/-- The stack after the branch for `TCP_SYN_SENT`. -/
def tcpProcessSynSent (s : Stack) (tsk : SockPtr) : Stack :=
  (tcpSendControlPacket (tcpSetState s tsk .established) tsk tcpAck).modify tsk fun sk =>
    { sk with waitConnect := wakeUp sk.waitConnect }

theorem tcpProcessSynSent_out (s : Stack) (tsk : SockPtr) : (tcpProcessSynSent s tsk).out =
    s.out ++ [((tcpSetState s tsk .established).sock tsk).controlSegment tcpAck] := by
  simp [tcpProcessSynSent]

/-- The stack after the branch for `TCP_SYN_RECV`, from the one where the sock
was queued. -/
def tcpProcessSynRecv (s : Stack) (tsk : SockPtr) : Stack :=
  (tcpSetState s tsk .established).modify ((tcpSetState s tsk .established).sock tsk).parent
    fun sk => { sk with waitAccept := wakeUp sk.waitAccept }

theorem tcpProcessSynRecv_field {β : Type} (field : TcpSock → β)
    (keeps : ∀ (sk : TcpSock) (wait : SynchWait), field { sk with waitAccept := wait } = field sk)
    (s : Stack) (tsk other : SockPtr) : field ((tcpProcessSynRecv s tsk).sock other) =
      field ((tcpSetState s tsk .established).sock other) :=
  Stack.modify_field field _ _ (fun sk => keeps sk _) other

/-- The ways in which `tcp_process` returns. -/
inductive ProcessStep (s : Stack) (tsk : SockPtr) (cb : TcpCb) (tmp : SockPtr) : Stack → Prop where
  | dropped : isTcpSeqValid (s.sock tsk) cb = false → ProcessStep s tsk cb tmp s
  | rst {later : Stack} : isTcpSeqValid (s.sock tsk) cb = true → cb.flags = tcpRst →
      tcpSockClose (tcpSendControlPacket s tsk tcpAck) tsk = .ok later →
        ProcessStep s tsk cb tmp later
  | fin {later : Stack} : isTcpSeqValid (s.sock tsk) cb = true → cb.flags = tcpFin →
      tcpSockClose s tsk = .ok later → ProcessStep s tsk cb tmp later
  | answered : isTcpSeqValid (s.sock tsk) cb = true → cb.flags ≠ tcpRst → cb.flags ≠ tcpFin →
      (s.sock tsk).state = .closed ∨ (s.sock tsk).state = .listen ∧ cb.flags ≠ tcpSyn ∨
        (s.sock tsk).state = .synRecv ∧ cb.flags ≠ tcpAck →
        ProcessStep s tsk cb tmp (tcpSendReset s cb)
  | syn {later : Stack} : isTcpSeqValid (s.sock tsk) cb = true → (s.sock tsk).state = .listen →
      cb.flags = tcpSyn → tcpProcessSyn s tsk cb tmp = .ok later → ProcessStep s tsk cb tmp later
  | ack {queued : Stack} : isTcpSeqValid (s.sock tsk) cb = true → (s.sock tsk).state = .synRecv →
      cb.flags = tcpAck → tcpSockAcceptEnqueue s tsk = .ok queued →
        ProcessStep s tsk cb tmp (tcpProcessSynRecv queued tsk)
  | synSent : isTcpSeqValid (s.sock tsk) cb = true → cb.flags ≠ tcpRst → cb.flags ≠ tcpFin →
      (s.sock tsk).state = .synSent → ProcessStep s tsk cb tmp (tcpProcessSynSent s tsk)
  | ignored : isTcpSeqValid (s.sock tsk) cb = true → cb.flags ≠ tcpRst → cb.flags ≠ tcpFin →
      (s.sock tsk).state ≠ .closed → (s.sock tsk).state ≠ .listen →
      (s.sock tsk).state ≠ .synRecv → (s.sock tsk).state ≠ .synSent → ProcessStep s tsk cb tmp s

section Branches

variable {s : Stack} {tsk : SockPtr} {cb : TcpCb} {tmp : SockPtr} (notNull : tsk ≠ 0)
include notNull

theorem tcpProcess_dropped (dropped : isTcpSeqValid (s.sock tsk) cb = false) :
    tcpProcess s tsk cb tmp = .ok s := by
  simp [tcpProcess, notNull, dropped, pure, Except.pure]

variable (accepted : isTcpSeqValid (s.sock tsk) cb = true)
include accepted

theorem tcpProcess_rst (flags : cb.flags = tcpRst) :
    tcpProcess s tsk cb tmp = tcpSockClose (tcpSendControlPacket s tsk tcpAck) tsk := by
  simp [tcpProcess, notNull, accepted, flags]

theorem tcpProcess_fin (flags : cb.flags = tcpFin) :
    tcpProcess s tsk cb tmp = tcpSockClose s tsk := by
  have different : tcpFin ≠ tcpRst := by decide
  simp [tcpProcess, notNull, accepted, flags, different]

variable (notRst : cb.flags ≠ tcpRst) (notFin : cb.flags ≠ tcpFin)
include notRst notFin

theorem tcpProcess_syn (listening : (s.sock tsk).state = .listen) (isSyn : cb.flags = tcpSyn) :
    tcpProcess s tsk cb tmp = tcpProcessSyn s tsk cb tmp := by
  simp only [tcpProcess, notNull, accepted, notRst, notFin, listening, if_pos isSyn, if_false,
    Bool.not_true, Bool.false_eq_true]

theorem tcpProcess_ack (opening : (s.sock tsk).state = .synRecv) (isAck : cb.flags = tcpAck) :
    tcpProcess s tsk cb tmp =
      (tcpSockAcceptEnqueue s tsk >>= fun queued => .ok (tcpProcessSynRecv queued tsk)) := by
  simp only [tcpProcess, notNull, accepted, notRst, notFin, opening, if_pos isAck, if_false,
    Bool.not_true, Bool.false_eq_true]
  rfl

/-- Whatever the flags, the condition of this branch is true: the acknowledgement
bit is or-ed to the result of a comparison. -/
theorem tcpProcess_synSent (state : (s.sock tsk).state = .synSent) :
    tcpProcess s tsk cb tmp = .ok (tcpProcessSynSent s tsk) := by
  have holds : (if cb.flags = tcpSyn then (1 : U8) else 0) ||| tcpAck ≠ 0 := by
    split <;> decide
  simp only [tcpProcess, notNull, accepted, notRst, notFin, state, if_pos holds, if_false,
    Bool.not_true, Bool.false_eq_true, tcpProcessSynSent, pure, Except.pure]

theorem tcpProcess_answered
    (answered : (s.sock tsk).state = .closed ∨ (s.sock tsk).state = .listen ∧ cb.flags ≠ tcpSyn ∨
      (s.sock tsk).state = .synRecv ∧ cb.flags ≠ tcpAck) :
    tcpProcess s tsk cb tmp = .ok (tcpSendReset s cb) := by
  rcases answered with state | ⟨state, flags⟩ | ⟨state, flags⟩
  · simp [tcpProcess, notNull, accepted, notRst, notFin, state, pure, Except.pure]
  · simp [tcpProcess, notNull, accepted, notRst, notFin, state, flags, pure, Except.pure]
  · simp [tcpProcess, notNull, accepted, notRst, notFin, state, flags, pure, Except.pure]

theorem tcpProcess_ignored (notClosed : (s.sock tsk).state ≠ .closed)
    (notListen : (s.sock tsk).state ≠ .listen) (notSynRecv : (s.sock tsk).state ≠ .synRecv)
    (notSynSent : (s.sock tsk).state ≠ .synSent) : tcpProcess s tsk cb tmp = .ok s := by
  cases state : (s.sock tsk).state <;>
    simp_all [tcpProcess, pure, Except.pure]

end Branches

/-- What a call of `tcp_process` comes to is decided branch by branch, whether it
returns or stops. -/
theorem tcpProcess_cases {s : Stack} {tsk : SockPtr} {cb : TcpCb} {tmp : SockPtr}
    {motive : Outcome Stack → Prop} (notNull : tsk ≠ 0)
    (dropped : isTcpSeqValid (s.sock tsk) cb = false → motive (.ok s))
    (rst : isTcpSeqValid (s.sock tsk) cb = true → cb.flags = tcpRst →
      motive (tcpSockClose (tcpSendControlPacket s tsk tcpAck) tsk))
    (fin : isTcpSeqValid (s.sock tsk) cb = true → cb.flags = tcpFin →
      motive (tcpSockClose s tsk))
    (answered : isTcpSeqValid (s.sock tsk) cb = true → cb.flags ≠ tcpRst → cb.flags ≠ tcpFin →
      (s.sock tsk).state = .closed ∨ (s.sock tsk).state = .listen ∧ cb.flags ≠ tcpSyn ∨
        (s.sock tsk).state = .synRecv ∧ cb.flags ≠ tcpAck → motive (.ok (tcpSendReset s cb)))
    (syn : isTcpSeqValid (s.sock tsk) cb = true → (s.sock tsk).state = .listen →
      cb.flags = tcpSyn → motive (tcpProcessSyn s tsk cb tmp))
    (ack : isTcpSeqValid (s.sock tsk) cb = true → (s.sock tsk).state = .synRecv →
      cb.flags = tcpAck →
        motive (tcpSockAcceptEnqueue s tsk >>= fun queued => .ok (tcpProcessSynRecv queued tsk)))
    (synSent : isTcpSeqValid (s.sock tsk) cb = true → cb.flags ≠ tcpRst → cb.flags ≠ tcpFin →
      (s.sock tsk).state = .synSent → motive (.ok (tcpProcessSynSent s tsk)))
    (ignored : isTcpSeqValid (s.sock tsk) cb = true → cb.flags ≠ tcpRst → cb.flags ≠ tcpFin →
      (s.sock tsk).state ≠ .closed → (s.sock tsk).state ≠ .listen →
      (s.sock tsk).state ≠ .synRecv → (s.sock tsk).state ≠ .synSent → motive (.ok s)) :
    motive (tcpProcess s tsk cb tmp) := by
  cases accepted : isTcpSeqValid (s.sock tsk) cb with
  | false =>
      rw [tcpProcess_dropped notNull accepted]
      exact dropped accepted
  | true =>
      by_cases isRst : cb.flags = tcpRst
      · rw [tcpProcess_rst notNull accepted isRst]
        exact rst accepted isRst
      by_cases isFin : cb.flags = tcpFin
      · rw [tcpProcess_fin notNull accepted isFin]
        exact fin accepted isFin
      have answers := @tcpProcess_answered s tsk cb tmp notNull accepted isRst isFin
      cases state : (s.sock tsk).state
      case closed =>
        rw [answers (.inl state)]
        exact answered accepted isRst isFin (.inl state)
      case listen =>
        by_cases isSyn : cb.flags = tcpSyn
        · rw [tcpProcess_syn notNull accepted isRst isFin state isSyn]
          exact syn accepted state isSyn
        · rw [answers (.inr (.inl ⟨state, isSyn⟩))]
          exact answered accepted isRst isFin (.inr (.inl ⟨state, isSyn⟩))
      case synRecv =>
        by_cases isAck : cb.flags = tcpAck
        · rw [tcpProcess_ack notNull accepted isRst isFin state isAck]
          exact ack accepted state isAck
        · rw [answers (.inr (.inr ⟨state, isAck⟩))]
          exact answered accepted isRst isFin (.inr (.inr ⟨state, isAck⟩))
      case synSent =>
        rw [tcpProcess_synSent notNull accepted isRst isFin state]
        exact synSent accepted isRst isFin state
      all_goals
        rw [tcpProcess_ignored notNull accepted isRst isFin (by simp [state]) (by simp [state])
          (by simp [state]) (by simp [state])]
        exact ignored accepted isRst isFin (by simp [state]) (by simp [state]) (by simp [state])
          (by simp [state])

/-- **Every return of `tcp_process` is through one of its branches.** -/
theorem tcpProcess_step {s later : Stack} {tsk : SockPtr} {cb : TcpCb} {tmp : SockPtr}
    (done : tcpProcess s tsk cb tmp = .ok later) : tsk ≠ 0 ∧ ProcessStep s tsk cb tmp later := by
  have notNull : tsk ≠ 0 := by
    rintro rfl
    simp [tcpProcess] at done
  refine ⟨notNull, ?_⟩
  revert done
  refine tcpProcess_cases (motive := fun result => result = .ok later →
    ProcessStep s tsk cb tmp later) notNull ?_ ?_ ?_ ?_ ?_ ?_ ?_ ?_
  · rintro accepted ⟨⟩
    exact .dropped accepted
  · exact fun accepted isRst done => .rst accepted isRst done
  · exact fun accepted isFin done => .fin accepted isFin done
  · rintro accepted notRst notFin state ⟨⟩
    exact .answered accepted notRst notFin state
  · exact fun accepted state isSyn done => .syn accepted state isSyn done
  · intro accepted state isAck done
    obtain ⟨queued, enqueued, done⟩ := Outcome.bind_eq_ok.mp done
    cases done
    exact .ack accepted state isAck enqueued
  · rintro accepted notRst notFin state ⟨⟩
    exact .synSent accepted notRst notFin state
  · rintro accepted notRst notFin notClosed notListen notSynRecv notSynSent ⟨⟩
    exact .ignored accepted notRst notFin notClosed notListen notSynRecv notSynSent

/-! ## The reception of a packet -/

/-- A packet with a matching checksum goes to the sock looked up. -/
theorem handleTcpPacket_routed {s : Stack} {packet : Memory U8} {ip tcp : ℕ} {tsk : SockPtr}
    (matching : checksumMatches packet ip tcp = true)
    (found : tcpSockLookup s (tcpCbInit packet ip tcp) = .ok tsk) (tmp : SockPtr) :
    handleTcpPacket s packet ip tcp tmp = tcpProcess s tsk (tcpCbInit packet ip tcp) tmp := by
  simp only [handleTcpPacket, matching, found, Stack.stopOn, bind, Except.bind, Bool.not_true,
    Bool.false_eq_true, if_false]

/-- A packet that carries a segment hands the segment to the sock looked up. -/
theorem Delivers.handle {packet : Memory U8} {sent : Segment} (delivers : Delivers packet sent)
    {s : Stack} {tsk : SockPtr} (found : tcpSockLookup s sent.received = .ok tsk) (tmp : SockPtr) :
    handleTcpPacket s packet packetToIpHdr tcpPlace tmp = tcpProcess s tsk sent.received tmp := by
  rw [← delivers.received] at found ⊢
  exact handleTcpPacket_routed delivers.matching found tmp

end TcpStack
