import TcpStack.Sock.Calls
import TcpStack.Sock.ActiveOpen

/-!
# Acknowledgement numbers

What a sock should expect next from its peer, and what it acknowledges. The
peer's SYN, and after it every SYN or FIN that is next in order, moves the
expected number to the end of the segment. `tcp_process` accepts these segments
and never moves `rcv_nxt`. So the number acknowledged is the number expected as
long as every such segment ends at the `rcv_nxt` the sock has from the start,
and no longer (`PeerRun.acknowledges`).
-/

set_option autoImplicit false

namespace TcpStack

open Lib

/-! ## What the peer has sent -/

/-- The segment uses up the sequence number that is next in order: it is the
peer's SYN, or a SYN or FIN that starts where the last one ended. -/
def TcpCb.advances (cb : TcpCb) : Option U32 → Bool
  | none => cb.flags &&& tcpSyn ≠ 0
  | some next => cb.flags &&& (tcpSyn ||| tcpFin) ≠ 0 && cb.seq == next

/-- The end of the last segment in order, after one more segment. -/
def expectedAfter (sk : TcpSock) (expected : Option U32) (cb : TcpCb) : Option U32 :=
  if isTcpSeqValid sk cb && cb.advances expected then some cb.seqEnd else expected

/-- The runs of one sock through `tcp_process`, from `tcp_sock_connect` or from a
passive open. Beside the stack stand the end of the last segment accepted in
order from the peer, once its SYN was accepted, and the segments emitted in the
last step. The segments that advance are the ones allowed, for the `rcv_nxt` of
the sock and the segment. -/
inductive PeerRun (allowed : U32 → TcpCb → Prop) (tsk : SockPtr) :
    Stack → Option U32 → List Segment → Prop where
  | connect {s later : Stack} {skaddr : SockAddr} {cursorIp : U32} {result : Option ℤ}
      {emitted : List Segment} :
      tcpSockConnect s tsk skaddr cursorIp = .ok (result, later) → later.out = s.out ++ emitted →
        PeerRun allowed tsk later none emitted
  | passive {s later : Stack} {listener : SockPtr} {cb : TcpCb} {emitted : List Segment} :
      (s.sock listener).state = .listen → isTcpSeqValid (s.sock listener) cb = true →
      cb.flags = tcpSyn → tcpProcess s listener cb tsk = .ok later →
      later.out = s.out ++ emitted → allowed zeroedSock.rcvNxt cb →
        PeerRun allowed tsk later (some cb.seqEnd) emitted
  | segment {s later : Stack} {expected : Option U32} {earlier emitted : List Segment} {cb : TcpCb}
      {tmp : SockPtr} :
      PeerRun allowed tsk s expected earlier → tcpProcess s tsk cb tmp = .ok later →
      later.out = s.out ++ emitted →
      (isTcpSeqValid (s.sock tsk) cb = true → cb.advances expected = true →
        allowed (s.sock tsk).rcvNxt cb) →
        PeerRun allowed tsk later (expectedAfter (s.sock tsk) expected cb) emitted

/-- Once the peer's SYN was accepted, the sock and the control packets it emits
acknowledge the last segment accepted in order. -/
def Acknowledges (sk : TcpSock) (expected : Option U32) (emitted : List Segment) : Prop :=
  ∀ next, expected = some next →
    sk.rcvNxt = next ∧ ∀ sent ∈ emitted, sent.flags &&& tcpRst = 0 → sent.ack = next

/-! ## What the sock acknowledges -/

/-- A step of a sock that does not listen keeps its `rcv_nxt`, and what it emits
acknowledges that. -/
theorem ProcessStep.acknowledges {s later : Stack} {tsk : SockPtr} {cb : TcpCb} {tmp : SockPtr}
    (step : ProcessStep s tsk cb tmp later) (notListen : (s.sock tsk).state ≠ .listen) :
    (later.sock tsk).state ≠ .listen ∧ (later.sock tsk).rcvNxt = (s.sock tsk).rcvNxt ∧
      ∃ emitted, later.out = s.out ++ emitted ∧
        ∀ sent ∈ emitted, sent.flags &&& tcpRst = 0 → sent.ack = (s.sock tsk).rcvNxt := by
  cases step with
  | dropped => exact ⟨notListen, rfl, [], by simp, by simp⟩
  | ignored => exact ⟨notListen, rfl, [], by simp, by simp⟩
  | answered =>
      refine ⟨notListen, rfl, [cb.resetSegment], rfl, ?_⟩
      intro sent member noRst
      rw [List.mem_singleton.mp member] at noRst
      exact absurd noRst (by simp [TcpCb.resetSegment]; decide)
  | rst _ _ done =>
      have before := Stack.Touches.sendControl s tsk tcpAck
      obtain ⟨emitted, out, acks⟩ := tcpSockClose_out (tcpSendControlPacket s tsk tcpAck) tsk
      rw [done, Outcome.stack_ok, tcpSendControlPacket_out] at out
      refine ⟨?_, ?_, (s.sock tsk).controlSegment tcpAck :: emitted, by simp [out], ?_⟩
      · rw [tcpSockClose_state done]
        exact TcpState.afterClose_ne_listen _
      · rw [(tcpSockClose_touches done).rcvNxt, before.rcvNxt]
      · intro sent member _
        rcases List.mem_cons.mp member with rfl | member
        · rfl
        · rw [acks sent member, before.rcvNxt]
  | fin _ _ done =>
      obtain ⟨emitted, out, acks⟩ := tcpSockClose_out s tsk
      rw [done, Outcome.stack_ok] at out
      refine ⟨?_, (tcpSockClose_touches done).rcvNxt tsk, emitted, out,
        fun sent member _ => acks sent member⟩
      rw [tcpSockClose_state done]
      exact TcpState.afterClose_ne_listen _
  | syn _ state => exact absurd state notListen
  | ack _ state _ enqueued =>
      refine ⟨?_, ?_, [], ?_, by simp⟩
      · rw [tcpProcessSynRecv_field TcpSock.state (fun _ _ => rfl), tcpSetState_sock, if_pos rfl]
        simp
      · rw [tcpProcessSynRecv_field TcpSock.rcvNxt (fun _ _ => rfl), tcpSetState_sock, if_pos rfl]
        exact tcpSockAcceptEnqueue_field TcpSock.rcvNxt enqueued (fun _ _ => rfl) tsk
      · simp [tcpProcessSynRecv, tcpSockAcceptEnqueue_out enqueued]
  | synSent =>
      have state := (tcpProcessSynSent_sock s tsk).1
      refine ⟨by simp [state], ?_,
        [((tcpSetState s tsk .established).sock tsk).controlSegment tcpAck],
        ?_, ?_⟩
      · simp only [tcpProcessSynSent, Stack.modify_sock_self, tcpSendControlPacket_sock, if_pos,
          tcpSetState_sock]
      · simp [tcpProcessSynSent]
      · simp [TcpSock.controlSegment, tcpSetState_sock]

/-- An active open leaves the sock waiting for an answer. -/
theorem tcpSockConnect_state {s later : Stack} {tsk : SockPtr} {skaddr : SockAddr}
    {cursorIp : U32} {result : Option ℤ}
    (done : tcpSockConnect s tsk skaddr cursorIp = .ok (result, later)) :
    (later.sock tsk).state = .synSent := by
  obtain ⟨port, _, done⟩ := Outcome.bind_eq_ok.mp done
  obtain ⟨bound, _, done⟩ := Outcome.bind_eq_ok.mp done
  obtain ⟨⟨_, hashed⟩, hashing, done⟩ := Outcome.bind_eq_ok.mp done
  cases done
  rw [Stack.modify_sock_self, tcpHash_field TcpSock.state hashing (fun _ _ => rfl),
    tcpSetState_sock, if_pos rfl]

/-- A passive open makes a sock that has received nothing, and answers with it. -/
theorem tcpProcessSyn_acknowledges {s later : Stack} {tsk tmp : SockPtr} {cb : TcpCb}
    (done : tcpProcessSyn s tsk cb tmp = .ok later) :
    (later.sock tmp).state = .synRecv ∧ (later.sock tmp).rcvNxt = zeroedSock.rcvNxt ∧
      ∃ sent, later.out = s.out ++ [sent] ∧ sent.ack = zeroedSock.rcvNxt := by
  obtain ⟨links, result, hashing⟩ := tcpProcessSyn_ok done
  refine ⟨?_, ?_, (synSock tsk cb).controlSegment (tcpSyn ||| tcpAck), ?_, rfl⟩
  · rw [tcpHash_field TcpSock.state hashing (fun _ _ => rfl), answeredSyn, tcpSetState_sock,
      if_pos rfl]
  · rw [tcpHash_field TcpSock.rcvNxt hashing (fun _ _ => rfl), answeredSyn, tcpSetState_sock,
      if_pos rfl, tcpSendControlPacket_sock, if_pos rfl, madeForSyn, Stack.modify_sock_self]
    rfl
  · rw [tcpHash_out hashing, answeredSyn, tcpSetState_out, tcpSendControlPacket_out]
    simp [madeForSyn, allocTcpSock]

/-! ## Runs -/

/-- The step taken when a SYN reaches a listener. -/
theorem ProcessStep.syn_of_listen {s later : Stack} {tsk : SockPtr} {cb : TcpCb} {tmp : SockPtr}
    (step : ProcessStep s tsk cb tmp later) (listening : (s.sock tsk).state = .listen)
    (accepted : isTcpSeqValid (s.sock tsk) cb = true) (flags : cb.flags = tcpSyn) :
    tcpProcessSyn s tsk cb tmp = .ok later := by
  cases step with
  | syn _ _ _ done => exact done
  | dropped dropped => simp [accepted] at dropped
  | rst _ isRst => exact absurd (flags.symm.trans isRst) (by decide)
  | fin _ isFin => exact absurd (flags.symm.trans isFin) (by decide)
  | answered _ _ _ answered => simp [listening, flags] at answered
  | ack _ state => simp [listening] at state
  | synSent _ _ _ state => simp [listening] at state
  | ignored _ _ _ _ notListen => exact absurd listening notListen

/-- A sock does not come to listen along a run. -/
theorem PeerRun.not_listen {allowed : U32 → TcpCb → Prop} {tsk : SockPtr} {s : Stack}
    {expected : Option U32} {emitted : List Segment}
    (run : PeerRun allowed tsk s expected emitted) : (s.sock tsk).state ≠ .listen := by
  induction run with
  | connect opened _ => simp [tcpSockConnect_state opened]
  | passive listening accepted flags processed _ _ =>
      have done := (tcpProcess_step processed).2.syn_of_listen listening accepted flags
      simp [(tcpProcessSyn_acknowledges done).1]
  | segment _ processed _ _ ih => exact ((tcpProcess_step processed).2.acknowledges ih).1

/-- Along a run whose advancing segments end at `rcv_nxt`, the sock acknowledges
what it accepted. -/
theorem PeerRun.acknowledges_of_ends {tsk : SockPtr} {s : Stack} {expected : Option U32}
    {emitted : List Segment}
    (run : PeerRun (fun rcvNxt cb => cb.seqEnd = rcvNxt) tsk s expected emitted) :
    Acknowledges (s.sock tsk) expected emitted := by
  induction run with
  | connect _ _ =>
      intro next none
      cases none
  | passive listening accepted flags processed out ends =>
      have done := (tcpProcess_step processed).2.syn_of_listen listening accepted flags
      obtain ⟨_, rcvNxt, sent, outSent, ack⟩ := tcpProcessSyn_acknowledges done
      intro next same
      cases same
      refine ⟨rcvNxt.trans ends.symm, ?_⟩
      intro other member _
      rw [List.append_cancel_left (out.symm.trans outSent)] at member
      rw [List.mem_singleton.mp member, ack]
      exact ends.symm
  | @segment s later expected earlier emitted cb tmp run processed out ends ih =>
      obtain ⟨_, rcvNxt, sent, outSent, acks⟩ :=
        (tcpProcess_step processed).2.acknowledges run.not_listen
      rw [List.append_cancel_left (outSent.symm.trans out)] at acks
      have agrees : ∀ next, expectedAfter (s.sock tsk) expected cb = some next →
          (s.sock tsk).rcvNxt = next := by
        intro next same
        unfold expectedAfter at same
        split at same
        · next advanced =>
            rw [Bool.and_eq_true] at advanced
            cases same
            exact (ends advanced.1 advanced.2).symm
        · exact (ih next same).1
      intro next same
      refine ⟨rcvNxt.trans (agrees next same), ?_⟩
      intro other member noRst
      rw [acks other member noRst, agrees next same]

/-- **When the acknowledgement numbers track what was received**: as long as
every segment that advances ends at the `rcv_nxt` the sock holds already. The
first one that ends elsewhere, be it the SYN that opens the sock passively or a
segment the sock accepts later, is not acknowledged. -/
theorem PeerRun.acknowledges_exactly (tsk : SockPtr) :
    (∀ (s : Stack) (expected : Option U32) (emitted : List Segment),
      PeerRun (fun rcvNxt cb => cb.seqEnd = rcvNxt) tsk s expected emitted →
        Acknowledges (s.sock tsk) expected emitted) ∧
    (∀ (s later : Stack) (listener : SockPtr) (cb : TcpCb) (emitted : List Segment),
      (s.sock listener).state = .listen → isTcpSeqValid (s.sock listener) cb = true →
      cb.flags = tcpSyn → tcpProcess s listener cb tsk = .ok later →
      cb.seqEnd ≠ zeroedSock.rcvNxt → ¬ Acknowledges (later.sock tsk) (some cb.seqEnd) emitted) ∧
    (∀ (s later : Stack) (expected : Option U32) (earlier emitted : List Segment) (cb : TcpCb)
      (tmp : SockPtr), PeerRun (fun _ _ => True) tsk s expected earlier →
      tcpProcess s tsk cb tmp = .ok later → isTcpSeqValid (s.sock tsk) cb = true →
      cb.advances expected = true → cb.seqEnd ≠ (s.sock tsk).rcvNxt →
        ¬ Acknowledges (later.sock tsk) (expectedAfter (s.sock tsk) expected cb) emitted) := by
  refine ⟨fun s expected emitted run => run.acknowledges_of_ends, ?_, ?_⟩
  · intro s later listener cb emitted listening accepted flags processed elsewhere acknowledges
    have done := (tcpProcess_step processed).2.syn_of_listen listening accepted flags
    exact elsewhere ((acknowledges _ rfl).1.symm.trans (tcpProcessSyn_acknowledges done).2.1)
  · intro s later expected earlier emitted cb tmp run processed accepted advances elsewhere
      acknowledges
    have kept := ((tcpProcess_step processed).2.acknowledges run.not_listen).2.1
    have next : expectedAfter (s.sock tsk) expected cb = some cb.seqEnd := by
      simp [expectedAfter, accepted, advances]
    exact elsewhere ((acknowledges _ next).1.symm.trans kept)

/-- The stack after an active open to port 80 of host 2. -/
def connectingStack : Stack :=
  match tcpSockConnect (allocTcpSock initTcpStack 1) 1 ⟨htonl 2, htons 80⟩ 1 with
  | .ok (_, later) => later
  | .error halt => halt.stack

theorem connectingStack_run (allowed : U32 → TcpCb → Prop) :
    PeerRun allowed 1 connectingStack none connectingStack.out := by
  have opened : tcpSockConnect (allocTcpSock initTcpStack 1) 1 ⟨htonl 2, htons 80⟩ 1 =
    .ok (none, connectingStack) := rfl
  exact .connect opened rfl

/-- The stack after a SYN+ACK; its sequence number leaves no trace. -/
def connectedStack : Stack := tcpProcessSynSent connectingStack 1

theorem connectingStack_answered {seq : U32} (accepted : isTcpSeqValid (connectingStack.sock 1)
    (segmentWith (tcpSyn ||| tcpAck) seq) = true) :
    tcpProcess connectingStack 1 (segmentWith (tcpSyn ||| tcpAck) seq) 2 = .ok connectedStack := by
  have notRst : tcpSyn ||| tcpAck ≠ tcpRst := by decide
  have notFin : tcpSyn ||| tcpAck ≠ tcpFin := by decide
  exact tcpProcess_synSent (by decide) accepted notRst notFin (by decide)

/-- A peer that starts at `2^32 - 1` is acknowledged. -/
theorem PeerRun.acknowledges_last_sequence_number :
    Acknowledges (connectedStack.sock 1) (some 0)
      [((tcpSetState connectingStack 1 .established).sock 1).controlSegment tcpAck] := by
  have processed : tcpProcess connectingStack 1 (segmentWith (tcpSyn ||| tcpAck) (-1)) 2 =
      .ok connectedStack := connectingStack_answered rfl
  exact (PeerRun.acknowledges_exactly 1).1 connectedStack (some 0) _
    (.segment (connectingStack_run _) processed (tcpProcessSynSent_out _ _) fun _ _ => by decide)

/-- **A peer that starts elsewhere is not acknowledged**: the ACK that completes
the open acknowledges 0, whatever the SYN+ACK was. -/
theorem PeerRun.acknowledges_zero :
    ∃ emitted, PeerRun (fun _ _ => True) 1 connectedStack (some 101) emitted ∧
      (∃ sent ∈ emitted, sent.flags = tcpAck ∧ sent.ack = 0) ∧
      ¬ Acknowledges (connectedStack.sock 1) (some 101) emitted := by
  have processed : tcpProcess connectingStack 1 (segmentWith (tcpSyn ||| tcpAck) 100) 2 =
      .ok connectedStack := connectingStack_answered rfl
  refine ⟨[((tcpSetState connectingStack 1 .established).sock 1).controlSegment tcpAck],
    .segment (connectingStack_run _) processed (tcpProcessSynSent_out _ _) fun _ _ => trivial,
    ?_, ?_⟩
  · exact ⟨_, List.mem_singleton.mpr rfl, rfl, rfl⟩
  · intro acknowledges
    have rcvNxt := (acknowledges 101 rfl).1
    revert rcvNxt
    decide

end TcpStack
