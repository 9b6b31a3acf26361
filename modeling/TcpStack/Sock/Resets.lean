import TcpStack.Sock.ActiveOpen
import TcpStack.Packet.RoundTrip
import TcpStack.Sock.Tables

/-!
# Resets

What the stack does with resets, its own included. `tcp_send_reset` sets RST and
ACK, while `tcp_process` takes a segment for a reset only when RST is its one
flag. So a reset of this stack aborts no connection of this stack
(`reset_not_recognised`), and a segment with RST set is answered in every state
that answers anything (`rst_unanswered_iff`). Two socks that were closed answer
each other's resets forever (`resets_without_end`).
-/

set_option autoImplicit false

namespace TcpStack

open Lib

/-! ## The resets of this stack -/

/-- Processing a segment aborts the connection. -/
def Aborts (s : Stack) (tsk : SockPtr) (cb : TcpCb) (tmp : SockPtr) : Prop :=
  ∃ later, tcpProcess s tsk cb tmp = .ok later ∧ (later.sock tsk).state = .closed

/-- What the receiver decodes from the reset built for a segment. -/
def decodedReset (ipInitHdr : IpInitHdr) (cb : TcpCb) (buffer : Memory U8) : TcpCb :=
  let packet := tcpSendResetFrame ipInitHdr cb buffer
  tcpCbInit packet packetToIpHdr (ipData packet packetToIpHdr)

theorem decodedReset_eq {ipInitHdr : IpInitHdr} (fills : ipInitHdr.Fills) (cb : TcpCb)
    (buffer : Memory U8) : decodedReset ipInitHdr cb buffer = cb.resetSegment.received := by
  have delivers := tcpSendResetFrame_delivers fills cb buffer
  rw [decodedReset, delivers.place, delivers.received]

/-- What one of its own resets does to a sock: it establishes a sock in
`TCP_SYN_SENT`, and leaves the others in their state. -/
theorem tcpProcess_reset {s : Stack} {tsk : SockPtr} (notNull : tsk ≠ 0)
    {cb : TcpCb} (tmp : SockPtr) (flags : cb.flags = tcpRst ||| tcpAck)
    (connected : (s.sock tsk).state = .synSent ∨ (s.sock tsk).state = .synRecv ∨
      (s.sock tsk).state = .established ∨ (s.sock tsk).state = .finWait1)
    (accepted : isTcpSeqValid (s.sock tsk) cb = true) :
    ∃ later, tcpProcess s tsk cb tmp = .ok later ∧
      (later.sock tsk).state =
        if (s.sock tsk).state = .synSent then .established else (s.sock tsk).state := by
  have notRst : cb.flags ≠ tcpRst := by
    rw [flags]
    decide
  have notFin : cb.flags ≠ tcpFin := by
    rw [flags]
    decide
  have notAck : cb.flags ≠ tcpAck := by
    rw [flags]
    decide
  rcases connected with state | state | state | state
  · refine ⟨_, tcpProcess_synSent notNull accepted notRst notFin state, ?_⟩
    rw [(tcpProcessSynSent_sock s tsk).1, if_pos state]
  · refine ⟨_, tcpProcess_answered notNull accepted notRst notFin
      (.inr (.inr ⟨state, notAck⟩)), ?_⟩
    simp [tcpSendReset, state]
  · exact ⟨s, tcpProcess_ignored notNull accepted notRst notFin (by simp [state])
      (by simp [state]) (by simp [state]) (by simp [state]), by simp [state]⟩
  · exact ⟨s, tcpProcess_ignored notNull accepted notRst notFin (by simp [state])
      (by simp [state]) (by simp [state]) (by simp [state]), by simp [state]⟩

/-- **The stack does not recognise its own resets**: no reset it builds aborts a
connection that accepts it. -/
theorem reset_not_recognised (ipInitHdr : IpInitHdr) (fills : ipInitHdr.Fills) (cb : TcpCb)
    (buffer : Memory U8) (s : Stack) (tsk tmp : SockPtr) (notNull : tsk ≠ 0)
    (connected : (s.sock tsk).state = .synSent ∨ (s.sock tsk).state = .synRecv ∨
      (s.sock tsk).state = .established ∨ (s.sock tsk).state = .finWait1)
    (accepted : isTcpSeqValid (s.sock tsk) (decodedReset ipInitHdr cb buffer) = true) :
    ¬ Aborts s tsk (decodedReset ipInitHdr cb buffer) tmp := by
  have flags : (decodedReset ipInitHdr cb buffer).flags = tcpRst ||| tcpAck := by
    rw [decodedReset_eq fills]
    rfl
  obtain ⟨later, processed, state⟩ := tcpProcess_reset notNull tmp flags connected accepted
  rintro ⟨other, aborted, closed⟩
  rw [processed] at aborted
  cases aborted
  rw [state] at closed
  split at closed
  · cases closed
  · rcases connected with open_ | open_ | open_ | open_ <;> rw [open_] at closed <;> cases closed

/-- An established sock accepts a reset of this stack and is not aborted. -/
theorem reset_not_recognised_established :
    isTcpSeqValid ((stackIn .established).sock 1)
        (decodedReset (ipInitHdrWithId 7) (segmentWith tcpAck 0) fun _ => 0) = true ∧
      ¬ Aborts (stackIn .established) 1
        (decodedReset (ipInitHdrWithId 7) (segmentWith tcpAck 0) fun _ => 0) 2 := by
  have accepted : isTcpSeqValid ((stackIn .established).sock 1)
      (decodedReset (ipInitHdrWithId 7) (segmentWith tcpAck 0) fun _ => 0) = true := by
    rw [decodedReset_eq (ipInitHdrWithId_fills 7)]
    decide
  exact ⟨accepted, reset_not_recognised _ (ipInitHdrWithId_fills 7) _ _ _ _ _ (by decide)
    (.inr (.inr (.inl rfl))) accepted⟩

/-- **A reset of this stack establishes a connection of this stack.** -/
theorem reset_establishes :
    isTcpSeqValid ((stackIn .synSent).sock 1)
        (decodedReset (ipInitHdrWithId 7) (segmentWith tcpAck 0) fun _ => 0) = true ∧
      ∃ later, tcpProcess (stackIn .synSent) 1
          (decodedReset (ipInitHdrWithId 7) (segmentWith tcpAck 0) fun _ => 0) 2 = .ok later ∧
        (later.sock 1).state = .established := by
  rw [decodedReset_eq (ipInitHdrWithId_fills 7)]
  have accepted : isTcpSeqValid ((stackIn .synSent).sock 1)
      (segmentWith tcpAck 0).resetSegment.received = true := by decide
  obtain ⟨later, processed, state⟩ :=
    tcpProcess_reset (by decide) 2 rfl (.inl rfl) accepted
  exact ⟨accepted, later, processed, state⟩

/-! ## Answers to resets -/

/-- The states in which a sock answers segments it does not expect, or takes any
segment for the answer it waits for. -/
def TcpState.answering : TcpState → Bool
  | .closed | .listen | .synRecv | .synSent => true
  | _ => false

/-- A segment was added, so something was emitted. -/
theorem out_ne_of_emitted {out more : List Segment} {sent : Segment} :
    out ++ [sent] ++ more ≠ out := by
  intro same
  have lengths := congrArg List.length same
  simp only [List.length_append, List.length_singleton] at lengths
  omega

/-- An accepted segment with RST set is answered if RST is its one flag or the
sock is in one of the answering states. -/
theorem tcpProcess_rst_out {s : Stack} {tsk : SockPtr} {cb : TcpCb} {tmp : SockPtr}
    (notNull : tsk ≠ 0) (accepted : isTcpSeqValid (s.sock tsk) cb = true)
    (rst : cb.flags &&& tcpRst ≠ 0) :
    (tcpProcess s tsk cb tmp).stack.out = s.out ↔
      cb.flags ≠ tcpRst ∧ (s.sock tsk).state.answering = false := by
  by_cases isRst : cb.flags = tcpRst
  · rw [tcpProcess_rst notNull accepted isRst]
    obtain ⟨emitted, out, _⟩ := tcpSockClose_out (tcpSendControlPacket s tsk tcpAck) tsk
    rw [out, tcpSendControlPacket_out]
    exact ⟨fun same => absurd same out_ne_of_emitted, fun silent => absurd isRst silent.1⟩
  have notFin : cb.flags ≠ tcpFin := by
    intro isFin
    rw [isFin] at rst
    exact rst (by decide)
  have notSyn : cb.flags ≠ tcpSyn := by
    intro isSyn
    rw [isSyn] at rst
    exact rst (by decide)
  have notAck : cb.flags ≠ tcpAck := by
    intro isAck
    rw [isAck] at rst
    exact rst (by decide)
  have answers (answered : (s.sock tsk).state = .closed ∨
      (s.sock tsk).state = .listen ∧ cb.flags ≠ tcpSyn ∨
      (s.sock tsk).state = .synRecv ∧ cb.flags ≠ tcpAck) :
      (tcpProcess s tsk cb tmp).stack.out ≠ s.out := by
    rw [tcpProcess_answered notNull accepted isRst notFin answered]
    simp [tcpSendReset]
  cases state : (s.sock tsk).state
  case closed => simpa [TcpState.answering] using answers (.inl state)
  case listen => simpa [TcpState.answering] using answers (.inr (.inl ⟨state, notSyn⟩))
  case synRecv => simpa [TcpState.answering] using answers (.inr (.inr ⟨state, notAck⟩))
  case synSent =>
    rw [tcpProcess_synSent notNull accepted isRst notFin state]
    simp [TcpState.answering, tcpProcessSynSent]
  all_goals
    rw [tcpProcess_ignored notNull accepted isRst notFin (by simp [state]) (by simp [state])
      (by simp [state]) (by simp [state])]
    simp [TcpState.answering, isRst]

/-- **When a reset is not answered**: when it is dropped, when there is no sock
for it, or when it has other flags set besides RST and its sock is past the
handshake and not closed. -/
theorem rst_unanswered_iff (s : Stack) (packet : Memory U8) (ip tcp : ℕ) (tmp : SockPtr)
    (rst : (tcpCbInit packet ip tcp).flags &&& tcpRst ≠ 0) :
    (handleTcpPacket s packet ip tcp tmp).stack.out = s.out ↔
      (checksumMatches packet ip tcp = true →
        ∀ tsk, tcpSockLookup s (tcpCbInit packet ip tcp) = .ok tsk → tsk ≠ 0 →
          isTcpSeqValid (s.sock tsk) (tcpCbInit packet ip tcp) = true →
          (tcpCbInit packet ip tcp).flags ≠ tcpRst ∧ (s.sock tsk).state.answering = false) := by
  cases matching : checksumMatches packet ip tcp with
  | false => simp [handleTcpPacket, matching, pure, Except.pure]
  | true =>
      cases found : tcpSockLookup s (tcpCbInit packet ip tcp) with
      | error fault =>
          simp [handleTcpPacket, matching, found, Stack.stopOn, bind, Except.bind]
      | ok tsk =>
          rw [handleTcpPacket_routed matching found]
          by_cases null : tsk = 0
          · simp [null, tcpProcess]
          cases accepted : isTcpSeqValid (s.sock tsk) (tcpCbInit packet ip tcp) with
          | false => simp [tcpProcess_dropped null accepted, accepted]
          | true =>
              rw [tcpProcess_rst_out null accepted rst]
              simp [null, accepted]

/-! ## Resets without end -/

/-- The segment goes to a sock that was closed and is in its window. -/
def AnswersClosed (s : Stack) (cb : TcpCb) : Prop :=
  ∃ tsk, tsk ≠ 0 ∧ tcpSockLookup s cb = .ok tsk ∧ (s.sock tsk).state = .closed ∧
    isTcpSeqValid (s.sock tsk) cb = true

/-- Only the addresses, the ports and the sequence numbers decide. -/
theorem AnswersClosed.congr {s : Stack} {cb other : TcpCb} (answers : AnswersClosed s cb)
    (saddr : other.saddr = cb.saddr) (daddr : other.daddr = cb.daddr)
    (sport : other.sport = cb.sport) (dport : other.dport = cb.dport) (seq : other.seq = cb.seq)
    (seqEnd : other.seqEnd = cb.seqEnd) : AnswersClosed s other := by
  obtain ⟨tsk, notNull, found, closed, accepted⟩ := answers
  refine ⟨tsk, notNull, ?_, closed, ?_⟩
  · rw [← found]
    simp only [tcpSockLookup, saddr, daddr, sport, dport]
  · rw [← accepted]
    simp only [isTcpSeqValid, seq, seqEnd]

/-- The call of `handle_tcp_packet` in `handle_ip_packet`. -/
def handleArrival (s : Stack) (packet : Memory U8) (tmp : SockPtr) : Outcome Stack :=
  handleTcpPacket s packet packetToIpHdr (ipData packet packetToIpHdr) tmp

/-- Two hosts exchange resets: the one built from the segment arrives at the
first host and is answered, the answer arrives at the second host, and so on for
the given number of packets. -/
def ExchangeResets (ipInitHdr : IpInitHdr) (buffer : Memory U8) : ℕ → Stack → Stack → TcpCb → Prop
  | 0, _, _, _ => True
  | packets + 1, here, there, cb =>
      ∃ later, handleArrival here (tcpSendResetFrame ipInitHdr cb buffer) 0 = .ok later ∧
        later.out = here.out ++ [(decodedReset ipInitHdr cb buffer).resetSegment] ∧
        ExchangeResets ipInitHdr buffer packets there later (decodedReset ipInitHdr cb buffer)

/-- A closed sock answers a reset with a reset, and is as before. -/
theorem handleArrival_reset {ipInitHdr : IpInitHdr} (fills : ipInitHdr.Fills)
    (buffer : Memory U8) {s : Stack} {cb : TcpCb}
    (answers : AnswersClosed s cb.resetSegment.received) :
    handleArrival s (tcpSendResetFrame ipInitHdr cb buffer) 0 =
      .ok (tcpSendReset s cb.resetSegment.received) := by
  obtain ⟨tsk, notNull, found, closed, accepted⟩ := answers
  have delivers := tcpSendResetFrame_delivers fills cb buffer
  have answered : tcpProcess s tsk cb.resetSegment.received 0 =
      .ok (tcpSendReset s cb.resetSegment.received) :=
    tcpProcess_answered notNull accepted (by simp [Segment.received, TcpCb.resetSegment]; decide)
      (by simp [Segment.received, TcpCb.resetSegment]; decide) (.inl closed)
  rw [handleArrival, delivers.place, delivers.handle found, answered]

/-- **Two socks that were closed answer each other's resets forever.** -/
theorem resets_without_end {ipInitHdr : IpInitHdr} (fills : ipInitHdr.Fills) (buffer : Memory U8)
    (packets : ℕ) {here there : Stack} {cb : TcpCb}
    (first : AnswersClosed here cb.resetSegment.received)
    (second : AnswersClosed there cb.resetSegment.received.resetSegment.received) :
    ExchangeResets ipInitHdr buffer packets here there cb := by
  induction packets generalizing here there cb with
  | zero => trivial
  | succ packets ih =>
      refine ⟨_, handleArrival_reset fills buffer first, ?_, ?_⟩
      · rw [decodedReset_eq fills]
        rfl
      · rw [decodedReset_eq fills]
        refine ih second ?_
        -- the third reset has the ends of the first one
        obtain ⟨tsk, notNull, found, closed, accepted⟩ := first
        have kept : AnswersClosed (tcpSendReset here cb.resetSegment.received)
            cb.resetSegment.received := ⟨tsk, notNull, found, closed, accepted⟩
        exact kept.congr rfl rfl rfl rfl rfl rfl

/-- A stack with one sock of the established table, in the given state. -/
def hashedStackIn (state : TcpState) : Stack :=
  tcpSetState (afterHash (stackIn .synSent) 1) 1 state

/-- The reset of this stack that goes to the sock with the 4-tuple zero. -/
def resetToZero : Memory U8 :=
  tcpSendResetFrame (ipInitHdrWithId 7) (segmentWith tcpAck 0) fun _ => 0

theorem resetToZero_delivers : Delivers resetToZero (segmentWith tcpAck 0).resetSegment :=
  tcpSendResetFrame_delivers (ipInitHdrWithId_fills 7) _ _

/-- An established sock does not answer a reset that has ACK set. -/
theorem rst_unanswered_established :
    (handleArrival (hashedStackIn .established) resetToZero 0).stack.out =
      (hashedStackIn .established).out := by
  refine (rst_unanswered_iff _ _ _ _ _ ?_).mpr ?_
  · rw [resetToZero_delivers.place, resetToZero_delivers.received]
    decide
  · rw [resetToZero_delivers.place, resetToZero_delivers.received]
    intro _ tsk found _ _
    have lookup : tcpSockLookup (hashedStackIn .established)
        (segmentWith tcpAck 0).resetSegment.received = .ok 1 := rfl
    rw [lookup] at found
    cases found
    exact ⟨by decide, rfl⟩

/-- **A reset is answered, and resets are exchanged without end.** -/
theorem rst_answered :
    (tcpCbInit resetToZero packetToIpHdr tcpPlace).flags &&& tcpRst ≠ 0 ∧
      (handleArrival (hashedStackIn .closed) resetToZero 0).stack.out ≠
        (hashedStackIn .closed).out ∧
      ∀ packets, ExchangeResets (ipInitHdrWithId 7) (fun _ => 0) packets (hashedStackIn .closed)
        (hashedStackIn .closed) (segmentWith tcpAck 0) := by
  have answers : AnswersClosed (hashedStackIn .closed)
      (segmentWith tcpAck 0).resetSegment.received := ⟨1, by decide, rfl, rfl, by decide⟩
  have fills := ipInitHdrWithId_fills 7
  refine ⟨?_, ?_, fun packets => resets_without_end fills _ packets answers ?_⟩
  · rw [resetToZero_delivers.received]
    decide
  · rw [resetToZero, handleArrival_reset fills _ answers, Outcome.stack_ok]
    simp [tcpSendReset]
  · exact ⟨1, by decide, rfl, rfl, by decide⟩

end TcpStack
