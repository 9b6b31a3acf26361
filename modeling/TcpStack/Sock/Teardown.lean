import TcpStack.Lib.Trace
import TcpStack.Sock.SynFin

/-!
# Taking a connection down

RFC 793 takes a connection down in both directions: a sock that receives a FIN
goes to `TCP_CLOSE_WAIT`, one that sent its own waits for the acknowledgement and
for the FIN of the peer. `tcp_process` hands a segment whose flags are exactly
FIN to `tcp_sock_close`, as if the application had closed the sock, and after
that looks at the state only up to `TCP_SYN_SENT`.

A segment with a FIN, or with the acknowledgement of the FIN of the sock, leads
to the state that RFC 793 prescribes only where that is the state the sock is
already in. Along a run the prescribed states are reached exactly as long as no
segment is of another kind (`teardown_follows_iff`); the moves themselves are
along edges of the diagram in any case, but for the wrong reasons.
-/

set_option autoImplicit false

namespace TcpStack

open Lib

/-! ## RFC 793 -/

/-- The segment has the flag set. -/
def TcpCb.bears (cb : TcpCb) (flag : U8) : Bool := cb.flags &&& flag != 0

/-- The states from which a connection is taken down. -/
def TcpState.tearsDown : TcpState → Bool
  | .established | .finWait1 | .finWait2 | .closeWait | .closing | .lastAck => true
  | _ => false

/-- The states in which the sock has sent its own FIN. -/
def TcpState.finSent : TcpState → Bool
  | .finWait1 | .finWait2 | .closing | .lastAck => true
  | _ => false

/-- The segment acknowledges the FIN of the sock, the last thing it sent. -/
def TcpCb.acksFin (cb : TcpCb) (sk : TcpSock) : Bool :=
  cb.bears tcpAck && sk.state.finSent && cb.ack == sk.sndNxt

/-- The edges of the diagram of RFC 793 between these states, a reset included. -/
def TcpState.edges : TcpState → List TcpState
  | .established => [.closeWait, .finWait1, .closed]
  | .finWait1 => [.finWait2, .closing, .timeWait, .closed]
  | .finWait2 => [.timeWait, .closed]
  | .closeWait => [.lastAck, .closed]
  | .closing => [.timeWait, .closed]
  | .lastAck => [.closed]
  | _ => []

/-- The state that follows on a segment, from whether it carries a reset, a FIN
and the acknowledgement of the FIN of the sock. -/
def TcpState.prescribed (state : TcpState) (rst fin acksFin : Bool) : TcpState :=
  if rst then .closed else
    match state, fin, acksFin with
    | .established, true, _ => .closeWait
    | .finWait1, true, true => .timeWait
    | .finWait1, true, false => .closing
    | .finWait1, false, true => .finWait2
    | .finWait2, true, _ => .timeWait
    | .closing, _, true => .timeWait
    | .lastAck, _, true => .closed
    | state, _, _ => state

/-- The segment is accepted and takes a connection down: it carries a FIN and no
reset, or it acknowledges the FIN of the sock. -/
structure TcpCb.TearsDown (cb : TcpCb) (sk : TcpSock) : Prop where
  state : sk.state.tearsDown = true
  accepted : isTcpSeqValid sk cb = true
  carries : cb.bears tcpFin = true ∧ cb.bears tcpRst = false ∨ cb.acksFin sk = true

/-- The state that RFC 793 prescribes for a sock on a segment. -/
def TcpSock.prescribed (sk : TcpSock) (cb : TcpCb) : TcpState :=
  sk.state.prescribed (cb.bears tcpRst) (cb.bears tcpFin) (cb.acksFin sk)

/-! ## One segment -/

/-- The segments that change nothing, by the code and by RFC 793. -/
def TcpCb.Idle (cb : TcpCb) (sk : TcpSock) : Prop :=
  sk.state = .closeWait ∧ cb.flags ≠ tcpFin ∨
    sk.state = .finWait2 ∧ cb.bears tcpFin = false ∧ cb.bears tcpRst = false ∨
    (sk.state = .closing ∨ sk.state = .lastAck) ∧ cb.acksFin sk = false

/-- The state of a sock that is being taken down after a segment. -/
def TcpState.afterSegment (state : TcpState) (flags : U8) : TcpState :=
  if flags = tcpRst ∨ flags = tcpFin then state.afterClose else state

section Segments

variable {s later : Stack} {tsk tmp : SockPtr} {cb : TcpCb}

theorem ProcessStep.afterSegment (step : ProcessStep s tsk cb tmp later)
    (state : (s.sock tsk).state.tearsDown = true)
    (accepted : isTcpSeqValid (s.sock tsk) cb = true) :
    (later.sock tsk).state = (s.sock tsk).state.afterSegment cb.flags := by
  unfold TcpState.afterSegment
  cases step with
  | dropped invalid =>
      rw [accepted] at invalid
      cases invalid
  | rst _ isRst done =>
      rw [if_pos (.inl isRst), tcpSockClose_state done, tcpSendControlPacket_state]
  | fin _ isFin done => rw [if_pos (.inr isFin), tcpSockClose_state done]
  | answered _ _ _ answered =>
      rcases answered with closed | ⟨listening, _⟩ | ⟨opening, _⟩
      · simp [closed, TcpState.tearsDown] at state
      · simp [listening, TcpState.tearsDown] at state
      · simp [opening, TcpState.tearsDown] at state
  | syn _ listening => simp [listening, TcpState.tearsDown] at state
  | ack _ opening => simp [opening, TcpState.tearsDown] at state
  | synSent _ _ _ opening => simp [opening, TcpState.tearsDown] at state
  | ignored _ notRst notFin => rw [if_neg (not_or.mpr ⟨notRst, notFin⟩)]

/-- A bare reset takes nothing down in the order of RFC 793. -/
theorem TcpCb.TearsDown.notRst {sk : TcpSock} (tears : cb.TearsDown sk) : cb.flags ≠ tcpRst := by
  intro isRst
  have noFin : cb.bears tcpFin = false := by
    rw [TcpCb.bears, isRst]
    decide
  have noAck : cb.bears tcpAck = false := by
    rw [TcpCb.bears, isRst]
    decide
  rcases tears.carries with ⟨fin, _⟩ | acks
  · rw [noFin] at fin
    cases fin
  · rw [TcpCb.acksFin, noAck] at acks
    cases acks

/-- A bare FIN is a FIN and nothing else. -/
theorem TcpCb.bears_of_fin (sk : TcpSock) (isFin : cb.flags = tcpFin) :
    cb.bears tcpFin = true ∧ cb.bears tcpRst = false ∧ cb.acksFin sk = false := by
  have noAck : cb.bears tcpAck = false := by
    rw [TcpCb.bears, isFin]
    decide
  refine ⟨?_, ?_, ?_⟩
  · rw [TcpCb.bears, isFin]
    decide
  · rw [TcpCb.bears, isFin]
    decide
  · rw [TcpCb.acksFin, noAck, Bool.false_and, Bool.false_and]

/-- A segment leads to the prescribed state exactly when it is one that changes
nothing. -/
theorem TcpCb.TearsDown.afterSegment_iff {sk : TcpSock} (tears : cb.TearsDown sk) :
    sk.state.afterSegment cb.flags = sk.prescribed cb ↔ cb.Idle sk := by
  have state := tears.state
  unfold TcpState.afterSegment TcpSock.prescribed TcpCb.Idle
  by_cases isFin : cb.flags = tcpFin
  · obtain ⟨fin, rst, acks⟩ := TcpCb.bears_of_fin sk isFin
    rw [if_pos (.inr isFin), fin, rst, acks]
    cases current : sk.state <;>
      simp [current, isFin, TcpState.tearsDown, TcpState.prescribed, TcpState.afterClose] at state ⊢
  · rw [if_neg (not_or.mpr ⟨tears.notRst, isFin⟩)]
    rcases tears.carries with ⟨fin, rst⟩ | acks
    · rw [fin, rst]
      cases current : sk.state <;> cases acked : cb.acksFin sk <;>
        simp [current, isFin, TcpState.tearsDown, TcpState.prescribed] at state ⊢
    · have sent : sk.state.finSent = true := by
        rw [TcpCb.acksFin, Bool.and_eq_true, Bool.and_eq_true] at acks
        exact acks.1.2
      rw [acks]
      cases current : sk.state <;> cases cb.bears tcpRst <;> cases cb.bears tcpFin <;>
        simp [current, TcpState.finSent, TcpState.prescribed] at sent ⊢

/-- Such a segment is processed to the end, whatever the lists look like. -/
theorem TcpCb.TearsDown.returns (tears : cb.TearsDown (s.sock tsk)) (notNull : tsk ≠ 0) :
    ∃ later, tcpProcess s tsk cb tmp = .ok later := by
  have state := tears.state
  by_cases isFin : cb.flags = tcpFin
  · rw [tcpProcess_fin notNull tears.accepted isFin]
    cases current : (s.sock tsk).state <;>
      simp [current, TcpState.tearsDown, tcpSockClose, pure, Except.pure] at state ⊢
  · refine ⟨s, tcpProcess_ignored notNull tears.accepted tears.notRst isFin ?_ ?_ ?_ ?_⟩ <;>
      · intro current
        simp [current, TcpState.tearsDown] at state

end Segments

/-! ## Runs -/

/-- A call of `tcp_process` or of `tcp_sock_close` that returns, on any sock,
while memory in use by `tsk` is not handed out again. -/
def SockStep (tsk : SockPtr) (s : Stack) (call : SockCall) (later : Stack) : Prop :=
  call.Spares tsk ∧ call.run s = .ok later

/-- The call hands the sock a segment that takes its connection down. -/
def SockCall.TearsDown (tsk : SockPtr) (s : Stack) (call : SockCall) (cb : TcpCb) : Prop :=
  (∃ tmp, call = .process tsk cb tmp) ∧ cb.TearsDown (s.sock tsk)

theorem TcpState.afterClose_edges {state : TcpState} (tears : state.tearsDown = true) :
    state.afterClose = state ∨ state.afterClose ∈ state.edges := by
  cases state <;> simp [tearsDown, afterClose, edges] at tears ⊢

/-- A call moves the sock along an edge of the diagram, or not at all. -/
theorem SockStep.edges {s later : Stack} {tsk : SockPtr} {call : SockCall}
    (step : SockStep tsk s call later) (tears : (s.sock tsk).state.tearsDown = true) :
    (later.sock tsk).state = (s.sock tsk).state ∨
      (later.sock tsk).state ∈ (s.sock tsk).state.edges := by
  obtain ⟨spares, done⟩ := step
  by_cases own : call.sock = tsk
  · subst own
    cases call with
    | close tsk =>
        rw [SockCall.sock, tcpSockClose_state done]
        exact TcpState.afterClose_edges tears
    | process tsk cb tmp =>
        have taken := (tcpProcess_step done).2
        cases accepted : isTcpSeqValid (s.sock tsk) cb with
        | false =>
            rw [taken.eq_of_dropped accepted]
            exact .inl rfl
        | true =>
            rw [SockCall.sock, taken.afterSegment tears accepted, TcpState.afterSegment]
            split
            · exact TcpState.afterClose_edges tears
            · exact .inl rfl
  · exact .inl (SockCall.elsewhere done own spares).1

/-- **When a connection is taken down as RFC 793 has it.** Along every run of
segments and closes, each segment with a FIN or with the acknowledgement of the
FIN of the sock leads to the prescribed state if and only if each of them is one
on which the sock stays where it is. The sock moves along edges of the diagram
only, and no such segment stops the program. -/
theorem teardown_follows_iff {tsk : SockPtr} {start last : Stack}
    {visits : List (Visit Stack SockCall)} (notNull : tsk ≠ 0)
    (run : Trace (SockStep tsk) start visits last) :
    ((∀ visit ∈ visits, ∀ cb, visit.label.TearsDown tsk visit.before cb →
        (visit.after.sock tsk).state = (visit.before.sock tsk).prescribed cb) ↔
      ∀ visit ∈ visits, ∀ cb, visit.label.TearsDown tsk visit.before cb →
        cb.Idle (visit.before.sock tsk)) ∧
    (∀ visit ∈ visits, (visit.before.sock tsk).state.tearsDown = true →
      (visit.after.sock tsk).state = (visit.before.sock tsk).state ∨
        (visit.after.sock tsk).state ∈ (visit.before.sock tsk).state.edges) ∧
    ∀ cb tmp, cb.TearsDown (last.sock tsk) → ∃ later, tcpProcess last tsk cb tmp = .ok later := by
  refine ⟨run.forall_iff ?_, ?_, fun cb tmp tears => tears.returns notNull⟩
  · rintro ⟨before, call, after⟩ ⟨_, done⟩
    constructor
    · rintro follows cb ⟨⟨tmp, rfl⟩, tears⟩
      have reached := (tcpProcess_step done).2.afterSegment tears.state tears.accepted
      exact tears.afterSegment_iff.mp (reached.symm.trans (follows cb ⟨⟨tmp, rfl⟩, tears⟩))
    · rintro idle cb ⟨⟨tmp, rfl⟩, tears⟩
      have reached := (tcpProcess_step done).2.afterSegment tears.state tears.accepted
      exact reached.trans (tears.afterSegment_iff.mpr (idle cb ⟨⟨tmp, rfl⟩, tears⟩))
  · exact fun visit member => (run.step_of_mem visit member).edges

/-! ## A FIN with an acknowledgement -/

/-- The FIN of the peer as it is usually sent, with the ACK bit. -/
def finAck : TcpCb := segmentWith (tcpFin ||| tcpAck) 0

/-- The segment leaves a sock that is being taken down where it is. -/
theorem finAck_step {s : Stack} (tears : finAck.TearsDown (s.sock 1)) :
    SockStep 1 s (.process 1 finAck 2) s := by
  have ignored : tcpProcess s 1 finAck 2 = .ok s := by
    apply tcpProcess_ignored (by decide) tears.accepted (by decide) (by decide) <;>
      · intro current
        have state := tears.state
        simp [current, TcpState.tearsDown] at state
  exact ⟨show (1 : SockPtr) ≠ 2 by decide, ignored⟩

/-- A FIN that the peer sends again leaves the sock in `TCP_CLOSE_WAIT`. -/
theorem teardown_follows_closeWait :
    (1 : SockPtr) ≠ 0 ∧ finAck.TearsDown ((tcpSetState connectedStack 1 .closeWait).sock 1) ∧
      (tcpSetState connectedStack 1 .closeWait |>.sock 1).state =
        ((tcpSetState connectedStack 1 .closeWait).sock 1).prescribed finAck := by
  have tears : finAck.TearsDown ((tcpSetState connectedStack 1 .closeWait).sock 1) :=
    ⟨by decide, by decide, by decide⟩
  have run := Trace.start.step (finAck_step tears)
  have follows := (teardown_follows_iff (by decide) run).1.mpr
  refine ⟨by decide, tears, follows ?_ _ List.mem_cons_self finAck ⟨⟨2, rfl⟩, tears⟩⟩
  intro visit member cb torn
  obtain rfl := List.mem_singleton.mp member
  obtain ⟨⟨tmp, same⟩, _⟩ := torn
  cases same
  exact .inl ⟨by decide, by decide⟩

/-- **A FIN with the ACK bit leaves an established connection established.** -/
theorem teardown_fails : ¬∀ (tsk : SockPtr) (start last : Stack)
    (visits : List (Visit Stack SockCall)), tsk ≠ 0 → Trace (SockStep tsk) start visits last →
      ∀ visit ∈ visits, ∀ cb, visit.label.TearsDown tsk visit.before cb →
        (visit.after.sock tsk).state = (visit.before.sock tsk).prescribed cb := by
  intro always
  have tears : finAck.TearsDown (connectedStack.sock 1) := ⟨by decide, by decide, by decide⟩
  have reached := always 1 connectedStack connectedStack _ (by decide)
    (Trace.start.step (finAck_step tears)) _ List.mem_cons_self finAck ⟨⟨2, rfl⟩, tears⟩
  exact absurd reached (by decide)

end TcpStack
