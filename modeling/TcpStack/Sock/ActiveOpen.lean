import TcpStack.Sock.Steps
import TcpStack.Sock.Shape

/-!
# Which segments complete an active open

A sock in `TCP_SYN_SENT` under any sequence of segments. Segments outside the
window leave it where it is. The first one inside decides: the branch for
`TCP_SYN_SENT` is taken for all flags but a bare RST and a bare FIN, and after
it the sock never opens again. So an active open completes on a SYN+ACK only,
exactly when the first segment accepted is a SYN+ACK, a bare RST or a bare FIN
(`completesOnSynAck_iff`).
-/

set_option autoImplicit false

namespace TcpStack

open Lib

/-- `tcp_process` on one sock for a sequence of segments. With each segment
comes the address that `malloc` returns if a sock is allocated. -/
def processAll (s : Stack) (tsk : SockPtr) : List (TcpCb × SockPtr) → Outcome Stack
  | [] => .ok s
  | (cb, tmp) :: segments => do
      let s ← tcpProcess s tsk cb tmp
      processAll s tsk segments

/-! ## States after the handshake -/

/-- The states from which a sock can still become established. -/
def TcpState.opening : TcpState → Bool
  | .listen | .synRecv | .synSent => true
  | _ => false

/-- The state in which `tcp_sock_close` leaves a sock. -/
def TcpState.afterClose : TcpState → TcpState
  | .closed | .listen | .synRecv | .synSent => .closed
  | .established => .finWait1
  | .closeWait => .lastAck
  | state => state

theorem TcpState.opening_afterClose (state : TcpState) : state.afterClose.opening = false := by
  cases state <;> rfl

theorem TcpState.afterClose_ne_established (state : TcpState) :
    state.afterClose ≠ .established := by
  cases state <;> simp [afterClose]

theorem TcpState.afterClose_ne_listen (state : TcpState) : state.afterClose ≠ .listen := by
  cases state <;> simp [afterClose]

theorem tcpSendControlPacket_state (s : Stack) (tsk : SockPtr) (flags : U8) (other : SockPtr) :
    ((tcpSendControlPacket s tsk flags).sock other).state = (s.sock other).state := by
  rw [tcpSendControlPacket_sock]
  split
  · next same => rw [same]
  · rfl

theorem freeTcpSock_state (s : Stack) (tsk other : SockPtr) :
    ((freeTcpSock s tsk).sock other).state = (s.sock other).state := by
  rw [freeTcpSock_sock]
  split
  · next same => rw [same]
  · rfl

theorem tcpSockClose_state {s later : Stack} {tsk : SockPtr}
    (done : tcpSockClose s tsk = .ok later) :
    (later.sock tsk).state = (s.sock tsk).state.afterClose := by
  cases state : (s.sock tsk).state <;> simp only [tcpSockClose, state] at done
  case listen =>
    obtain ⟨unhashed, _, done⟩ := Outcome.bind_eq_ok.mp done
    obtain ⟨unbound, _, done⟩ := Outcome.bind_eq_ok.mp done
    cases done
    rw [freeTcpSock_state, tcpSetState_sock, if_pos rfl]
    rfl
  case closed =>
    cases done
    exact state
  case synRecv | synSent | established | closeWait =>
    cases done
    rw [freeTcpSock_state, tcpSetState_sock, if_pos rfl]
    rfl
  all_goals
    cases done
    rw [freeTcpSock_state, state]
    rfl

/-- A sock past its handshake stays past it, and does not become established
again. -/
theorem ProcessStep.settled {s later : Stack} {tsk : SockPtr} {cb : TcpCb} {tmp : SockPtr}
    (step : ProcessStep s tsk cb tmp later) (past : (s.sock tsk).state.opening = false) :
    (later.sock tsk).state.opening = false ∧
      ((later.sock tsk).state = .established → (s.sock tsk).state = .established) := by
  cases step with
  | dropped | answered | ignored => exact ⟨past, id⟩
  | rst _ _ done =>
      rw [tcpSockClose_state done]
      exact ⟨TcpState.opening_afterClose _,
        fun reached => absurd reached (TcpState.afterClose_ne_established _)⟩
  | fin _ _ done =>
      rw [tcpSockClose_state done]
      exact ⟨TcpState.opening_afterClose _,
        fun reached => absurd reached (TcpState.afterClose_ne_established _)⟩
  | syn _ state => simp [state, TcpState.opening] at past
  | ack _ state => simp [state, TcpState.opening] at past
  | synSent _ _ _ state => simp [state, TcpState.opening] at past

theorem tcpProcessSynSent_sock (s : Stack) (tsk : SockPtr) :
    ((tcpProcessSynSent s tsk).sock tsk).state = .established ∧
      ((tcpProcessSynSent s tsk).sock tsk).waitConnect = wakeUp (s.sock tsk).waitConnect := by
  simp only [tcpProcessSynSent, Stack.modify_sock_self, tcpSendControlPacket_sock, if_pos,
    tcpSetState_sock, and_self]

/-- An accepted segment takes a sock out of `TCP_SYN_SENT` for good. -/
theorem ProcessStep.leaves_synSent {s later : Stack} {tsk : SockPtr} {cb : TcpCb} {tmp : SockPtr}
    (step : ProcessStep s tsk cb tmp later) (waiting : (s.sock tsk).state = .synSent)
    (accepted : isTcpSeqValid (s.sock tsk) cb = true) :
    (later.sock tsk).state.opening = false := by
  cases step with
  | dropped dropped => simp [accepted] at dropped
  | rst _ _ done =>
      rw [tcpSockClose_state done]
      exact TcpState.opening_afterClose _
  | fin _ _ done =>
      rw [tcpSockClose_state done]
      exact TcpState.opening_afterClose _
  | answered _ _ _ state => simp [waiting] at state
  | syn _ state => simp [waiting] at state
  | ack _ state => simp [waiting] at state
  | synSent =>
      rw [(tcpProcessSynSent_sock s tsk).1]
      rfl
  | ignored _ _ _ _ _ _ notSynSent => exact absurd waiting notSynSent

/-! ## Runs -/

theorem processAll_settled {s later : Stack} {tsk : SockPtr} {segments : List (TcpCb × SockPtr)}
    (run : processAll s tsk segments = .ok later) (past : (s.sock tsk).state.opening = false) :
    (later.sock tsk).state.opening = false := by
  induction segments generalizing s with
  | nil =>
      cases run
      exact past
  | cons segment segments ih =>
      obtain ⟨middle, first, rest⟩ := Outcome.bind_eq_ok.mp run
      exact ih rest ((tcpProcess_step first).2.settled past).1

/-- Segments outside the window change nothing. -/
theorem processAll_dropped {s : Stack} {tsk : SockPtr} {segments : List (TcpCb × SockPtr)}
    (notNull : tsk ≠ 0)
    (dropped : ∀ segment ∈ segments, isTcpSeqValid (s.sock tsk) segment.1 = false) :
    processAll s tsk segments = .ok s := by
  induction segments with
  | nil => rfl
  | cons segment segments ih =>
      have first : tcpProcess s tsk segment.1 segment.2 = .ok s :=
        tcpProcess_dropped notNull (dropped segment (by simp))
      refine Outcome.bind_eq_ok.mpr ⟨s, first, ih fun other member => ?_⟩
      exact dropped other (List.mem_cons_of_mem _ member)

/-- A sock that waits for its SYN to be answered waits as long as nothing is
accepted, and is past its handshake afterwards. -/
theorem processAll_synSent {s later : Stack} {tsk : SockPtr} {segments : List (TcpCb × SockPtr)}
    (run : processAll s tsk segments = .ok later) (waiting : (s.sock tsk).state = .synSent) :
    (later = s ∧ ∀ segment ∈ segments, isTcpSeqValid (s.sock tsk) segment.1 = false) ∨
      (later.sock tsk).state.opening = false := by
  induction segments with
  | nil =>
      cases run
      exact .inl ⟨rfl, by simp⟩
  | cons segment segments ih =>
      obtain ⟨middle, first, rest⟩ := Outcome.bind_eq_ok.mp run
      cases accepted : isTcpSeqValid (s.sock tsk) segment.1 with
      | true =>
          have left := (tcpProcess_step first).2.leaves_synSent waiting accepted
          exact .inr (processAll_settled rest left)
      | false =>
          have notNull := (tcpProcess_step first).1
          rw [show tcpProcess s tsk segment.1 segment.2 = .ok s from
            tcpProcess_dropped notNull accepted] at first
          cases first
          rcases ih rest with ⟨same, dropped⟩ | past
          · exact .inl ⟨same, List.forall_mem_cons.mpr ⟨accepted, dropped⟩⟩
          · exact .inr past

/-! ## Completing an active open -/

/-- A segment with SYN and ACK set, and neither RST nor FIN. -/
def TcpCb.IsSynAck (cb : TcpCb) : Prop :=
  cb.flags &&& tcpSyn ≠ 0 ∧ cb.flags &&& tcpAck ≠ 0 ∧ cb.flags &&& tcpRst = 0 ∧
    cb.flags &&& tcpFin = 0

instance (cb : TcpCb) : Decidable cb.IsSynAck :=
  inferInstanceAs (Decidable (_ ∧ _))

/-- Whenever a segment of the sequence makes the sock established and wakes the
caller of `tcp_sock_connect`, it is a SYN+ACK. -/
def CompletesOnSynAck (s : Stack) (tsk : SockPtr) (segments : List (TcpCb × SockPtr)) : Prop :=
  ∀ before cb tmp after reached later, segments = before ++ (cb, tmp) :: after →
    processAll s tsk before = .ok reached → tcpProcess reached tsk cb tmp = .ok later →
    (reached.sock tsk).state ≠ .established → (later.sock tsk).state = .established →
    (later.sock tsk).waitConnect = wakeUp (reached.sock tsk).waitConnect → cb.IsSynAck

/-- The first segment of a sequence that a sock accepts. -/
def firstAccepted (sk : TcpSock) (segments : List (TcpCb × SockPtr)) : Option (TcpCb × SockPtr) :=
  segments.find? fun segment => isTcpSeqValid sk segment.1

/-- The first segment accepted completes the open unless it is a bare RST or a
bare FIN. -/
theorem CompletesOnSynAck.isSynAck {s : Stack} {tsk : SockPtr}
    {segments : List (TcpCb × SockPtr)} {segment : TcpCb × SockPtr}
    (completes : CompletesOnSynAck s tsk segments) (notNull : tsk ≠ 0)
    (waiting : (s.sock tsk).state = .synSent)
    (found : firstAccepted (s.sock tsk) segments = some segment)
    (notRst : segment.1.flags ≠ tcpRst) (notFin : segment.1.flags ≠ tcpFin) :
    segment.1.IsSynAck := by
  obtain ⟨accepted, before, after, split, dropped⟩ := List.find?_eq_some_iff_append.mp found
  have reached : processAll s tsk before = .ok s :=
    processAll_dropped notNull fun other member => by simpa using dropped other member
  obtain ⟨state, woken⟩ := tcpProcessSynSent_sock s tsk
  exact completes before segment.1 segment.2 after s _ split reached
    (tcpProcess_synSent notNull accepted notRst notFin waiting) (by simp [waiting]) state woken

/-- **When an active open completes only on a SYN+ACK**: when the first segment
accepted is a SYN+ACK, a bare RST or a bare FIN. -/
theorem completesOnSynAck_iff {s : Stack} {tsk : SockPtr} (notNull : tsk ≠ 0)
    (waiting : (s.sock tsk).state = .synSent) (segments : List (TcpCb × SockPtr)) :
    CompletesOnSynAck s tsk segments ↔
      ∀ segment, firstAccepted (s.sock tsk) segments = some segment →
        segment.1.flags = tcpRst ∨ segment.1.flags = tcpFin ∨ segment.1.IsSynAck := by
  constructor
  · intro completes segment found
    by_cases isRst : segment.1.flags = tcpRst
    · exact .inl isRst
    by_cases isFin : segment.1.flags = tcpFin
    · exact .inr (.inl isFin)
    exact .inr (.inr (completes.isSynAck notNull waiting found isRst isFin))
  · intro first before cb tmp after reached later split run processed notYet established _
    obtain ⟨_, step⟩ := tcpProcess_step processed
    rcases processAll_synSent run waiting with ⟨rfl, dropped⟩ | past
    · -- nothing was accepted before, so this segment is the first one
      have opens : isTcpSeqValid (reached.sock tsk) cb = true ∧ cb.flags ≠ tcpRst ∧
          cb.flags ≠ tcpFin := by
        cases step with
        | synSent accepted notRst notFin => exact ⟨accepted, notRst, notFin⟩
        | rst _ _ done =>
            rw [tcpSockClose_state done] at established
            exact absurd established (TcpState.afterClose_ne_established _)
        | fin _ _ done =>
            rw [tcpSockClose_state done] at established
            exact absurd established (TcpState.afterClose_ne_established _)
        | syn _ state => simp [waiting] at state
        | ack _ state => simp [waiting] at state
        | dropped | answered | ignored => exact absurd established notYet
      have found : firstAccepted (reached.sock tsk) segments = some (cb, tmp) := by
        refine List.find?_eq_some_iff_append.mpr ⟨opens.1, before, after, split, ?_⟩
        exact fun other member => by simp [dropped other member]
      rcases first (cb, tmp) found with isRst | isFin | synAck
      · exact absurd isRst opens.2.1
      · exact absurd isFin opens.2.2
      · exact synAck
    · exact absurd ((step.settled past).2 established) notYet

/-- A stack with one sock, in the given state. -/
def stackIn (state : TcpState) : Stack := tcpSetState (allocTcpSock initTcpStack 1) 1 state

/-- A segment with the given flags and sequence number, and everything else
zero. -/
def segmentWith (flags : U8) (seq : U32) : TcpCb where
  saddr := 0
  daddr := 0
  sport := 0
  dport := 0
  seq := seq
  seqEnd := seq + (if flags &&& (tcpSyn ||| tcpFin) ≠ 0 then 1 else 0)
  ack := 0
  rwnd := 0
  flags := flags
  payload := 0
  plLen := 0

/-- A SYN+ACK completes the open, and nothing after it does. -/
theorem completesOnSynAck_syn_ack_then_fin :
    CompletesOnSynAck (stackIn .synSent) 1
      [(segmentWith (tcpSyn ||| tcpAck) 0, 2), (segmentWith tcpFin 1, 2)] :=
  (completesOnSynAck_iff (by decide) rfl _).mpr (by decide)

/-- **A bare ACK and a reset complete an active open.** -/
theorem completes_on_ack_or_reset :
    ¬ CompletesOnSynAck (stackIn .synSent) 1 [(segmentWith tcpAck 0, 2)] ∧
      ¬ CompletesOnSynAck (stackIn .synSent) 1 [(segmentWith (tcpRst ||| tcpAck) 0, 2)] := by
  constructor
  · intro completes
    have synAck := completes.isSynAck (by decide) rfl rfl (by decide) (by decide)
    revert synAck
    decide
  · intro completes
    have synAck := completes.isSynAck (by decide) rfl rfl (by decide) (by decide)
    revert synAck
    decide

end TcpStack
