import TcpStack.Sock.Hash
import TcpStack.Packet.Header

/-!
# The state machine

`tcp_process` and what it calls: the sending functions of `tcp_out.c` as far as
the state of the stack is concerned, `tcp_sock_close`, and the reception of a
packet by `handle_tcp_packet`.

Three misprints of `tcp_in.c` are read as what they stand for: `LISTEN` is
`TCP_LISTEN`, `cb->flag` is `cb->flags`, and `struct *tcp_sock tmp` declares a
pointer. The condition of the branch for `TCP_SYN_SENT` is kept as C parses it:
a comparison first, the bitwise or after it.
-/

set_option autoImplicit false

namespace TcpStack

open Lib

/-! ## Sequence numbers -/

/-- `less_or_equal_32b`, with a subtraction that wraps around. -/
def lessOrEqual32b (a b : U32) : Bool := decide ((a - b).toInt ≤ 0)

/-- `less_than_32b`, with a subtraction that wraps around. -/
def lessThan32b (a b : U32) : Bool := decide ((a - b).toInt < 0)

def isTcpSeqValid (tsk : TcpSock) (cb : TcpCb) : Bool :=
  let rcvEnd : U32 := tsk.rcvNxt + (if tsk.rcvWnd > 1 then tsk.rcvWnd.setWidth 32 else 1)
  lessThan32b cb.seq rcvEnd && lessOrEqual32b tsk.rcvNxt cb.seqEnd

/-! ## Sending -/

def tcpSetState (s : Stack) (tsk : SockPtr) (state : TcpState) : Stack :=
  s.modify tsk fun sk => { sk with state := state }

/-- `tcp_send_control_packet`. -/
def tcpSendControlPacket (s : Stack) (tsk : SockPtr) (flags : U8) : Stack :=
  let sent := (s.sock tsk).controlSegment flags
  let s := if flags &&& (tcpSyn ||| tcpFin) ≠ 0 then
      s.modify tsk fun sk => { sk with sndNxt := sk.sndNxt + 1 }
    else s
  { s with out := s.out ++ [sent] }

/-- `tcp_send_reset`. -/
def tcpSendReset (s : Stack) (cb : TcpCb) : Stack :=
  { s with out := s.out ++ [cb.resetSegment] }

/-! ## Closing -/

def tcpSockClose (s : Stack) (tsk : SockPtr) : Outcome Stack :=
  match (s.sock tsk).state with
  | .closed => pure s
  | .listen => do
      let s ← tcpUnhash s tsk
      let s ← tcpBindUnhash s tsk
      pure (freeTcpSock (tcpSetState s tsk .closed) tsk)
  | .synRecv | .synSent => pure (freeTcpSock (tcpSetState s tsk .closed) tsk)
  | .established =>
      let s := tcpSendControlPacket s tsk tcpFin
      pure (freeTcpSock (tcpSetState s tsk .finWait1) tsk)
  | .closeWait =>
      let s := tcpSendControlPacket s tsk tcpAck
      let s := tcpSendControlPacket s tsk tcpFin
      pure (freeTcpSock (tcpSetState s tsk .lastAck) tsk)
  | .lastAck | .finWait1 | .finWait2 | .closing | .timeWait => pure (freeTcpSock s tsk)

/-! ## Receiving -/

/-- `tcp_sock_accept_enqueue`. -/
def tcpSockAcceptEnqueue (s : Stack) (tsk : SockPtr) : Outcome Stack := do
  let s ← if !s.links.listEmpty (.list tsk) then
      s.relink (s.links.listDeleteEntry Node.valid (.list tsk))
    else pure s
  let parent := (s.sock tsk).parent
  let s ← s.relink (s.links.listAddTail Node.valid (.list tsk) (.acceptQueue parent))
  pure (s.modify parent fun sk => { sk with acceptBacklog := sk.acceptBacklog + 1 })

/-- The branch of `tcp_process` for a SYN to a listener, for the address that
`malloc` returns. The new sock is queued at the parent of the listener. -/
def tcpProcessSyn (s : Stack) (tsk : SockPtr) (cb : TcpCb) (tmp : SockPtr) : Outcome Stack := do
  let s := (allocTcpSock s tmp).modify tmp fun sk =>
    { sk with skSip := cb.daddr, skSport := cb.dport, skDip := cb.saddr, skDport := cb.sport,
              parent := tsk }
  let s ← s.relink
    (s.links.listAddTail Node.valid (.list tmp) (.listenQueue (s.sock tsk).parent))
  let s := tcpSendControlPacket s tmp (tcpSyn ||| tcpAck)
  let s := tcpSetState s tmp .synRecv
  -- the result of `tcp_hash` is ignored
  let (_, s) ← tcpHash s tmp
  pure s

/-- `tcp_process`; `tmp` is the address that `malloc` returns if a sock is
allocated. -/
def tcpProcess (s : Stack) (tsk : SockPtr) (cb : TcpCb) (tmp : SockPtr) : Outcome Stack :=
  if tsk = 0 then .error ⟨.badPointer, s⟩
  else if !isTcpSeqValid (s.sock tsk) cb then pure s
  else if cb.flags = tcpRst then tcpSockClose (tcpSendControlPacket s tsk tcpAck) tsk
  else if cb.flags = tcpFin then tcpSockClose s tsk
  else
    match (s.sock tsk).state with
    | .closed => pure (tcpSendReset s cb)
    | .listen => if cb.flags = tcpSyn then tcpProcessSyn s tsk cb tmp else pure (tcpSendReset s cb)
    | .synRecv =>
        if cb.flags = tcpAck then do
          let s ← tcpSockAcceptEnqueue s tsk
          let s := tcpSetState s tsk .established
          pure (s.modify (s.sock tsk).parent fun sk =>
            { sk with waitAccept := wakeUp sk.waitAccept })
        else
          pure (tcpSendReset s cb)
    | .synSent =>
        if (if cb.flags = tcpSyn then (1 : U8) else 0) ||| tcpAck ≠ 0 then
          let s := tcpSetState s tsk .established
          let s := tcpSendControlPacket s tsk tcpAck
          pure (s.modify tsk fun sk => { sk with waitConnect := wakeUp sk.waitConnect })
        else
          pure (tcpSendReset s cb)
    | _ => pure s

/-- `handle_tcp_packet`. -/
def handleTcpPacket (s : Stack) (packet : Memory U8) (ip tcp : ℕ) (tmp : SockPtr) :
    Outcome Stack :=
  if !checksumMatches packet ip tcp then pure s
  else do
    let cb := tcpCbInit packet ip tcp
    let tsk ← s.stopOn (tcpSockLookup s cb)
    tcpProcess s tsk cb tmp

/-! ## Results -/

section Simp

variable (s : Stack) (tsk : SockPtr)

@[simp] theorem tcpSetState_links (state : TcpState) : (tcpSetState s tsk state).links = s.links :=
  rfl

@[simp] theorem tcpSetState_allocated (state : TcpState) :
    (tcpSetState s tsk state).allocated = s.allocated := rfl

@[simp] theorem tcpSetState_freed (state : TcpState) : (tcpSetState s tsk state).freed = s.freed :=
  rfl

@[simp] theorem tcpSetState_out (state : TcpState) : (tcpSetState s tsk state).out = s.out := rfl

@[simp] theorem tcpSendControlPacket_links (flags : U8) :
    (tcpSendControlPacket s tsk flags).links = s.links := by
  simp only [tcpSendControlPacket]
  split <;> rfl

@[simp] theorem tcpSendControlPacket_allocated (flags : U8) :
    (tcpSendControlPacket s tsk flags).allocated = s.allocated := by
  simp only [tcpSendControlPacket]
  split <;> rfl

@[simp] theorem tcpSendControlPacket_freed (flags : U8) :
    (tcpSendControlPacket s tsk flags).freed = s.freed := by
  simp only [tcpSendControlPacket]
  split <;> rfl

@[simp] theorem tcpSendControlPacket_out (flags : U8) :
    (tcpSendControlPacket s tsk flags).out = s.out ++ [(s.sock tsk).controlSegment flags] := by
  simp only [tcpSendControlPacket]
  split <;> rfl

/-- Sending changes the next sequence number of the sender and nothing else. -/
theorem tcpSendControlPacket_sock (flags : U8) (other : SockPtr) :
    (tcpSendControlPacket s tsk flags).sock other =
      if other = tsk then
        { s.sock tsk with
          sndNxt := (s.sock tsk).sndNxt + (if flags &&& (tcpSyn ||| tcpFin) ≠ 0 then 1 else 0) }
      else s.sock other := by
  by_cases consumes : flags &&& (tcpSyn ||| tcpFin) ≠ 0
  · simp only [tcpSendControlPacket, if_pos consumes]
    by_cases same : other = tsk
    · rw [if_pos same, same, Stack.modify_sock_self]
    · rw [if_neg same, Stack.modify_sock_of_ne _ _ same]
  · have keeps : (s.sock tsk).sndNxt + 0 = (s.sock tsk).sndNxt := BitVec.add_zero _
    simp only [tcpSendControlPacket, if_neg consumes, keeps]
    by_cases same : other = tsk
    · rw [if_pos same, same]
    · rw [if_neg same]

theorem tcpSetState_sock (state : TcpState) (other : SockPtr) :
    (tcpSetState s tsk state).sock other =
      if other = tsk then { s.sock tsk with state := state } else s.sock other := by
  by_cases same : other = tsk
  · rw [if_pos same, same, tcpSetState, Stack.modify_sock_self]
  · rw [if_neg same, tcpSetState, Stack.modify_sock_of_ne _ _ same]

end Simp

end TcpStack
