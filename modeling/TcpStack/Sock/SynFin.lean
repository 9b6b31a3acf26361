import TcpStack.Sock.Isolation

/-!
# One SYN and one FIN

The life of a sock from the call that opens it: `tcp_sock_connect`, or a SYN that
reaches a listener. After that come segments and closes, for this sock and for
any other, in any order. The SYN is the first segment emitted for the sock. The
FIN goes out with the step from `TCP_ESTABLISHED` to `TCP_FIN_WAIT_1`, and no
step leads back, so there is at most one of each, and `snd_nxt` counts them
(`syn_fin_once`).
-/

set_option autoImplicit false

namespace TcpStack

open Lib

/-! ## The life of a sock -/

/-- A call of `tcp_process` or of `tcp_sock_close`. With a segment comes the
address that `malloc` returns if a sock is made. -/
inductive SockCall where
  | process (tsk : SockPtr) (cb : TcpCb) (tmp : SockPtr)
  | close (tsk : SockPtr)

namespace SockCall

/-- The sock the call is made on. -/
def sock : SockCall → SockPtr
  | .process tsk _ _ | .close tsk => tsk

def run (s : Stack) : SockCall → Outcome Stack
  | .process tsk cb tmp => tcpProcess s tsk cb tmp
  | .close tsk => tcpSockClose s tsk

/-- Memory in use is not handed out again. -/
def Spares (tsk : SockPtr) : SockCall → Prop
  | .process _ _ tmp => tsk ≠ tmp
  | .close _ => True

end SockCall

def Segment.bearsSyn (sent : Segment) : Bool := sent.flags &&& tcpSyn != 0

def Segment.bearsFin (sent : Segment) : Bool := sent.flags &&& tcpFin != 0

@[simp] theorem TcpSock.controlSegment_bearsSyn (sk : TcpSock) (flags : U8) :
    (sk.controlSegment flags).bearsSyn = (flags &&& tcpSyn != 0) := rfl

@[simp] theorem TcpSock.controlSegment_bearsFin (sk : TcpSock) (flags : U8) :
    (sk.controlSegment flags).bearsFin = (flags &&& tcpFin != 0) := rfl

/-- A reset carries neither. -/
theorem TcpCb.resetSegment_bears (cb : TcpCb) :
    cb.resetSegment.bearsSyn = false ∧ cb.resetSegment.bearsFin = false := by
  show ((tcpRst ||| tcpAck) &&& tcpSyn != 0) = false ∧ ((tcpRst ||| tcpAck) &&& tcpFin != 0) = false
  decide

/-- The life of a sock: the `snd_nxt` it is opened with, the segments emitted for
it so far, and the stack. -/
inductive Life (tsk : SockPtr) : U32 → List Segment → Stack → Prop where
  | connect {s later : Stack} {skaddr : SockAddr} {cursorIp : U32} {result : Option ℤ}
      {emitted : List Segment} :
      tcpSockConnect s tsk skaddr cursorIp = .ok (result, later) → later.out = s.out ++ emitted →
        Life tsk (s.sock tsk).sndNxt emitted later
  | passive {s later : Stack} {listener : SockPtr} {cb : TcpCb} {emitted : List Segment} :
      (s.sock listener).state = .listen → isTcpSeqValid (s.sock listener) cb = true →
      cb.flags = tcpSyn → tcpProcess s listener cb tsk = .ok later →
      later.out = s.out ++ emitted → Life tsk zeroedSock.sndNxt emitted later
  | own {s later : Stack} {start : U32} {sent emitted : List Segment} {call : SockCall} :
      Life tsk start sent s → call.sock = tsk → call.run s = .ok later →
      later.out = s.out ++ emitted → Life tsk start (sent ++ emitted) later
  | other {s later : Stack} {start : U32} {sent : List Segment} {call : SockCall} :
      Life tsk start sent s → call.sock ≠ tsk → call.Spares tsk → call.run s = .ok later →
        Life tsk start sent later

/-! ## One call -/

/-- The states before the FIN was sent. -/
def TcpState.beforeFin : TcpState → Bool
  | .closed | .synRecv | .synSent | .established => true
  | _ => false

/-- The state says how many FINs were sent. -/
def TcpState.Sent (state : TcpState) (fins : ℕ) : Prop :=
  state.beforeFin = true ∧ fins = 0 ∨ state = .finWait1 ∧ fins = 1

/-- What a call on an opened sock does: it emits no SYN, and moves on the state
and `snd_nxt` with the FINs it emits. -/
structure Advances (s : Stack) (tsk : SockPtr) (emitted : List Segment) (later : Stack) :
    Prop where
  out : later.out = s.out ++ emitted
  noSyn : ∀ sent ∈ emitted, sent.bearsSyn = false
  state : ∀ fins, (s.sock tsk).state.Sent fins →
    (later.sock tsk).state.Sent (fins + emitted.countP Segment.bearsFin)
  sndNxt : (later.sock tsk).sndNxt =
    (s.sock tsk).sndNxt + BitVec.ofNat 32 (emitted.countP Segment.bearsFin)

namespace Advances

variable {s middle later : Stack} {tsk : SockPtr} {first second : List Segment}

theorem trans (before : Advances s tsk first middle) (after : Advances middle tsk second later) :
    Advances s tsk (first ++ second) later where
  out := by rw [after.out, before.out, List.append_assoc]
  noSyn := fun sent member => (List.mem_append.mp member).elim (before.noSyn sent)
    (after.noSyn sent)
  state := by
    intro fins phase
    rw [List.countP_append, ← Nat.add_assoc]
    exact after.state _ (before.state fins phase)
  sndNxt := by
    rw [after.sndNxt, before.sndNxt, List.countP_append, BitVec.ofNat_add, BitVec.add_assoc]

/-- A call that emits neither SYN nor FIN and keeps the sock on its side of the
FIN. -/
theorem quiet {emitted : List Segment} (out : later.out = s.out ++ emitted)
    (noSyn : ∀ sent ∈ emitted, sent.bearsSyn = false)
    (noFin : ∀ sent ∈ emitted, sent.bearsFin = false)
    (state : ∀ fins, (s.sock tsk).state.Sent fins → (later.sock tsk).state.Sent fins)
    (sndNxt : (later.sock tsk).sndNxt = (s.sock tsk).sndNxt) : Advances s tsk emitted later := by
  have none : emitted.countP Segment.bearsFin = 0 :=
    List.countP_eq_zero.mpr fun sent member => by simp [noFin sent member]
  refine ⟨out, noSyn, ?_, ?_⟩
  · rwa [none]
  · rw [none, sndNxt]
    exact (BitVec.add_zero _).symm

/-- An acknowledgement. -/
theorem sendAck (s : Stack) (tsk : SockPtr) :
    Advances s tsk [(s.sock tsk).controlSegment tcpAck] (tcpSendControlPacket s tsk tcpAck) := by
  have plain : tcpAck &&& (tcpSyn ||| tcpFin) = 0 := by decide
  have noSyn : (tcpAck &&& tcpSyn != 0) = false := by decide
  have noFin : (tcpAck &&& tcpFin != 0) = false := by decide
  refine quiet (by simp) (by simpa using noSyn) (by simpa using noFin) ?_ ?_
  · rw [tcpSendControlPacket_state]
    exact fun _ => id
  · rw [tcpSendControlPacket_sock, if_pos rfl]
    simp [plain]

/-- A change of state that has nothing to do with the FIN. -/
theorem setState {state : TcpState}
    (stays : ∀ fins, (s.sock tsk).state.Sent fins → state.Sent fins) :
    Advances s tsk [] (tcpSetState s tsk state) := by
  have own : (tcpSetState s tsk state).sock tsk = { s.sock tsk with state := state } := by
    rw [tcpSetState_sock, if_pos rfl]
  refine quiet (by simp) (by simp) (by simp) ?_ ?_
  · rwa [own]
  · rw [own]

theorem free (s : Stack) (tsk : SockPtr) : Advances s tsk [] (freeTcpSock s tsk) := by
  refine quiet (by simp) (by simp) (by simp) ?_ ?_
  · rw [freeTcpSock_state]
    exact fun _ => id
  · rw [freeTcpSock_sock, if_pos rfl]

end Advances

theorem TcpState.Sent.notListen {state : TcpState} {fins : ℕ} (phase : state.Sent fins) :
    state ≠ .listen := by
  rintro rfl
  simp [Sent, beforeFin] at phase

/-- The FIN goes out with the step to `TCP_FIN_WAIT_1`. -/
theorem advances_sendFin {s : Stack} {tsk : SockPtr} (state : (s.sock tsk).state = .established) :
    Advances s tsk [(s.sock tsk).controlSegment tcpFin]
      (tcpSetState (tcpSendControlPacket s tsk tcpFin) tsk .finWait1) := by
  have noSyn : (tcpFin &&& tcpSyn != 0) = false := by decide
  have isFin : (tcpFin &&& tcpFin != 0) = true := by decide
  have consumes : tcpFin &&& (tcpSyn ||| tcpFin) ≠ 0 := by decide
  have one : [(s.sock tsk).controlSegment tcpFin].countP Segment.bearsFin = 1 := by
    rw [List.countP_singleton, TcpSock.controlSegment_bearsFin, if_pos isFin]
  refine ⟨by simp, by simpa using noSyn, ?_, ?_⟩
  · intro fins phase
    have none : fins = 0 := by simpa [state, TcpState.Sent, TcpState.beforeFin] using phase
    rw [tcpSetState_sock, if_pos rfl, none, one]
    exact .inr ⟨rfl, rfl⟩
  · rw [tcpSetState_sock, if_pos rfl, tcpSendControlPacket_sock, if_pos rfl, one, if_pos consumes]
    rfl

/-- Closing an opened sock. -/
theorem tcpSockClose_advances {s later : Stack} {tsk : SockPtr} {fins : ℕ}
    (done : tcpSockClose s tsk = .ok later) (phase : (s.sock tsk).state.Sent fins) :
    ∃ emitted, Advances s tsk emitted later := by
  cases state : (s.sock tsk).state
  case closed =>
    simp only [tcpSockClose, state] at done
    cases done
    exact ⟨[], .quiet (by simp) (by simp) (by simp) (fun _ => id) rfl⟩
  case synRecv | synSent =>
    simp only [tcpSockClose, state] at done
    cases done
    have stays : ∀ fins, (s.sock tsk).state.Sent fins → TcpState.closed.Sent fins := by
      simp [state, TcpState.Sent, TcpState.beforeFin]
    exact ⟨_, (Advances.setState stays).trans (.free _ tsk)⟩
  case established =>
    simp only [tcpSockClose, state] at done
    cases done
    exact ⟨_, (advances_sendFin state).trans (.free _ tsk)⟩
  case finWait1 =>
    simp only [tcpSockClose, state] at done
    cases done
    exact ⟨_, .free s tsk⟩
  all_goals simp [state, TcpState.Sent, TcpState.beforeFin] at phase

/-- A segment for an opened sock. -/
theorem ProcessStep.advances {s later : Stack} {tsk tmp : SockPtr} {cb : TcpCb} {fins : ℕ}
    (step : ProcessStep s tsk cb tmp later) (phase : (s.sock tsk).state.Sent fins) :
    ∃ emitted, Advances s tsk emitted later := by
  cases step with
  | dropped | ignored => exact ⟨[], .quiet (by simp) (by simp) (by simp) (fun _ => id) rfl⟩
  | answered =>
      exact ⟨[cb.resetSegment], .quiet rfl (by simp [cb.resetSegment_bears])
        (by simp [cb.resetSegment_bears]) (fun _ => id) rfl⟩
  | rst _ _ done =>
      have acknowledged := Advances.sendAck s tsk
      obtain ⟨emitted, closed⟩ := tcpSockClose_advances done (acknowledged.state fins phase)
      exact ⟨_, acknowledged.trans closed⟩
  | fin _ _ done => exact tcpSockClose_advances done phase
  | syn _ listening => exact absurd listening phase.notListen
  | @ack queued _ state _ enqueued =>
      refine ⟨[], .quiet ?_ (by simp) (by simp) ?_ ?_⟩
      · simp [tcpProcessSynRecv, tcpSockAcceptEnqueue_out enqueued]
      · rw [tcpProcessSynRecv_field TcpSock.state (fun _ _ => rfl), tcpSetState_sock, if_pos rfl]
        simp [state, TcpState.Sent, TcpState.beforeFin]
      · rw [tcpProcessSynRecv_field TcpSock.sndNxt (fun _ _ => rfl), tcpSetState_sock, if_pos rfl]
        exact tcpSockAcceptEnqueue_field TcpSock.sndNxt enqueued (fun _ _ => rfl) tsk
  | synSent _ _ _ state =>
      have stays : ∀ fins, (s.sock tsk).state.Sent fins → TcpState.established.Sent fins := by
        simp [state, TcpState.Sent, TcpState.beforeFin]
      have woken : Advances (tcpSendControlPacket (tcpSetState s tsk .established) tsk tcpAck)
          tsk [] (tcpProcessSynSent s tsk) := by
        refine .quiet (by simp [tcpProcessSynSent]) (by simp) (by simp) ?_ ?_
        · rw [tcpProcessSynSent, Stack.modify_sock_self]
          exact fun _ => id
        · rw [tcpProcessSynSent, Stack.modify_sock_self]
      exact ⟨_, (Advances.setState stays).trans ((Advances.sendAck _ tsk).trans woken)⟩

/-- A call on an opened sock. -/
theorem SockCall.advances {s later : Stack} {call : SockCall} {fins : ℕ}
    (done : call.run s = .ok later) (phase : (s.sock call.sock).state.Sent fins) :
    ∃ emitted, Advances s call.sock emitted later := by
  cases call with
  | process tsk cb tmp => exact (tcpProcess_step done).2.advances phase
  | close tsk => exact tcpSockClose_advances done phase

/-- A call on another sock. -/
theorem SockCall.elsewhere {s later : Stack} {call : SockCall} {tsk : SockPtr}
    (done : call.run s = .ok later) (different : call.sock ≠ tsk) (spares : call.Spares tsk) :
    (later.sock tsk).state = (s.sock tsk).state ∧
      (later.sock tsk).sndNxt = (s.sock tsk).sndNxt := by
  cases call with
  | process other cb tmp =>
      rw [(tcpProcess_step done).2.elsewhere different.symm spares]
      split
      · exact ⟨rfl, rfl⟩
      · exact ⟨rfl, rfl⟩
  | close other =>
      rw [(tcpSockClose_touches done).others tsk different.symm]
      exact ⟨rfl, rfl⟩

/-! ## Opening -/

/-- The segment opens a connection. -/
def Segment.Opens (sent : Segment) : Prop := sent.bearsSyn = true ∧ sent.bearsFin = false

theorem tcpBindHash_ok {s later : Stack} {tsk : SockPtr} (done : tcpBindHash s tsk = .ok later) :
    ∃ links, later = tcpSockIncRefCnt { s with links := links } tsk := by
  obtain ⟨middle, relinked, done⟩ := Outcome.bind_eq_ok.mp done
  obtain ⟨links, _, rfl⟩ := Stack.relink_eq_ok.mp relinked
  cases done
  exact ⟨links, rfl⟩

/-- An active open sends a SYN. -/
theorem tcpSockConnect_opens {s later : Stack} {tsk : SockPtr} {skaddr : SockAddr}
    {cursorIp : U32} {result : Option ℤ}
    (done : tcpSockConnect s tsk skaddr cursorIp = .ok (result, later)) :
    (∃ sent : Segment, later.out = s.out ++ [sent] ∧ sent.Opens) ∧
      (later.sock tsk).sndNxt = (s.sock tsk).sndNxt + 1 := by
  obtain ⟨port, _, done⟩ := Outcome.bind_eq_ok.mp done
  obtain ⟨bound, binding, done⟩ := Outcome.bind_eq_ok.mp done
  obtain ⟨⟨_, hashed⟩, hashing, done⟩ := Outcome.bind_eq_ok.mp done
  cases done
  have out : bound.out = s.out := by
    obtain ⟨links, rfl⟩ := tcpBindHash_ok binding
    rfl
  have sndNxt : (bound.sock tsk).sndNxt = (s.sock tsk).sndNxt := by
    obtain ⟨links, rfl⟩ := tcpBindHash_ok binding
    simp [tcpSockIncRefCnt_sock]
  have consumes : tcpSyn &&& (tcpSyn ||| tcpFin) ≠ 0 := by decide
  refine ⟨⟨(bound.sock tsk).controlSegment tcpSyn, ?_, ?_⟩, ?_⟩
  · rw [Stack.modify_out, tcpHash_out hashing, tcpSetState_out, tcpSendControlPacket_out, out]
  · show ((tcpSyn &&& tcpSyn != 0) = true) ∧ (tcpSyn &&& tcpFin != 0) = false
    decide
  · rw [Stack.modify_sock_self]
    show (hashed.sock tsk).sndNxt = _
    rw [tcpHash_field TcpSock.sndNxt hashing (fun _ _ => rfl), tcpSetState_sock, if_pos rfl,
      tcpSendControlPacket_sock, if_pos rfl, if_pos consumes, sndNxt]

/-- A passive open answers with a SYN. -/
theorem tcpProcessSyn_opens {s later : Stack} {tsk tmp : SockPtr} {cb : TcpCb}
    (done : tcpProcessSyn s tsk cb tmp = .ok later) :
    (∃ sent : Segment, later.out = s.out ++ [sent] ∧ sent.Opens) ∧
      (later.sock tmp).sndNxt = zeroedSock.sndNxt + 1 := by
  obtain ⟨links, result, hashing⟩ := tcpProcessSyn_ok done
  have consumes : (tcpSyn ||| tcpAck) &&& (tcpSyn ||| tcpFin) ≠ 0 := by decide
  refine ⟨⟨(synSock tsk cb).controlSegment (tcpSyn ||| tcpAck), ?_, ?_⟩, ?_⟩
  · rw [tcpHash_out hashing, answeredSyn, tcpSetState_out, tcpSendControlPacket_out]
    simp [madeForSyn, allocTcpSock]
  · show (((tcpSyn ||| tcpAck) &&& tcpSyn != 0) = true) ∧
      ((tcpSyn ||| tcpAck) &&& tcpFin != 0) = false
    decide
  · rw [tcpHash_field TcpSock.sndNxt hashing (fun _ _ => rfl), answeredSyn, tcpSetState_sock,
      if_pos rfl, tcpSendControlPacket_sock, if_pos rfl, if_pos consumes, madeForSyn,
      Stack.modify_sock_self]
    rfl

/-! ## The whole life -/

/-- The SYN comes first, no other follows it, and the FINs after it are counted
by the state and by `snd_nxt`. -/
structure Counted (start : U32) (sent : List Segment) (sk : TcpSock) : Prop where
  opened : ∃ syn rest, sent = syn :: rest ∧ syn.Opens ∧ ∀ later ∈ rest, later.bearsSyn = false
  state : sk.state.Sent (sent.countP Segment.bearsFin)
  sndNxt : sk.sndNxt = start + 1 + BitVec.ofNat 32 (sent.countP Segment.bearsFin)

namespace Counted

variable {start : U32} {sent : List Segment} {sk : TcpSock}

/-- A sock just opened. -/
theorem of_opens {syn : Segment} (opens : syn.Opens) (state : sk.state.beforeFin = true)
    (sndNxt : sk.sndNxt = start + 1) : Counted start [syn] sk := by
  have none : [syn].countP Segment.bearsFin = 0 := by
    simp [opens.2]
  refine ⟨⟨syn, [], rfl, opens, by simp⟩, .inl ⟨state, none⟩, ?_⟩
  rw [none, sndNxt]
  exact (BitVec.add_zero _).symm

theorem advances {s later : Stack} {tsk : SockPtr} {emitted : List Segment}
    (counted : Counted start sent (s.sock tsk)) (step : Advances s tsk emitted later) :
    Counted start (sent ++ emitted) (later.sock tsk) := by
  obtain ⟨syn, rest, rfl, opens, noSyn⟩ := counted.opened
  refine ⟨⟨syn, rest ++ emitted, rfl, opens, ?_⟩, ?_, ?_⟩
  · exact fun segment member => (List.mem_append.mp member).elim (noSyn segment)
      (step.noSyn segment)
  · rw [List.countP_append]
    exact step.state _ counted.state
  · rw [step.sndNxt, counted.sndNxt, List.countP_append, BitVec.ofNat_add, BitVec.add_assoc]

/-- The SYN-bearing and the FIN-bearing segments. -/
theorem countP_syn (counted : Counted start sent sk) : sent.countP Segment.bearsSyn = 1 := by
  obtain ⟨syn, rest, rfl, opens, noSyn⟩ := counted.opened
  rw [List.countP_cons_of_pos opens.1, List.countP_eq_zero.mpr fun later member => by
    simp [noSyn later member]]

theorem countP_either (counted : Counted start sent sk) :
    sent.countP (fun segment => segment.bearsSyn || segment.bearsFin) =
      1 + sent.countP Segment.bearsFin := by
  obtain ⟨syn, rest, rfl, opens, noSyn⟩ := counted.opened
  have notFin : ¬ syn.bearsFin = true := by simp [opens.2]
  rw [List.countP_cons_of_pos (by simp [opens.1]), List.countP_cons_of_neg notFin, Nat.add_comm]
  congr 1
  exact List.countP_congr fun later member => by simp [noSyn later member]

end Counted

theorem Life.counted {tsk : SockPtr} {start : U32} {sent : List Segment} {s : Stack}
    (life : Life tsk start sent s) : Counted start sent (s.sock tsk) := by
  induction life with
  | connect opened out =>
      obtain ⟨⟨syn, emits, opens⟩, sndNxt⟩ := tcpSockConnect_opens opened
      rw [List.append_cancel_left (out.symm.trans emits)]
      exact .of_opens opens (by rw [tcpSockConnect_state opened]; rfl) sndNxt
  | passive listening accepted flags processed out =>
      have done := (tcpProcess_step processed).2.syn_of_listen listening accepted flags
      obtain ⟨⟨syn, emits, opens⟩, sndNxt⟩ := tcpProcessSyn_opens done
      rw [List.append_cancel_left (out.symm.trans emits)]
      exact .of_opens opens (by rw [(tcpProcessSyn_acknowledges done).1]; rfl) sndNxt
  | own _ isOwn done out counted =>
      subst isOwn
      obtain ⟨emitted, step⟩ := SockCall.advances done counted.state
      rw [List.append_cancel_left (out.symm.trans step.out)]
      exact counted.advances step
  | other _ different spares done counted =>
      obtain ⟨state, sndNxt⟩ := SockCall.elsewhere done different spares
      exact ⟨counted.opened, state ▸ counted.state, sndNxt.trans counted.sndNxt⟩

/-- **One SYN and at most one FIN**, the SYN before the FIN, and `snd_nxt` is
ahead of its initial value by their number, whatever segments and closes follow
the opening of a sock. -/
theorem syn_fin_once {tsk : SockPtr} {start : U32} {sent : List Segment} {s : Stack}
    (life : Life tsk start sent s) :
    sent.countP Segment.bearsSyn ≤ 1 ∧ sent.countP Segment.bearsFin ≤ 1 ∧
      (∀ before fin after, sent = before ++ fin :: after → fin.bearsFin = true →
        (∃ syn ∈ before, syn.bearsSyn = true) ∧ ∀ later ∈ fin :: after, later.bearsSyn = false) ∧
      (s.sock tsk).sndNxt = start + BitVec.ofNat 32
        (sent.countP fun segment => segment.bearsSyn || segment.bearsFin) := by
  have counted := life.counted
  refine ⟨counted.countP_syn.le, ?_, ?_, ?_⟩
  · rcases counted.state with ⟨_, none⟩ | ⟨_, one⟩
    · omega
    · omega
  · intro before fin after split isFin
    obtain ⟨syn, rest, rfl, opens, noSyn⟩ := counted.opened
    cases before with
    | nil =>
        obtain ⟨rfl, _⟩ := List.cons.inj split
        exact absurd (opens.2.symm.trans isFin) (by decide)
    | cons first before =>
        obtain ⟨rfl, rfl⟩ := List.cons.inj split
        exact ⟨⟨syn, List.mem_cons_self, opens.1⟩,
          fun later member => noSyn later (List.mem_append_right _ member)⟩
  · rw [counted.countP_either, counted.sndNxt, BitVec.ofNat_add, BitVec.add_assoc]
    rfl

/-- An active open, the SYN+ACK of the peer, and a close. -/
theorem syn_fin_once_close :
    ∃ sent later, Life 1 0 sent later ∧ (later.sock 1).state = .finWait1 ∧
      sent.countP Segment.bearsSyn ≤ 1 ∧ sent.countP Segment.bearsFin ≤ 1 := by
  have opened : tcpSockConnect (allocTcpSock initTcpStack 1) 1 ⟨htonl 2, htons 80⟩ 1 =
    .ok (none, connectingStack) := rfl
  have answered : tcpProcess connectingStack 1 (segmentWith (tcpSyn ||| tcpAck) 0) 2 =
      .ok connectedStack := connectingStack_answered rfl
  have established : Life 1 0 _ connectedStack :=
    (Life.connect opened rfl).own (show (SockCall.process 1 _ 2).sock = 1 from rfl) answered
      (tcpProcessSynSent_out _ _)
  have life : Life 1 0 _ closingStack :=
    established.own (show (SockCall.close 1).sock = 1 from rfl) rfl rfl
  exact ⟨_, _, life, rfl, (syn_fin_once life).1, (syn_fin_once life).2.1⟩

end TcpStack
