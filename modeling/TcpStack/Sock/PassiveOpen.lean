import TcpStack.Sock.Teardown
import TcpStack.Sock.Backlog
import TcpStack.Lib.SerialNumber

/-!
# The passive open

A listener answers a SYN with a child, and the ACK of the peer establishes it.
The steps on the way are looked at one by one.

* The window test comes before the state is looked at, and a listener has the
  window that `alloc_tcp_sock` gave it. A SYN is answered if its sequence number
  is in that window, so two SYNs are treated alike exactly when both numbers are
  in it or neither is (`syn_alike_iff`).
* The child is queued at the parent of the listener instead of at the listener.
  A listener made by the application has no parent, so no SYN gets through
  (`syn_stops`).
* The child is established by any segment whose flags are exactly ACK. What the
  segment acknowledges is not looked at (`established_acknowledged_iff`).
-/

set_option autoImplicit false

namespace TcpStack

open Lib

/-! ## What a sock keeps -/

/-- The fields of a sock that nothing writes after `alloc_tcp_sock` and the
branch that makes a child. -/
def TcpSock.origin (sk : TcpSock) : SockPtr × U32 × U16 := (sk.parent, sk.rcvNxt, sk.rcvWnd)

/-- Every sock of the first stack is in the second one, with its origin. -/
structure Stack.Keeps (s later : Stack) : Prop where
  grows : s.allocated ⊆ later.allocated
  origin : ∀ tsk ∈ s.allocated, (later.sock tsk).origin = (s.sock tsk).origin

namespace Stack.Keeps

variable {s middle later : Stack} {tsk : SockPtr}

theorem refl (s : Stack) : s.Keeps s := ⟨List.Subset.refl _, fun _ _ => rfl⟩

theorem trans (first : s.Keeps middle) (second : middle.Keeps later) : s.Keeps later where
  grows := List.Subset.trans first.grows second.grows
  origin := fun tsk member =>
    (second.origin tsk (first.grows member)).trans (first.origin tsk member)

theorem modify (s : Stack) (tsk : SockPtr) {change : TcpSock → TcpSock}
    (keeps : ∀ sk, (change sk).origin = sk.origin) : s.Keeps (s.modify tsk change) where
  grows := List.Subset.refl _
  origin := fun other _ => s.modify_field TcpSock.origin tsk keeps other

/-- A change of a record that writes no origin, and what follows it. -/
theorem after {change : TcpSock → TcpSock} (rest : (s.modify tsk change).Keeps later)
    (keeps : ∀ sk, (change sk).origin = sk.origin) : s.Keeps later :=
  (modify s tsk keeps).trans rest

theorem relinked (s : Stack) (links : Heap Node) : s.Keeps { s with links := links } :=
  ⟨List.Subset.refl _, fun _ _ => rfl⟩

theorem touched (touches : s.Touches tsk later) : s.Keeps later where
  grows := by
    rw [touches.allocated]
    exact List.Subset.refl _
  origin := fun other _ => touches.field TcpSock.origin (fun _ _ _ _ => rfl) other

theorem alloc (s : Stack) (absent : tsk ∉ s.allocated) : s.Keeps (allocTcpSock s tsk) where
  grows := List.subset_cons_self _ _
  origin := by
    intro other member
    have different : other ≠ tsk := ne_of_mem_of_not_mem member absent
    exact congrArg TcpSock.origin (Function.update_of_ne different _ _)

theorem hash {result : ℤ} (done : tcpHash s tsk = .ok (result, later)) : s.Keeps later := by
  rcases tcpHash_ok done with rfl | ⟨links, rfl⟩
  · exact .refl _
  · exact (relinked s links).trans (.modify _ _ fun _ => rfl)

theorem bindHash (done : tcpBindHash s tsk = .ok later) : s.Keeps later := by
  obtain ⟨links, rfl⟩ := tcpBindHash_ok done
  exact (relinked s links).trans (.modify _ _ fun _ => rfl)

theorem process {cb : TcpCb} {tmp : SockPtr} (step : ProcessStep s tsk cb tmp later)
    (absent : tmp ∉ s.allocated) : s.Keeps later where
  grows := step.allocated_sub
  origin := fun _ member => step.field TcpSock.origin (fun _ _ _ _ _ _ _ => rfl)
    (ne_of_mem_of_not_mem member absent)

theorem dequeue {popped : Node} (done : tcpSockAcceptDequeue s tsk = .ok (popped, later)) :
    s.Keeps later := by
  obtain ⟨links, rfl⟩ := tcpSockAcceptDequeue_ok done
  exact (relinked s links).trans (.modify _ _ fun _ => rfl)

theorem bind {skaddr : SockAddr} {result : ℤ}
    (done : tcpSockBind s tsk skaddr = .ok (result, later)) : s.Keeps later := by
  rcases tcpSockSetSport_ok done with rfl | ⟨chosen, hashed⟩
  · exact .refl _
  · exact (bindHash hashed).after fun _ => rfl

theorem listen {backlog result : ℤ}
    (done : tcpSockListen s tsk backlog = .ok (result, later)) : s.Keeps later := by
  have hashed : tcpHash (tcpSetState (s.modify tsk fun sk => { sk with backlog := backlog }) tsk
    .listen) tsk = .ok (result, later) := done
  exact ((touched (.setState _ tsk .listen)).trans (hash hashed)).after fun _ => rfl

theorem connect {skaddr : SockAddr} {cursorIp : U32} {result : Option ℤ}
    (done : tcpSockConnect s tsk skaddr cursorIp = .ok (result, later)) : s.Keeps later := by
  obtain ⟨port, _, done⟩ := Outcome.bind_eq_ok.mp done
  obtain ⟨bound, binding, done⟩ := Outcome.bind_eq_ok.mp done
  obtain ⟨⟨_, hashed⟩, hashing, done⟩ := Outcome.bind_eq_ok.mp done
  cases done
  have opened : s.Keeps hashed := (((bindHash binding).trans
    ((touched (.sendControl _ tsk tcpSyn)).trans ((touched (.setState _ tsk .synSent)).trans
      (hash hashing)))).after fun _ => rfl).after fun _ => rfl
  exact opened.trans (modify _ tsk fun _ => rfl)

theorem accept {popped : Option Node} (done : tcpSockAccept s tsk = .ok (popped, later)) :
    s.Keeps later := by
  obtain ⟨before, called, rest⟩ := tcpSockAccept_ok done
  have same : s.Keeps before := by
    rcases called with rfl | rfl
    · exact .refl before
    · exact modify s tsk fun _ => rfl
  rcases rest with rfl | ⟨node, dequeued⟩
  · exact same
  · exact same.trans (dequeue dequeued)

/-- **No event writes the origin of a sock.** -/
theorem event {event : Event} (possible : event.Possible s) (done : event.run s = .ok later) :
    s.Keeps later := by
  cases event with
  | alloc tsk =>
      cases done
      exact .alloc s possible.2
  | bind tsk skaddr =>
      obtain ⟨⟨result, final⟩, called, done⟩ := Outcome.bind_eq_ok.mp done
      cases done
      exact bind called
  | listen tsk backlog =>
      obtain ⟨⟨result, final⟩, called, done⟩ := Outcome.bind_eq_ok.mp done
      cases done
      exact listen called
  | connect tsk skaddr cursorIp =>
      obtain ⟨⟨result, final⟩, called, done⟩ := Outcome.bind_eq_ok.mp done
      cases done
      exact connect called
  | connectWoken tsk =>
      cases done
      have woken : s.Keeps (s.modify tsk fun sk =>
        { sk with waitConnect := sleepOnWoken sk.waitConnect }) := modify s tsk fun _ => rfl
      exact woken
  | accept tsk =>
      obtain ⟨⟨result, final⟩, called, done⟩ := Outcome.bind_eq_ok.mp done
      cases done
      exact accept called
  | acceptWoken tsk =>
      obtain ⟨⟨result, final⟩, called, done⟩ := Outcome.bind_eq_ok.mp done
      cases done
      exact (dequeue called).after fun _ => rfl
  | close tsk => exact touched (tcpSockClose_touches done)
  | arrive packet ip tcp tmp =>
      rcases handleTcpPacket_cases done with ⟨_, rfl⟩ | ⟨_, tsk, _, _, step⟩
      · exact .refl _
      · exact process step possible.2

theorem run {allowed : Stack → Event → Prop} (run : Run allowed s later) : s.Keeps later := by
  induction run with
  | refl => exact .refl s
  | tail _ step ih =>
      obtain ⟨event, possible, _, done⟩ := step
      exact ih.trans (.event possible done)

end Stack.Keeps

/-- A sock made by the application has no parent, and its receive window starts
at zero. -/
theorem allocated_origin {allowed : Stack → Event → Prop} {start s : Stack} {tsk : SockPtr}
    (run : Run allowed (allocTcpSock start tsk) s) :
    (s.sock tsk).origin = (0, 0, tcpDefaultWindow) := by
  rw [(Stack.Keeps.run run).origin tsk List.mem_cons_self]
  have made : (allocTcpSock start tsk).sock tsk = zeroedSock := Function.update_self _ _ _
  rw [made]
  rfl

/-! ## The SYN -/

/-- A bare SYN with the given sequence number, and else like the segment. -/
def TcpCb.synAt (cb : TcpCb) (seq : U32) : TcpCb :=
  { cb with seq := seq, seqEnd := seq + BitVec.ofInt 32 cb.plLen + 1, flags := tcpSyn }

/-- The sequence number is before the end of the window of a new sock, and the
sequence number behind the segment is not before its start. -/
def InFirstWindow (seq : U32) (plLen : ℤ) : Prop :=
  (seq.toNat < 65535 ∨ 2147549183 ≤ seq.toNat) ∧
    (seq + BitVec.ofInt 32 plLen + 1).toNat ≤ 2147483648

/-- There is a child of the listener with the addresses and ports of the segment. -/
structure Stack.HasChild (s : Stack) (tsk : SockPtr) (cb : TcpCb) (tmp : SockPtr) : Prop where
  made : tmp ∈ s.allocated
  parent : (s.sock tmp).parent = tsk
  source : (s.sock tmp).skSip = cb.daddr ∧ (s.sock tmp).skSport = cb.dport
  dest : (s.sock tmp).skDip = cb.saddr ∧ (s.sock tmp).skDport = cb.sport

/-- The window test of a sock that has received nothing. -/
theorem isTcpSeqValid_synAt {sk : TcpSock} {parent : SockPtr}
    (origin : sk.origin = (parent, 0, tcpDefaultWindow)) (cb : TcpCb) (seq : U32) :
    isTcpSeqValid sk (cb.synAt seq) = true ↔ InFirstWindow seq cb.plLen := by
  have rcvNxt : sk.rcvNxt = 0 := congrArg (fun fields => fields.2.1) origin
  have rcvWnd : sk.rcvWnd = tcpDefaultWindow := congrArg (fun fields => fields.2.2) origin
  have rcvEnd : (0 : U32) + (if tcpDefaultWindow > 1 then tcpDefaultWindow.setWidth 32 else 1) =
      65535 := by decide
  have before := seq.isLt
  have behind := (seq + BitVec.ofInt 32 cb.plLen + 1).isLt
  rw [isTcpSeqValid, rcvNxt, rcvWnd, rcvEnd, Bool.and_eq_true, lessThan32b, lessOrEqual32b,
    decide_eq_true_iff, decide_eq_true_iff, sub_toInt_neg_iff, sub_toInt_nonpos_iff,
    BitVec.toNat_sub, BitVec.toNat_sub]
  simp only [TcpCb.synAt, InFirstWindow, show (65535 : U32).toNat = 65535 from rfl,
    show (0 : U32).toNat = 0 from rfl]
  omega

section Syn

variable {allowed : Stack → Event → Prop} {start s : Stack} {tsk tmp : SockPtr}

/-- **No SYN gets through to a child.** The queue the child is added to is that of
the parent of the listener, and a listener made by the application has none. -/
theorem tcpProcess_syn_orphan (run : Run allowed (allocTcpSock start tsk) s) (notNull : tsk ≠ 0)
    (listening : (s.sock tsk).state = .listen) {cb : TcpCb}
    (accepted : isTcpSeqValid (s.sock tsk) cb = true) (isSyn : cb.flags = tcpSyn)
    (absent : tmp ∉ s.allocated) :
    tcpProcess s tsk cb tmp = .error ⟨.badPointer, madeForSyn s tsk cb tmp⟩ := by
  have member : tsk ∈ s.allocated := (Stack.Keeps.run run).grows List.mem_cons_self
  have orphan : (s.sock tsk).parent = 0 := congrArg Prod.fst (allocated_origin run)
  rw [tcpProcess_syn notNull accepted (by rw [isSyn]; decide) (by rw [isSyn]; decide) listening
    isSyn]
  exact tcpProcessSyn_orphan cb (ne_of_mem_of_not_mem member absent) orphan

/-- A child is made exactly when the sequence number is in the window, whether
the call returns or stops the program. -/
theorem hasChild_iff (run : Run allowed (allocTcpSock start tsk) s) (notNull : tsk ≠ 0)
    (listening : (s.sock tsk).state = .listen) (absent : tmp ∉ s.allocated) (cb : TcpCb)
    (seq : U32) : (tcpProcess s tsk (cb.synAt seq) tmp).stack.HasChild tsk cb tmp ↔
      InFirstWindow seq cb.plLen := by
  rw [← isTcpSeqValid_synAt (allocated_origin run)]
  cases accepted : isTcpSeqValid (s.sock tsk) (cb.synAt seq) with
  | false =>
      rw [tcpProcess_dropped notNull accepted]
      exact iff_of_false (fun child => absent child.made) (by decide)
  | true =>
      rw [tcpProcess_syn_orphan run notNull listening accepted rfl absent]
      have child : (madeForSyn s tsk (cb.synAt seq) tmp).sock tmp = synSock tsk (cb.synAt seq) := by
        rw [madeForSyn, Stack.modify_sock_self]
      refine iff_of_true ⟨List.mem_cons_self, ?_, ⟨?_, ?_⟩, ⟨?_, ?_⟩⟩ rfl <;>
        · rw [Outcome.stack_error, child]
          rfl

/-- **Two SYNs are treated alike exactly when both sequence numbers are in the
window of the listener, or neither is.** -/
theorem syn_alike_iff (run : Run allowed (allocTcpSock start tsk) s) (notNull : tsk ≠ 0)
    (listening : (s.sock tsk).state = .listen) (absent : tmp ∉ s.allocated) (cb : TcpCb)
    (first second : U32) :
    ((tcpProcess s tsk (cb.synAt first) tmp).stack.HasChild tsk cb tmp ↔
        (tcpProcess s tsk (cb.synAt second) tmp).stack.HasChild tsk cb tmp) ↔
      (InFirstWindow first cb.plLen ↔ InFirstWindow second cb.plLen) := by
  rw [hasChild_iff run notNull listening absent, hasChild_iff run notNull listening absent]

/-- The child is filed under its listener: at the tail of the listen queue, in
`TCP_SYN_RECV` and in the established table, and the end of its handshake moves it
to the accept queue of the same listener. -/
structure Stack.FilesChild (s later : Stack) (tsk : SockPtr) (cb : TcpCb) (tmp : SockPtr) :
    Prop where
  queued : later.entries (.listenQueue tsk) = s.entries (.listenQueue tsk) ++ [tmp]
  child : later.HasChild tsk cb tmp
  state : (later.sock tmp).state = .synRecv
  hashed : later.InEstablished tmp
  moves : ∃ moved, tcpSockAcceptEnqueue later tmp = .ok moved ∧
    tmp ∉ moved.entries (.listenQueue tsk) ∧ tmp ∈ moved.entries (.acceptQueue tsk)

/-- **No SYN is answered.** Whatever children are pending, the SYN that a listener
accepts stops the program before the child is queued. -/
theorem syn_unanswered (run : Run allowed (allocTcpSock start tsk) s) (notNull : tsk ≠ 0)
    (listening : (s.sock tsk).state = .listen) {cb : TcpCb}
    (accepted : isTcpSeqValid (s.sock tsk) cb = true) (isSyn : cb.flags = tcpSyn)
    (absent : tmp ∉ s.allocated) :
    (∃ stopped, tcpProcess s tsk cb tmp = .error ⟨.badPointer, stopped⟩) ∧
      ¬∃ later, tcpProcess s tsk cb tmp = .ok later ∧ s.FilesChild later tsk cb tmp := by
  have stops := tcpProcess_syn_orphan run notNull listening accepted isSyn absent
  refine ⟨⟨_, stops⟩, ?_⟩
  rintro ⟨later, done, _⟩
  rw [stops] at done
  cases done

end Syn

/-- A new sock accepts an empty SYN with one of 65536 sequence numbers. -/
theorem inFirstWindow_empty (seq : U32) : InFirstWindow seq 0 ↔ (seq + 1).toNat < 65536 := by
  have bound := seq.isLt
  have next : (seq + BitVec.ofInt 32 0 + 1).toNat = (seq.toNat + 1) % 4294967296 := by
    rw [show BitVec.ofInt 32 0 = 0#32 from rfl, BitVec.add_zero, BitVec.toNat_add]
    rfl
  have plain : (seq + 1).toNat = (seq.toNat + 1) % 4294967296 := BitVec.toNat_add seq 1
  rw [InFirstWindow, next, plain]
  omega

theorem listeningStack_opened :
    Run (fun _ _ => True) (allocTcpSock initTcpStack 1) listeningStack := by
  have bound : Step (fun _ _ => True) (allocTcpSock initTcpStack 1) boundStack :=
    ⟨.bind 1 ⟨0, htons 80⟩, List.mem_cons_self, trivial, rfl⟩
  have member : 1 ∈ boundStack.allocated := by decide
  exact (Relation.ReflTransGen.single bound).tail ⟨.listen 1 4, member, trivial, rfl⟩

/-- A SYN without payload. -/
def emptySyn (seq : U32) : TcpCb := (segmentWith tcpSyn 0).synAt seq

/-- The numbers 0 and 1 are both in the window. -/
theorem syn_alike_first_numbers :
    (tcpProcess listeningStack 1 (emptySyn 0) 2).stack.HasChild 1 (segmentWith tcpSyn 0) 2 ↔
      (tcpProcess listeningStack 1 (emptySyn 1) 2).stack.HasChild 1 (segmentWith tcpSyn 0) 2 :=
  (syn_alike_iff listeningStack_opened (by decide) (by decide) (by decide) (segmentWith tcpSyn 0)
    0 1).mpr (iff_of_true ((inFirstWindow_empty 0).mpr (by decide))
      ((inFirstWindow_empty 1).mpr (by decide)))

/-- **A peer that starts at 100000 is refused where one that starts at 0 is not.** -/
theorem syn_not_alike : ¬∀ (allowed : Stack → Event → Prop) (start s : Stack) (tsk tmp : SockPtr),
    Run allowed (allocTcpSock start tsk) s → tsk ≠ 0 → (s.sock tsk).state = .listen →
    tmp ∉ s.allocated → ∀ (cb : TcpCb) (first second : U32),
      ((tcpProcess s tsk (cb.synAt first) tmp).stack.HasChild tsk cb tmp ↔
        (tcpProcess s tsk (cb.synAt second) tmp).stack.HasChild tsk cb tmp) := by
  intro always
  have alike := always _ _ _ 1 2 listeningStack_opened (by decide) (by decide) (by decide)
    (segmentWith tcpSyn 0) 0 100000
  rw [hasChild_iff listeningStack_opened (by decide) (by decide) (by decide),
    hasChild_iff listeningStack_opened (by decide) (by decide) (by decide)] at alike
  exact absurd (alike.mp ((inFirstWindow_empty 0).mpr (by decide)))
    fun inside => absurd ((inFirstWindow_empty 100000).mp inside) (by decide)

theorem syn_unanswered_listening : (emptySyn 0).flags = tcpSyn ∧
    ∃ stopped, tcpProcess listeningStack 1 (emptySyn 0) 2 = .error ⟨.badPointer, stopped⟩ :=
  ⟨rfl, (syn_unanswered listeningStack_opened (by decide) (by decide) (by decide) rfl
    (by decide)).1⟩

/-- **The first SYN to a listener follows a null pointer.** -/
theorem syn_filed_fails : ¬∀ (allowed : Stack → Event → Prop) (start s : Stack)
    (tsk tmp : SockPtr), Run allowed (allocTcpSock start tsk) s → tsk ≠ 0 →
    (s.sock tsk).state = .listen → tmp ∉ s.allocated → ∀ cb : TcpCb,
      isTcpSeqValid (s.sock tsk) cb = true → cb.flags = tcpSyn →
        ∃ later, tcpProcess s tsk cb tmp = .ok later ∧ s.FilesChild later tsk cb tmp := by
  intro always
  obtain ⟨later, done, _⟩ := always _ _ _ 1 2 listeningStack_opened (by decide) (by decide)
    (by decide) (emptySyn 0) (by decide) rfl
  rw [tcpProcess_syn_orphan listeningStack_opened (by decide) (by decide) (by decide) rfl
    (by decide)] at done
  cases done

/-! ## The ACK -/

/-- The segment acknowledges the SYN of a passively opened sock. -/
def TcpCb.AcksSyn (cb : TcpCb) (sk : TcpSock) : Prop :=
  cb.bears tcpAck = true ∧ cb.ack = sk.sndNxt

/-- A segment establishes a sock in `TCP_SYN_RECV` exactly when it is accepted and
its flags are exactly ACK. -/
theorem ProcessStep.established_iff {s later : Stack} {tsk tmp : SockPtr} {cb : TcpCb}
    (step : ProcessStep s tsk cb tmp later) (opening : (s.sock tsk).state = .synRecv) :
    (later.sock tsk).state = .established ↔ cb.Establishes (s.sock tsk) := by
  constructor
  · intro reached
    cases step with
    | dropped | ignored | answered =>
        have stays : (s.sock tsk).state = .established := reached
        rw [opening] at stays
        cases stays
    | rst _ _ done | fin _ _ done =>
        rw [tcpSockClose_state done] at reached
        exact absurd reached (TcpState.afterClose_ne_established _)
    | syn _ listening =>
        rw [opening] at listening
        cases listening
    | ack accepted state isAck => exact ⟨accepted, state, isAck⟩
    | synSent _ _ _ waiting =>
        rw [opening] at waiting
        cases waiting
  · intro ends
    obtain ⟨queued, _, rfl⟩ := step.queued_of_establishes ends
    rw [tcpProcessSynRecv_field TcpSock.state (fun _ _ => rfl), tcpSetState_sock, if_pos rfl]

/-- Only a segment for the sock establishes it. -/
theorem SockStep.established_iff {s later : Stack} {tsk : SockPtr} {call : SockCall}
    (step : SockStep tsk s call later) (opening : (s.sock tsk).state = .synRecv) :
    (later.sock tsk).state = .established ↔
      ∃ cb tmp, call = .process tsk cb tmp ∧ cb.Establishes (s.sock tsk) := by
  obtain ⟨spares, done⟩ := step
  constructor
  · intro reached
    by_cases own : call.sock = tsk
    · subst own
      cases call with
      | close tsk =>
          rw [SockCall.sock, tcpSockClose_state done] at reached
          exact absurd reached (TcpState.afterClose_ne_established _)
      | process tsk cb tmp =>
          exact ⟨cb, tmp, rfl, ((tcpProcess_step done).2.established_iff opening).mp reached⟩
    · rw [(SockCall.elsewhere done own spares).1, opening] at reached
      cases reached
  · rintro ⟨cb, tmp, rfl, ends⟩
    exact ((tcpProcess_step done).2.established_iff opening).mpr ends

/-- **When a passive open is completed by an acknowledgement of its SYN only.**
Along every run of segments and closes, each segment that takes the sock from
`TCP_SYN_RECV` to `TCP_ESTABLISHED` acknowledges the SYN of the sock if and only if
each bare ACK that the sock accepts there does. -/
theorem established_acknowledged_iff {tsk : SockPtr} {start last : Stack}
    {visits : List (Visit Stack SockCall)} (run : Trace (SockStep tsk) start visits last) :
    (∀ visit ∈ visits, (visit.before.sock tsk).state = .synRecv →
        (visit.after.sock tsk).state = .established →
          ∃ cb tmp, visit.label = .process tsk cb tmp ∧ cb.AcksSyn (visit.before.sock tsk)) ↔
      ∀ visit ∈ visits, ∀ cb tmp, visit.label = .process tsk cb tmp →
        cb.Establishes (visit.before.sock tsk) → cb.ack = (visit.before.sock tsk).sndNxt := by
  apply run.forall_iff
  rintro ⟨before, call, after⟩ step
  constructor
  · rintro acknowledged cb tmp rfl ends
    obtain ⟨other, _, same, acks⟩ := acknowledged ends.2.1
      ((step.established_iff ends.2.1).mpr ⟨cb, tmp, rfl, ends⟩)
    cases same
    exact acks.2
  · intro checked opening reached
    obtain ⟨cb, tmp, rfl, ends⟩ := (step.established_iff opening).mp reached
    refine ⟨cb, tmp, rfl, ?_, checked cb tmp rfl ends⟩
    rw [TcpCb.bears, ends.2.2]
    decide

/-- A child of the listener that has answered the SYN. -/
def halfOpenStack : Stack :=
  (allocTcpSock listeningStack 2).modify 2 fun sk =>
    { sk with parent := 1, sndNxt := 1, state := .synRecv }

/-- A bare ACK of the given number. -/
def ackOf (number : U32) : TcpCb := { segmentWith tcpAck 0 with ack := number }

/-- The stack after an ACK for the child. -/
def openStack : Stack := tcpProcessSynRecv (tcpSockAcceptEnqueue halfOpenStack 2).stack 2

/-- Any bare ACK establishes the child. -/
theorem ackOf_step (number : U32) :
    SockStep 2 halfOpenStack (.process 2 (ackOf number) 3) openStack := by
  have accepted : isTcpSeqValid (halfOpenStack.sock 2) (ackOf number) = true :=
    show isTcpSeqValid (halfOpenStack.sock 2) (ackOf 0) = true by decide
  have enqueued : tcpSockAcceptEnqueue halfOpenStack 2 =
      .ok (tcpSockAcceptEnqueue halfOpenStack 2).stack := rfl
  refine ⟨show (2 : SockPtr) ≠ 3 by decide, ?_⟩
  rw [SockCall.run, tcpProcess_ack (by decide) accepted (show tcpAck ≠ tcpRst by decide)
    (show tcpAck ≠ tcpFin by decide) (by decide) rfl, enqueued]
  rfl

/-- The child is established by the ACK of its SYN. -/
theorem established_acknowledged_handshake :
    ∃ cb tmp, SockCall.process 2 (ackOf 1) 3 = .process 2 cb tmp ∧
      cb.AcksSyn (halfOpenStack.sock 2) := by
  have run := Trace.start.step (ackOf_step 1)
  refine (established_acknowledged_iff run).mpr ?_ _ List.mem_cons_self (by decide) (by decide)
  intro visit member cb tmp same _
  obtain rfl := List.mem_singleton.mp member
  cases same
  decide

/-- **A forged acknowledgement establishes the child.** -/
theorem established_unacknowledged : ¬∀ (tsk : SockPtr) (start last : Stack)
    (visits : List (Visit Stack SockCall)), Trace (SockStep tsk) start visits last →
      ∀ visit ∈ visits, (visit.before.sock tsk).state = .synRecv →
        (visit.after.sock tsk).state = .established →
          ∃ cb tmp, visit.label = .process tsk cb tmp ∧ cb.AcksSyn (visit.before.sock tsk) := by
  intro always
  obtain ⟨cb, tmp, same, _, acks⟩ := always 2 halfOpenStack _ _
    (Trace.start.step (ackOf_step 12345)) _ List.mem_cons_self (by decide) (by decide)
  cases same
  exact absurd acks (by decide)

end TcpStack
