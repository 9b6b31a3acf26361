import TcpStack.Sock.Listener

/-!
# What a packet leaves alone

A packet concerns the sock it is handed to, the parent of that sock and the sock
it makes. The record of any other sock stays as it is, whatever the state of the
stack (`ProcessStep.elsewhere`), and in a stack that is in order so does its place in
the tables (`handleTcpPacket_isolated`). A packet that is dropped leaves
everything alone.
-/

set_option autoImplicit false

namespace TcpStack

open Lib

/-! ## Records -/

/-- The parent of a sock, once the sock was queued for `accept` and the parent
was woken. -/
def TcpSock.queuedChild (sk : TcpSock) : TcpSock :=
  { sk with acceptBacklog := sk.acceptBacklog + 1, waitAccept := wakeUp sk.waitAccept }

/-- The segment ends the handshake of a passively opened sock. -/
def TcpCb.Establishes (cb : TcpCb) (sk : TcpSock) : Prop :=
  isTcpSeqValid sk cb = true ∧ sk.state = .synRecv ∧ cb.flags = tcpAck

instance (cb : TcpCb) (sk : TcpSock) : Decidable (cb.Establishes sk) :=
  inferInstanceAs (Decidable (_ ∧ _ ∧ _))

theorem answeredSyn_other (s : Stack) (tsk : SockPtr) (cb : TcpCb) (links : Heap Node)
    {tmp other : SockPtr} (notMade : other ≠ tmp) :
    (answeredSyn { madeForSyn s tsk cb tmp with links := links } tmp).sock other =
      s.sock other := by
  rw [answeredSyn, tcpSetState_sock, if_neg notMade, tcpSendControlPacket_sock, if_neg notMade]
  show (madeForSyn s tsk cb tmp).sock other = s.sock other
  rw [madeForSyn, Stack.modify_sock_of_ne _ _ notMade]
  exact Function.update_of_ne notMade _ _

/-- A passive open changes no sock but the one it makes. -/
theorem tcpProcessSyn_other {s later : Stack} {tsk tmp other : SockPtr} {cb : TcpCb}
    (done : tcpProcessSyn s tsk cb tmp = .ok later) (notMade : other ≠ tmp) :
    later.sock other = s.sock other := by
  obtain ⟨links, result, hashing⟩ := tcpProcessSyn_ok done
  rcases tcpHash_ok hashing with rfl | ⟨more, rfl⟩
  · exact answeredSyn_other s tsk cb links notMade
  · rw [tcpSockIncRefCnt_sock, if_neg notMade]
    exact answeredSyn_other s tsk cb links notMade

namespace ProcessStep

variable {s later : Stack} {tsk tmp other : SockPtr} {cb : TcpCb}

/-- A segment that ends no handshake changes no other sock. -/
theorem other_of_not_establishes (step : ProcessStep s tsk cb tmp later)
    (ends : ¬ cb.Establishes (s.sock tsk)) (different : other ≠ tsk) (notMade : other ≠ tmp) :
    later.sock other = s.sock other := by
  cases step with
  | dropped | ignored | answered => rfl
  | rst _ _ done =>
      rw [(tcpSockClose_touches done).others other different, tcpSendControlPacket_sock,
        if_neg different]
  | fin _ _ done => exact (tcpSockClose_touches done).others other different
  | syn _ _ _ done => exact tcpProcessSyn_other done notMade
  | ack accepted state isAck => exact absurd ⟨accepted, state, isAck⟩ ends
  | synSent =>
      rw [tcpProcessSynSent, Stack.modify_sock_of_ne _ _ different, tcpSendControlPacket_sock,
        if_neg different, tcpSetState_sock, if_neg different]

/-- A segment that ends a handshake queues the sock. -/
theorem queued_of_establishes (step : ProcessStep s tsk cb tmp later)
    (ends : cb.Establishes (s.sock tsk)) :
    ∃ queued, tcpSockAcceptEnqueue s tsk = .ok queued ∧ later = tcpProcessSynRecv queued tsk := by
  obtain ⟨accepted, state, isAck⟩ := ends
  cases step with
  | ack _ _ _ enqueued => exact ⟨_, enqueued, rfl⟩
  | dropped invalid => rw [accepted] at invalid; cases invalid
  | rst _ isRst => exact absurd (isAck.symm.trans isRst) (by decide)
  | fin _ isFin => exact absurd (isAck.symm.trans isFin) (by decide)
  | answered _ _ _ answered => simp [state, isAck] at answered
  | syn _ listening => rw [state] at listening; cases listening
  | synSent _ _ _ waiting => rw [state] at waiting; cases waiting
  | ignored _ _ _ _ _ notSynRecv => exact absurd state notSynRecv

/-- It changes the parent of the sock, and no other sock. -/
theorem other_of_establishes (step : ProcessStep s tsk cb tmp later)
    (ends : cb.Establishes (s.sock tsk)) (different : other ≠ tsk) :
    later.sock other = if other = (s.sock tsk).parent then (s.sock other).queuedChild
      else s.sock other := by
  obtain ⟨queued, enqueued, rfl⟩ := step.queued_of_establishes ends
  have parent : ((tcpSetState queued tsk .established).sock tsk).parent = (s.sock tsk).parent := by
    rw [tcpSetState_sock, if_pos rfl]
    exact tcpSockAcceptEnqueue_field TcpSock.parent enqueued (fun _ _ => rfl) tsk
  obtain ⟨links, rfl⟩ := tcpSockAcceptEnqueue_ok enqueued
  rw [tcpProcessSynRecv, parent]
  by_cases isParent : other = (s.sock tsk).parent
  · rw [if_pos isParent, ← isParent, Stack.modify_sock_self, tcpSetState_sock, if_neg different,
      Stack.modify_sock_self]
    rfl
  · rw [if_neg isParent, Stack.modify_sock_of_ne _ _ isParent, tcpSetState_sock, if_neg different,
      Stack.modify_sock_of_ne _ _ isParent]

/-- **What a segment does to a sock it is not handed to**: nothing, unless it
ends the handshake of a child of that sock. -/
theorem elsewhere (step : ProcessStep s tsk cb tmp later) (different : other ≠ tsk)
    (notMade : other ≠ tmp) :
    later.sock other =
      if cb.Establishes (s.sock tsk) ∧ other = (s.sock tsk).parent then (s.sock other).queuedChild
      else s.sock other := by
  by_cases ends : cb.Establishes (s.sock tsk)
  · simp only [step.other_of_establishes ends different, ends, true_and]
  · rw [step.other_of_not_establishes ends different notMade, if_neg fun both => ends both.1]

/-- What a segment that ends no handshake leaves alone in every sock. -/
theorem field_of_not_establishes {β : Type} (field : TcpSock → β)
    (keeps : ∀ (sk : TcpSock) (state : TcpState) (refCnt : ℤ) (sndNxt : U32) (wait : SynchWait),
      field { sk with state := state, refCnt := refCnt, sndNxt := sndNxt, waitConnect := wait } =
        field sk)
    (step : ProcessStep s tsk cb tmp later) (ends : ¬ cb.Establishes (s.sock tsk))
    (notMade : other ≠ tmp) : field (later.sock other) = field (s.sock other) := by
  have touched : ∀ {middle last : Stack}, middle.Touches tsk last →
      field (last.sock other) = field (middle.sock other) := fun touches =>
    touches.field field (fun sk state refCnt sndNxt =>
      keeps sk state refCnt sndNxt sk.waitConnect) other
  cases step with
  | dropped | ignored | answered => rfl
  | rst _ _ done =>
      exact (touched (tcpSockClose_touches done)).trans (touched (.sendControl _ _ _))
  | fin _ _ done => exact touched (tcpSockClose_touches done)
  | syn _ _ _ done => rw [tcpProcessSyn_other done notMade]
  | ack accepted state isAck => exact absurd ⟨accepted, state, isAck⟩ ends
  | synSent =>
      have woken : field ((tcpProcessSynSent s tsk).sock other) = field ((tcpSendControlPacket
          (tcpSetState s tsk .established) tsk tcpAck).sock other) :=
        Stack.modify_field field _ _ (fun sk => keeps sk sk.state sk.refCnt sk.sndNxt _) other
      exact woken.trans ((touched (.sendControl _ _ _)).trans (touched (.setState _ _ _)))

/-- What a segment leaves alone in every sock but the one it makes. -/
theorem field {β : Type} (field : TcpSock → β)
    (keeps : ∀ (sk : TcpSock) (state : TcpState) (refCnt : ℤ) (sndNxt : U32)
      (waitConnect waitAccept : SynchWait) (count : ℤ),
      field { sk with state := state, refCnt := refCnt, sndNxt := sndNxt,
                      waitConnect := waitConnect, waitAccept := waitAccept,
                      acceptBacklog := count } = field sk)
    (step : ProcessStep s tsk cb tmp later) (notMade : other ≠ tmp) :
    field (later.sock other) = field (s.sock other) := by
  by_cases ends : cb.Establishes (s.sock tsk)
  · obtain ⟨queued, enqueued, rfl⟩ := step.queued_of_establishes ends
    rw [tcpProcessSynRecv_field field (fun sk wait =>
        keeps sk sk.state sk.refCnt sk.sndNxt sk.waitConnect wait sk.acceptBacklog),
      (Stack.Touches.setState queued tsk .established).field field (fun sk state refCnt sndNxt =>
        keeps sk state refCnt sndNxt sk.waitConnect sk.waitAccept sk.acceptBacklog),
      tcpSockAcceptEnqueue_field field enqueued (fun sk count =>
        keeps sk sk.state sk.refCnt sk.sndNxt sk.waitConnect sk.waitAccept count)]
  · exact step.field_of_not_establishes field (fun sk state refCnt sndNxt wait =>
      keeps sk state refCnt sndNxt wait sk.waitAccept sk.acceptBacklog) ends notMade

/-- A segment makes at most one sock. -/
theorem allocated_sub (step : ProcessStep s tsk cb tmp later) : s.allocated ⊆ later.allocated := by
  cases step with
  | dropped | ignored | answered => exact List.Subset.refl _
  | rst _ _ done =>
      rw [(tcpSockClose_touches done).allocated, tcpSendControlPacket_allocated]
      exact List.Subset.refl _
  | fin _ _ done =>
      rw [(tcpSockClose_touches done).allocated]
      exact List.Subset.refl _
  | syn _ _ _ done =>
      obtain ⟨links, result, hashing⟩ := tcpProcessSyn_ok done
      rcases tcpHash_ok hashing with rfl | ⟨more, rfl⟩
      · simp
      · simp
  | ack _ _ _ enqueued =>
      obtain ⟨links, rfl⟩ := tcpSockAcceptEnqueue_ok enqueued
      exact List.Subset.refl _
  | synSent => simp [tcpProcessSynSent]

/-- A segment that the sock does not accept changes nothing. -/
theorem eq_of_dropped (step : ProcessStep s tsk cb tmp later)
    (invalid : isTcpSeqValid (s.sock tsk) cb = false) : later = s := by
  cases step with
  | dropped | ignored => rfl
  | rst accepted | fin accepted | answered accepted | syn accepted | ack accepted
  | synSent accepted =>
      rw [invalid] at accepted
      cases accepted

end ProcessStep

/-! ## Tables -/

/-- A sock has the same place in the three tables of two stacks. -/
structure Stack.SamePlaces (s later : Stack) (tsk : SockPtr) : Prop where
  established : ∀ bucket, tsk ∈ later.entries (.establishedTable bucket) ↔
    tsk ∈ s.entries (.establishedTable bucket)
  listen : ∀ bucket, tsk ∈ later.entries (.listenTable bucket) ↔
    tsk ∈ s.entries (.listenTable bucket)
  bind : ∀ bucket, tsk ∈ later.entries (.bindTable bucket) ↔ tsk ∈ s.entries (.bindTable bucket)

theorem Stack.SamePlaces.refl (s : Stack) (tsk : SockPtr) : s.SamePlaces s tsk :=
  ⟨fun _ => Iff.rfl, fun _ => Iff.rfl, fun _ => Iff.rfl⟩

/-- A sock left aside stays in its buckets. -/
theorem Stack.Aside.samePlaces {s later : Stack} {socks moved : Sequences} {tsk : SockPtr}
    (aside : s.Aside socks later moved tsk) (shape : s.Shape socks)
    (laterShape : later.Shape moved) : s.SamePlaces later tsk := by
  have place : ∀ head, s.IsHead head → later.IsHead head →
      (tsk ∈ later.entries head ↔ tsk ∈ s.entries head) := by
    intro head isHead isLater
    rw [shape.entries_eq isHead, laterShape.entries_eq isLater, aside.places head isLater,
      and_iff_right isHead]
  exact ⟨fun bucket => place (.establishedTable bucket) trivial trivial,
    fun bucket => place (.listenTable bucket) trivial trivial,
    fun bucket => place (.bindTable bucket) trivial trivial⟩

/-! ## Packets -/

section Packet

variable {s later : Stack} {packet : Memory U8} {ip tcp : ℕ} {tsk tmp : SockPtr}

theorem handleTcpPacket_mismatch (wrong : checksumMatches packet ip tcp = false) :
    handleTcpPacket s packet ip tcp tmp = .ok s := by
  simp [handleTcpPacket, wrong, pure, Except.pure]

/-- A packet that is handled has a wrong checksum, or goes to a sock. -/
theorem handleTcpPacket_cases (done : handleTcpPacket s packet ip tcp tmp = .ok later) :
    checksumMatches packet ip tcp = false ∧ later = s ∨
      checksumMatches packet ip tcp = true ∧
        ∃ tsk, tcpSockLookup s (tcpCbInit packet ip tcp) = .ok tsk ∧ tsk ≠ 0 ∧
          ProcessStep s tsk (tcpCbInit packet ip tcp) tmp later := by
  cases matching : checksumMatches packet ip tcp with
  | false =>
      rw [handleTcpPacket_mismatch matching] at done
      cases done
      exact .inl ⟨rfl, rfl⟩
  | true =>
      cases found : tcpSockLookup s (tcpCbInit packet ip tcp) with
      | error fault => simp [handleTcpPacket, matching, found, Stack.stopOn, bind, Except.bind]
          at done
      | ok tsk =>
          rw [handleTcpPacket_routed matching found] at done
          obtain ⟨notNull, step⟩ := tcpProcess_step done
          exact .inr ⟨rfl, tsk, rfl, notNull, step⟩

/-- The records of the socks a packet does not concern. -/
theorem handleTcpPacket_sock (done : handleTcpPacket s packet ip tcp tmp = .ok later)
    (found : tcpSockLookup s (tcpCbInit packet ip tcp) = .ok tsk) {other : SockPtr}
    (different : other ≠ tsk) (notParent : other ≠ (s.sock tsk).parent) (notMade : other ≠ tmp) :
    later.sock other = s.sock other := by
  rcases handleTcpPacket_cases done with ⟨_, rfl⟩ | ⟨_, reached, lookup, _, step⟩
  · rfl
  · obtain rfl : reached = tsk := Except.ok.inj (lookup.symm.trans found)
    rw [step.elsewhere different notMade, if_neg fun ends => notParent ends.2]

/-- The places of the socks a packet is not handed to. -/
theorem handleTcpPacket_places {socks : Sequences} (sound : s.Sound socks) (notNull : tmp ≠ 0)
    (absent : tmp ∉ s.allocated) (done : handleTcpPacket s packet ip tcp tmp = .ok later)
    (found : tcpSockLookup s (tcpCbInit packet ip tcp) = .ok tsk) {other : SockPtr}
    (member : other ∈ s.allocated) (different : other ≠ tsk) : s.SamePlaces later other := by
  cases matching : checksumMatches packet ip tcp with
  | false =>
      rw [handleTcpPacket_mismatch matching] at done
      cases done
      exact .refl s other
  | true =>
      rw [handleTcpPacket_routed matching found] at done
      obtain ⟨reached, lookup, routed⟩ := sound.shape.lookup (tcpCbInit packet ip tcp)
      obtain rfl : reached = tsk := Except.ok.inj (lookup.symm.trans found)
      have hashed := routed.resolve_left (tcpProcess_step done).1
      obtain ⟨moved, inOrder, aside⟩ := sound.process hashed notNull absent _
      rw [done, Outcome.stack_ok] at inOrder aside
      have notMade : other ≠ tmp := ne_of_mem_of_not_mem member absent
      exact (aside other notMade fun same => absurd same different).samePlaces sound.shape
        inOrder.shape

/-- **A packet leaves alone every sock but the one it is handed to and the parent
of that one**: the record of such a sock stays as it is, and in a stack in order
so do its places in the tables. A packet with a wrong checksum, or one that the
sock does not accept, changes nothing and emits nothing. -/
theorem handleTcpPacket_isolated (s later : Stack) (packet : Memory U8) (ip tcp : ℕ)
    (tmp : SockPtr) (notNull : tmp ≠ 0) (absent : tmp ∉ s.allocated)
    (done : handleTcpPacket s packet ip tcp tmp = .ok later) :
    (∀ tsk, tcpSockLookup s (tcpCbInit packet ip tcp) = .ok tsk →
      ∀ other ∈ s.allocated, other ≠ tsk → other ≠ (s.sock tsk).parent →
        later.sock other = s.sock other ∧
          ∀ socks, s.Sound socks → s.SamePlaces later other) ∧
    (checksumMatches packet ip tcp = false → later = s) ∧
    (∀ tsk, tcpSockLookup s (tcpCbInit packet ip tcp) = .ok tsk →
      isTcpSeqValid (s.sock tsk) (tcpCbInit packet ip tcp) = false → later = s) := by
  refine ⟨fun tsk found other member different notParent => ⟨?_, fun socks sound => ?_⟩, ?_, ?_⟩
  · have notMade : other ≠ tmp := ne_of_mem_of_not_mem member absent
    exact handleTcpPacket_sock done found different notParent notMade
  · exact handleTcpPacket_places sound notNull absent done found member different
  · intro wrong
    rw [handleTcpPacket_mismatch wrong] at done
    cases done
    rfl
  · intro tsk found dropped
    rcases handleTcpPacket_cases done with ⟨_, rfl⟩ | ⟨_, reached, lookup, _, step⟩
    · rfl
    · obtain rfl : reached = tsk := Except.ok.inj (lookup.symm.trans found)
      exact step.eq_of_dropped dropped

end Packet

/-- A listener and a sock just allocated. -/
def listenerAndSpare : Stack := allocTcpSock listeningStack 2

/-- An ACK that the listener answers leaves the other sock as it was. -/
theorem handleTcpPacket_isolated_spare :
    ∃ later, handleTcpPacket listenerAndSpare (clientPacket tcpAck) packetToIpHdr tcpPlace 3 =
      .ok later ∧ later.sock 2 = listenerAndSpare.sock 2 := by
  have found : tcpSockLookup listenerAndSpare (tcpCbInit (clientPacket tcpAck) packetToIpHdr
      tcpPlace) = .ok 1 := by
    rw [(clientPacket_delivers tcpAck).received]
    rfl
  have done : ∃ later, handleTcpPacket listenerAndSpare (clientPacket tcpAck) packetToIpHdr
      tcpPlace 3 = .ok later := by
    rw [handleTcpPacket_routed (clientPacket_delivers tcpAck).matching found,
      (clientPacket_delivers tcpAck).received]
    exact ⟨_, tcpProcess_answered (by decide) rfl (by decide) (by decide)
      (.inr (.inl ⟨rfl, by decide⟩))⟩
  obtain ⟨later, done⟩ := done
  exact ⟨later, done, ((handleTcpPacket_isolated _ later _ _ _ 3 (by decide) (by decide) done).1 1
    found 2 (by decide) (by decide) (by decide)).1⟩

end TcpStack
