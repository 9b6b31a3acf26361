import TcpStack.Sock.Sound

/-!
# The arrival of a packet

A packet keeps a stack in order, whatever its bytes are and whether processing
it returns or stops the program. The lookup hands it to a hashed sock or to none
(`Stack.Shape.lookup`). A passive open makes one sock (`Stack.Sound.passiveOpen`),
the end of a handshake queues one (`Stack.Sound.establish`), and every packet
leaves aside all socks but the one made and the one it is handed to
(`Stack.Sound.process`).
-/

set_option autoImplicit false

namespace TcpStack

open Lib

/-! ## Routing -/

/-- The lookup finds no sock or a hashed one. -/
theorem Stack.Shape.lookup {s : Stack} {socks : Sequences} (shape : s.Shape socks) (cb : TcpCb) :
    ∃ tsk, tcpSockLookup s cb = .ok tsk ∧ (tsk = 0 ∨ s.Hashed tsk) := by
  have hashedOf : ∀ {head : Node} {wanted : SockPtr → Bool}, s.IsHead head →
      head.slot = Node.hashList →
      ((socks head).find? wanted).getD 0 = 0 ∨ s.Hashed (((socks head).find? wanted).getD 0) := by
    intro head wanted isHead slot
    cases found : (socks head).find? wanted with
    | none => exact .inl rfl
    | some tsk =>
        exact .inr (shape.hashed_iff.mpr ⟨head, isHead, slot, List.mem_of_find?_eq_some found⟩)
  simp only [tcpSockLookup, shape.lookupEstablished_eq, shape.lookupListen_eq, bind, Except.bind,
    pure, Except.pure]
  split
  · exact ⟨_, rfl, hashedOf (s.isHead_listen _) rfl⟩
  · exact ⟨_, rfl, hashedOf (s.isHead_established _) rfl⟩

/-- A sock that the lookup finds is hashed. -/
theorem Stack.Shape.hashed_of_lookup {s : Stack} {socks : Sequences} {tsk : SockPtr} {cb : TcpCb}
    (shape : s.Shape socks) (found : tcpSockLookup s cb = .ok tsk) (notNull : tsk ≠ 0) :
    s.Hashed tsk := by
  obtain ⟨reached, lookup, routed⟩ := shape.lookup cb
  obtain rfl : reached = tsk := Except.ok.inj (lookup.symm.trans found)
  exact routed.resolve_left notNull

/-! ## Records -/

namespace Stack.Aside

variable {s middle later : Stack} {socks moved : Sequences} {tsk other : SockPtr}

/-- A change of the records that keeps the state and the references of a sock. -/
theorem congr (aside : s.Aside socks middle moved other) (links : later.links = middle.links)
    (allocated : later.allocated = middle.allocated) (freed : later.freed = middle.freed)
    (state : (later.sock other).state = (middle.sock other).state)
    (refCnt : (later.sock other).refCnt = (middle.sock other).refCnt) :
    s.Aside socks later moved other where
  state := state.trans aside.state
  refCnt := refCnt.trans aside.refCnt
  released := by
    rw [Stack.Released, freed]
    exact aside.released
  places := by
    rw [Stack.isHead_congr allocated]
    exact aside.places
  bindNode := by
    rw [links]
    exact aside.bindNode

theorem refl (s : Stack) (socks : Sequences) (other : SockPtr) : s.Aside socks s socks other :=
  ⟨rfl, rfl, Iff.rfl, fun _ isHead => (and_iff_right isHead).symm, fun _ => rfl⟩

end Stack.Aside

namespace Stack.Sound

variable {s : Stack} {socks : Sequences} {tsk tmp : SockPtr}

theorem sendControl (sound : s.Sound socks) (tsk : SockPtr) (flags : U8) :
    (tcpSendControlPacket s tsk flags).Sound socks ∧
      ∀ other, s.Aside socks (tcpSendControlPacket s tsk flags) socks other := by
  have state := tcpSendControlPacket_state s tsk flags
  have refCnt : ∀ other, ((tcpSendControlPacket s tsk flags).sock other).refCnt =
      (s.sock other).refCnt := by
    intro other
    rw [tcpSendControlPacket_sock]
    split
    · rename_i same
      rw [same]
    · rfl
  exact ⟨sound.congr (by simp) (by simp) (Stack.Touches.sendControl s tsk flags).parent
    fun other _ => state other,
    fun other => (Stack.Aside.refl s socks other).congr (by simp) (by simp) (by simp) (state other)
      (refCnt other)⟩

/-- A sock in `TCP_SYN_SENT` that gets any segment. -/
theorem synSent (sound : s.Sound socks) :
    (tcpProcessSynSent s tsk).Sound socks ∧
      ∀ other, other ≠ tsk → s.Aside socks (tcpProcessSynSent s tsk) socks other := by
  have established : (tcpSetState s tsk .established).Sound socks := by
    have state : ((tcpSetState s tsk .established).sock tsk).state = .established := by
      rw [tcpSetState_sock, if_pos rfl]
    exact sound.touched (.setState s tsk _) rfl (by simp [state]) (by simp [state])
  obtain ⟨sent, sentAside⟩ := established.sendControl tsk tcpAck
  refine ⟨sent.modify (fun _ => rfl) (fun _ => rfl), fun other different => ?_⟩
  have aside : s.Aside socks (tcpSetState s tsk .established) socks other :=
    .touched (.setState s tsk _) (socks.movesOnly_refl tsk) (by simp) other different
  exact (aside.trans (sentAside other) fun _ => id).congr rfl rfl rfl
    (by rw [tcpProcessSynSent, Stack.modify_sock_of_ne _ _ different])
    (by rw [tcpProcessSynSent, Stack.modify_sock_of_ne _ _ different])

/-- The end of a handshake: the sock is queued for `accept` and established. -/
theorem establish (sound : s.Sound socks) (member : tsk ∈ s.allocated)
    (state : (s.sock tsk).state = .synRecv) :
    ∃ queued moved, tcpSockAcceptEnqueue s tsk = .ok queued ∧
      (tcpProcessSynRecv queued tsk).Sound moved ∧
      (∀ other, other ≠ tsk → s.Aside socks (tcpProcessSynRecv queued tsk) moved other) ∧
      (s.BindReady socks tsk → (tcpProcessSynRecv queued tsk).BindReady moved tsk) ∧
      ∀ place, place.slot ≠ Node.list → moved place = socks place := by
  obtain ⟨links, moved, enqueued, inOrder, aside, ready, tables⟩ :=
    sound.enqueue member (sound.children tsk member state)
  refine ⟨_, moved, enqueued, ?_, fun other different => ?_, ready, tables⟩
  · have counted : (({ s with links := links } : Stack).modify (s.sock tsk).parent fun sk =>
        { sk with acceptBacklog := sk.acceptBacklog + 1 }).Sound moved :=
      inOrder.modify (fun _ => rfl) (fun _ => rfl)
    have established := counted.touched (.setState _ tsk .established) rfl
      (by simp [tcpSetState_sock]) (by simp [tcpSetState_sock])
    exact established.modify (fun _ => rfl) (fun _ => rfl)
  · refine (aside other different).congr rfl rfl rfl ?_ ?_
    · rw [tcpProcessSynRecv_field TcpSock.state (fun _ _ => rfl), tcpSetState_sock,
        if_neg different, tcpSockAcceptEnqueue_field TcpSock.state enqueued (fun _ _ => rfl)]
    · rw [tcpProcessSynRecv_field TcpSock.refCnt (fun _ _ => rfl), tcpSetState_sock,
        if_neg different, tcpSockAcceptEnqueue_field TcpSock.refCnt enqueued (fun _ _ => rfl)]

/-- The sock a passive open makes is queued at the parent of the listener. -/
theorem queuedSyn (sound : s.Sound socks) (member : tsk ∈ s.allocated) (notNull : tmp ≠ 0)
    (absent : tmp ∉ s.allocated) {parent : SockPtr} (isParent : parent ∈ s.allocated)
    (cb : TcpCb) :
    ∃ links moved, (madeForSyn s tsk cb tmp).links.listAddTail Node.valid (.list tmp)
        (.listenQueue parent) = .ok links ∧
      (answeredSyn { madeForSyn s tsk cb tmp with links := links } tmp).Sound moved ∧
      (∀ other, other ≠ tmp → s.Aside socks
        (answeredSyn { madeForSyn s tsk cb tmp with links := links } tmp) moved other) ∧
      (answeredSyn { madeForSyn s tsk cb tmp with links := links } tmp).BindReady moved tmp ∧
      ¬ (answeredSyn { madeForSyn s tsk cb tmp with links := links } tmp).Hashed tmp ∧
      tmp ∈ moved (.listenQueue parent) := by
  obtain ⟨made, madeAside⟩ : (madeForSyn s tsk cb tmp).Sound (socks.withSock tmp) ∧ _ :=
    sound.alloc (synSock tsk cb) notNull absent (.inr member) rfl
  have isHead : (madeForSyn s tsk cb tmp).IsHead (.listenQueue parent) :=
    List.mem_cons_of_mem _ isParent
  have nowhere : ∀ place, (madeForSyn s tsk cb tmp).IsHead place →
      tmp ∉ socks.withSock tmp place := by
    intro place isPlace inside
    obtain ⟨before, inside⟩ := (Sequences.mem_withSock absent isPlace).mp inside
    exact absent (sound.shape.allocated place tmp before inside)
  obtain ⟨links, added, queued, queuedAside, ready⟩ := made.addTail List.mem_cons_self isHead rfl
    fun place isPlace inside => nowhere place isPlace (Stack.Shape.mem_queue isPlace inside).2
  obtain ⟨sent, sentAside⟩ := queued.sendControl tmp (tcpSyn ||| tcpAck)
  have notOrphan : ((tcpSendControlPacket { madeForSyn s tsk cb tmp with links := links } tmp
      (tcpSyn ||| tcpAck)).sock tmp).parent ≠ 0 := by
    rw [tcpSendControlPacket_sock, if_pos rfl]
    simpa [madeForSyn, synSock] using sound.shape.ne_null member
  have answered := sent.touched (.setState _ tmp .synRecv) rfl (by simp [tcpSetState_sock])
    fun _ => notOrphan
  have zeroed : (madeForSyn s tsk cb tmp).BindReady (socks.withSock tmp) tmp :=
    .inr (by simp [madeForSyn, allocTcpSock, Heap.initListHead])
  refine ⟨links, _, added, answered, fun other different => ?_, ?_, ?_, by simp⟩
  · have before := (madeAside other different).trans (queuedAside other different)
      (List.subset_cons_self _ _)
    have after := (sentAside other).trans (.touched (.setState _ tmp .synRecv)
      (Sequences.movesOnly_refl _ tmp) (by simp) other different) (by simp)
    exact before.trans after (List.subset_cons_self _ _)
  · exact (ready zeroed).transfer (fun _ => id) fun _ => by simp
  · intro hashed
    obtain ⟨head, isHead, slot, inside⟩ := answered.shape.hashed_iff.mp hashed
    refine nowhere head (Stack.isHead_mono (by simp) isHead) ?_
    rwa [Sequences.update_of_slot_ne (slot ▸ Node.hashList_ne_list)] at inside

/-- A passive open makes a sock and moves no other. It stops the program when
the listener has no parent. -/
theorem passiveOpen (sound : s.Sound socks) (member : tsk ∈ s.allocated) (notNull : tmp ≠ 0)
    (absent : tmp ∉ s.allocated) (cb : TcpCb) :
    ∃ moved, (tcpProcessSyn s tsk cb tmp).stack.Sound moved ∧
      (∀ other, other ≠ tmp →
        s.Aside socks (tcpProcessSyn s tsk cb tmp).stack moved other) ∧
      ((∃ later, tcpProcessSyn s tsk cb tmp = .ok later) ↔ (s.sock tsk).parent ≠ 0) ∧
      ∀ later, tcpProcessSyn s tsk cb tmp = .ok later →
        later.allocated = tmp :: s.allocated ∧ later.freed = s.freed ∧
        later.BindReady moved tmp ∧ (later.sock tmp).state = .synRecv ∧
        (∃ parent ∈ s.allocated, tmp ∈ moved (.listenQueue parent)) ∧
        ((later.sock tmp).refCnt = 0 ∨ (later.sock tmp).refCnt = 1 ∧ later.Hashed tmp) := by
  have different : tsk ≠ tmp := ne_of_mem_of_not_mem member absent
  have parent := madeForSyn_parent s cb different
  rcases sound.parents tsk member with null | isParent
  · obtain ⟨made, aside⟩ : (madeForSyn s tsk cb tmp).Sound (socks.withSock tmp) ∧ _ :=
      sound.alloc (synSock tsk cb) notNull absent (.inr member) rfl
    rw [tcpProcessSyn_orphan cb different null]
    refine ⟨_, made, aside, ⟨?_, fun isParent => absurd null isParent⟩, ?_⟩
    · rintro ⟨_, ⟨⟩⟩
    · rintro _ ⟨⟩
  · obtain ⟨links, between, added, answered, aside, ready, unhashed, queued⟩ :=
      sound.queuedSyn member notNull absent isParent cb
    have made : tmp ∈ (answeredSyn { madeForSyn s tsk cb tmp with links := links }
        tmp).allocated := by simp
    obtain ⟨result, later, moved, hashed, inOrder, hashAside, hashReady, linked⟩ :=
      answered.hash made unhashed
    have opens : tcpProcessSyn s tsk cb tmp = .ok later := by
      rw [tcpProcessSyn_eq, parent, added]
      simp only [Stack.relink, hashed, bind, Except.bind, pure, Except.pure]
    rw [opens, Outcome.stack_ok]
    refine ⟨moved, inOrder, fun other apart => (aside other apart).trans (hashAside other apart) ?_,
      ⟨fun _ => sound.shape.ne_null isParent, fun _ => ⟨later, rfl⟩⟩, ?_⟩
    · simp
    · rintro _ ⟨⟩
      have refCnt : ((answeredSyn { madeForSyn s tsk cb tmp with links := links } tmp).sock
          tmp).refCnt = 0 := by
        simp [answeredSyn, tcpSetState_sock, tcpSendControlPacket_sock, madeForSyn, synSock,
          zeroedSock]
      have state : (later.sock tmp).state = .synRecv := by
        rw [tcpHash_field TcpSock.state hashed (fun _ _ => rfl), answeredSyn, tcpSetState_sock,
          if_pos rfl]
      rcases linked with ⟨rfl, rfl, _⟩ | ⟨more, head, isHead, slot, rfl, rfl⟩
      · exact ⟨by simp, by simp, hashReady ready, state, ⟨_, isParent, queued⟩, .inl refCnt⟩
      · have still : tmp ∈ Function.update between head (tmp :: between head)
            (.listenQueue (s.sock tsk).parent) := by
          rwa [Sequences.update_of_slot_ne (slot ▸ Node.hashList_ne_list.symm)]
        refine ⟨by simp, by simp, hashReady ready, state, ⟨_, isParent, still⟩, .inr ⟨?_, ?_⟩⟩
        · rw [tcpSockIncRefCnt_sock, if_pos rfl]
          show _ + 1 = 1
          rw [refCnt, zero_add]
        · exact inOrder.shape.hashed_iff.mpr
            ⟨head, Stack.isHead_mono (by simp) isHead, slot, by simp⟩

end Stack.Sound

/-! ## One packet -/

/-- The segment closes the sock it is handed to, whatever the state of the
sock: it is accepted, and its flags are exactly RST or exactly FIN. -/
def TcpCb.Closes (cb : TcpCb) (sk : TcpSock) : Prop :=
  isTcpSeqValid sk cb = true ∧ (cb.flags = tcpRst ∨ cb.flags = tcpFin)

instance (cb : TcpCb) (sk : TcpSock) : Decidable (cb.Closes sk) :=
  inferInstanceAs (Decidable (_ ∧ _))

namespace Stack.Sound

variable {s : Stack} {socks : Sequences} {tsk tmp : SockPtr}

/-- Closing a hashed sock keeps the stack in order and moves no other sock. -/
theorem close_hashed (sound : s.Sound socks) (hashed : s.Hashed tsk) :
    ∃ moved, (tcpSockClose s tsk).stack.Sound moved ∧
      ∀ other, other ≠ tsk → s.Aside socks (tcpSockClose s tsk).stack moved other := by
  by_cases listening : (s.sock tsk).state = .listen
  · obtain ⟨moved, closed, aside, _⟩ := sound.close_listen listening hashed
    exact ⟨moved, closed, aside⟩
  · obtain ⟨closed, aside⟩ := sound.close listening
    exact ⟨socks, closed, aside⟩

/-- **A segment keeps the stack in order and moves no sock but the one it is
handed to and the one it makes.** A listener it is handed to stays where it is
unless the segment closes it. -/
theorem process (sound : s.Sound socks) (hashed : s.Hashed tsk) (notNull : tmp ≠ 0)
    (absent : tmp ∉ s.allocated) (cb : TcpCb) :
    ∃ moved, (tcpProcess s tsk cb tmp).stack.Sound moved ∧
      ∀ other, other ≠ tmp →
        (other = tsk → (s.sock tsk).state = .listen ∧ ¬ cb.Closes (s.sock tsk)) →
          s.Aside socks (tcpProcess s tsk cb tmp).stack moved other := by
  obtain ⟨head, isHead, slot, inside⟩ := sound.shape.hashed_iff.mp hashed
  have member := sound.shape.allocated head tsk isHead inside
  refine tcpProcess_cases (motive := fun result => ∃ moved, result.stack.Sound moved ∧
    ∀ other, other ≠ tmp →
      (other = tsk → (s.sock tsk).state = .listen ∧ ¬ cb.Closes (s.sock tsk)) →
        s.Aside socks result.stack moved other) (sound.shape.ne_null member) ?_ ?_ ?_ ?_ ?_ ?_ ?_ ?_
  · exact fun _ => ⟨socks, sound, fun other _ _ => .refl s socks other⟩
  · intro accepted isRst
    obtain ⟨sent, sentAside⟩ := sound.sendControl tsk tcpAck
    have still : (tcpSendControlPacket s tsk tcpAck).Hashed tsk :=
      sent.shape.hashed_iff.mpr ⟨head, Stack.isHead_mono (by simp) isHead, slot, inside⟩
    obtain ⟨moved, closed, aside⟩ := sent.close_hashed still
    refine ⟨moved, closed, fun other _ spared => ?_⟩
    have different : other ≠ tsk := fun same => (spared same).2 ⟨accepted, .inl isRst⟩
    exact (sentAside other).trans (aside other different) (by simp)
  · intro accepted isFin
    obtain ⟨moved, closed, aside⟩ := sound.close_hashed hashed
    exact ⟨moved, closed, fun other _ spared =>
      aside other fun same => (spared same).2 ⟨accepted, .inr isFin⟩⟩
  · intro _ _ _ _
    exact ⟨socks, sound.congr rfl rfl (fun _ => rfl) (fun _ _ => rfl), fun other _ _ =>
      (Stack.Aside.refl s socks other).congr rfl rfl rfl rfl rfl⟩
  · intro _ _ _
    obtain ⟨moved, opened, aside, _⟩ := sound.passiveOpen member notNull absent cb
    exact ⟨moved, opened, fun other apart _ => aside other apart⟩
  · intro _ state _
    obtain ⟨queued, moved, enqueued, established, aside, _⟩ := sound.establish member state
    rw [enqueued]
    refine ⟨moved, established, fun other _ spared => aside other fun same => ?_⟩
    rw [(spared same).1] at state
    cases state
  · intro _ _ _ state
    obtain ⟨established, aside⟩ := sound.synSent
    refine ⟨socks, established, fun other _ spared => aside other fun same => ?_⟩
    rw [(spared same).1] at state
    cases state
  · exact fun _ _ _ _ _ _ _ => ⟨socks, sound, fun other _ _ => .refl s socks other⟩

/-- A packet keeps the stack in order, and leaves aside every listener it does
not close. -/
theorem handle (sound : s.Sound socks) (packet : Memory U8) (ip tcp : ℕ) (notNull : tmp ≠ 0)
    (absent : tmp ∉ s.allocated) :
    ∃ moved, (handleTcpPacket s packet ip tcp tmp).stack.Sound moved ∧
      ∀ other ∈ s.allocated, (s.sock other).state = .listen →
        (checksumMatches packet ip tcp = true →
          tcpSockLookup s (tcpCbInit packet ip tcp) = .ok other →
            ¬ (tcpCbInit packet ip tcp).Closes (s.sock other)) →
        s.Aside socks (handleTcpPacket s packet ip tcp tmp).stack moved other := by
  cases matching : checksumMatches packet ip tcp with
  | false =>
      have dropped : handleTcpPacket s packet ip tcp tmp = .ok s := by
        simp [handleTcpPacket, matching, pure, Except.pure]
      rw [dropped]
      exact ⟨socks, sound, fun other _ _ _ => .refl s socks other⟩
  | true =>
      obtain ⟨tsk, found, routed⟩ := sound.shape.lookup (tcpCbInit packet ip tcp)
      rw [handleTcpPacket_routed matching found]
      rcases routed with rfl | hashed
      · have stops : tcpProcess s 0 (tcpCbInit packet ip tcp) tmp = .error ⟨.badPointer, s⟩ := rfl
        rw [stops]
        exact ⟨socks, sound, fun other _ _ _ => .refl s socks other⟩
      · obtain ⟨moved, processed, aside⟩ := sound.process hashed notNull absent _
        refine ⟨moved, processed, fun other member listening spared =>
          aside other (ne_of_mem_of_not_mem member absent) ?_⟩
        rintro rfl
        exact ⟨listening, spared rfl found⟩

end Stack.Sound

end TcpStack
