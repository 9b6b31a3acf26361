import TcpStack.Sock.Isolation

/-!
# Waiting for the reply

`tcp_sock_connect` sends the SYN first, then changes the state, then links the
sock in the established table, and packets arrive whenever they like. A reply finds
its sock from the moment on at which the sock was linked, and only if no other
sock had its 4-tuple then (`reply_finds_sock_iff`).
-/

set_option autoImplicit false

namespace TcpStack

open Lib

/-! ## The established table -/

section Table

variable {s later : Stack} {socks moved : Sequences} {tsk tmp : SockPtr} {cb : TcpCb}

/-- The pointers determine the sequences. -/
theorem Stack.Shape.sequence_eq {head : Node} (first : s.Shape socks) (second : s.Shape moved)
    (isHead : s.IsHead head) : moved head = socks head :=
  (second.entries_eq isHead).symm.trans (first.entries_eq isHead)

/-- Nothing with the 4-tuple of a sock is in a bucket. -/
def Stack.TupleFree (s : Stack) (tsk : SockPtr) : Prop :=
  ∀ other ∈ s.entries (.establishedTable (s.sock tsk).bucket),
    (s.sock other).tuple ≠ (s.sock tsk).tuple

/-- A sock that opens a connection is linked exactly if its 4-tuple is free. -/
theorem Stack.Shape.tcpHash_cases (shape : s.Shape socks) (member : tsk ∈ s.allocated)
    (unhashed : ¬ s.Hashed tsk) (notClosed : (s.sock tsk).state ≠ .closed)
    (notListen : (s.sock tsk).state ≠ .listen) {result : ℤ}
    (done : tcpHash s tsk = .ok (result, later)) :
    ¬ s.TupleFree tsk ∧ later = s ∨
      s.TupleFree tsk ∧ ∃ links, later = tcpSockIncRefCnt { s with links := links } tsk ∧
        ({ s with links := links } : Stack).Shape
          (Function.update socks (.establishedTable (s.sock tsk).bucket)
            (tsk :: socks (.establishedTable (s.sock tsk).bucket))) ∧
        ∀ node, s.Outside socks node → node ≠ .hashList tsk → links node = s.links node := by
  by_cases free : s.TupleFree tsk
  · have distinct := free
    rw [Stack.TupleFree, shape.established_entries] at distinct
    obtain ⟨links, hashed, shaped, kept⟩ :=
      shape.tcpHash_free member unhashed notClosed notListen distinct
    cases done.symm.trans hashed
    exact .inr ⟨free, links, rfl, shaped, kept⟩
  · have taken := free
    rw [Stack.TupleFree, shape.established_entries] at taken
    push Not at taken
    obtain ⟨other, inside, same⟩ := taken
    cases done.symm.trans (shape.tcpHash_taken notClosed notListen inside same)
    exact .inl ⟨free, rfl⟩

/-- The stages of a passive open that returns. -/
theorem Stack.Sound.passiveOpen_ok (sound : s.Sound socks) (member : tsk ∈ s.allocated)
    (notNull : tmp ≠ 0) (absent : tmp ∉ s.allocated)
    (done : tcpProcessSyn s tsk cb tmp = .ok later) :
    ∃ links between result,
      (answeredSyn { madeForSyn s tsk cb tmp with links := links } tmp).Sound between ∧
      (∀ other, other ≠ tmp → s.Aside socks
        (answeredSyn { madeForSyn s tsk cb tmp with links := links } tmp) between other) ∧
      ¬ (answeredSyn { madeForSyn s tsk cb tmp with links := links } tmp).Hashed tmp ∧
      tcpHash (answeredSyn { madeForSyn s tsk cb tmp with links := links } tmp) tmp =
        .ok (result, later) := by
  have different : tsk ≠ tmp := ne_of_mem_of_not_mem member absent
  rw [tcpProcessSyn_eq, madeForSyn_parent s cb different] at done
  rcases sound.parents tsk member with null | isParent
  · rw [null, Heap.listAddTail_of_dangling rfl] at done
    cases done
  · obtain ⟨links, between, added, answered, aside, _, unhashed, _⟩ :=
      sound.queuedSyn member notNull absent isParent cb
    rw [added] at done
    obtain ⟨queued, relinked, done⟩ := Outcome.bind_eq_ok.mp done
    cases relinked
    obtain ⟨⟨result, last⟩, hashing, done⟩ := Outcome.bind_eq_ok.mp done
    cases done
    exact ⟨links, between, result, answered, aside, unhashed, hashing⟩

/-- The sock a passive open makes enters a bucket only if its 4-tuple is free
there. -/
theorem Stack.Sound.established_syn (sound : s.Sound socks) (member : tsk ∈ s.allocated)
    (notNull : tmp ≠ 0) (absent : tmp ∉ s.allocated)
    (done : tcpProcessSyn s tsk cb tmp = .ok later) (shape : later.Shape moved) {bucket : U8}
    {other : SockPtr} (inside : other ∈ moved (.establishedTable bucket)) :
    other ∈ socks (.establishedTable bucket) ∨
      ∀ earlier ∈ socks (.establishedTable bucket),
        (s.sock earlier).tuple ≠ (later.sock other).tuple := by
  obtain ⟨links, between, result, answered, aside, unhashed, hashing⟩ :=
    sound.passiveOpen_ok member notNull absent done
  have outside : tmp ∉ between (.establishedTable bucket) := fun here =>
    unhashed (answered.shape.hashed_iff.mpr ⟨_, Stack.isHead_established _ bucket, rfl, here⟩)
  have before : ∀ earlier, earlier ≠ tmp →
      (earlier ∈ between (.establishedTable bucket) ↔ earlier ∈ socks (.establishedTable bucket)) :=
    fun earlier different =>
      ((aside earlier different).places _ (Stack.isHead_established _ bucket)).trans
        (and_iff_right (s.isHead_established bucket))
  have stays : ∀ earlier ∈ between (.establishedTable bucket),
      earlier ∈ socks (.establishedTable bucket) := fun earlier here =>
    (before earlier fun same => outside (same ▸ here)).mp here
  set made := answeredSyn { madeForSyn s tsk cb tmp with links := links } tmp
  have state : (made.sock tmp).state = .synRecv := by
    simp only [made, answeredSyn, tcpSetState_sock, if_pos]
  rcases answered.shape.tcpHash_cases (by simp [made]) unhashed (by simp [state])
    (by simp [state]) hashing with ⟨_, rfl⟩ | ⟨free, more, rfl, shaped, _⟩
  · rw [answered.shape.sequence_eq shape (Stack.isHead_established _ bucket)] at inside
    exact .inl (stays other inside)
  · rw [Stack.TupleFree, answered.shape.established_entries] at free
    have linked : (tcpSockIncRefCnt { made with links := more } tmp).Shape _ :=
      shaped.congr rfl rfl
    rw [linked.sequence_eq shape (Stack.isHead_established _ bucket)] at inside
    rcases Sequences.mem_front.mp inside with ⟨here, rfl⟩ | inside
    · cases here
      right
      intro earlier was
      have existing := sound.shape.allocated _ earlier (s.isHead_established _) was
      have different : earlier ≠ other := ne_of_mem_of_not_mem existing absent
      have distinct := free earlier ((before earlier different).mpr was)
      rw [answeredSyn_other s tsk cb links different] at distinct
      rw [tcpSockIncRefCnt_tuple]
      exact distinct
    · exact .inl (stays other inside)

/-- A close brings no sock into the established table. -/
theorem Stack.Sound.established_close (sound : s.Sound socks) (hashed : s.Hashed tsk)
    (done : tcpSockClose s tsk = .ok later) (shape : later.Shape moved) {bucket : U8}
    {other : SockPtr} (inside : other ∈ moved (.establishedTable bucket)) :
    other ∈ socks (.establishedTable bucket) := by
  have isHead := later.isHead_established bucket
  by_cases listening : (s.sock tsk).state = .listen
  · obtain ⟨between, inOrder, aside, _, own⟩ := sound.close_listen listening hashed
    rw [done, Outcome.stack_ok] at inOrder aside
    rw [inOrder.shape.sequence_eq shape isHead] at inside
    by_cases same : other = tsk
    · subst same
      exact (((own later done).2.2 _ (s.isHead_established bucket)).mp inside).1
    · exact (((aside other same).places _ isHead).mp inside).2
  · have links := (tcpSockClose_quiet listening).2
    rw [done, Outcome.stack_ok] at links
    have kept := sound.shape.congr links (tcpSockClose_touches done).allocated
    rwa [kept.sequence_eq shape isHead] at inside

/-- **A segment brings a sock into a bucket of the established table only if its
4-tuple is free there.** -/
theorem ProcessStep.established_sub (step : ProcessStep s tsk cb tmp later) (sound : s.Sound socks)
    (hashed : s.Hashed tsk) (notNull : tmp ≠ 0) (absent : tmp ∉ s.allocated)
    (shape : later.Shape moved) {bucket : U8} {other : SockPtr}
    (inside : other ∈ moved (.establishedTable bucket)) :
    other ∈ socks (.establishedTable bucket) ∨
      ∀ earlier ∈ socks (.establishedTable bucket),
        (s.sock earlier).tuple ≠ (later.sock other).tuple := by
  obtain ⟨head, isHead, slot, linked⟩ := sound.shape.hashed_iff.mp hashed
  have member := sound.shape.allocated head tsk isHead linked
  have same : later.links = s.links → later.allocated = s.allocated →
      other ∈ socks (.establishedTable bucket) := by
    intro links allocated
    rwa [(sound.shape.congr links allocated).sequence_eq shape (later.isHead_established bucket)]
      at inside
  cases step with
  | dropped | ignored | answered => exact .inl (same rfl rfl)
  | synSent => exact .inl (same (by simp [tcpProcessSynSent]) (by simp [tcpProcessSynSent]))
  | rst _ _ done =>
      obtain ⟨sent, _⟩ := sound.sendControl tsk tcpAck
      have still : (tcpSendControlPacket s tsk tcpAck).Hashed tsk :=
        sent.shape.hashed_iff.mpr ⟨head, Stack.isHead_mono (by simp) isHead, slot, linked⟩
      exact .inl (sent.established_close still done shape inside)
  | fin _ _ done => exact .inl (sound.established_close hashed done shape inside)
  | syn _ _ _ done => exact sound.established_syn member notNull absent done shape inside
  | ack _ state _ done =>
      obtain ⟨queued, between, enqueued, inOrder, _, _, tables⟩ := sound.establish member state
      cases done.symm.trans enqueued
      rw [inOrder.shape.sequence_eq shape (Stack.isHead_established _ bucket),
        tables (.establishedTable bucket) Node.hashList_ne_list] at inside
      exact .inl inside

end Table

/-! ## The threads -/

/-- How far `tcp_sock_connect` has come since it sent the SYN. Once `tcp_hash` has
run, the phase says whether the 4-tuple of the sock was free. -/
inductive ConnectPhase where
  | sent
  | stateSet
  | hashed (free : Bool)
  | asleep (free : Bool)
  | returned (free : Bool)
  deriving DecidableEq, Repr

/-- The sock was linked in the established table. -/
def ConnectPhase.linked : ConnectPhase → Bool
  | .sent | .stateSet => false
  | .hashed free | .asleep free | .returned free => free

/-- The stack, the thread that connects, and whether the sock has accepted a
packet since the SYN. -/
structure ConnectState where
  stack : Stack
  phase : ConnectPhase
  answered : Bool

/-- `tcp_sock_connect` up to the SYN. -/
def tcpSockConnectSent (s : Stack) (tsk : SockPtr) (skaddr : SockAddr) (cursorIp : U32) :
    Outcome Stack := do
  let s := s.modify tsk fun sk =>
    { sk with skDip := htonl skaddr.ip, skDport := htons skaddr.port, skSip := cursorIp }
  let port ← s.stopOn (tcpGetPort s)
  let s := s.modify tsk fun sk => { sk with skSport := htons port }
  let s ← tcpBindHash s tsk
  pure (tcpSendControlPacket s tsk tcpSyn)

/-- Change what a sock that connects sleeps on. -/
def Stack.setWaitConnect (s : Stack) (tsk : SockPtr) (change : SynchWait → SynchWait) : Stack :=
  s.modify tsk fun sk => { sk with waitConnect := change sk.waitConnect }

/-- `tcp_sock_connect` from the SYN on, up to its sleep. -/
def tcpSockConnectRest (s : Stack) (tsk : SockPtr) : Outcome (Option ℤ × Stack) := do
  let (_, s) ← tcpHash (tcpSetState s tsk .synSent) tsk
  pure (if (sleepOn (s.sock tsk).waitConnect).2 then none else some 0,
    s.setWaitConnect tsk fun wait => (sleepOn wait).1)

/-- The two parts are the call. -/
theorem tcpSockConnect_eq (s : Stack) (tsk : SockPtr) (skaddr : SockAddr) (cursorIp : U32) :
    tcpSockConnect s tsk skaddr cursorIp =
      tcpSockConnectSent s tsk skaddr cursorIp >>= fun s => tcpSockConnectRest s tsk := by
  simp only [tcpSockConnect, tcpSockConnectSent, tcpSockConnectRest, Stack.setWaitConnect,
    bind_assoc, pure_bind]
  rfl

/-- The packet is handed to the sock, which accepts it. -/
def Arrival.AcceptedBy (tsk : SockPtr) (s : Stack) (arrival : Arrival) : Prop :=
  checksumMatches arrival.packet arrival.ip arrival.tcp = true ∧
    tcpSockLookup s (tcpCbInit arrival.packet arrival.ip arrival.tcp) = .ok tsk ∧
    isTcpSeqValid (s.sock tsk) (tcpCbInit arrival.packet arrival.ip arrival.tcp) = true

/-- One step of the thread that connects, or one packet. -/
inductive ConnectStep (tsk : SockPtr) : ConnectState → ConnectState → Prop where
  | setsState {s : Stack} {answered : Bool} :
      ConnectStep tsk ⟨s, .sent, answered⟩ ⟨tcpSetState s tsk .synSent, .stateSet, answered⟩
  | hashesFree {s later : Stack} {answered : Bool} {result : ℤ} : s.TupleFree tsk →
      tcpHash s tsk = .ok (result, later) →
        ConnectStep tsk ⟨s, .stateSet, answered⟩ ⟨later, .hashed true, answered⟩
  | hashesTaken {s later : Stack} {answered : Bool} {result : ℤ} : ¬ s.TupleFree tsk →
      tcpHash s tsk = .ok (result, later) →
        ConnectStep tsk ⟨s, .stateSet, answered⟩ ⟨later, .hashed false, answered⟩
  | sleeps {s : Stack} {answered free : Bool} : (sleepOn (s.sock tsk).waitConnect).2 = true →
      ConnectStep tsk ⟨s, .hashed free, answered⟩
        ⟨s.setWaitConnect tsk fun wait => (sleepOn wait).1, .asleep free, answered⟩
  | passes {s : Stack} {answered free : Bool} : (sleepOn (s.sock tsk).waitConnect).2 = false →
      ConnectStep tsk ⟨s, .hashed free, answered⟩
        ⟨s.setWaitConnect tsk fun wait => (sleepOn wait).1, .returned free, answered⟩
  | resumes {s : Stack} {answered free : Bool} :
      ConnectStep tsk ⟨s, .asleep free, answered⟩
        ⟨(tcpSockConnectWoken s tsk).2, .returned free, answered⟩
  | passesBy {s later : Stack} {phase : ConnectPhase} {answered : Bool} {arrival : Arrival} :
      arrival.tmp ≠ 0 → arrival.tmp ∉ s.allocated → ¬ arrival.AcceptedBy tsk s →
      handleTcpPacket s arrival.packet arrival.ip arrival.tcp arrival.tmp = .ok later →
        ConnectStep tsk ⟨s, phase, answered⟩ ⟨later, phase, answered⟩
  | answers {s later : Stack} {phase : ConnectPhase} {answered : Bool} {arrival : Arrival} :
      arrival.tmp ≠ 0 → arrival.tmp ∉ s.allocated → arrival.AcceptedBy tsk s →
      handleTcpPacket s arrival.packet arrival.ip arrival.tcp arrival.tmp = .ok later →
        ConnectStep tsk ⟨s, phase, answered⟩ ⟨later, phase, true⟩

/-- What can be reached from the moment on at which the SYN was sent for a sock
that was in no table. -/
inductive ConnectRun (tsk : SockPtr) : ConnectState → Prop where
  | sent {s later : Stack} {socks : Sequences} {skaddr : SockAddr} {cursorIp : U32} :
      s.Sound socks → tsk ∈ s.allocated → ¬ s.InBind tsk → ¬ s.Hashed tsk →
      tcpSockConnectSent s tsk skaddr cursorIp = .ok later → ConnectRun tsk ⟨later, .sent, false⟩
  | step {now later : ConnectState} :
      ConnectRun tsk now → ConnectStep tsk now later → ConnectRun tsk later

/-- The sock is in the established table and in `TCP_SYN_SENT`, a SYN+ACK for its
4-tuple goes to it, and one that it accepts is handled in that state. -/
structure Stack.AwaitsReply (s : Stack) (tsk : SockPtr) : Prop where
  inEstablished : s.InEstablished tsk
  state : (s.sock tsk).state = .synSent
  routed : ∀ cb : TcpCb, cb.flags = tcpSyn ||| tcpAck →
    (s.sock tsk).tuple = (cb.daddr, cb.saddr, cb.dport, cb.sport) →
      tcpSockLookup s cb = .ok tsk ∧
        (isTcpSeqValid (s.sock tsk) cb = true →
          ∀ tmp, tcpProcess s tsk cb tmp = .ok (tcpProcessSynSent s tsk))

/-! ## Packets -/

/-- The sock is in its bucket of the established table, and nobody there shares
its 4-tuple. -/
structure Stack.Placed (s : Stack) (socks : Sequences) (tsk : SockPtr) : Prop where
  inside : tsk ∈ socks (.establishedTable (s.sock tsk).bucket)
  unique : ∀ other ∈ socks (.establishedTable (s.sock tsk).bucket),
    (s.sock other).tuple = (s.sock tsk).tuple → other = tsk

/-- A sock linked while its 4-tuple was free is in its place. -/
theorem Stack.Shape.placed_linked {s : Stack} {socks : Sequences} {tsk : SockPtr}
    (shape : s.Shape socks) (free : s.TupleFree tsk) (links : Heap Node) :
    (tcpSockIncRefCnt { s with links := links } tsk).Placed
      (Function.update socks (.establishedTable (s.sock tsk).bucket)
        (tsk :: socks (.establishedTable (s.sock tsk).bucket))) tsk := by
  rw [Stack.TupleFree, shape.established_entries] at free
  have tuples : ∀ other, ((tcpSockIncRefCnt { s with links := links } tsk).sock other).tuple =
      (s.sock other).tuple := fun other => tcpSockIncRefCnt_tuple _ tsk other
  have bucket := TcpSock.bucket_of_tuple (tuples tsk)
  constructor
  · rw [bucket, Function.update_self]
    exact List.mem_cons_self
  · intro other here same
    rw [bucket, Function.update_self] at here
    rw [tuples, tuples] at same
    exact (List.mem_cons.mp here).resolve_right fun was => free other was same

/-- What a packet that the sock does not accept leaves as it is. -/
structure Stack.Passes (s : Stack) (socks : Sequences) (tsk : SockPtr) (later : Stack)
    (moved : Sequences) : Prop where
  sound : later.Sound moved
  allocated : tsk ∈ later.allocated
  state : (later.sock tsk).state = (s.sock tsk).state
  hashed : later.Hashed tsk → s.Hashed tsk
  placed : s.Placed socks tsk → later.Placed moved tsk

section Packets

variable {s later : Stack} {socks : Sequences} {tsk tmp : SockPtr} {cb : TcpCb}

/-- A segment for another sock. -/
theorem ProcessStep.passes {reached : SockPtr} (step : ProcessStep s reached cb tmp later)
    (done : tcpProcess s reached cb tmp = .ok later) (sound : s.Sound socks)
    (hashed : s.Hashed reached) (notNull : tmp ≠ 0) (absent : tmp ∉ s.allocated)
    (member : tsk ∈ s.allocated) (different : tsk ≠ reached) :
    ∃ moved, s.Passes socks tsk later moved := by
  obtain ⟨moved, inOrder, asides⟩ := sound.process hashed notNull absent cb
  rw [done, Outcome.stack_ok] at inOrder asides
  have notMade : ∀ other ∈ s.allocated, other ≠ tmp :=
    fun other existing => ne_of_mem_of_not_mem existing absent
  have aside := asides tsk (notMade tsk member) fun same => absurd same different
  have tuples : ∀ other ∈ s.allocated, (later.sock other).tuple = (s.sock other).tuple :=
    fun other existing =>
      step.field TcpSock.tuple (fun _ _ _ _ _ _ _ => rfl) (notMade other existing)
  have bucket := TcpSock.bucket_of_tuple (tuples tsk member)
  refine ⟨moved,
    { sound := inOrder
      allocated := step.allocated_sub member
      state := aside.state
      hashed := ?_
      placed := ?_ }⟩
  · intro still
    obtain ⟨head, isHead, slot, inside⟩ := inOrder.shape.hashed_iff.mp still
    obtain ⟨isBefore, before⟩ := (aside.places head isHead).mp inside
    exact sound.shape.hashed_iff.mpr ⟨head, isBefore, slot, before⟩
  · rintro ⟨inside, unique⟩
    refine ⟨?_, fun other here same => ?_⟩
    · rw [bucket]
      exact (aside.places _ (later.isHead_established _)).mpr ⟨s.isHead_established _, inside⟩
    · rw [bucket] at here
      rw [tuples tsk member] at same
      rcases step.established_sub sound hashed notNull absent inOrder.shape here with was | free
      · have existing := sound.shape.allocated _ other (s.isHead_established _) was
        rw [tuples other existing] at same
        exact unique other was same
      · exact absurd same.symm (free tsk inside)

theorem Stack.Passes.refl (sound : s.Sound socks) (member : tsk ∈ s.allocated) :
    s.Passes socks tsk s socks := ⟨sound, member, rfl, id, id⟩

variable {arrival : Arrival} (sound : s.Sound socks) (member : tsk ∈ s.allocated)
  (notNull : arrival.tmp ≠ 0) (absent : arrival.tmp ∉ s.allocated)
  (done : handleTcpPacket s arrival.packet arrival.ip arrival.tcp arrival.tmp = .ok later)
include sound member notNull absent done

/-- A packet that the sock does not accept. -/
theorem Arrival.passes (ignored : ¬ arrival.AcceptedBy tsk s) :
    ∃ moved, s.Passes socks tsk later moved := by
  rcases handleTcpPacket_cases done with ⟨_, rfl⟩ | ⟨matching, reached, found, isSock, step⟩
  · exact ⟨socks, .refl sound member⟩
  · by_cases same : reached = tsk
    · subst same
      have invalid : isTcpSeqValid (s.sock reached)
          (tcpCbInit arrival.packet arrival.ip arrival.tcp) = false :=
        Bool.eq_false_of_not_eq_true fun accepted => ignored ⟨matching, found, accepted⟩
      obtain rfl := step.eq_of_dropped invalid
      exact ⟨socks, .refl sound member⟩
    · rw [handleTcpPacket_routed matching found] at done
      exact step.passes done sound (sound.shape.hashed_of_lookup found isSock) notNull absent member
        (Ne.symm same)

/-- A packet that the sock accepts takes it out of its handshake, or leaves it out of
it. -/
theorem Arrival.answers (accepted : arrival.AcceptedBy tsk s) :
    s.Hashed tsk ∧ ∃ moved, later.Sound moved ∧ tsk ∈ later.allocated ∧
      ((s.sock tsk).state = .synSent ∨ (s.sock tsk).state.opening = false →
        (later.sock tsk).state.opening = false) := by
  obtain ⟨matching, found, valid⟩ := accepted
  rw [handleTcpPacket_routed matching found] at done
  obtain ⟨isSock, step⟩ := tcpProcess_step done
  have hashed := sound.shape.hashed_of_lookup found isSock
  obtain ⟨moved, inOrder, _⟩ := sound.process hashed notNull absent
    (tcpCbInit arrival.packet arrival.ip arrival.tcp)
  rw [done, Outcome.stack_ok] at inOrder
  refine ⟨hashed, moved, inOrder, step.allocated_sub member, ?_⟩
  rintro (waiting | past)
  · exact step.leaves_synSent waiting valid
  · exact (step.settled past).1

end Packets

/-! ## One step -/

/-- The invariant, with the sequences that the lists denote. -/
structure ConnectState.Tracks (tsk : SockPtr) (now : ConnectState) (socks : Sequences) : Prop where
  sound : now.stack.Sound socks
  member : tsk ∈ now.stack.allocated
  unlinked : now.phase.linked = false → ¬ now.stack.Hashed tsk ∧ now.answered = false
  stateSet : now.phase = .stateSet → (now.stack.sock tsk).state = .synSent
  waiting : now.phase.linked = true → now.answered = false →
    now.stack.Placed socks tsk ∧ (now.stack.sock tsk).state = .synSent
  settled : now.answered = true → (now.stack.sock tsk).state.opening = false

namespace ConnectState.Tracks

variable {tsk : SockPtr} {socks : Sequences} {s later : Stack} {phase next : ConnectPhase}
  {answered : Bool}

/-- A step that leaves the sock where it is. -/
theorem passes {moved : Sequences} (tracks : Tracks tsk ⟨s, phase, answered⟩ socks)
    (passes : s.Passes socks tsk later moved) (linked : next.linked = phase.linked)
    (stateSet : next = .stateSet → phase = .stateSet) :
    Tracks tsk ⟨later, next, answered⟩ moved where
  sound := passes.sound
  member := passes.allocated
  unlinked := by
    intro none
    have before := tracks.unlinked (linked.symm.trans none)
    exact ⟨fun hashed => before.1 (passes.hashed hashed), before.2⟩
  stateSet := fun set => passes.state.trans (tracks.stateSet (stateSet set))
  waiting := by
    intro some waits
    obtain ⟨placed, state⟩ := tracks.waiting (linked.symm.trans some) waits
    exact ⟨passes.placed placed, passes.state.trans state⟩
  settled := by
    intro accepted
    rw [passes.state]
    exact tracks.settled accepted

/-- Sleeping and waking. -/
theorem setWait (tracks : Tracks tsk ⟨s, phase, answered⟩ socks) (change : SynchWait → SynchWait)
    (linked : next.linked = phase.linked) (stateSet : next = .stateSet → phase = .stateSet) :
    Tracks tsk ⟨s.setWaitConnect tsk change, next, answered⟩ socks := by
  have tuples : ∀ other, ((s.setWaitConnect tsk change).sock other).tuple =
      (s.sock other).tuple := by
    intro other
    by_cases same : other = tsk
    · rw [same, Stack.setWaitConnect, Stack.modify_sock_self]
      rfl
    · rw [Stack.setWaitConnect, Stack.modify_sock_of_ne _ _ same]
  have bucket := TcpSock.bucket_of_tuple (tuples tsk)
  refine tracks.passes ⟨tracks.sound.modify (fun _ => rfl) (fun _ => rfl), tracks.member, ?_, ?_,
    fun placed => ⟨?_, fun other here same => ?_⟩⟩ linked stateSet
  · rw [Stack.setWaitConnect, Stack.modify_sock_self]
  · exact id
  · rw [bucket]
    exact placed.inside
  · rw [bucket] at here
    rw [tuples, tuples] at same
    exact placed.unique other here same

/-- The sock is linked, or was never going to be. -/
theorem hash (tracks : Tracks tsk ⟨s, .stateSet, answered⟩ socks) {result : ℤ} {free : Bool}
    (isFree : free = true ↔ s.TupleFree tsk) (done : tcpHash s tsk = .ok (result, later)) :
    ∃ moved, Tracks tsk ⟨later, .hashed free, answered⟩ moved := by
  obtain ⟨unhashed, waits⟩ := tracks.unlinked rfl
  have state : (s.sock tsk).state = .synSent := tracks.stateSet rfl
  rcases tracks.sound.shape.tcpHash_cases tracks.member unhashed (by simp [state])
    (by simp [state]) done with ⟨taken, rfl⟩ | ⟨distinct, links, rfl, shaped, kept⟩
  · obtain rfl : free = false := Bool.eq_false_of_not_eq_true fun some => taken (isFree.mp some)
    exact ⟨socks, tracks.sound, tracks.member, fun _ => ⟨unhashed, waits⟩,
      (fun set => by cases set), (fun some => by cases some), tracks.settled⟩
  · obtain rfl : free = true := isFree.mpr distinct
    obtain ⟨linked, _, _⟩ := tracks.sound.linkHashed rfl shaped kept
    have waiting : ((tcpSockIncRefCnt { s with links := links } tsk).sock tsk).state = .synSent :=
      (tcpSockIncRefCnt_field _ tsk TcpSock.state (fun _ _ => rfl) tsk).trans state
    exact ⟨_, linked, tracks.member, (fun none => by cases none), (fun set => by cases set),
      fun _ _ => ⟨tracks.sound.shape.placed_linked distinct links, waiting⟩,
      fun accepted => absurd (waits.symm.trans accepted) (by decide)⟩

/-- **One step, of either thread.** -/
theorem step {now later : ConnectState} (tracks : now.Tracks tsk socks)
    (step : ConnectStep tsk now later) : ∃ moved, later.Tracks tsk moved := by
  cases step with
  | @setsState s answered =>
      obtain ⟨unhashed, waits⟩ := tracks.unlinked rfl
      have state : ((tcpSetState s tsk .synSent).sock tsk).state = .synSent := by
        rw [tcpSetState_sock, if_pos rfl]
      have sound : (tcpSetState s tsk .synSent).Sound socks :=
        tracks.sound.touched (.setState s tsk _) rfl (by simp [state]) (by simp [state])
      exact ⟨socks, sound, tracks.member, fun _ => ⟨unhashed, waits⟩, fun _ => state,
        (fun some => by cases some), fun accepted => absurd (waits.symm.trans accepted) (by decide)⟩
  | hashesFree free done => exact tracks.hash (iff_of_true rfl free) done
  | hashesTaken taken done => exact tracks.hash (iff_of_false (by decide) taken) done
  | sleeps => exact ⟨socks, tracks.setWait _ rfl (fun set => by cases set)⟩
  | passes => exact ⟨socks, tracks.setWait _ rfl (fun set => by cases set)⟩
  | resumes => exact ⟨socks, tracks.setWait sleepOnWoken rfl (fun set => by cases set)⟩
  | passesBy notNull absent ignored done =>
      obtain ⟨moved, passes⟩ :=
        Arrival.passes tracks.sound tracks.member notNull absent done ignored
      exact ⟨moved, tracks.passes passes rfl id⟩
  | @answers s later phase answered arrival notNull absent accepted done =>
      obtain ⟨hashed, moved, sound, member, opening⟩ :=
        Arrival.answers tracks.sound tracks.member notNull absent done accepted
      have linked : phase.linked = true :=
        Bool.eq_true_of_not_eq_false fun none => (tracks.unlinked none).1 hashed
      have before : (s.sock tsk).state = .synSent ∨ (s.sock tsk).state.opening = false := by
        cases answered with
        | false => exact .inl (tracks.waiting linked rfl).2
        | true => exact .inr (tracks.settled rfl)
      refine ⟨moved, sound, member, fun none => ?_, fun set => ?_, fun _ waits => ?_,
        fun _ => opening before⟩
      · exact absurd (linked.symm.trans none) (by decide)
      · obtain rfl : phase = .stateSet := set
        cases linked
      · cases waits

end ConnectState.Tracks

/-! ## Every interleaving -/

section Run

variable {s later : Stack} {socks : Sequences} {tsk : SockPtr}

/-- The sock is in neither hash table when the SYN is sent. -/
theorem tcpSockConnectSent_tracks (sound : s.Sound socks) (member : tsk ∈ s.allocated)
    (unbound : ¬ s.InBind tsk) (unhashed : ¬ s.Hashed tsk) {skaddr : SockAddr} {cursorIp : U32}
    (done : tcpSockConnectSent s tsk skaddr cursorIp = .ok later) :
    ∃ moved, ConnectState.Tracks tsk ⟨later, .sent, false⟩ moved := by
  obtain ⟨port, _, done⟩ := Outcome.bind_eq_ok.mp done
  obtain ⟨middle, bound, done⟩ := Outcome.bind_eq_ok.mp done
  cases done
  have addressed : (s.modify tsk fun sk =>
      { sk with skDip := htonl skaddr.ip, skDport := htons skaddr.port,
                skSip := cursorIp }).Sound socks :=
    sound.modify (fun _ => rfl) (fun _ => rfl)
  have named : ((s.modify tsk fun sk =>
      { sk with skDip := htonl skaddr.ip, skDport := htons skaddr.port,
                skSip := cursorIp }).modify tsk fun sk =>
      { sk with skSport := htons port }).Sound socks :=
    addressed.modify (fun _ => rfl) (fun _ => rfl)
  obtain ⟨links, bucket, hashed, inOrder, _⟩ := named.bindHash member fun bucket inside =>
    unbound (sound.shape.inBind_iff.mpr ⟨bucket, inside⟩)
  cases bound.symm.trans hashed
  obtain ⟨sent, _⟩ := inOrder.sendControl tsk tcpSyn
  refine ⟨_, sent, by simpa using member, fun _ => ⟨fun still => ?_, rfl⟩,
    (fun set => by cases set), (fun some => by cases some), (fun accepted => by cases accepted)⟩
  obtain ⟨head, isHead, slot, inside⟩ := sent.shape.hashed_iff.mp still
  rw [Sequences.update_of_slot_ne (slot ▸ Node.bindHashList_ne_hashList.symm)] at inside
  exact unhashed (sound.shape.hashed_iff.mpr
    ⟨head, Stack.isHead_mono (by simp) isHead, slot, inside⟩)

theorem ConnectRun.tracks {now : ConnectState} (run : ConnectRun tsk now) :
    ∃ socks, now.Tracks tsk socks := by
  induction run with
  | sent sound member unbound unhashed done =>
      exact tcpSockConnectSent_tracks sound member unbound unhashed done
  | step _ step ih =>
      obtain ⟨socks, tracks⟩ := ih
      exact tracks.step step

/-- A sock in its place in `TCP_SYN_SENT` gets its reply. -/
theorem Stack.Placed.awaitsReply (placed : s.Placed socks tsk) (shape : s.Shape socks)
    (member : tsk ∈ s.allocated) (state : (s.sock tsk).state = .synSent) : s.AwaitsReply tsk where
  inEstablished := by
    refine ⟨(s.sock tsk).bucket, ?_⟩
    rw [shape.established_entries]
    exact placed.inside
  state := state
  routed := by
    intro cb flags tuple
    have notNull := shape.ne_null member
    have found := shape.lookupEstablished_of_unique tuple placed.inside placed.unique
    refine ⟨?_, fun valid tmp => ?_⟩
    · simp only [tcpSockLookup, found, notNull, if_false, bind, Except.bind, pure, Except.pure]
    · exact tcpProcess_synSent notNull valid (by rw [flags]; decide) (by rw [flags]; decide) state

end Run

/-- **When the reply to a SYN finds its sock.** At every point after the SYN was sent, in
every interleaving with packets, the sock is in the established table and in
`TCP_SYN_SENT`, and gets a SYN+ACK for its 4-tuple, if and only if `tcp_hash` has
run and found the 4-tuple free, and the sock has accepted no packet yet. -/
theorem reply_finds_sock_iff (tsk : SockPtr) (now : ConnectState) (run : ConnectRun tsk now) :
    now.stack.AwaitsReply tsk ↔ now.phase.linked = true ∧ now.answered = false := by
  obtain ⟨socks, tracks⟩ := run.tracks
  constructor
  · intro awaits
    constructor
    · exact Bool.eq_true_of_not_eq_false fun none =>
        (tracks.unlinked none).1 (.inl awaits.inEstablished)
    · refine Bool.eq_false_of_not_eq_true fun accepted => ?_
      have past := tracks.settled accepted
      rw [awaits.state] at past
      cases past
  · rintro ⟨linked, waits⟩
    obtain ⟨placed, state⟩ := tracks.waiting linked waits
    exact placed.awaitsReply tracks.sound.shape tracks.member state

/-! ## A reply that comes too soon -/

/-- The stack just after the SYN to port 80 of host 2. -/
def synSentStack : Stack :=
  (tcpSockConnectSent (allocTcpSock initTcpStack 1) 1 ⟨htonl 2, htons 80⟩ 1).stack

theorem synSentStack_run : ConnectRun 1 ⟨synSentStack, .sent, false⟩ := by
  obtain ⟨orderly, _⟩ := initTcpStack_orderly.alloc (show (1 : SockPtr) ≠ 0 by decide) (by decide)
  have unlinked := oneSock_not_linked
  exact .sent orderly.sound List.mem_cons_self (fun bound => unlinked (.inr (.inr (.inl bound))))
    (fun hashed => unlinked (hashed.imp_right .inl)) rfl

/-- **A reply that comes right after the SYN finds no sock**, and the program follows a
null pointer. -/
theorem reply_too_soon :
    ConnectRun 1 ⟨synSentStack, .sent, false⟩ ∧
      (∃ sent ∈ synSentStack.out, sent.flags = tcpSyn) ∧
      ¬ synSentStack.InEstablished 1 ∧ (synSentStack.sock 1).state = .closed ∧
      (synSentStack.sock 1).tuple =
        (peerSock.skDip, peerSock.skSip, peerSock.skDport, peerSock.skSport) ∧
      handleTcpPacket synSentStack (peerPacket (tcpSyn ||| tcpAck)) packetToIpHdr tcpPlace 2 =
        .error ⟨.badPointer, synSentStack⟩ := by
  have outside : ¬ synSentStack.InEstablished 1 := by
    obtain ⟨socks, tracks⟩ := synSentStack_run.tracks
    exact fun inside => (tracks.unlinked rfl).1 (.inl inside)
  have found : tcpSockLookup synSentStack
      (peerSock.controlSegment (tcpSyn ||| tcpAck)).received = .ok 0 := rfl
  exact ⟨synSentStack_run, by decide, outside, by decide, by decide,
    ((peerPacket_delivers _).handle found 2).trans rfl⟩

/-- The reply that comes to the thread that sleeps finds the sock. -/
theorem reply_finds_sock_iff_asleep : connectingStack.AwaitsReply 1 := by
  have hashed := synSentStack_run.step .setsState
  have free : (tcpSetState synSentStack 1 .synSent).TupleFree 1 := by
    have empty : (tcpSetState synSentStack 1 .synSent).entries (.establishedTable
        ((tcpSetState synSentStack 1 .synSent).sock 1).bucket) = [] := by decide
    intro other inside
    rw [empty] at inside
    exact absurd inside List.not_mem_nil
  have asleep : ConnectRun 1 ⟨connectingStack, .asleep true, false⟩ :=
    (hashed.step (.hashesFree free rfl)).step (.sleeps rfl)
  exact (reply_finds_sock_iff 1 _ asleep).mpr ⟨rfl, rfl⟩

end TcpStack
