import TcpStack.Sock.Queues
import TcpStack.Sock.ActiveOpen
import TcpStack.Sock.Calls

/-!
# Stacks in order

A stack is in order when its lists are, when the parent of every sock is a sock
and every sock in `TCP_SYN_RECV` has one, and when the node by which a listener
is linked under its port is linked or still zeroed (`Stack.Sound`). Making,
binding, hashing, queueing and closing a sock keep a stack in order, and each
moves that sock only: every other sock keeps its state, its references and its
places in the lists (`Stack.Aside`).
-/

set_option autoImplicit false

namespace TcpStack

open Lib

/-- The states in which a sock waits for a connection, or for the end of the
handshake of one. -/
def TcpState.passive : TcpState → Bool
  | .listen | .synRecv => true
  | _ => false

theorem TcpState.passive_afterClose (state : TcpState) : state.afterClose.passive = false := by
  cases state <;> rfl

/-- The node of a sock for the bind table is linked there, or is as
`alloc_tcp_sock` left it. -/
def Stack.BindReady (s : Stack) (socks : Sequences) (tsk : SockPtr) : Prop :=
  (∃ bucket, tsk ∈ socks (.bindTable bucket)) ∨ (s.links (.bindHashList tsk)).next = .null

/-- The stack is in order. -/
structure Stack.Sound (s : Stack) (socks : Sequences) : Prop where
  shape : s.Shape socks
  parents : ∀ tsk ∈ s.allocated, (s.sock tsk).parent = 0 ∨ (s.sock tsk).parent ∈ s.allocated
  children : ∀ tsk ∈ s.allocated, (s.sock tsk).state = .synRecv → (s.sock tsk).parent ≠ 0
  listening : ∀ tsk ∈ s.allocated, (s.sock tsk).state = .listen → s.BindReady socks tsk

/-- Between two stacks, only one sock changed its place in the lists that both
have. -/
def Sequences.MovesOnly (socks : Sequences) (tsk : SockPtr) (moved : Sequences) : Prop :=
  ∀ head other, other ≠ tsk → (other ∈ moved head ↔ other ∈ socks head)

theorem Sequences.movesOnly_refl (socks : Sequences) (tsk : SockPtr) :
    socks.MovesOnly tsk socks := fun _ _ _ => Iff.rfl

theorem Sequences.movesOnly_erase (socks : Sequences) (head : Node) (tsk : SockPtr) :
    socks.MovesOnly tsk (Function.update socks head ((socks head).erase tsk)) :=
  fun _ _ different => mem_erase_of_ne different

theorem Sequences.movesOnly_cons (socks : Sequences) (head : Node) (tsk : SockPtr) :
    socks.MovesOnly tsk (Function.update socks head (tsk :: socks head)) :=
  fun _ _ different => mem_cons_of_ne different

theorem Sequences.movesOnly_append (socks : Sequences) (head : Node) (tsk : SockPtr) :
    socks.MovesOnly tsk (Function.update socks head (socks head ++ [tsk])) :=
  fun _ _ different => mem_append_of_ne different

theorem Sequences.MovesOnly.trans {socks between moved : Sequences} {tsk : SockPtr}
    (first : socks.MovesOnly tsk between) (second : between.MovesOnly tsk moved) :
    socks.MovesOnly tsk moved :=
  fun head other different => (second head other different).trans (first head other different)

theorem Stack.BindReady.transfer {s later : Stack} {socks moved : Sequences} {tsk : SockPtr}
    (ready : s.BindReady socks tsk)
    (stays : ∀ bucket, tsk ∈ socks (.bindTable bucket) → tsk ∈ moved (.bindTable bucket))
    (kept : s.Outside socks (.bindHashList tsk) →
      later.links (.bindHashList tsk) = s.links (.bindHashList tsk)) :
    later.BindReady moved tsk := by
  by_cases bound : ∃ bucket, tsk ∈ socks (.bindTable bucket)
  · obtain ⟨bucket, inside⟩ := bound
    exact .inl ⟨bucket, stays bucket inside⟩
  · have zeroed := ready.resolve_left bound
    push Not at bound
    right
    rw [kept (Stack.Shape.outside_of_not_bound bound), zeroed]

namespace Stack.Sound

variable {s later : Stack} {socks moved : Sequences} {tsk : SockPtr}

/-- A change of pointers that leaves listeners bound. -/
theorem transfer (sound : s.Sound socks) (shape : later.Shape moved)
    (allocated : later.allocated = s.allocated)
    (parent : ∀ other, (later.sock other).parent = (s.sock other).parent)
    (passive : ∀ other, (later.sock other).state.passive → (later.sock other).state =
      (s.sock other).state)
    (stays : ∀ other, (later.sock other).state = .listen →
      ∀ bucket, other ∈ socks (.bindTable bucket) → other ∈ moved (.bindTable bucket))
    (kept : ∀ other, s.Outside socks (.bindHashList other) →
      later.links (.bindHashList other) = s.links (.bindHashList other)) :
    later.Sound moved where
  shape := shape
  parents := by
    intro other member
    rw [allocated] at member ⊢
    rw [parent]
    exact sound.parents other member
  children := by
    intro other member state
    rw [allocated] at member
    rw [parent]
    rw [passive other (by rw [state]; rfl)] at state
    exact sound.children other member state
  listening := by
    intro other member state
    have before := state
    rw [allocated] at member
    rw [passive other (by rw [state]; rfl)] at before
    exact (sound.listening other member before).transfer (stays other state) (kept other)

/-- A change of the records that opens no sock passively. -/
theorem congr (sound : s.Sound socks) (links : later.links = s.links)
    (allocated : later.allocated = s.allocated)
    (parent : ∀ other, (later.sock other).parent = (s.sock other).parent)
    (passive : ∀ other, (later.sock other).state.passive → (later.sock other).state =
      (s.sock other).state) :
    later.Sound socks :=
  sound.transfer (sound.shape.congr links allocated) allocated parent passive
    (fun _ _ _ => id) (fun _ _ => by rw [links])

/-- A change of one record that keeps its parent and its state. -/
theorem modify (sound : s.Sound socks) {change : TcpSock → TcpSock}
    (parent : ∀ sk, (change sk).parent = sk.parent) (state : ∀ sk, (change sk).state = sk.state) :
    (s.modify tsk change).Sound socks :=
  sound.congr rfl rfl (s.modify_field TcpSock.parent tsk parent)
    fun other _ => s.modify_field TcpSock.state tsk state other

/-- A change of records only: any state but `TCP_LISTEN` for one sock, and
`TCP_SYN_RECV` only when it has a parent. -/
theorem touched (sound : s.Sound socks) (touches : s.Touches tsk later)
    (links : later.links = s.links) (notListen : (later.sock tsk).state ≠ .listen)
    (child : (later.sock tsk).state = .synRecv → (s.sock tsk).parent ≠ 0) :
    later.Sound socks where
  shape := sound.shape.congr links touches.allocated
  parents := by
    intro other member
    rw [touches.allocated] at member ⊢
    rw [touches.parent]
    exact sound.parents other member
  children := by
    intro other member state
    rw [touches.allocated] at member
    rw [touches.parent]
    by_cases same : other = tsk
    · rw [same] at state ⊢
      exact child state
    · rw [touches.others other same] at state
      exact sound.children other member state
  listening := by
    intro other member state
    rw [touches.allocated] at member
    have different : other ≠ tsk := by
      rintro rfl
      exact notListen state
    rw [touches.others other different] at state
    exact (sound.listening other member state).transfer (fun _ => id) fun _ => by rw [links]

end Stack.Sound

/-! ## Socks left aside -/

/-- Between two stacks a sock kept its state, its references and its places in
the lists; a list that is new does not have it. -/
structure Stack.Aside (s : Stack) (socks : Sequences) (later : Stack) (moved : Sequences)
    (other : SockPtr) : Prop where
  state : (later.sock other).state = (s.sock other).state
  refCnt : (later.sock other).refCnt = (s.sock other).refCnt
  released : later.Released other ↔ s.Released other
  places : ∀ head, later.IsHead head → (other ∈ moved head ↔ s.IsHead head ∧ other ∈ socks head)
  bindNode : (∀ bucket, other ∉ socks (.bindTable bucket)) →
    later.links (.bindHashList other) = s.links (.bindHashList other)

namespace Stack.Aside

variable {s middle later : Stack} {socks between moved : Sequences} {tsk other : SockPtr}

theorem bind_iff (aside : s.Aside socks later moved other) (bucket : U8) :
    other ∈ moved (.bindTable bucket) ↔ other ∈ socks (.bindTable bucket) :=
  (aside.places _ (later.isHead_bind bucket)).trans (and_iff_right (s.isHead_bind bucket))

theorem bindReady (aside : s.Aside socks later moved other) (ready : s.BindReady socks other) :
    later.BindReady moved other := by
  rcases ready with ⟨bucket, inside⟩ | zeroed
  · exact .inl ⟨bucket, (aside.bind_iff bucket).mpr inside⟩
  · by_cases bound : ∃ bucket, other ∈ socks (.bindTable bucket)
    · obtain ⟨bucket, inside⟩ := bound
      exact .inl ⟨bucket, (aside.bind_iff bucket).mpr inside⟩
    · push Not at bound
      right
      rw [aside.bindNode bound, zeroed]

theorem trans (first : s.Aside socks middle between other)
    (second : middle.Aside between later moved other)
    (grows : s.allocated ⊆ middle.allocated) : s.Aside socks later moved other where
  state := second.state.trans first.state
  refCnt := second.refCnt.trans first.refCnt
  released := second.released.trans first.released
  places := by
    intro head isHead
    rw [second.places head isHead]
    constructor
    · rintro ⟨isMiddle, inside⟩
      exact (first.places head isMiddle).mp inside
    · intro before
      have isMiddle := Stack.isHead_mono grows before.1
      exact ⟨isMiddle, (first.places head isMiddle).mpr before⟩
  bindNode := by
    intro unbound
    rw [second.bindNode fun bucket inside => unbound bucket ((first.bind_iff bucket).mp inside)]
    exact first.bindNode unbound

/-- A step that keeps the socks there are, moves one of them, and changes no
state and no reference of the others. -/
theorem of_moves (allocated : later.allocated = s.allocated)
    (state : (later.sock other).state = (s.sock other).state)
    (refCnt : (later.sock other).refCnt = (s.sock other).refCnt)
    (released : later.Released other ↔ s.Released other) (moves : socks.MovesOnly tsk moved)
    (kept : s.Outside socks (.bindHashList other) →
      later.links (.bindHashList other) = s.links (.bindHashList other))
    (different : other ≠ tsk) : s.Aside socks later moved other where
  state := state
  refCnt := refCnt
  released := released
  places := by
    intro head isHead
    rw [Stack.isHead_congr allocated] at isHead
    rw [moves head other different, and_iff_right isHead]
  bindNode := fun unbound => kept (Stack.Shape.outside_of_not_bound unbound)

/-- The others, when one sock is touched. -/
theorem touched (touches : s.Touches tsk later) (moves : socks.MovesOnly tsk moved)
    (kept : ∀ other, s.Outside socks (.bindHashList other) →
      later.links (.bindHashList other) = s.links (.bindHashList other))
    (other : SockPtr) (different : other ≠ tsk) : s.Aside socks later moved other :=
  of_moves touches.allocated (by rw [touches.others other different])
    (by rw [touches.others other different]) (touches.freed other different) moves (kept other)
    different

end Stack.Aside

/-! ## The accept queue -/

namespace Stack.Shape

variable {s : Stack} {socks : Sequences} {tsk : SockPtr}

/-- Queueing a sock for `accept` moves it to the back of the queue of its
parent. -/
theorem acceptEnqueue (shape : s.Shape socks) (member : tsk ∈ s.allocated)
    (parent : (s.sock tsk).parent ∈ s.allocated) :
    ∃ links moved, tcpSockAcceptEnqueue s tsk =
        .ok (({ s with links := links } : Stack).modify (s.sock tsk).parent fun sk =>
          { sk with acceptBacklog := sk.acceptBacklog + 1 }) ∧
      ({ s with links := links } : Stack).Shape moved ∧ socks.MovesOnly tsk moved ∧
      (∀ place, place.slot ≠ Node.list → moved place = socks place) ∧
      (∀ node, node ≠ .list tsk → s.Outside socks node → links node = s.links node) ∧
      (tsk ∉ socks (.acceptQueue (s.sock tsk).parent) →
        moved (.acceptQueue (s.sock tsk).parent) =
          socks (.acceptQueue (s.sock tsk).parent) ++ [tsk]) := by
  have isTarget : s.IsHead (.acceptQueue (s.sock tsk).parent) := parent
  by_cases queued : ∃ head, s.IsHead head ∧ Node.list tsk ∈ socks.nodes head
  · obtain ⟨head, isHead, linked⟩ := queued
    obtain ⟨parents, inside⟩ := mem_queue isHead linked
    have slot : head.slot = Node.list := by
      obtain ⟨owner, rfl | rfl⟩ := parents <;> rfl
    obtain ⟨removed, links, deleted, added, shaped, kept⟩ :=
      shape.moveTail isHead slot inside isTarget rfl
    have nonempty : s.links.listEmpty (.list tsk) = false := by
      rw [← congrFun slot tsk]
      exact shape.not_listEmpty isHead inside
    refine ⟨links, _, ?_, shaped,
      (socks.movesOnly_erase head tsk).trans (Sequences.movesOnly_append _ _ _), ?_,
      fun node _ => kept node, fun outside => ?_⟩
    · simp only [tcpSockAcceptEnqueue, nonempty, Bool.not_false, if_true, deleted, Stack.relink,
        added, bind, Except.bind, pure, Except.pure]
    · intro place other
      rw [Sequences.update_of_slot_ne other, Sequences.update_of_slot_ne (slot ▸ other)]
    · have elsewhere : Node.acceptQueue (s.sock tsk).parent ≠ head := by
        rintro rfl
        exact outside inside
      rw [Function.update_self, Function.update_of_ne elsewhere]
  · push Not at queued
    obtain ⟨links, added, shaped, same⟩ := shape.addTail isTarget member queued
    have empty : s.links.listEmpty (.list tsk) = true := by
      simp [Heap.listEmpty, shape.alone tsk member queued]
    have added' : s.links.listAddTail Node.valid (.list tsk)
        (.acceptQueue (s.sock tsk).parent) = .ok links := added
    refine ⟨links, _, ?_, shaped, Sequences.movesOnly_append _ _ _, ?_, ?_, fun _ => ?_⟩
    · simp only [tcpSockAcceptEnqueue, empty, Bool.not_true, Bool.false_eq_true, if_false, added',
        Stack.relink, bind, Except.bind, pure, Except.pure]
    · exact fun place other => Sequences.update_of_slot_ne other
    · exact fun node different outside => same node different (outside _ isTarget)
    · rw [Function.update_self]

/-- Taking a sock for `accept` takes the first one of the queue. -/
theorem acceptDequeue (shape : s.Shape socks) (member : tsk ∈ s.allocated) {first : SockPtr}
    {rest : List SockPtr} (queue : socks (.acceptQueue tsk) = first :: rest) :
    ∃ links, tcpSockAcceptDequeue s tsk =
        .ok (.list first, ({ s with links := links } : Stack).modify tsk fun sk =>
          { sk with acceptBacklog := sk.acceptBacklog - 1 }) ∧
      ({ s with links := links } : Stack).Shape (Function.update socks (.acceptQueue tsk) rest) ∧
      ∀ node, s.Outside socks node → links node = s.links node := by
  have isHead : s.IsHead (.acceptQueue tsk) := member
  have denotes := shape.family.denotes _ isHead
  have ok : Node.valid (.acceptQueue tsk) := denotes.valid_of_mem _ List.mem_cons_self
  have path := denotes.path
  simp only [Sequences.nodes, queue, List.map_cons, Lib.Path] at path
  have inside : first ∈ socks (.acceptQueue tsk) := by simp [queue]
  have next : (s.links (.acceptQueue tsk)).next = .list first := path.1
  obtain ⟨removed, deleted, shaped, kept⟩ := shape.dequeue isHead rfl inside
  rw [queue, List.erase_cons_head] at shaped
  refine ⟨removed.initListHead (.list first), ?_, shaped, kept⟩
  simp only [tcpSockAcceptDequeue, Heap.load, ok, if_true, Stack.stopOn, next, deleted,
    Stack.relink, bind, Except.bind, pure, Except.pure]

end Stack.Shape

/-! ## Closing -/

theorem tcpSockClose_quiet {s : Stack} {tsk : SockPtr} (notListen : (s.sock tsk).state ≠ .listen) :
    tcpSockClose s tsk = .ok (tcpSockClose s tsk).stack ∧
      (tcpSockClose s tsk).stack.links = s.links := by
  cases state : (s.sock tsk).state
  case listen => exact absurd state notListen
  all_goals simp [tcpSockClose, state, pure, Except.pure]

/-- Unlinking a node that was never linked follows a null pointer. -/
theorem tcpBindUnhash_zeroed {s : Stack} {tsk : SockPtr}
    (zeroed : (s.links (.bindHashList tsk)).next = .null) :
    tcpBindUnhash s tsk = .error ⟨.badPointer, s⟩ := by
  have nonempty : s.links.listEmpty (.bindHashList tsk) = false := by
    simp [Heap.listEmpty, zeroed]
  simp [tcpBindUnhash, nonempty, Heap.listDeleteEntry_of_dangling, zeroed, Node.valid, Stack.relink,
    bind, Except.bind]

/-- Closing a listener that was never bound stops the program when it has left
its hash table. -/
theorem tcpSockClose_unbound {s : Stack} {tsk : SockPtr}
    (listening : (s.sock tsk).state = .listen)
    (zeroed : (s.links (.bindHashList tsk)).next = .null) {links : Heap Node}
    (unlinked : tcpUnhash s tsk = .ok (freeTcpSock { s with links := links } tsk))
    (kept : links (.bindHashList tsk) = s.links (.bindHashList tsk)) :
    tcpSockClose s tsk = .error ⟨.badPointer, freeTcpSock { s with links := links } tsk⟩ := by
  have null : ((freeTcpSock { s with links := links } tsk).links (.bindHashList tsk)).next =
      .null := by
    rw [freeTcpSock_links]
    show (links (.bindHashList tsk)).next = .null
    rw [kept, zeroed]
  simp only [tcpSockClose, listening, unlinked, tcpBindUnhash_zeroed null, bind, Except.bind]

namespace Stack.Sound

variable {s later : Stack} {socks : Sequences} {tsk : SockPtr}

/-- Taking a sock out of one of the two hash tables. -/
theorem unhash (sound : s.Sound socks) {head : Node} (isHead : s.IsHead head)
    (slot : head.slot = Node.hashList) (inside : tsk ∈ socks head) :
    ∃ links, tcpUnhash s tsk = .ok (freeTcpSock { s with links := links } tsk) ∧
      (freeTcpSock { s with links := links } tsk).Sound
        (Function.update socks head ((socks head).erase tsk)) ∧
      ∀ other, s.Outside socks (.bindHashList other) →
        links (.bindHashList other) = s.links (.bindHashList other) := by
  obtain ⟨links, unlinked, without, kept⟩ :=
    sound.shape.tcpUnhash_linked isHead (congrFun slot tsk) inside
  have touches : s.Touches tsk (freeTcpSock { s with links := links } tsk) :=
    (Stack.Touches.relinked s tsk links).trans (.free _ _)
  refine ⟨links, unlinked, ?_, fun other => kept _⟩
  refine sound.transfer (without.congr (by simp) (by simp)) touches.allocated touches.parent
    (fun other _ => by rw [freeTcpSock_state]) ?_ fun other outside => ?_
  · intro other _ bucket bound
    rwa [Sequences.update_of_slot_ne (slot ▸ Node.bindHashList_ne_hashList)]
  · rw [freeTcpSock_links]
    exact kept _ outside

/-- The second half of closing a listener: it leaves the bind table and is
closed. -/
theorem unbind (sound : s.Sound socks) {bucket : U8} (inside : tsk ∈ socks (.bindTable bucket)) :
    ∃ links later, tcpBindUnhash s tsk = .ok (freeTcpSock { s with links := links } tsk) ∧
      later = freeTcpSock (tcpSetState (freeTcpSock { s with links := links } tsk) tsk
        .closed) tsk ∧
      later.Sound (Function.update socks (.bindTable bucket)
        ((socks (.bindTable bucket)).erase tsk)) ∧
      ∀ other, other ≠ tsk → s.Aside socks later (Function.update socks (.bindTable bucket)
        ((socks (.bindTable bucket)).erase tsk)) other := by
  obtain ⟨links, unlinked, shape, kept⟩ := sound.shape.tcpBindUnhash_linked inside
  refine ⟨links, _, unlinked, rfl, ?_⟩
  have touches : s.Touches tsk (freeTcpSock (tcpSetState (freeTcpSock
      { s with links := links } tsk) tsk .closed) tsk) :=
    (Stack.Touches.relinked s tsk links).trans ((Stack.Touches.free _ tsk).trans
      ((Stack.Touches.setState _ tsk .closed).trans (.free _ tsk)))
  have state : ((freeTcpSock (tcpSetState (freeTcpSock { s with links := links } tsk) tsk
      .closed) tsk).sock tsk).state = .closed := by
    rw [freeTcpSock_state, tcpSetState_sock, if_pos rfl]
  have moves := socks.movesOnly_erase (.bindTable bucket) tsk
  have frame : ∀ other, s.Outside socks (.bindHashList other) → (freeTcpSock (tcpSetState
      (freeTcpSock { s with links := links } tsk) tsk .closed) tsk).links (.bindHashList other) =
        s.links (.bindHashList other) := by
    intro other outside
    rw [freeTcpSock_links, tcpSetState_links, freeTcpSock_links]
    exact kept _ outside
  have different : ∀ other, ((freeTcpSock (tcpSetState (freeTcpSock { s with links := links } tsk)
      tsk .closed) tsk).sock other).state.passive → other ≠ tsk := by
    rintro other passive rfl
    rw [state] at passive
    cases passive
  refine ⟨sound.transfer (shape.congr (by simp) (by simp)) touches.allocated touches.parent
    (fun other passive => ?_) (fun other listens place => ?_) frame, .touched touches moves frame⟩
  · rw [touches.others other (different other passive)]
  · exact (moves _ other (different other (by rw [listens]; rfl))).mpr

/-- Where a sock is after it left a hash table and the bind table: in the queues it
was in. -/
theorem places_unlinked (sound : s.Sound socks) {head : Node} {bucket : U8}
    (isHead : s.IsHead head) (slot : head.slot = Node.hashList) (inside : tsk ∈ socks head)
    (unhashed : later.Sound (Function.update socks head ((socks head).erase tsk)))
    (heads : later.IsHead = s.IsHead)
    (still : tsk ∈ Function.update socks head ((socks head).erase tsk) (.bindTable bucket))
    {place : Node} (isPlace : s.IsHead place) :
    tsk ∈ Function.update (Function.update socks head ((socks head).erase tsk)) (.bindTable bucket)
        ((Function.update socks head ((socks head).erase tsk) (.bindTable bucket)).erase tsk)
        place ↔
      tsk ∈ socks place ∧ place.slot = Node.list := by
  -- the node for the hash tables is in no list, nor is the one for the bind table
  cases place with
  | null | hashList | bindHashList | list => exact isPlace.elim
  | establishedTable | listenTable =>
      refine ⟨fun inPlace => ?_, fun before => by cases congrFun before.2 0⟩
      rw [Function.update_of_ne (by simp)] at inPlace
      exact absurd inPlace
        (sound.shape.gone isHead inside isPlace (by rw [congrFun slot tsk]; rfl))
  | bindTable =>
      refine ⟨fun inPlace => ?_, fun before => by cases congrFun before.2 0⟩
      exact absurd inPlace
        (unhashed.shape.gone (Stack.isHead_bind _ _) still (heads ▸ isPlace) rfl)
  | listenQueue | acceptQueue =>
      rw [Function.update_of_ne (by simp),
        Sequences.update_of_slot_ne (slot ▸ Node.hashList_ne_list.symm)]
      exact (and_iff_left rfl).symm

/-- Closing a listener takes it out of its two tables. A listener that was never
bound stops the program after the first. -/
theorem close_listen (sound : s.Sound socks) (listening : (s.sock tsk).state = .listen)
    (hashed : s.Hashed tsk) :
    ∃ moved, (tcpSockClose s tsk).stack.Sound moved ∧
      (∀ other, other ≠ tsk → s.Aside socks (tcpSockClose s tsk).stack moved other) ∧
      ((∃ later, tcpSockClose s tsk = .ok later) ↔ ∃ bucket, tsk ∈ socks (.bindTable bucket)) ∧
      ∀ later, tcpSockClose s tsk = .ok later →
        (later.sock tsk).refCnt = (s.sock tsk).refCnt - 3 ∧
        ((s.sock tsk).refCnt ≤ 3 → later.Released tsk) ∧
        ∀ place, s.IsHead place →
          (tsk ∈ moved place ↔ tsk ∈ socks place ∧ place.slot = Node.list) := by
  have member := sound.shape.allocated_of_hashed hashed
  obtain ⟨head, isHead, slot, inside⟩ := sound.shape.hashed_iff.mp hashed
  obtain ⟨links, unlinked, unhashed, kept⟩ := sound.unhash isHead slot inside
  have aside := Stack.Aside.touched
    ((Stack.Touches.relinked s tsk links).trans (.free { s with links := links } tsk))
    (socks.movesOnly_erase head tsk) (by simpa using kept)
  by_cases bound : ∃ bucket, tsk ∈ socks (.bindTable bucket)
  · obtain ⟨bucket, inBind⟩ := bound
    have still : tsk ∈ Function.update socks head ((socks head).erase tsk) (.bindTable bucket) := by
      rwa [Sequences.update_of_slot_ne (slot ▸ Node.bindHashList_ne_hashList)]
    obtain ⟨final, later, unlinkedBind, closed, settled, asideBind⟩ := unhashed.unbind still
    have closes : tcpSockClose s tsk = .ok later := by
      simp only [tcpSockClose, listening, unlinked, unlinkedBind, closed, bind, Except.bind, pure,
        Except.pure]
    rw [closes, Outcome.stack_ok]
    refine ⟨_, settled, fun other apart => (aside other apart).trans (asideBind other apart)
      (by simp), ⟨fun _ => ⟨bucket, inBind⟩, fun _ => ⟨later, rfl⟩⟩, ?_⟩
    rintro _ ⟨⟩
    refine ⟨?_, ?_, fun place isPlace => sound.places_unlinked isHead slot inside unhashed
      (Stack.isHead_congr (by simp)) still isPlace⟩
    · rw [closed]
      simp only [freeTcpSock_sock, tcpSetState_sock, if_pos]
      omega
    · intro few
      rw [closed, Stack.Released, freeTcpSock_freed]
      simp only [freeTcpSock_sock, tcpSetState_sock, if_pos]
      rw [if_pos (by omega)]
      exact List.mem_cons_self
  · have zeroed := (sound.listening tsk member listening).resolve_left bound
    push Not at bound
    rw [tcpSockClose_unbound listening zeroed unlinked
      (kept _ (Stack.Shape.outside_of_not_bound bound))]
    refine ⟨_, unhashed, aside, ⟨?_, ?_⟩, fun later done => by cases done⟩
    · rintro ⟨_, ⟨⟩⟩
    · rintro ⟨bucket, inBind⟩
      exact absurd inBind (bound bucket)

/-- Closing a sock that does not listen leaves all lists as they are. -/
theorem close (sound : s.Sound socks) (notListen : (s.sock tsk).state ≠ .listen) :
    (tcpSockClose s tsk).stack.Sound socks ∧
      ∀ other, other ≠ tsk → s.Aside socks (tcpSockClose s tsk).stack socks other := by
  obtain ⟨done, links⟩ := tcpSockClose_quiet notListen
  have touches := tcpSockClose_touches done
  have active : ((tcpSockClose s tsk).stack.sock tsk).state.passive = false := by
    rw [tcpSockClose_state done]
    exact TcpState.passive_afterClose _
  refine ⟨sound.touched touches links ?_ ?_,
    .touched touches (socks.movesOnly_refl tsk) (by simp [links])⟩
  · intro state
    rw [state] at active
    cases active
  · intro state
    rw [state] at active
    cases active

/-! ## Linking -/

/-- Linking a sock under its port. -/
theorem bindHash (sound : s.Sound socks) (member : tsk ∈ s.allocated)
    (unbound : ∀ bucket, tsk ∉ socks (.bindTable bucket)) :
    ∃ links bucket, tcpBindHash s tsk = .ok (tcpSockIncRefCnt { s with links := links } tsk) ∧
      (tcpSockIncRefCnt { s with links := links } tsk).Sound
        (Function.update socks (.bindTable bucket) (tsk :: socks (.bindTable bucket))) ∧
      ∀ other, other ≠ tsk → s.Aside socks (tcpSockIncRefCnt { s with links := links } tsk)
        (Function.update socks (.bindTable bucket) (tsk :: socks (.bindTable bucket))) other := by
  obtain ⟨links, done, shape, kept⟩ := sound.shape.tcpBindHash_linked member unbound
  have touches := (Stack.Touches.relinked s tsk links).trans (.incRefCnt _ tsk)
  have aside : ∀ other, other ≠ tsk → s.Aside socks (tcpSockIncRefCnt { s with links := links } tsk)
      (Function.update socks (.bindTable (portBucket (s.sock tsk).skSport))
        (tsk :: socks (.bindTable (portBucket (s.sock tsk).skSport)))) other :=
    fun other different => .of_moves touches.allocated (by rw [touches.others other different])
      (by rw [touches.others other different]) Iff.rfl (socks.movesOnly_cons _ tsk)
      (fun outside => kept _ outside (by simpa using different)) different
  refine ⟨links, portBucket (s.sock tsk).skSport, done, ?_, aside⟩
  constructor
  · exact shape.congr rfl rfl
  · intro other inside
    rw [touches.parent]
    exact sound.parents other inside
  · intro other inside state
    rw [tcpSockIncRefCnt_field _ tsk TcpSock.state fun _ _ => rfl] at state
    rw [touches.parent]
    exact sound.children other inside state
  · intro other inside state
    rw [tcpSockIncRefCnt_field _ tsk TcpSock.state fun _ _ => rfl] at state
    by_cases same : other = tsk
    · exact .inl ⟨portBucket (s.sock tsk).skSport, by simp [same]⟩
    · exact (aside other same).bindReady (sound.listening other inside state)

/-- Linking a sock in one of the two hash tables. -/
theorem linkHashed (sound : s.Sound socks) {links : Heap Node} {head : Node}
    (slot : head.slot = Node.hashList)
    (shape : ({ s with links := links } : Stack).Shape
      (Function.update socks head (tsk :: socks head)))
    (kept : ∀ node, s.Outside socks node → node ≠ .hashList tsk → links node = s.links node) :
    (tcpSockIncRefCnt { s with links := links } tsk).Sound
        (Function.update socks head (tsk :: socks head)) ∧
      (∀ other, other ≠ tsk → s.Aside socks (tcpSockIncRefCnt { s with links := links } tsk)
        (Function.update socks head (tsk :: socks head)) other) ∧
      (s.BindReady socks tsk → (tcpSockIncRefCnt { s with links := links } tsk).BindReady
        (Function.update socks head (tsk :: socks head)) tsk) := by
  have touches := (Stack.Touches.relinked s tsk links).trans (.incRefCnt _ tsk)
  have stays : ∀ other bucket, other ∈ socks (.bindTable bucket) →
      other ∈ Function.update socks head (tsk :: socks head) (.bindTable bucket) := by
    intro other bucket inside
    rwa [Sequences.update_of_slot_ne (slot ▸ Node.bindHashList_ne_hashList)]
  have frame : ∀ other, s.Outside socks (.bindHashList other) →
      links (.bindHashList other) = s.links (.bindHashList other) :=
    fun other outside => kept _ outside (by simp)
  refine ⟨sound.transfer (shape.congr rfl rfl) rfl touches.parent
    (fun other _ => tcpSockIncRefCnt_field _ tsk TcpSock.state (fun _ _ => rfl) other)
    (fun other _ => stays other) frame, .touched touches (socks.movesOnly_cons head tsk) frame,
    fun ready => ready.transfer (stays tsk) (frame tsk)⟩

/-- Hashing a sock that is not hashed: it is refused, or linked in one of the two
tables. -/
theorem hash (sound : s.Sound socks) (member : tsk ∈ s.allocated) (unhashed : ¬ s.Hashed tsk) :
    ∃ result later moved, tcpHash s tsk = .ok (result, later) ∧ later.Sound moved ∧
      (∀ other, other ≠ tsk → s.Aside socks later moved other) ∧
      (s.BindReady socks tsk → later.BindReady moved tsk) ∧
      (later = s ∧ moved = socks ∧ (s.sock tsk).state ≠ .listen ∨
        ∃ links head, s.IsHead head ∧ head.slot = Node.hashList ∧
          later = tcpSockIncRefCnt { s with links := links } tsk ∧
          moved = Function.update socks head (tsk :: socks head)) := by
  by_cases listening : (s.sock tsk).state = .listen
  · obtain ⟨links, hashed, shape, kept⟩ := sound.shape.tcpHash_listen member unhashed listening
    obtain ⟨linked, aside, ready⟩ := sound.linkHashed rfl shape kept
    exact ⟨_, _, _, hashed, linked, aside, ready, .inr ⟨links, _, s.isHead_listen _, rfl, rfl, rfl⟩⟩
  have unchanged : ∀ other, other ≠ tsk → s.Aside socks s socks other :=
    .touched (.refl s tsk) (socks.movesOnly_refl tsk) (by simp)
  by_cases closed : (s.sock tsk).state = .closed
  · exact ⟨-1, s, socks, by simp [tcpHash, closed, pure, Except.pure], sound, unchanged,
      id, .inl ⟨rfl, rfl, listening⟩⟩
  by_cases free : ∀ other ∈ socks (.establishedTable (s.sock tsk).bucket),
      (s.sock other).tuple ≠ (s.sock tsk).tuple
  · obtain ⟨links, hashed, shape, kept⟩ :=
      sound.shape.tcpHash_free member unhashed closed listening free
    obtain ⟨linked, aside, ready⟩ := sound.linkHashed rfl shape kept
    exact ⟨_, _, _, hashed, linked, aside, ready,
      .inr ⟨links, _, s.isHead_established _, rfl, rfl, rfl⟩⟩
  · push Not at free
    obtain ⟨other, inside, same⟩ := free
    exact ⟨_, s, socks, sound.shape.tcpHash_taken closed listening inside same, sound, unchanged,
      id, .inl ⟨rfl, rfl, listening⟩⟩

/-! ## Queues -/

/-- Linking a sock that is in no queue at the back of a queue. -/
theorem addTail (sound : s.Sound socks) (member : tsk ∈ s.allocated) {head : Node}
    (isHead : s.IsHead head) (queue : head.slot = Node.list)
    (fresh : ∀ place, s.IsHead place → Node.list tsk ∉ socks.nodes place) :
    ∃ links, s.links.listAddTail Node.valid (.list tsk) head = .ok links ∧
      ({ s with links := links } : Stack).Sound
        (Function.update socks head (socks head ++ [tsk])) ∧
      (∀ other, other ≠ tsk → s.Aside socks { s with links := links }
        (Function.update socks head (socks head ++ [tsk])) other) ∧
      (s.BindReady socks tsk → ({ s with links := links } : Stack).BindReady
        (Function.update socks head (socks head ++ [tsk])) tsk) := by
  have slot := congrFun queue tsk
  obtain ⟨links, added, shape, same⟩ := sound.shape.addTail isHead member (slot ▸ fresh)
  rw [slot] at added same
  have frame : ∀ other, s.Outside socks (.bindHashList other) →
      links (.bindHashList other) = s.links (.bindHashList other) :=
    fun other outside => same _ (by simp) (outside head isHead)
  have stays : ∀ other bucket, other ∈ socks (.bindTable bucket) →
      other ∈ Function.update socks head (socks head ++ [tsk]) (.bindTable bucket) := by
    intro other bucket inside
    rwa [Sequences.update_of_slot_ne (queue ▸ Node.bindHashList_ne_list)]
  exact ⟨links, added, sound.transfer shape rfl (fun _ => rfl) (fun _ _ => rfl)
    (fun other _ => stays other) frame,
    .touched (.relinked s tsk links) (socks.movesOnly_append head tsk) frame,
    fun ready => ready.transfer (stays tsk) (frame tsk)⟩

/-- Queueing a sock for `accept` moves it to the back of the queue of its
parent. -/
theorem enqueue (sound : s.Sound socks) (member : tsk ∈ s.allocated)
    (parent : (s.sock tsk).parent ≠ 0) :
    ∃ links moved, tcpSockAcceptEnqueue s tsk =
        .ok (({ s with links := links } : Stack).modify (s.sock tsk).parent fun sk =>
          { sk with acceptBacklog := sk.acceptBacklog + 1 }) ∧
      ({ s with links := links } : Stack).Sound moved ∧
      (∀ other, other ≠ tsk → s.Aside socks { s with links := links } moved other) ∧
      (s.BindReady socks tsk → ({ s with links := links } : Stack).BindReady moved tsk) ∧
      ∀ place, place.slot ≠ Node.list → moved place = socks place := by
  obtain ⟨links, moved, done, shape, moves, elsewhere, kept, _⟩ :=
    sound.shape.acceptEnqueue member ((sound.parents tsk member).resolve_left parent)
  have frame : ∀ other, s.Outside socks (.bindHashList other) →
      links (.bindHashList other) = s.links (.bindHashList other) :=
    fun other => kept _ (by simp)
  have stays : ∀ other bucket, other ∈ socks (.bindTable bucket) →
      other ∈ moved (.bindTable bucket) := by
    intro other bucket inBind
    rwa [elsewhere (.bindTable bucket) Node.bindHashList_ne_list]
  exact ⟨links, moved, done, sound.transfer shape rfl (fun _ => rfl) (fun _ _ => rfl)
    (fun other _ => stays other) frame, .touched (.relinked s tsk links) moves frame,
    fun ready => ready.transfer (stays tsk) (frame tsk), elsewhere⟩

/-- Taking the first sock of a queue for `accept` moves that sock only. On an
empty queue the head is taken for a sock, and nothing moves. -/
theorem acceptDequeue (sound : s.Sound socks) (member : tsk ∈ s.allocated) :
    ∃ popped links moved, tcpSockAcceptDequeue s tsk =
        .ok (popped, ({ s with links := links } : Stack).modify tsk fun sk =>
          { sk with acceptBacklog := sk.acceptBacklog - 1 }) ∧
      ({ s with links := links } : Stack).Sound moved ∧
      (∀ place other, other ∈ moved place → other ∈ socks place) ∧
      (∀ place, place ≠ .acceptQueue tsk → moved place = socks place) ∧
      ∀ other, s.Outside socks (.bindHashList other) →
        links (.bindHashList other) = s.links (.bindHashList other) := by
  cases queue : socks (.acceptQueue tsk) with
  | nil =>
      have denotes := sound.shape.family.denotes (.acceptQueue tsk) member
      have ok : Node.valid (.acceptQueue tsk) := denotes.valid_of_mem _ List.mem_cons_self
      have path := denotes.path
      simp only [Sequences.nodes, queue, List.map_nil, Lib.Path] at path
      have alone : s.links (.acceptQueue tsk) = ⟨.acceptQueue tsk, .acceptQueue tsk⟩ := by
        cases link : s.links (.acceptQueue tsk) with
        | mk next prev => simpa [link] using path
      have same : s.links.initListHead (.acceptQueue tsk) = s.links := by
        rw [Heap.initListHead, ← alone, Function.update_eq_self]
      refine ⟨.acceptQueue tsk, s.links, socks, ?_, sound, fun _ _ => id, fun _ _ => rfl,
        fun _ _ => rfl⟩
      simp only [tcpSockAcceptDequeue, Heap.load, ok, if_true, Stack.stopOn, alone,
        Heap.listDeleteEntry_of_alone ok alone, Stack.relink, same, bind, Except.bind, pure,
        Except.pure]
  | cons first rest =>
      obtain ⟨links, done, shape, kept⟩ := sound.shape.acceptDequeue member queue
      have elsewhere : ∀ place, place ≠ .acceptQueue tsk →
          Function.update socks (.acceptQueue tsk) rest place = socks place :=
        fun place different => Function.update_of_ne different _ _
      have frame : ∀ other, s.Outside socks (.bindHashList other) →
          links (.bindHashList other) = s.links (.bindHashList other) :=
        fun other outside => kept _ outside
      refine ⟨.list first, links, _, done,
        sound.transfer shape rfl (fun _ => rfl) (fun _ _ => rfl) ?_ frame, ?_, elsewhere, frame⟩
      · intro other _ bucket inBind
        rwa [elsewhere (.bindTable bucket) (by simp)]
      · intro place other inPlace
        by_cases here : place = .acceptQueue tsk
        · rw [here, Function.update_self] at inPlace
          rw [here, queue]
          exact List.mem_cons_of_mem _ inPlace
        · rwa [Function.update_of_ne here] at inPlace

end Stack.Sound

/-! ## Making socks -/

/-- The lists when a sock was made: its two queues are empty. -/
def Sequences.withSock (socks : Sequences) (tmp : SockPtr) : Sequences :=
  Function.update (Function.update socks (.listenQueue tmp) []) (.acceptQueue tmp) []

theorem Sequences.mem_withSock {s : Stack} {socks : Sequences} {tmp other : SockPtr}
    (absent : tmp ∉ s.allocated) {contents : TcpSock} {head : Node}
    (isHead : ((allocTcpSock s tmp).modify tmp fun _ => contents).IsHead head) :
    other ∈ socks.withSock tmp head ↔ s.IsHead head ∧ other ∈ socks head := by
  cases head with
  | null | hashList | bindHashList | list => exact isHead.elim
  | establishedTable | listenTable | bindTable => simp [Sequences.withSock, Stack.IsHead]
  | listenQueue parent | acceptQueue parent =>
      by_cases same : parent = tmp
      · simp [Sequences.withSock, Stack.IsHead, same, absent]
      · have existing : parent ∈ s.allocated := (List.mem_cons.mp isHead).resolve_left same
        simp [Sequences.withSock, Stack.IsHead, same, existing]

namespace Stack.Sound

variable {s : Stack} {socks : Sequences} {tsk tmp : SockPtr}

/-- A new sock is in no list, and moves no other. -/
theorem alloc (sound : s.Sound socks) (contents : TcpSock) (notNull : tmp ≠ 0)
    (absent : tmp ∉ s.allocated) (parent : contents.parent = 0 ∨ contents.parent ∈ s.allocated)
    (active : contents.state.passive = false) :
    ((allocTcpSock s tmp).modify tmp fun _ => contents).Sound (socks.withSock tmp) ∧
      ∀ other, other ≠ tmp → s.Aside socks ((allocTcpSock s tmp).modify tmp fun _ => contents)
        (socks.withSock tmp) other := by
  have others : ∀ other, other ≠ tmp →
      ((allocTcpSock s tmp).modify tmp fun _ => contents).sock other = s.sock other := by
    intro other different
    rw [Stack.modify_sock_of_ne _ _ different]
    exact Function.update_of_ne different _ _
  have own : ((allocTcpSock s tmp).modify tmp fun _ => contents).sock tmp = contents :=
    Stack.modify_sock_self _ _ _
  have aside : ∀ other, other ≠ tmp → s.Aside socks
      ((allocTcpSock s tmp).modify tmp fun _ => contents) (socks.withSock tmp) other :=
    fun other different =>
      { state := by rw [others other different]
        refCnt := by rw [others other different]
        released := Iff.rfl
        places := fun head isHead => Sequences.mem_withSock absent isHead
        bindNode := fun _ => by simp [allocTcpSock, Heap.initListHead, different] }
  -- a sock in one of the states of a passive open is not the new one
  have earlier : ∀ other ∈ tmp :: s.allocated,
      (((allocTcpSock s tmp).modify tmp fun _ => contents).sock other).state.passive = true →
        other ∈ s.allocated ∧ other ≠ tmp := by
    intro other member passive
    rcases List.mem_cons.mp member with rfl | existing
    · rw [own, active] at passive
      cases passive
    · exact ⟨existing, ne_of_mem_of_not_mem existing absent⟩
  refine ⟨⟨(sound.shape.alloc notNull absent).congr rfl rfl, ?_, ?_, ?_⟩, aside⟩
  · intro other member
    rcases List.mem_cons.mp member with rfl | existing
    · rw [own]
      exact parent.imp_right (List.mem_cons_of_mem _)
    · rw [others other (ne_of_mem_of_not_mem existing absent)]
      exact (sound.parents other existing).imp_right (List.mem_cons_of_mem _)
  · intro other member state
    obtain ⟨existing, different⟩ := earlier other member (by rw [state]; rfl)
    rw [others other different] at state ⊢
    exact sound.children other existing state
  · intro other member state
    obtain ⟨existing, different⟩ := earlier other member (by rw [state]; rfl)
    rw [others other different] at state
    exact (aside other different).bindReady (sound.listening other existing state)

end Stack.Sound

end TcpStack
