import TcpStack.Sock.Hash
import Mathlib.Data.List.Perm.Basic

/-!
# The shape of the lists

What the pointers of the stack denote when they are in order: every bucket of
the three tables and every queue of a sock is a circular list, and the members
of each are socks. `Stack.Shape` relates a stack to the sequences of socks its
lists denote. The sequences are what following the pointers gives
(`Stack.Shape.entries_eq`), and on them the operations of the tables are
operations on sequences.
-/

set_option autoImplicit false

namespace TcpStack

open Lib

/-- The node by which a sock is linked into the list of a head. -/
def Node.slot : Node → SockPtr → Node
  | .establishedTable _, tsk | .listenTable _, tsk => .hashList tsk
  | .bindTable _, tsk => .bindHashList tsk
  | _, tsk => .list tsk

/-- The sock a node is a field of, if it is one by which socks are linked. -/
def Node.owner : Node → Option SockPtr
  | .hashList tsk | .bindHashList tsk | .list tsk => some tsk
  | _ => none

/-- The heads of the lists: the buckets, and the queues of the socks. -/
def Stack.IsHead (s : Stack) : Node → Prop
  | .establishedTable _ | .listenTable _ | .bindTable _ => True
  | .listenQueue tsk | .acceptQueue tsk => tsk ∈ s.allocated
  | _ => False

theorem Stack.isHead_established (s : Stack) (bucket : U8) :
    s.IsHead (.establishedTable bucket) := trivial

theorem Stack.isHead_listen (s : Stack) (bucket : U8) : s.IsHead (.listenTable bucket) := trivial

theorem Stack.isHead_bind (s : Stack) (bucket : U8) : s.IsHead (.bindTable bucket) := trivial

/-- The heads depend on which socks exist only. -/
theorem Stack.isHead_congr {s later : Stack} (allocated : later.allocated = s.allocated) :
    later.IsHead = s.IsHead := by
  funext node
  cases node <;> simp [Stack.IsHead, allocated]

/-- A head stays one when socks are made. -/
theorem Stack.isHead_mono {s later : Stack} (grows : s.allocated ⊆ later.allocated) {head : Node}
    (isHead : s.IsHead head) : later.IsHead head := by
  cases head with
  | listenQueue tsk | acceptQueue tsk => exact grows isHead
  | establishedTable | listenTable | bindTable => trivial
  | null | hashList | bindHashList | list => exact isHead

/-- A new sock has the heads of two queues. -/
theorem Stack.isHead_alloc (s : Stack) (tsk : SockPtr) : (allocTcpSock s tsk).IsHead =
    fun node => (s.IsHead node ∨ node = .listenQueue tsk) ∨ node = .acceptQueue tsk := by
  funext node
  cases node <;> simp [Stack.IsHead, allocTcpSock, or_comm]

/-- The heads there were before a sock was made are not those of its queues. -/
theorem Stack.update_queues_of_isHead {s : Stack} {Item : Type} (table : Node → List Item)
    {tsk : SockPtr} (absent : tsk ∉ s.allocated) {head : Node} (isHead : s.IsHead head) :
    Function.update (Function.update table (.listenQueue tsk) []) (.acceptQueue tsk) [] head =
      table head := by
  have notAccept : head ≠ .acceptQueue tsk := by
    rintro rfl
    exact absent isHead
  have notListen : head ≠ .listenQueue tsk := by
    rintro rfl
    exact absent isHead
  rw [Function.update_of_ne notAccept, Function.update_of_ne notListen]

/-- The socks met by following the pointers of a list. -/
def Stack.entries (s : Stack) (head : Node) : List SockPtr :=
  (s.links.listNodes head s.fuel).filterMap Node.owner

/-- The sequences of socks of all lists of the stack. -/
abbrev Sequences := Node → List SockPtr

/-- The nodes of all lists of the stack. -/
def Sequences.nodes (socks : Sequences) (head : Node) : List Node := (socks head).map head.slot

/-- The lists of the stack denote the given sequences of socks. -/
structure Stack.Shape (s : Stack) (socks : Sequences) : Prop where
  family : Family Node.valid s.links s.IsHead socks.nodes
  allocated : ∀ head tsk, s.IsHead head → tsk ∈ socks head → tsk ∈ s.allocated
  notNull : 0 ∉ s.allocated
  once : s.allocated.Nodup
  /-- The queue node of a sock in no queue is an empty list. -/
  alone : ∀ tsk ∈ s.allocated, (∀ head, s.IsHead head → Node.list tsk ∉ socks.nodes head) →
    (s.links (.list tsk)).next = .list tsk

/-- The node is in no list of the stack. -/
def Stack.Outside (s : Stack) (socks : Sequences) (node : Node) : Prop :=
  ∀ head, s.IsHead head → node ∉ head :: socks.nodes head

theorem Node.slot_injective (head : Node) : Function.Injective head.slot := by
  intro first second same
  cases head <;> simpa [Node.slot] using same

@[simp] theorem Node.owner_slot (head : Node) (tsk : SockPtr) :
    (head.slot tsk).owner = some tsk := by
  cases head <;> rfl

theorem Node.bindHashList_ne_hashList : Node.bindHashList ≠ Node.hashList := by
  intro same
  cases congrFun same 0

theorem Node.bindHashList_ne_list : Node.bindHashList ≠ Node.list := by
  intro same
  cases congrFun same 0

theorem Node.hashList_ne_list : Node.hashList ≠ Node.list := by
  intro same
  cases congrFun same 0

theorem Node.valid_slot (head : Node) {tsk : SockPtr} (notNull : tsk ≠ 0) :
    (head.slot tsk).valid := by
  cases head <;> simpa [Node.slot, Node.valid] using notNull

theorem Stack.not_isHead_slot (s : Stack) (head : Node) (tsk : SockPtr) :
    ¬ s.IsHead (head.slot tsk) := by
  cases head <;> simp [Node.slot, Stack.IsHead]

theorem Sequences.mem_nodes {socks : Sequences} {head : Node} {tsk : SockPtr} :
    head.slot tsk ∈ socks.nodes head ↔ tsk ∈ socks head :=
  List.mem_map_of_injective head.slot_injective

theorem Sequences.nodes_update (socks : Sequences) (head : Node) (sequence : List SockPtr) :
    Sequences.nodes (Function.update socks head sequence) =
      Function.update socks.nodes head (sequence.map head.slot) := by
  funext other
  by_cases same : other = head
  · subst same
    simp [Sequences.nodes]
  · simp [Sequences.nodes, same]

section Members

variable {socks : Sequences} {head place : Node} {tsk other : SockPtr}

/-- Who is where after a sock was linked at the front of a list. -/
theorem Sequences.mem_front : other ∈ Function.update socks head (tsk :: socks head) place ↔
    place = head ∧ other = tsk ∨ other ∈ socks place := by
  by_cases here : place = head
  · subst here
    simp
  · simp [here]

/-- Who is where after a sock was linked at the back of a list. -/
theorem Sequences.mem_back : other ∈ Function.update socks head (socks head ++ [tsk]) place ↔
    place = head ∧ other = tsk ∨ other ∈ socks place := by
  by_cases here : place = head
  · subst here
    simp [or_comm]
  · simp [here]

theorem Sequences.mem_of_erase
    (inside : other ∈ Function.update socks head ((socks head).erase tsk) place) :
    other ∈ socks place := by
  by_cases here : place = head
  · subst here
    rw [Function.update_self] at inside
    exact List.mem_of_mem_erase inside
  · rwa [Function.update_of_ne here] at inside

end Members

/-- A search of a list that links socks by `hash_list` finds the first sock
wanted. -/
theorem Stack.find_hashed (s : Stack) {head : Node} {sequence : List SockPtr}
    (denotes : Denotes Node.valid s.links head (sequence.map .hashList))
    (enough : (sequence.map Node.hashList).length < s.fuel) (wanted : TcpSock → Bool) :
    s.links.listFind Node.valid head s.fuel (visitHashed s wanted) =
      .ok (sequence.find? fun tsk => wanted (s.sock tsk)) := by
  have visits : ∀ node ∈ sequence.map Node.hashList, visitHashed s wanted node =
      .ok (node.owner.bind fun tsk => if wanted (s.sock tsk) then some tsk else none) := by
    intro node member
    obtain ⟨tsk, _, rfl⟩ := List.mem_map.mp member
    rfl
  rw [denotes.find enough visits, List.findSome?_map, List.find?_eq_findSome?_guard]
  rfl

section Entries

variable {s : Stack} {head : Node} {sequence : List SockPtr}
  (denotes : Denotes Node.valid s.links head (sequence.map head.slot))
  (inside : sequence ⊆ s.allocated)
include denotes inside

/-- The traversal bound is not reached on a list of socks that exist. -/
theorem Stack.length_lt_fuel_of_denotes : (sequence.map head.slot).length < s.fuel := by
  have nodup := List.Nodup.of_map _ (List.nodup_cons.mp denotes.nodup).2
  have bound := (List.subperm_of_subset nodup inside).length_le
  simpa [Stack.fuel, Nat.lt_succ_iff] using bound

/-- Following the pointers of a list of socks that exist gives these socks. -/
theorem Stack.entries_of_denotes : s.entries head = sequence := by
  rw [Stack.entries, denotes.listNodes_eq (s.length_lt_fuel_of_denotes denotes inside)]
  simp [List.filterMap_map]

end Entries

/-- The sock linked right behind a head is met first. -/
theorem Stack.mem_entries_of_next {s : Stack} {head : Node} {tsk : SockPtr}
    (next : (s.links head).next = head.slot tsk) (different : head.slot tsk ≠ head) :
    tsk ∈ s.entries head := by
  rw [Stack.entries, Heap.listNodes, next, Stack.fuel, Heap.nodesFrom, if_neg different,
    List.filterMap_cons, Node.owner_slot]
  exact List.mem_cons_self

namespace Stack.Shape

variable {s : Stack} {socks : Sequences}

/-- The shape depends on the pointers and on which socks exist only. -/
theorem congr {other : Stack} (shape : s.Shape socks) (links : other.links = s.links)
    (allocated : other.allocated = s.allocated) : other.Shape socks := by
  have heads := Stack.isHead_congr allocated
  constructor
  · rw [links, heads]
    exact shape.family
  · rw [heads, allocated]
    exact shape.allocated
  · rw [allocated]
    exact shape.notNull
  · rw [allocated]
    exact shape.once
  · rw [links, heads, allocated]
    exact shape.alone

theorem modify (shape : s.Shape socks) (tsk : SockPtr) (change : TcpSock → TcpSock) :
    (s.modify tsk change).Shape socks := shape.congr rfl rfl

theorem ne_null (shape : s.Shape socks) {tsk : SockPtr} (member : tsk ∈ s.allocated) :
    tsk ≠ 0 := by
  rintro rfl
  exact shape.notNull member

theorem nodup (shape : s.Shape socks) {head : Node} (isHead : s.IsHead head) :
    (socks head).Nodup :=
  List.Nodup.of_map _ (List.nodup_cons.mp (shape.family.denotes head isHead).nodup).2

/-- The traversal bound is not reached on a list in order. -/
theorem length_lt_fuel (shape : s.Shape socks) {head : Node} (isHead : s.IsHead head) :
    (socks.nodes head).length < s.fuel :=
  s.length_lt_fuel_of_denotes (shape.family.denotes head isHead)
    fun tsk => shape.allocated head tsk isHead

/-- Following the pointers gives the sequence. -/
theorem entries_eq (shape : s.Shape socks) {head : Node} (isHead : s.IsHead head) :
    s.entries head = socks head :=
  s.entries_of_denotes (shape.family.denotes head isHead)
    fun tsk => shape.allocated head tsk isHead

theorem established_entries (shape : s.Shape socks) (bucket : U8) :
    s.entries (.establishedTable bucket) = socks (.establishedTable bucket) :=
  shape.entries_eq (s.isHead_established bucket)

theorem listen_entries (shape : s.Shape socks) (bucket : U8) :
    s.entries (.listenTable bucket) = socks (.listenTable bucket) :=
  shape.entries_eq (s.isHead_listen bucket)

theorem bind_entries (shape : s.Shape socks) (bucket : U8) :
    s.entries (.bindTable bucket) = socks (.bindTable bucket) :=
  shape.entries_eq (s.isHead_bind bucket)

/-- A sock is in at most one of the lists that link it by the same node. -/
theorem unique (shape : s.Shape socks) {first second : Node} {tsk : SockPtr}
    (isFirst : s.IsHead first) (isSecond : s.IsHead second)
    (slot : first.slot tsk = second.slot tsk)
    (inFirst : tsk ∈ socks first) (inSecond : tsk ∈ socks second) : first = second := by
  refine shape.family.unique first second (first.slot tsk) isFirst isSecond
    (Sequences.mem_nodes.mpr inFirst) ?_
  rw [slot]
  exact Sequences.mem_nodes.mpr inSecond

/-- A sock of the established table is not linked as a listener as well. -/
theorem not_listen_of_established (shape : s.Shape socks) {first second : U8} {tsk : SockPtr}
    (inside : tsk ∈ socks (.establishedTable first)) : tsk ∉ socks (.listenTable second) := by
  intro also
  have heads := shape.unique (s.isHead_established first) (s.isHead_listen second) rfl inside also
  cases heads

/-- A search of a bucket of the established or the listen table finds the first
sock wanted. -/
theorem find_hashed (shape : s.Shape socks) {head : Node} (isHead : s.IsHead head)
    (slot : head.slot = Node.hashList) (wanted : TcpSock → Bool) :
    s.links.listFind Node.valid head s.fuel (visitHashed s wanted) =
      .ok ((socks head).find? fun tsk => wanted (s.sock tsk)) := by
  have denotes := shape.family.denotes head isHead
  have enough := shape.length_lt_fuel isHead
  rw [Sequences.nodes, slot] at denotes enough
  exact s.find_hashed denotes enough wanted

/-! ## Linking and unlinking -/

section Link

variable {head : Node} {tsk : SockPtr} (shape : s.Shape socks) (isHead : s.IsHead head)
include shape isHead

/-- A sock in no queue keeps its queue node when one list changes, unless that
node is the one unlinked. -/
theorem alone_of_same {links : Heap Node} {sequence : List SockPtr}
    (keeps : ∀ other ∈ socks head, other = tsk ∨ other ∈ sequence)
    (stays : head.slot tsk = .list tsk → tsk ∈ sequence)
    (same : ∀ node, node ≠ head.slot tsk → node ∉ head :: socks.nodes head →
      links node = s.links node) :
    ∀ other ∈ s.allocated,
      (∀ queue, s.IsHead queue →
        Node.list other ∉ Sequences.nodes (Function.update socks head sequence) queue) →
      (links (.list other)).next = .list other := by
  intro other member outside
  have notIn : Node.list other ∉ sequence.map head.slot := by
    have here := outside head isHead
    rwa [Sequences.nodes_update, Function.update_self] at here
  have notLinked : Node.list other ≠ head.slot tsk := by
    intro equal
    have owner : other = tsk := by
      have owners := congrArg Node.owner equal
      rw [Node.owner_slot] at owners
      exact Option.some.inj owners
    subst owner
    exact notIn (equal ▸ List.mem_map_of_mem (stays equal.symm))
  have notBefore : Node.list other ∉ socks.nodes head := by
    intro inside
    obtain ⟨node, nodeMember, equal⟩ := List.mem_map.mp inside
    rcases keeps node nodeMember with rfl | kept
    · exact notLinked equal.symm
    · exact notIn (equal ▸ List.mem_map_of_mem kept)
  have notHead : Node.list other ≠ head := by
    rintro rfl
    exact isHead
  rw [same _ notLinked (by simp [notHead, notBefore])]
  refine shape.alone other member fun queue isQueue => ?_
  by_cases here : queue = head
  · exact here ▸ notBefore
  · have there := outside queue isQueue
    rwa [Sequences.nodes_update, Function.update_of_ne here] at there

/-- Linking a sock at the front of a list. -/
theorem addHead (member : tsk ∈ s.allocated)
    (fresh : ∀ other, s.IsHead other → head.slot tsk ∉ socks.nodes other) :
    ∃ links, s.links.listAddHead Node.valid (head.slot tsk) head = .ok links ∧
      ({ s with links := links } : Stack).Shape (Function.update socks head (tsk :: socks head)) ∧
      ∀ node, node ≠ head.slot tsk → node ∉ head :: socks.nodes head →
        links node = s.links node := by
  obtain ⟨links, added, family, same⟩ := shape.family.addHead isHead
    (head.valid_slot (shape.ne_null member)) (s.not_isHead_slot head tsk) fresh
  refine ⟨links, added, ?_, same⟩
  exact
    { family := by
        rw [Sequences.nodes_update]
        exact family
      allocated := by
        intro other node isOther inside
        rcases Sequences.mem_front.mp inside with ⟨_, rfl⟩ | inside
        · exact member
        · exact shape.allocated other node isOther inside
      notNull := shape.notNull
      once := shape.once
      alone := shape.alone_of_same isHead (fun other inside => .inr (List.mem_cons_of_mem _ inside))
        (fun _ => List.mem_cons_self) same }

/-- Linking a sock at the back of a list. -/
theorem addTail (member : tsk ∈ s.allocated)
    (fresh : ∀ other, s.IsHead other → head.slot tsk ∉ socks.nodes other) :
    ∃ links, s.links.listAddTail Node.valid (head.slot tsk) head = .ok links ∧
      ({ s with links := links } : Stack).Shape
        (Function.update socks head (socks head ++ [tsk])) ∧
      ∀ node, node ≠ head.slot tsk → node ∉ head :: socks.nodes head →
        links node = s.links node := by
  obtain ⟨links, added, family, same⟩ := shape.family.addTail isHead
    (head.valid_slot (shape.ne_null member)) (s.not_isHead_slot head tsk) fresh
  refine ⟨links, added, ?_, same⟩
  exact
    { family := by
        rw [Sequences.nodes_update, List.map_append]
        exact family
      allocated := by
        intro other node isOther inside
        rcases Sequences.mem_back.mp inside with ⟨_, rfl⟩ | inside
        · exact member
        · exact shape.allocated other node isOther inside
      notNull := shape.notNull
      once := shape.once
      alone := shape.alone_of_same isHead
        (fun other inside => .inr (List.mem_append_left _ inside))
        (fun _ => List.mem_append_right _ List.mem_cons_self) same }

/-- The head of a list tells whether the list is empty. -/
theorem listEmpty_head : s.links.listEmpty head = decide ((socks head).length = 0) := by
  have path := (shape.family.denotes head isHead).path
  cases sequence : socks head with
  | nil =>
      simp only [Sequences.nodes, sequence, List.map_nil, Lib.Path] at path
      simp [Heap.listEmpty, path.1]
  | cons first rest =>
      simp only [Sequences.nodes, sequence, List.map_cons, Lib.Path] at path
      have different : head.slot first ≠ head := by
        intro same
        refine s.not_isHead_slot head first ?_
        rwa [same]
      simp [Heap.listEmpty, path.1, different]

/-- A linked node is not an empty list. -/
theorem not_listEmpty (inside : tsk ∈ socks head) :
    s.links.listEmpty (head.slot tsk) = false := by
  have next := ((shape.family.denotes head isHead).neighbours (Sequences.mem_nodes.mpr inside)).1.2
  simpa [Heap.listEmpty] using next

/-- Unlinking a sock from a bucket. -/
theorem deleteEntry (inside : tsk ∈ socks head) (slot : head.slot tsk ≠ .list tsk) :
    ∃ links, s.links.listDeleteEntry Node.valid (head.slot tsk) = .ok links ∧
      ({ s with links := links } : Stack).Shape
        (Function.update socks head ((socks head).erase tsk)) ∧
      ∀ node, node ≠ head.slot tsk → node ∉ head :: socks.nodes head →
        links node = s.links node := by
  obtain ⟨links, deleted, family, same⟩ :=
    shape.family.deleteEntry isHead (Sequences.mem_nodes.mpr inside)
  have outside : ∀ node, node ≠ head.slot tsk → node ∉ head :: socks.nodes head →
      links node = s.links node := fun node _ other => same node (.inr other)
  refine ⟨links, deleted, ?_, outside⟩
  exact
    { family := by
        rw [Sequences.nodes_update, List.map_erase head.slot_injective]
        exact family
      allocated := fun other node isOther inside =>
        shape.allocated other node isOther (Sequences.mem_of_erase inside)
      notNull := shape.notNull
      once := shape.once
      alone := shape.alone_of_same isHead
        (fun other member => by
          by_cases equal : other = tsk
          · exact .inl equal
          · exact .inr ((List.mem_erase_of_ne equal).mpr member))
        (fun list => absurd list slot) outside }

end Link

/-! ## Allocation -/

/-- Only socks that exist own nodes of the lists. -/
theorem not_mem_of_not_allocated (shape : s.Shape socks) {node : Node} {tsk : SockPtr}
    (owner : node.owner = some tsk) (absent : tsk ∉ s.allocated) {head : Node}
    (isHead : s.IsHead head) : node ∉ head :: socks.nodes head := by
  intro inside
  rcases List.mem_cons.mp inside with rfl | inside
  · cases node <;> simp_all [Stack.IsHead, Node.owner]
  · obtain ⟨other, member, rfl⟩ := List.mem_map.mp inside
    rw [Node.owner_slot, Option.some.injEq] at owner
    exact absent (owner ▸ shape.allocated head other isHead member)

/-- The nodes of a new sock do not disturb the lists, and its queues are empty
ones. -/
theorem alloc_family (shape : s.Shape socks) {tsk : SockPtr} (notNull : tsk ≠ 0)
    (absent : tsk ∉ s.allocated) :
    Family Node.valid (allocTcpSock s tsk).links (allocTcpSock s tsk).IsHead
      (Function.update (Function.update socks.nodes (.listenQueue tsk) []) (.acceptQueue tsk)
        []) := by
  have zeroed : Family Node.valid
      ((Heap.initListHead (Function.update (Function.update s.links (.hashList tsk)
        ⟨.null, .null⟩) (.bindHashList tsk) ⟨.null, .null⟩) (.list tsk))) s.IsHead
      socks.nodes := by
    refine shape.family.congr fun head isHead node member => ?_
    have notOwn : node.owner ≠ some tsk := fun owner =>
      shape.not_mem_of_not_allocated owner absent isHead member
    have notList : node ≠ .list tsk := fun same => notOwn (same ▸ rfl)
    have notBind : node ≠ .bindHashList tsk := fun same => notOwn (same ▸ rfl)
    have notHash : node ≠ .hashList tsk := fun same => notOwn (same ▸ rfl)
    rw [Heap.initListHead, Function.update_of_ne notList, Function.update_of_ne notBind,
      Function.update_of_ne notHash]
  have queueFresh : ∀ queue head : Node, queue.owner = none → queue ∉ socks.nodes head := by
    intro queue head owner inside
    obtain ⟨other, _, rfl⟩ := List.mem_map.mp inside
    simp at owner
  have listenOk : Node.valid (.listenQueue tsk) := by simpa [Node.valid] using notNull
  have acceptOk : Node.valid (.acceptQueue tsk) := by simpa [Node.valid] using notNull
  have withListen := zeroed.initListHead listenOk
    (show ¬ s.IsHead (.listenQueue tsk) from absent) (fun head _ => queueFresh _ head rfl)
  rw [isHead_alloc]
  refine withListen.initListHead acceptOk (by simp [Stack.IsHead, absent]) fun head _ => ?_
  by_cases here : head = .listenQueue tsk
  · simp [here]
  · rw [Function.update_of_ne here]
    exact queueFresh _ head rfl

/-- A new sock comes with two empty queues. -/
theorem alloc (shape : s.Shape socks) {tsk : SockPtr} (notNull : tsk ≠ 0)
    (absent : tsk ∉ s.allocated) :
    (allocTcpSock s tsk).Shape
      (Function.update (Function.update socks (.listenQueue tsk) []) (.acceptQueue tsk) []) := by
  constructor
  · rw [Sequences.nodes_update, Sequences.nodes_update]
    exact shape.alloc_family notNull absent
  · intro head other isHead inside
    rw [isHead_alloc] at isHead
    rcases isHead with (old | rfl) | rfl
    · rw [update_queues_of_isHead socks absent old] at inside
      exact List.mem_cons_of_mem _ (shape.allocated head other old inside)
    · simp at inside
    · simp at inside
  · simp [allocTcpSock, Ne.symm notNull, shape.notNull]
  · exact List.nodup_cons.mpr ⟨absent, shape.once⟩
  · intro other member lonely
    by_cases same : other = tsk
    · subst same
      simp [allocTcpSock, Heap.initListHead]
    · have existing : other ∈ s.allocated := (List.mem_cons.mp member).resolve_left same
      have unchanged : (allocTcpSock s tsk).links (.list other) = s.links (.list other) := by
        simp [allocTcpSock, Heap.initListHead, same]
      rw [unchanged]
      refine shape.alone other existing fun head isHead inside => ?_
      refine lonely head (by rw [isHead_alloc]; exact .inl (.inl isHead)) ?_
      rw [Sequences.nodes_update, Sequences.nodes_update]
      exact (update_queues_of_isHead socks.nodes absent isHead).symm ▸ inside

end Stack.Shape

/-! ## The initial stack -/

/-- The state `init_tcp_stack` leaves: every bucket is an empty list and there
are no socks yet. -/
def initTcpStack : Stack where
  sock := fun _ => zeroedSock
  links := fun node => ⟨node, node⟩
  allocated := []
  freed := []
  out := []

theorem initTcpStack_shape : initTcpStack.Shape fun _ => [] where
  family :=
    { denotes := by
        intro head isHead
        refine ⟨⟨rfl, rfl⟩, by simp [Sequences.nodes], ?_⟩
        intro node member
        simp only [Sequences.nodes, List.map_nil, List.mem_singleton] at member
        subst member
        cases node <;> simp_all [Stack.IsHead, Node.valid, initTcpStack]
      notHead := by simp [Sequences.nodes]
      unique := by simp [Sequences.nodes] }
  allocated := by simp
  notNull := by simp [initTcpStack]
  once := by simp [initTcpStack]
  alone := by simp [initTcpStack]

end TcpStack
