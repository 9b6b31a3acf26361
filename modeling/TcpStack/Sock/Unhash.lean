import TcpStack.Sock.TableOps

/-!
# Unhashing a sock that is not linked

`tcp_unhash` and `tcp_bind_unhash` ask `list_empty` whether the node of the sock
is linked. That is a test for list heads: it holds of a node that points to
itself. `alloc_tcp_sock` does not make the two nodes point to themselves, it only
zeroes them, and `list_delete_entry` leaves a node with the pointers it had. So
the test lets every sock through.

Along every history of the tables no node for them ever points to itself
(`TableHistory.tablesHold`). So both functions do the same to a sock that is not
linked as to one that is: they follow the pointers that are there, and drop a
reference if they get that far (`unhash_never_idle`).
-/

set_option autoImplicit false

namespace TcpStack

open Lib

/-! ## Histories of the tables -/

/-- The buckets of the three tables. -/
def Node.IsBucket : Node → Prop
  | .establishedTable _ | .listenTable _ | .bindTable _ => True
  | _ => False

/-- The nodes the tables are made of: the buckets, and the two nodes of every sock
that are for them. -/
def Node.OfTables : Node → Prop
  | .establishedTable _ | .listenTable _ | .bindTable _ | .hashList _ | .bindHashList _ => True
  | _ => False

/-- The histories of the three tables: socks are made, linked when they are not
linked, and unlinked when they are, and in between everything else may change. -/
inductive TableHistory : Stack → Prop where
  | init : TableHistory initTcpStack
  | alloc {s : Stack} {tsk : SockPtr} :
      TableHistory s → tsk ≠ 0 → tsk ∉ s.allocated → TableHistory (allocTcpSock s tsk)
  | elsewhere {s later : Stack} :
      TableHistory s → (∀ node : Node, node.OfTables → later.links node = s.links node) →
        later.allocated = s.allocated → TableHistory later
  | hash {s later : Stack} {tsk : SockPtr} {result : ℤ} :
      TableHistory s → tsk ∈ s.allocated → ¬ s.Hashed tsk → tcpHash s tsk = .ok (result, later) →
        TableHistory later
  | unhash {s later : Stack} {tsk : SockPtr} :
      TableHistory s → s.Hashed tsk → tcpUnhash s tsk = .ok later → TableHistory later
  | bindHash {s later : Stack} {tsk : SockPtr} :
      TableHistory s → tsk ∈ s.allocated → ¬ s.InBind tsk → tcpBindHash s tsk = .ok later →
        TableHistory later
  | bindUnhash {s later : Stack} {tsk : SockPtr} :
      TableHistory s → s.InBind tsk → tcpBindUnhash s tsk = .ok later → TableHistory later

/-- What holds along every history of the tables. -/
structure Stack.TablesHold (s : Stack) (socks : Sequences) : Prop where
  family : Family Node.valid s.links Node.IsBucket socks.nodes
  allocated : ∀ (head : Node) (tsk : SockPtr), head.IsBucket → tsk ∈ socks head → tsk ∈ s.allocated
  notNull : 0 ∉ s.allocated
  /-- A node for a table does not point to itself, linked or not. -/
  pointsAway : ∀ (head : Node) (tsk : SockPtr), head.IsBucket → tsk ∈ s.allocated →
    (s.links (head.slot tsk)).next ≠ head.slot tsk

/-! ## What the operations do to the pointers -/

section Operations

variable {s later : Stack} {tsk : SockPtr}

/-- The operation linked the sock at the front of a bucket. -/
def Stack.LinksInto (s : Stack) (tsk : SockPtr) (head : Node) (later : Stack) : Prop :=
  s.links.listAddHead Node.valid (head.slot tsk) head = .ok later.links ∧
    later.allocated = s.allocated

/-- `tcp_unhash` and `tcp_bind_unhash`, for the node of the sock. -/
def Stack.unlink (s : Stack) (tsk : SockPtr) (node : Node) : Outcome Stack :=
  if !s.links.listEmpty node then do
    let s ← s.relink (s.links.listDeleteEntry Node.valid node)
    pure (freeTcpSock s tsk)
  else
    pure s

theorem tcpUnhash_eq (s : Stack) (tsk : SockPtr) : tcpUnhash s tsk = s.unlink tsk (.hashList tsk) :=
  rfl

theorem tcpBindUnhash_eq (s : Stack) (tsk : SockPtr) :
    tcpBindUnhash s tsk = s.unlink tsk (.bindHashList tsk) := rfl

/-- `tcp_hash` leaves the pointers alone or links the sock into a bucket of the
listen or the established table. -/
theorem tcpHash_links {result : ℤ} (done : tcpHash s tsk = .ok (result, later)) :
    later = s ∨ ∃ head : Node, head.IsBucket ∧ head.slot = Node.hashList ∧
      s.LinksInto tsk head later := by
  have linked : ∀ head : Node, head.IsBucket → head.slot = Node.hashList →
      (do
        let s ← s.relink (s.links.listAddHead Node.valid (.hashList tsk) head)
        pure ((0 : ℤ), tcpSockIncRefCnt s tsk) : Outcome (ℤ × Stack)) = .ok (result, later) →
      s.LinksInto tsk head later := by
    intro head _ slot run
    obtain ⟨middle, relinked, finished⟩ := Outcome.bind_eq_ok.mp run
    obtain ⟨links, added, rfl⟩ := Stack.relink_eq_ok.mp relinked
    cases finished
    rw [Stack.LinksInto, slot]
    exact ⟨added, rfl⟩
  simp only [tcpHash] at done
  split at done
  · cases done
    exact .inl rfl
  · split at done
    · exact .inr ⟨.listenTable _, trivial, rfl, linked _ trivial rfl done⟩
    · obtain ⟨same, _, rest⟩ := Outcome.bind_eq_ok.mp done
      split at rest
      · cases rest
        exact .inl rfl
      · exact .inr ⟨.establishedTable _, trivial, rfl, linked _ trivial rfl rest⟩

/-- `tcp_bind_hash` links the sock into a bucket of the bind table. -/
theorem tcpBindHash_links (done : tcpBindHash s tsk = .ok later) :
    s.LinksInto tsk (.bindTable (portBucket (s.sock tsk).skSport)) later := by
  obtain ⟨middle, relinked, finished⟩ := Outcome.bind_eq_ok.mp done
  obtain ⟨links, added, rfl⟩ := Stack.relink_eq_ok.mp relinked
  cases finished
  exact ⟨added, rfl⟩

/-- Unlinking a node that does not point to itself follows its pointers, whether it
is linked or not. -/
theorem Stack.unlink_eq {node : Node} (away : (s.links node).next ≠ node) :
    s.unlink tsk node = (do
      let s ← s.relink (s.links.listDeleteEntry Node.valid node)
      pure (freeTcpSock s tsk)) := by
  have nonempty : s.links.listEmpty node = false := by
    simpa [Heap.listEmpty] using away
  rw [Stack.unlink, nonempty]
  rfl

end Operations

/-! ## The invariant -/

theorem Node.IsBucket.ofTables {head : Node} (isBucket : head.IsBucket) : head.OfTables := by
  cases head <;> trivial

theorem Node.IsBucket.slot_ofTables {head : Node} (isBucket : head.IsBucket) (tsk : SockPtr) :
    (head.slot tsk).OfTables := by
  cases head <;> trivial

theorem Node.not_isBucket_slot (head : Node) (tsk : SockPtr) : ¬ (head.slot tsk).IsBucket := by
  cases head <;> exact id

/-- Two buckets that link a sock by the same node link all socks by the same
nodes. -/
theorem Node.IsBucket.slot_eq {head other : Node} (isBucket : head.IsBucket)
    (isOther : other.IsBucket) {tsk : SockPtr} (same : head.slot tsk = other.slot tsk) :
    head.slot = other.slot := by
  funext anyone
  cases head <;> cases other <;>
    first | rfl | exact isBucket.elim | exact isOther.elim | cases same

theorem Stack.inBind_of_slot {s : Stack} {tsk : SockPtr} {head : Node} (isBucket : head.IsBucket)
    (slot : head.slot = Node.bindHashList) (inside : tsk ∈ s.entries head) : s.InBind tsk := by
  cases head with
  | bindTable bucket => exact ⟨bucket, inside⟩
  | establishedTable | listenTable => cases congrFun slot 0
  | null | hashList | bindHashList | listenQueue | acceptQueue | list => exact isBucket.elim

namespace Stack.TablesHold

variable {s later : Stack} {socks moved : Sequences} {head : Node} {tsk : SockPtr}

theorem entries_eq (holds : s.TablesHold socks) (isBucket : head.IsBucket) :
    s.entries head = socks head :=
  s.entries_of_denotes (holds.family.denotes head isBucket)
    fun tsk => holds.allocated head tsk isBucket

/-- A sock is linked by the node of a bucket when it is in a bucket with such
nodes. -/
theorem not_mem_of_unlinked (holds : s.TablesHold socks) (isBucket : head.IsBucket)
    (unlinked : ∀ other : Node, other.IsBucket → other.slot = head.slot → tsk ∉ s.entries other)
    (other : Node) (isOther : other.IsBucket) : head.slot tsk ∉ socks.nodes other := by
  intro inside
  obtain ⟨member, within, equal⟩ := List.mem_map.mp inside
  have owner := congrArg Node.owner equal
  rw [Node.owner_slot, Node.owner_slot, Option.some.injEq] at owner
  subst owner
  refine unlinked other isOther (isOther.slot_eq isBucket equal) ?_
  rwa [holds.entries_eq isOther]

/-- A sock is hashed when it is in a bucket that links socks by `hash_list`. -/
theorem hashed_iff (holds : s.TablesHold socks) : s.Hashed tsk ↔
    ∃ head : Node, head.IsBucket ∧ head.slot = Node.hashList ∧ tsk ∈ socks head := by
  constructor
  · rintro (⟨bucket, inside⟩ | ⟨bucket, inside⟩)
    · have isBucket : (Node.establishedTable bucket).IsBucket := trivial
      exact ⟨_, isBucket, rfl, holds.entries_eq isBucket ▸ inside⟩
    · have isBucket : (Node.listenTable bucket).IsBucket := trivial
      exact ⟨_, isBucket, rfl, holds.entries_eq isBucket ▸ inside⟩
  · rintro ⟨head, isBucket, slot, inside⟩
    rw [← holds.entries_eq isBucket] at inside
    cases head with
    | establishedTable bucket => exact .inl ⟨bucket, inside⟩
    | listenTable bucket => exact .inr ⟨bucket, inside⟩
    | bindTable bucket => cases congrFun slot 0
    | _ => exact isBucket.elim

/-- The buckets after an operation that changed no pointers but those of the
lists: nodes in no list keep pointing away from themselves. -/
theorem pointsAway_later (holds : s.TablesHold socks)
    (family : Family Node.valid later.links Node.IsBucket moved.nodes)
    (allocated : later.allocated = s.allocated)
    (same : ∀ node : Node, ¬ node.IsBucket →
      (∀ head : Node, head.IsBucket → node ∉ moved.nodes head) →
        later.links node = s.links node) :
    ∀ (head : Node) (tsk : SockPtr), head.IsBucket → tsk ∈ later.allocated →
      (later.links (head.slot tsk)).next ≠ head.slot tsk := by
  intro head tsk isBucket member
  by_cases linked : ∃ place : Node, place.IsBucket ∧ head.slot tsk ∈ moved.nodes place
  · obtain ⟨place, isPlace, inside⟩ := linked
    exact ((family.denotes place isPlace).neighbours inside).1.2
  · push Not at linked
    rw [same _ (head.not_isBucket_slot tsk) linked]
    exact holds.pointsAway head tsk isBucket (allocated ▸ member)

/-- Linking a sock that is not linked. -/
theorem link (holds : s.TablesHold socks) (isBucket : head.IsBucket) (member : tsk ∈ s.allocated)
    (unlinked : ∀ other : Node, other.IsBucket → other.slot = head.slot → tsk ∉ s.entries other)
    (linked : s.LinksInto tsk head later) :
    later.TablesHold (Function.update socks head (tsk :: socks head)) := by
  obtain ⟨added, allocated⟩ := linked
  have notNull : tsk ≠ 0 := fun null => holds.notNull (null ▸ member)
  obtain ⟨links, done, family, same⟩ := holds.family.addHead isBucket (head.valid_slot notNull)
    (head.not_isBucket_slot tsk) (holds.not_mem_of_unlinked isBucket unlinked)
  cases added.symm.trans done
  have nodes : Sequences.nodes (Function.update socks head (tsk :: socks head)) =
      Function.update socks.nodes head (head.slot tsk :: socks.nodes head) :=
    Sequences.nodes_update socks head _
  have later : Family Node.valid later.links Node.IsBucket
      (Sequences.nodes (Function.update socks head (tsk :: socks head))) := nodes ▸ family
  refine ⟨later, ?_, by rw [allocated]; exact holds.notNull, ?_⟩
  · intro place other isPlace inside
    rw [allocated]
    rcases Sequences.mem_front.mp inside with ⟨_, rfl⟩ | before
    · exact member
    · exact holds.allocated place other isPlace before
  · refine holds.pointsAway_later later allocated fun node notBucket outside => ?_
    have notIn := outside head isBucket
    rw [nodes, Function.update_self, List.mem_cons, not_or] at notIn
    refine same node notIn.1 fun inside => ?_
    rcases List.mem_cons.mp inside with rfl | inside
    · exact notBucket isBucket
    · exact notIn.2 inside

/-- Unlinking a sock that is linked. -/
theorem unlink (holds : s.TablesHold socks) (isBucket : head.IsBucket) (inside : tsk ∈ socks head) :
    ∃ later, s.unlink tsk (head.slot tsk) = .ok later ∧
      later.TablesHold (Function.update socks head ((socks head).erase tsk)) := by
  have inNodes : head.slot tsk ∈ socks.nodes head := Sequences.mem_nodes.mpr inside
  obtain ⟨links, deleted, family, same⟩ := holds.family.deleteEntry isBucket inNodes
  have nodes : Sequences.nodes (Function.update socks head ((socks head).erase tsk)) =
      Function.update socks.nodes head ((socks.nodes head).erase (head.slot tsk)) := by
    rw [Sequences.nodes_update, List.map_erase head.slot_injective]
    rfl
  have run : s.unlink tsk (head.slot tsk) = .ok (freeTcpSock { s with links := links } tsk) := by
    rw [Stack.unlink_eq (holds.pointsAway head tsk isBucket
      (holds.allocated head tsk isBucket inside)), deleted]
    rfl
  have later : Family Node.valid (freeTcpSock { s with links := links } tsk).links Node.IsBucket
      (Sequences.nodes (Function.update socks head ((socks head).erase tsk))) := by
    rw [nodes, freeTcpSock_links]
    exact family
  have allocated : (freeTcpSock { s with links := links } tsk).allocated = s.allocated :=
    freeTcpSock_allocated _ _
  refine ⟨_, run, later, ?_, by rw [allocated]; exact holds.notNull, ?_⟩
  · intro place other isPlace remains
    rw [allocated]
    exact holds.allocated place other isPlace (Sequences.mem_of_erase remains)
  · refine holds.pointsAway_later later allocated fun node notBucket outside => ?_
    have notIn := outside head isBucket
    rw [nodes, Function.update_self] at notIn
    rw [freeTcpSock_links]
    refine same node ?_
    by_cases own : node = head.slot tsk
    · exact .inl own
    · refine .inr fun within => ?_
      rcases List.mem_cons.mp within with rfl | within
      · exact notBucket isBucket
      · exact notIn ((List.mem_erase_of_ne own).mpr within)

/-- `tcp_unhash` of a hashed sock. -/
theorem unhash (holds : s.TablesHold socks) (hashed : s.Hashed tsk) :
    ∃ later moved, tcpUnhash s tsk = .ok later ∧ later.TablesHold moved := by
  obtain ⟨head, isBucket, slot, inside⟩ := holds.hashed_iff.mp hashed
  obtain ⟨later, run, kept⟩ := holds.unlink isBucket inside
  rw [slot, ← tcpUnhash_eq] at run
  exact ⟨later, _, run, kept⟩

/-- `tcp_bind_unhash` of a bound sock. -/
theorem bindUnhash (holds : s.TablesHold socks) (bound : s.InBind tsk) :
    ∃ later moved, tcpBindUnhash s tsk = .ok later ∧ later.TablesHold moved := by
  obtain ⟨bucket, inside⟩ := bound
  have isBucket : (Node.bindTable bucket).IsBucket := trivial
  obtain ⟨later, run, kept⟩ := holds.unlink isBucket (holds.entries_eq isBucket ▸ inside)
  rw [Node.slot, ← tcpBindUnhash_eq] at run
  exact ⟨later, _, run, kept⟩

/-- Changes that leave the nodes of the tables alone. -/
theorem elsewhere (holds : s.TablesHold socks)
    (same : ∀ node : Node, node.OfTables → later.links node = s.links node)
    (allocated : later.allocated = s.allocated) : later.TablesHold socks where
  family := by
    refine holds.family.congr fun head isBucket node member => same node ?_
    rcases List.mem_cons.mp member with rfl | member
    · exact isBucket.ofTables
    · obtain ⟨tsk, _, rfl⟩ := List.mem_map.mp member
      exact isBucket.slot_ofTables tsk
  allocated := by
    rw [allocated]
    exact holds.allocated
  notNull := by
    rw [allocated]
    exact holds.notNull
  pointsAway := by
    intro head tsk isBucket member
    rw [same _ (isBucket.slot_ofTables tsk)]
    exact holds.pointsAway head tsk isBucket (allocated ▸ member)

/-- A new sock: its nodes for the tables hold null pointers. -/
theorem alloc (holds : s.TablesHold socks) (notNull : tsk ≠ 0) (absent : tsk ∉ s.allocated) :
    (allocTcpSock s tsk).TablesHold socks where
  family := by
    refine holds.family.congr fun head isBucket node member => ?_
    have notOwn : ∀ own : Node, own.owner = some tsk ∨ ¬ own.OfTables → node ≠ own := by
      rintro own owner rfl
      rcases List.mem_cons.mp member with rfl | member
      · rcases owner with owner | outside
        · cases node <;> first | exact isBucket | cases owner
        · exact outside isBucket.ofTables
      · obtain ⟨other, inside, rfl⟩ := List.mem_map.mp member
        rcases owner with owner | outside
        · rw [Node.owner_slot, Option.some.injEq] at owner
          exact absent (owner ▸ holds.allocated head other isBucket inside)
        · exact outside (isBucket.slot_ofTables other)
    simp only [allocTcpSock, Heap.initListHead]
    rw [Function.update_of_ne (notOwn _ (.inr id)), Function.update_of_ne (notOwn _ (.inr id)),
      Function.update_of_ne (notOwn _ (.inl rfl)), Function.update_of_ne (notOwn _ (.inl rfl)),
      Function.update_of_ne (notOwn _ (.inl rfl))]
  allocated := fun head other isBucket inside =>
    List.mem_cons_of_mem _ (holds.allocated head other isBucket inside)
  notNull := by
    intro null
    rcases List.mem_cons.mp null with same | null
    · exact notNull same.symm
    · exact holds.notNull null
  pointsAway := by
    intro head other isBucket member
    by_cases own : other = tsk
    · subst own
      cases head <;>
        first | exact isBucket.elim | simp [Node.slot, allocTcpSock, Heap.initListHead]
    · have unchanged :
          (allocTcpSock s tsk).links (head.slot other) = s.links (head.slot other) := by
        cases head <;> simp [Node.slot, allocTcpSock, Heap.initListHead, own]
      rw [unchanged]
      exact holds.pointsAway head other isBucket ((List.mem_cons.mp member).resolve_left own)

end Stack.TablesHold

theorem initTcpStack_tablesHold : initTcpStack.TablesHold fun _ => [] where
  family := by
    have shape := initTcpStack_shape.family
    exact
      { denotes := fun head isBucket => shape.denotes head (by cases head <;> trivial)
        notHead := fun _ _ _ inside => absurd inside List.not_mem_nil
        unique := fun _ _ _ _ _ inside => absurd inside List.not_mem_nil }
  allocated := fun _ _ _ inside => absurd inside List.not_mem_nil
  notNull := List.not_mem_nil
  pointsAway := fun _ _ _ member => absurd member List.not_mem_nil

/-- **The tables hold along every history.** -/
theorem TableHistory.tablesHold {s : Stack} (history : TableHistory s) :
    ∃ socks, s.TablesHold socks := by
  induction history with
  | init => exact ⟨_, initTcpStack_tablesHold⟩
  | alloc _ notNull absent ih =>
      obtain ⟨socks, holds⟩ := ih
      exact ⟨_, holds.alloc notNull absent⟩
  | elsewhere _ same allocated ih =>
      obtain ⟨socks, holds⟩ := ih
      exact ⟨_, holds.elsewhere same allocated⟩
  | hash _ member unhashed done ih =>
      obtain ⟨socks, holds⟩ := ih
      rcases tcpHash_links done with rfl | ⟨head, isBucket, slot, linked⟩
      · exact ⟨_, holds⟩
      · refine ⟨_, holds.link isBucket member (fun other isOther same inside => ?_) linked⟩
        rw [holds.entries_eq isOther] at inside
        exact unhashed (holds.hashed_iff.mpr ⟨other, isOther, same.trans slot, inside⟩)
  | unhash _ hashed done ih =>
      obtain ⟨socks, holds⟩ := ih
      obtain ⟨later, moved, run, kept⟩ := holds.unhash hashed
      cases done.symm.trans run
      exact ⟨_, kept⟩
  | bindHash _ member unbound done ih =>
      obtain ⟨socks, holds⟩ := ih
      have linked := tcpBindHash_links done
      refine ⟨_, holds.link (show Node.IsBucket (.bindTable _) from trivial) member
        (fun other isOther same inside => ?_) linked⟩
      exact unbound (Stack.inBind_of_slot isOther same inside)
  | bindUnhash _ bound done ih =>
      obtain ⟨socks, holds⟩ := ih
      obtain ⟨later, moved, run, kept⟩ := holds.bindUnhash bound
      cases done.symm.trans run
      exact ⟨_, kept⟩

/-! ## Socks that are not linked -/

/-- The outcome left every list, every other sock and the reference count of the
sock as they were, and followed no null pointer. -/
def Stack.LeftAlone (s : Stack) (tsk : SockPtr) (outcome : Outcome Stack) : Prop :=
  ∃ later, outcome = .ok later ∧ (∀ head, later.entries head = s.entries head) ∧
    (∀ other, other ≠ tsk → later.sock other = s.sock other) ∧
    (later.sock tsk).refCnt = (s.sock tsk).refCnt

/-- Calling the function twice in a row has the effect of calling it once. -/
def Stack.TwiceIsOnce (s : Stack) (unhash : Stack → Outcome Stack) : Prop :=
  (unhash s >>= unhash) = unhash s

section Unlink

variable {s : Stack} {tsk : SockPtr} {node : Node}

/-- Unlinking a node that does not point to itself stops the program, or drops a
reference and leaves the node pointing where it pointed. -/
theorem Stack.unlink_spends (away : (s.links node).next ≠ node) {later : Stack}
    (done : s.unlink tsk node = .ok later) :
    (later.sock tsk).refCnt = (s.sock tsk).refCnt - 1 ∧
      (later.links node).next = (s.links node).next := by
  rw [Stack.unlink_eq away] at done
  obtain ⟨middle, relinked, finished⟩ := Outcome.bind_eq_ok.mp done
  obtain ⟨links, deleted, rfl⟩ := Stack.relink_eq_ok.mp relinked
  cases finished
  constructor
  · rw [freeTcpSock_sock, if_pos rfl]
  · rw [freeTcpSock_links]
    exact Heap.next_of_listDeleteEntry deleted

/-- **Unlinking leaves the sock alone exactly when its node points to itself.** -/
theorem Stack.leftAlone_unlink_iff :
    s.LeftAlone tsk (s.unlink tsk node) ↔ (s.links node).next = node := by
  constructor
  · rintro ⟨later, done, _, _, count⟩
    by_contra away
    have spent := (Stack.unlink_spends away done).1
    omega
  · intro alone
    have empty : s.links.listEmpty node = true := by
      simpa [Heap.listEmpty] using alone
    refine ⟨s, ?_, fun _ => rfl, fun _ _ => rfl, rfl⟩
    rw [Stack.unlink, empty]
    rfl

/-- **Unlinking twice is unlinking once only where the first call stops the
program.** The second call drops one more reference. -/
theorem Stack.twiceIsOnce_unlink_iff (away : (s.links node).next ≠ node) :
    s.TwiceIsOnce (fun s => s.unlink tsk node) ↔
      ∀ later, s.unlink tsk node ≠ .ok later := by
  rw [Stack.TwiceIsOnce]
  cases first : s.unlink tsk node with
  | error halt => exact ⟨fun _ _ returned => (nomatch returned), fun _ => rfl⟩
  | ok once =>
      refine ⟨fun same => ?_, fun stops => absurd rfl (stops once)⟩
      obtain ⟨spent, pointer⟩ := Stack.unlink_spends away first
      have again : once.unlink tsk node = .ok once := same
      have spentAgain := (Stack.unlink_spends (pointer ▸ away) again).1
      omega

end Unlink

/-! ## Unhashing -/

/-- **Unhashing is never idle.** Wherever the history of the tables has led, to
unhash a sock that is not linked stops the program, or changes a list, another
sock or the reference count, and to unhash a sock that is linked twice is not to
unhash it once. The only sock for which the second call changes nothing is one
for which the first call stops the program. -/
theorem TableHistory.unhash_never_idle {s : Stack} (history : TableHistory s) {tsk : SockPtr}
    (member : tsk ∈ s.allocated) :
    ((¬ s.Hashed tsk → ¬ s.LeftAlone tsk (tcpUnhash s tsk)) ∧
      (s.Hashed tsk → ¬ s.TwiceIsOnce fun s => tcpUnhash s tsk) ∧
      (s.TwiceIsOnce (fun s => tcpUnhash s tsk) ↔ ∀ later, tcpUnhash s tsk ≠ .ok later)) ∧
    ((¬ s.InBind tsk → ¬ s.LeftAlone tsk (tcpBindUnhash s tsk)) ∧
      (s.InBind tsk → ¬ s.TwiceIsOnce fun s => tcpBindUnhash s tsk) ∧
      (s.TwiceIsOnce (fun s => tcpBindUnhash s tsk) ↔
        ∀ later, tcpBindUnhash s tsk ≠ .ok later)) := by
  obtain ⟨socks, holds⟩ := history.tablesHold
  have awayHash : (s.links (.hashList tsk)).next ≠ .hashList tsk :=
    holds.pointsAway (.establishedTable 0) tsk trivial member
  have awayBind : (s.links (.bindHashList tsk)).next ≠ .bindHashList tsk :=
    holds.pointsAway (.bindTable 0) tsk trivial member
  have twiceHash := @Stack.twiceIsOnce_unlink_iff s tsk _ awayHash
  have twiceBind := @Stack.twiceIsOnce_unlink_iff s tsk _ awayBind
  refine ⟨⟨fun _ alone => awayHash (Stack.leftAlone_unlink_iff.mp alone),
      fun hashed same => ?_, twiceHash⟩,
    fun _ alone => awayBind (Stack.leftAlone_unlink_iff.mp alone),
      fun bound same => ?_, twiceBind⟩
  · obtain ⟨later, _, run, _⟩ := holds.unhash hashed
    exact twiceHash.mp same later run
  · obtain ⟨later, _, run, _⟩ := holds.bindUnhash bound
    exact twiceBind.mp same later run

/-- The tables with one sock, fresh from `alloc_tcp_sock`. -/
def newSockStack : Stack := allocTcpSock initTcpStack 1

theorem newSockStack_tablesHold : newSockStack.TablesHold fun _ => [] :=
  initTcpStack_tablesHold.alloc (by decide) List.not_mem_nil

theorem newSockStack_history : TableHistory newSockStack :=
  .alloc .init (by decide) List.not_mem_nil

theorem newSockStack_not_hashed : ¬ newSockStack.Hashed 1 := by
  intro hashed
  obtain ⟨_, _, _, inside⟩ := newSockStack_tablesHold.hashed_iff.mp hashed
  exact List.not_mem_nil inside

theorem newSockStack_not_inBind : ¬ newSockStack.InBind 1 := by
  rintro ⟨bucket, inside⟩
  have isBucket : (Node.bindTable bucket).IsBucket := trivial
  rw [newSockStack_tablesHold.entries_eq isBucket] at inside
  exact List.not_mem_nil inside

/-- The sock, about to listen on port 80. -/
def openedSockStack : Stack :=
  newSockStack.modify 1 fun sk => { sk with state := .listen, skSport := 80 }

/-- The sock in the bind table. -/
def boundSockStack : Stack := (tcpBindHash openedSockStack 1).stack

/-- The sock in the bind table and in the listen table. -/
def listedSockStack : Stack :=
  Outcome.stack (tcpHash boundSockStack 1 >>= fun result => .ok result.2)

/-- The sock, taken out of the listen table again. -/
def unlistedSockStack : Stack := (tcpUnhash listedSockStack 1).stack

theorem not_hashed_of_buckets {s : Stack} {tsk : SockPtr}
    (established : ∀ bucket, tsk ∉ s.entries (.establishedTable bucket))
    (listen : ∀ bucket, tsk ∉ s.entries (.listenTable bucket)) : ¬ s.Hashed tsk := by
  rintro (⟨bucket, inside⟩ | ⟨bucket, inside⟩)
  · exact established bucket inside
  · exact listen bucket inside

theorem boundSockStack_history : TableHistory boundSockStack := by
  have opened : TableHistory openedSockStack :=
    newSockStack_history.elsewhere (fun _ _ => rfl) rfl
  have binds : tcpBindHash openedSockStack 1 = .ok boundSockStack := rfl
  exact opened.bindHash List.mem_cons_self newSockStack_not_inBind binds

theorem listedSockStack_history : TableHistory listedSockStack := by
  have hashes : tcpHash boundSockStack 1 = .ok (0, listedSockStack) := rfl
  exact boundSockStack_history.hash List.mem_cons_self
    (not_hashed_of_buckets (by decide +kernel) (by decide +kernel)) hashes

theorem listedSockStack_hashed : listedSockStack.Hashed 1 := .inr ⟨portBucket 80, by decide⟩

/-- A sock that was just made, one that is linked, and the same one when it was unlinked. -/
theorem unhash_never_idle_unlinked :
    ¬ newSockStack.LeftAlone 1 (tcpUnhash newSockStack 1) ∧
      ¬ newSockStack.LeftAlone 1 (tcpBindUnhash newSockStack 1) ∧
      (¬ listedSockStack.TwiceIsOnce fun s => tcpUnhash s 1) ∧
      ¬ unlistedSockStack.LeftAlone 1 (tcpUnhash unlistedSockStack 1) := by
  have unhashes : tcpUnhash listedSockStack 1 = .ok unlistedSockStack := rfl
  have unlisted := listedSockStack_history.unhash listedSockStack_hashed unhashes
  have unhashed : ¬ unlistedSockStack.Hashed 1 :=
    not_hashed_of_buckets (by decide +kernel) (by decide +kernel)
  obtain ⟨⟨new, _⟩, newBound, _⟩ :=
    TableHistory.unhash_never_idle newSockStack_history List.mem_cons_self
  obtain ⟨⟨_, linked, _⟩, _⟩ :=
    TableHistory.unhash_never_idle listedSockStack_history List.mem_cons_self
  obtain ⟨⟨again, _⟩, _⟩ := TableHistory.unhash_never_idle unlisted List.mem_cons_self
  exact ⟨new newSockStack_not_hashed, newBound newSockStack_not_inBind,
    linked listedSockStack_hashed, again unhashed⟩

/-- A sock fresh from `alloc_tcp_sock` is in no table, and both functions stop at
the null pointers of its nodes. -/
theorem unhash_new_sock_stops :
    (TableHistory newSockStack ∧ 1 ∈ newSockStack.allocated ∧ ¬ newSockStack.Hashed 1 ∧
      ¬ newSockStack.InBind 1) ∧
    (tcpUnhash newSockStack 1 = .error ⟨.badPointer, newSockStack⟩ ∧
      ¬ newSockStack.LeftAlone 1 (tcpUnhash newSockStack 1)) ∧
    tcpBindUnhash newSockStack 1 = .error ⟨.badPointer, newSockStack⟩ ∧
      ¬ newSockStack.LeftAlone 1 (tcpBindUnhash newSockStack 1) := by
  have stops : tcpUnhash newSockStack 1 = .error ⟨.badPointer, newSockStack⟩ := rfl
  have stopsBind : tcpBindUnhash newSockStack 1 = .error ⟨.badPointer, newSockStack⟩ := rfl
  refine ⟨⟨newSockStack_history, List.mem_cons_self, newSockStack_not_hashed,
    newSockStack_not_inBind⟩, ⟨stops, ?_⟩, stopsBind, ?_⟩
  · rintro ⟨later, done, _⟩
    cases stops.symm.trans done
  · rintro ⟨later, done, _⟩
    cases stopsBind.symm.trans done

/-- A listener bound to port 80 and linked, after one more call of `tcp_unhash`
than it was linked: it was released while the bind table still holds it. -/
example :
    (do
      let s ← tcpBindHash (newSockStack.modify 1 fun sk =>
        { sk with state := .listen, skSport := 80 }) 1
      let (_, s) ← tcpHash s 1
      let s ← tcpUnhash s 1
      let s ← tcpUnhash s 1
      pure (s.freed, s.entries (.bindTable 80)) : Outcome _) = .ok ([1], [1]) :=
  rfl

end TcpStack
