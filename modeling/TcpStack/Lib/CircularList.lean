import Mathlib.Data.List.Nodup
import Mathlib.Logic.Function.Basic

/-!
# Intrusive circular lists

A heap gives every node the two pointers of a doubly linked list. A list is a
head node from which following `next` leads through the members and back to the
head, and following `prev` leads the same way in reverse. The operations are the
usual ones for lists whose nodes are embedded in larger records: they write
pointers one by one, and they fault when they follow a pointer that must not be
dereferenced.

`Denotes` relates a head to the sequence of its members. A family of lists
(`Family`) gives the sequences of all heads at once, with no node shared. On a
family the operations are those on sequences: adding at the front
(`Family.addHead`), adding at the back (`Family.addTail`), removing a member
(`Family.deleteEntry`) and searching from the front (`Family.find`). Everything
outside the list that is changed keeps its pointers.
-/

set_option autoImplicit false

namespace TcpStack.Lib

universe u

/-- What stops a program that follows pointers. -/
inductive Fault where
  /-- A pointer was followed that does not point to what the program takes it
  for. -/
  | badPointer
  /-- A traversal never comes back to the head of its list. -/
  | endless
  deriving DecidableEq, Repr

/-- The two pointers of a list node. -/
structure Link (Node : Type u) where
  next : Node
  prev : Node

/-- The pointers of all nodes. -/
abbrev Heap (Node : Type u) := Node → Link Node

variable {Node : Type u} [DecidableEq Node]

namespace Heap

variable (valid : Node → Bool)

/-- Store a `next` pointer. -/
def setNext (heap : Heap Node) (node target : Node) : Except Fault (Heap Node) :=
  if valid node then .ok (Function.update heap node { heap node with next := target })
  else .error .badPointer

/-- Store a `prev` pointer. -/
def setPrev (heap : Heap Node) (node target : Node) : Except Fault (Heap Node) :=
  if valid node then .ok (Function.update heap node { heap node with prev := target })
  else .error .badPointer

/-- Read both pointers of a node. -/
def load (heap : Heap Node) (node : Node) : Except Fault (Link Node) :=
  if valid node then .ok (heap node) else .error .badPointer

/-- Make a node the head of an empty list. -/
def initListHead (heap : Heap Node) (head : Node) : Heap Node :=
  Function.update heap head ⟨head, head⟩

/-- Link a node between two neighbours. -/
def listInsert (heap : Heap Node) (new prev next : Node) : Except Fault (Heap Node) := do
  let heap ← setPrev valid heap next new
  let heap ← setNext valid heap prev new
  let heap ← setNext valid heap new next
  setPrev valid heap new prev

/-- Link a node at the front of a list. -/
def listAddHead (heap : Heap Node) (new head : Node) : Except Fault (Heap Node) := do
  let link ← load valid heap head
  listInsert valid heap new head link.next

/-- Link a node at the back of a list. -/
def listAddTail (heap : Heap Node) (new head : Node) : Except Fault (Heap Node) := do
  let link ← load valid heap head
  listInsert valid heap new link.prev head

/-- Unlink a node from its neighbours; its own pointers are left as they are. -/
def listDeleteEntry (heap : Heap Node) (entry : Node) : Except Fault (Heap Node) := do
  let link ← load valid heap entry
  let heap ← setPrev valid heap link.next link.prev
  let link ← load valid heap entry
  setNext valid heap link.prev link.next

/-- Whether a node points to itself. -/
def listEmpty (heap : Heap Node) (node : Node) : Bool := (heap node).next == node

/-- Walk from `node` until `head` is reached or a visit finds something. -/
def findFrom {α : Type u} (heap : Heap Node) (head : Node)
    (visit : Node → Except Fault (Option α)) : ℕ → Node → Except Fault (Option α)
  | 0, _ => .error .endless
  | fuel + 1, node =>
      if node = head then .ok none
      else do
        match ← visit node with
        | some found => .ok (some found)
        | none =>
            let link ← load valid heap node
            findFrom heap head visit fuel link.next

/-- Visit the members of a list from the front until one is found. -/
def listFind {α : Type u} (heap : Heap Node) (head : Node) (fuel : ℕ)
    (visit : Node → Except Fault (Option α)) : Except Fault (Option α) := do
  let link ← load valid heap head
  findFrom valid heap head visit fuel link.next

/-- Walk from `node` until `head` is reached, with an accumulator. -/
def forEachFrom {σ : Type u} (heap : Heap Node) (head : Node)
    (visit : σ → Node → Except Fault σ) : ℕ → Node → σ → Except Fault σ
  | 0, _, _ => .error .endless
  | fuel + 1, node, state =>
      if node = head then .ok state
      else do
        let state ← visit state node
        let link ← load valid heap node
        forEachFrom heap head visit fuel link.next state

/-- Visit all members of a list from the front. -/
def listForEach {σ : Type u} (heap : Heap Node) (head : Node) (fuel : ℕ)
    (visit : σ → Node → Except Fault σ) (state : σ) : Except Fault σ := do
  let link ← load valid heap head
  forEachFrom valid heap head visit fuel link.next state

/-- The nodes met on the way from `node` to `head`. -/
def nodesFrom (heap : Heap Node) (head : Node) : ℕ → Node → List Node
  | 0, _ => []
  | fuel + 1, node => if node = head then [] else node :: nodesFrom heap head fuel (heap node).next

/-- The members of a list, from the front. -/
def listNodes (heap : Heap Node) (head : Node) (fuel : ℕ) : List Node :=
  heap.nodesFrom head fuel (heap head).next

/-! ## What the operations write -/

/-- The heap after linking a node between two neighbours. -/
def linked (heap : Heap Node) (new prev next : Node) : Heap Node := fun node =>
  { next := if node = new then next else if node = prev then new else (heap node).next
    prev := if node = new then prev else if node = next then new else (heap node).prev }

/-- The heap after unlinking a node from its neighbours. -/
def unlinked (heap : Heap Node) (entry : Node) : Heap Node := fun node =>
  { next := if node = (heap entry).prev then (heap entry).next else (heap node).next
    prev := if node = (heap entry).next then (heap entry).prev else (heap node).prev }

variable {valid}

theorem linked_of_ne {heap : Heap Node} {new prev next node : Node} (notNew : node ≠ new)
    (notPrev : node ≠ prev) (notNext : node ≠ next) :
    heap.linked new prev next node = heap node := by
  simp [linked, notNew, notPrev, notNext]

theorem unlinked_of_ne {heap : Heap Node} {entry node : Node}
    (notPrev : node ≠ (heap entry).prev) (notNext : node ≠ (heap entry).next) :
    heap.unlinked entry node = heap node := by
  simp [unlinked, notPrev, notNext]

theorem setNext_eq_ok {heap : Heap Node} {node : Node} (target : Node) (ok : valid node) :
    setNext valid heap node target =
      .ok (Function.update heap node { heap node with next := target }) := by
  rw [setNext, if_pos ok]

theorem setPrev_eq_ok {heap : Heap Node} {node : Node} (target : Node) (ok : valid node) :
    setPrev valid heap node target =
      .ok (Function.update heap node { heap node with prev := target }) := by
  rw [setPrev, if_pos ok]

/-- Unlinking a node that points to no node faults. -/
theorem listDeleteEntry_of_dangling {heap : Heap Node} {entry : Node}
    (dangling : valid (heap entry).next = false) :
    listDeleteEntry valid heap entry = .error .badPointer := by
  by_cases ok : valid entry
  · simp only [listDeleteEntry, load, if_pos ok, setPrev, dangling, bind, Except.bind,
      Bool.false_eq_true, if_false]
  · simp only [listDeleteEntry, load, if_neg ok, bind, Except.bind]

/-- Unlinking the head of an empty list changes nothing. -/
theorem listDeleteEntry_of_alone {heap : Heap Node} {entry : Node} (ok : valid entry)
    (alone : heap entry = ⟨entry, entry⟩) : listDeleteEntry valid heap entry = .ok heap := by
  have same : Function.update heap entry ⟨entry, entry⟩ = heap := by
    rw [← alone, Function.update_eq_self]
  simp only [listDeleteEntry, load, setPrev, setNext, ok, alone, bind, Except.bind, if_true, same]

/-- Linking at the back of a list without a head faults. -/
theorem listAddTail_of_dangling {heap : Heap Node} {new head : Node}
    (dangling : valid head = false) : listAddTail valid heap new head = .error .badPointer := by
  simp only [listAddTail, load, dangling, bind, Except.bind, Bool.false_eq_true, if_false]

theorem listInsert_eq_linked {heap : Heap Node} {new prev next : Node} (newOk : valid new)
    (prevOk : valid prev) (nextOk : valid next) :
    listInsert valid heap new prev next = .ok (heap.linked new prev next) := by
  simp only [listInsert, setNext_eq_ok _ prevOk, setNext_eq_ok _ newOk, setPrev_eq_ok _ nextOk,
    setPrev_eq_ok _ newOk, bind, Except.bind, Except.ok.injEq]
  funext node
  by_cases atNew : node = new <;> by_cases atPrev : node = prev <;>
    by_cases atNext : node = next <;> simp_all [linked, Function.update_apply]

/-- Linking at the front of a list, whatever the pointers are, if it does not
fault. -/
theorem eq_linked_of_listAddHead {heap later : Heap Node} {new head : Node}
    (added : listAddHead valid heap new head = .ok later) :
    later = heap.linked new head (heap head).next := by
  by_cases headOk : valid head
  · by_cases nextOk : valid (heap head).next
    · by_cases newOk : valid new
      · simp only [listAddHead, load, if_pos headOk, bind, Except.bind,
          listInsert_eq_linked newOk headOk nextOk, Except.ok.injEq] at added
        exact added.symm
      · simp [listAddHead, listInsert, load, setPrev, setNext, headOk, nextOk, newOk, bind,
          Except.bind] at added
    · simp [listAddHead, listInsert, load, setPrev, headOk, nextOk, bind, Except.bind] at added
  · simp [listAddHead, load, headOk, bind, Except.bind] at added

theorem listDeleteEntry_eq_unlinked {heap : Heap Node} {entry : Node} (entryOk : valid entry)
    (prevOk : valid (heap entry).prev) (nextOk : valid (heap entry).next) :
    listDeleteEntry valid heap entry = .ok (heap.unlinked entry) := by
  have after : Function.update heap (heap entry).next
      { heap (heap entry).next with prev := (heap entry).prev } entry = heap entry := by
    by_cases self : (heap entry).next = entry
    · rw [self, Function.update_self]
    · rw [Function.update_of_ne (Ne.symm self)]
  simp only [listDeleteEntry, load, if_pos entryOk, setPrev_eq_ok _ nextOk, bind, Except.bind,
    after, setNext_eq_ok _ prevOk, Except.ok.injEq]
  funext node
  simp only [unlinked]
  generalize heap entry = link
  by_cases atPrev : node = link.prev
  · by_cases atNext : node = link.next
    · simp only [← atPrev, ← atNext, Function.update_self, if_true]
    · simp only [← atPrev, Function.update_self, Function.update_of_ne atNext, if_true,
        if_neg atNext]
  · by_cases atNext : node = link.next
    · simp only [← atNext, Function.update_of_ne atPrev, Function.update_self, if_true,
        if_neg atPrev]
    · simp only [Function.update_of_ne atPrev, Function.update_of_ne atNext, if_neg atPrev,
        if_neg atNext]

/-- Unlinking a node, whatever the pointers are, if it does not fault. -/
theorem eq_unlinked_of_listDeleteEntry {heap later : Heap Node} {entry : Node}
    (deleted : listDeleteEntry valid heap entry = .ok later) : later = heap.unlinked entry := by
  by_cases entryOk : valid entry
  · by_cases nextOk : valid (heap entry).next
    · by_cases prevOk : valid (heap entry).prev
      · rw [listDeleteEntry_eq_unlinked entryOk prevOk nextOk] at deleted
        exact (Except.ok.inj deleted).symm
      · simp [listDeleteEntry, load, setPrev, setNext, entryOk, nextOk, prevOk, bind, Except.bind,
          Function.update_apply, apply_ite Link.prev] at deleted
    · simp [listDeleteEntry, load, setPrev, entryOk, nextOk, bind, Except.bind] at deleted
  · simp [listDeleteEntry, load, entryOk, bind, Except.bind] at deleted

/-- A node that was unlinked points to the node it pointed to before. -/
theorem next_of_listDeleteEntry {heap later : Heap Node} {entry : Node}
    (deleted : listDeleteEntry valid heap entry = .ok later) :
    (later entry).next = (heap entry).next := by
  rw [eq_unlinked_of_listDeleteEntry deleted]
  exact ite_id _

end Heap

/-! ## Paths -/

/-- The pointers lead from `first` through `members` to `last`, in both
directions. -/
def Path (heap : Heap Node) : Node → List Node → Node → Prop
  | first, [], last => (heap first).next = last ∧ (heap last).prev = first
  | first, node :: members, last =>
      (heap first).next = node ∧ (heap node).prev = first ∧ Path heap node members last

namespace Path

variable {heap later : Heap Node}

omit [DecidableEq Node] in
/-- A path only reads the `next` pointers up to its last member and the `prev`
pointers from its first member on. -/
theorem congr {first last : Node} {members : List Node} (path : Path heap first members last)
    (sameNext : ∀ node ∈ first :: members, (later node).next = (heap node).next)
    (samePrev : ∀ node ∈ members ++ [last], (later node).prev = (heap node).prev) :
    Path later first members last := by
  induction members generalizing first with
  | nil =>
      exact ⟨(sameNext first (by simp)).trans path.1, (samePrev last (by simp)).trans path.2⟩
  | cons node members ih =>
      obtain ⟨next, prev, rest⟩ := path
      refine ⟨(sameNext first (by simp)).trans next, (samePrev node (by simp)).trans prev,
        ih rest ?_ ?_⟩
      · exact fun other member => sameNext other (List.mem_cons_of_mem _ member)
      · exact fun other member => samePrev other (List.mem_cons_of_mem _ member)

omit [DecidableEq Node] in
/-- A path through a node is a path to it followed by a path from it. -/
theorem append {first middle last : Node} {before after : List Node} :
    Path heap first (before ++ middle :: after) last ↔
      Path heap first before middle ∧ Path heap middle after last := by
  induction before generalizing first with
  | nil => simp only [List.nil_append, Path, and_assoc]
  | cons node before ih => simp only [List.cons_append, Path, ih, and_assoc]

omit [DecidableEq Node] in
/-- The node a path starts from points to a member or to its end. -/
theorem next_mem {first last : Node} {members : List Node} (path : Path heap first members last) :
    (heap first).next ∈ members ++ [last] := by
  cases members with
  | nil => simpa using path.1
  | cons node members => simp [path.1]

omit [DecidableEq Node] in
/-- The node a path starts from points to its first member, or to its end. -/
theorem next_eq {first last : Node} {members : List Node} (path : Path heap first members last) :
    (heap first).next = members.headD last := by
  cases members with
  | nil => exact path.1
  | cons node members => exact path.1

omit [DecidableEq Node] in
/-- The node a path ends in points back to a member or to its start. -/
theorem prev_mem {first last : Node} {members : List Node} (path : Path heap first members last) :
    (heap last).prev ∈ first :: members := by
  induction members generalizing first with
  | nil => simp [path.2]
  | cons node members ih => exact List.mem_cons_of_mem _ (ih path.2.2)

omit [DecidableEq Node] in
/-- What a node of a path points to points back to it. -/
theorem prev_next {first last node : Node} {members : List Node}
    (path : Path heap first members last) (member : node ∈ first :: members) :
    (heap (heap node).next).prev = node := by
  induction members generalizing first with
  | nil =>
      rw [List.mem_singleton.mp member, path.1]
      exact path.2
  | cons second members ih =>
      rcases List.mem_cons.mp member with rfl | inside
      · rw [path.1]
        exact path.2.1
      · exact ih path.2.2 inside

omit [DecidableEq Node] in
/-- What a node of a path points back to points to it. -/
theorem next_prev {first last node : Node} {members : List Node}
    (path : Path heap first members last) (member : node ∈ members ++ [last]) :
    (heap (heap node).prev).next = node := by
  induction members generalizing first with
  | nil =>
      rw [List.mem_singleton.mp member, path.2]
      exact path.1
  | cons second members ih =>
      rcases List.mem_cons.mp member with rfl | inside
      · rw [path.2.1]
        exact path.1
      · exact ih path.2.2 inside

/-- Linking a node after the start of a path. -/
theorem linked_first {first last new : Node} {members : List Node}
    (path : Path heap first members last) (fresh : new ∉ first :: members ++ [last])
    (once : (first :: members).Nodup) (endOnce : (members ++ [last]).Nodup) :
    Path (heap.linked new first (heap first).next) first (new :: members) last := by
  simp only [List.cons_append, List.mem_cons, List.mem_append, List.not_mem_nil, or_false,
    not_or] at fresh
  obtain ⟨notFirst, notMember, notLast⟩ := fresh
  cases members with
  | nil =>
      refine ⟨?_, ?_, ?_, ?_⟩ <;>
        simp [Heap.linked, path.1, Ne.symm notFirst, Ne.symm notLast]
  | cons node members =>
      obtain ⟨next, prev, rest⟩ := path
      simp only [List.mem_cons, not_or] at notMember
      simp only [List.nodup_cons, List.mem_cons, not_or, List.cons_append, List.mem_append,
        List.not_mem_nil, or_false] at once endOnce
      refine ⟨?_, ?_, ?_, ?_, rest.congr ?_ ?_⟩
      · simp [Heap.linked, Ne.symm notFirst]
      · simp [Heap.linked]
      · simp [Heap.linked, next]
      · simp [Heap.linked, next, Ne.symm notMember.1]
      · rintro other member
        have notNew : other ≠ new := by
          rintro rfl
          exact (List.mem_cons.mp member).elim notMember.1 notMember.2
        have notStart : other ≠ first := by
          rintro rfl
          exact (List.mem_cons.mp member).elim once.1.1 once.1.2
        simp [Heap.linked, notNew, notStart]
      · rintro other member
        have notNew : other ≠ new := by
          rintro rfl
          simp only [List.mem_append, List.mem_singleton] at member
          exact member.elim notMember.2 notLast
        have notNode : other ≠ node := by
          rintro rfl
          simp only [List.mem_append, List.mem_singleton] at member
          exact member.elim endOnce.1.1 endOnce.1.2
        simp [Heap.linked, notNew, next, notNode]

/-- Linking a node before the end of a path. -/
theorem linked_last {first last new : Node} {members : List Node}
    (path : Path heap first members last) (fresh : new ∉ first :: members ++ [last])
    (once : (first :: members).Nodup) (endOnce : (members ++ [last]).Nodup) :
    Path (heap.linked new (heap last).prev last) first (members ++ [new]) last := by
  simp only [List.cons_append, List.mem_cons, List.mem_append, List.not_mem_nil, or_false,
    not_or] at fresh
  obtain ⟨notFirst, notMember, notLast⟩ := fresh
  rcases List.eq_nil_or_concat members with rfl | ⟨front, node, rfl⟩
  · refine ⟨?_, ?_, ?_, ?_⟩ <;>
      simp [Heap.linked, path.2, Ne.symm notFirst, Ne.symm notLast]
  · rw [List.concat_eq_append] at *
    obtain ⟨lead, tail⟩ := append.mp path
    obtain ⟨next, prev⟩ := tail
    simp only [List.mem_append, List.mem_singleton, not_or] at notMember
    simp only [List.append_assoc, List.singleton_append]
    refine append.mpr ⟨lead.congr ?_ ?_, ?_, ?_, ?_, ?_⟩
    · rintro other member
      have notNew : other ≠ new := by
        rintro rfl
        exact (List.mem_cons.mp member).elim notFirst notMember.1
      have notNode : other ≠ node := by
        rintro rfl
        rw [← List.cons_append] at once
        exact (List.disjoint_of_nodup_append once) member (by simp)
      simp [Heap.linked, notNew, prev, notNode]
    · rintro other member
      have notNew : other ≠ new := by
        rintro rfl
        simp only [List.mem_append, List.mem_singleton] at member
        exact member.elim notMember.1 notMember.2
      have notEnd : other ≠ last := by
        rintro rfl
        exact (List.disjoint_of_nodup_append endOnce) member (by simp)
      simp [Heap.linked, notNew, notEnd]
    · simp [Heap.linked, prev, Ne.symm notMember.2]
    · simp [Heap.linked, prev]
    · simp [Heap.linked]
    · simp [Heap.linked, Ne.symm notLast]

/-- Unlinking a node joins the paths on its two sides. -/
theorem unlinked {first entry last : Node} {before after : List Node}
    (lead : Path heap first before entry) (tail : Path heap entry after last)
    (once : (first :: before ++ entry :: after).Nodup)
    (endOnce : (before ++ entry :: after ++ [last]).Nodup) :
    Path (heap.unlinked entry) first (before ++ after) last := by
  induction before generalizing first with
  | nil =>
      obtain ⟨_, prev⟩ := lead
      cases after with
      | nil =>
          obtain ⟨next, _⟩ := tail
          constructor <;> simp [Heap.unlinked, prev, next]
      | cons node after =>
          obtain ⟨next, _, rest⟩ := tail
          refine ⟨by simp [Heap.unlinked, prev, next], by simp [Heap.unlinked, prev, next],
            rest.congr ?_ ?_⟩
          · rintro other member
            have notFirst : other ≠ first := by
              rintro rfl
              simp_all
            simp [Heap.unlinked, prev, notFirst]
          · rintro other member
            have notNode : other ≠ node := by
              rintro rfl
              simp_all
            simp [Heap.unlinked, next, notNode]
  | cons node before ih =>
      obtain ⟨next, prev, rest⟩ := lead
      have lastPrev := rest.prev_mem
      have firstNext := tail.next_mem
      have notPrev : first ≠ (heap entry).prev := by
        intro same
        rw [← same] at lastPrev
        simp_all
      have notNext : node ≠ (heap entry).next := by
        intro same
        rw [← same] at firstNext
        simp_all
      refine ⟨by simp [Heap.unlinked, notPrev, next], by simp [Heap.unlinked, notNext, prev],
        ih rest ?_ ?_⟩
      · simp_all
      · simp_all

end Path

/-! ## Lists and families of lists -/

section Family

variable (valid : Node → Bool)

/-- The head denotes the sequence of its members. -/
structure Denotes (heap : Heap Node) (head : Node) (members : List Node) : Prop where
  path : Path heap head members head
  nodup : (head :: members).Nodup
  valid_of_mem : ∀ node ∈ head :: members, valid node

/-- Every head denotes a sequence, and no node is a member of two lists or both
a head and a member. -/
structure Family (heap : Heap Node) (IsHead : Node → Prop) (members : Node → List Node) :
    Prop where
  denotes : ∀ head, IsHead head → Denotes valid heap head (members head)
  notHead : ∀ head node, IsHead head → node ∈ members head → ¬ IsHead node
  unique : ∀ first second node, IsHead first → IsHead second →
    node ∈ members first → node ∈ members second → first = second

variable {valid} {heap later : Heap Node} {head : Node} {members : List Node}

namespace Denotes

omit [DecidableEq Node] in
theorem not_mem (denotes : Denotes valid heap head members) : head ∉ members :=
  (List.nodup_cons.mp denotes.nodup).1

omit [DecidableEq Node] in
theorem endOnce (denotes : Denotes valid heap head members) : (members ++ [head]).Nodup := by
  have nodup := List.nodup_cons.mp denotes.nodup
  exact List.nodup_append.mpr ⟨nodup.2, by simp, by
    rintro node member _ atEnd rfl
    exact nodup.1 (List.mem_singleton.mp atEnd ▸ member)⟩

omit [DecidableEq Node] in
theorem next_valid (denotes : Denotes valid heap head members) : valid (heap head).next := by
  apply denotes.valid_of_mem
  have member := denotes.path.next_mem
  simp only [List.mem_append, List.mem_singleton] at member
  exact List.mem_cons.mpr member.symm

omit [DecidableEq Node] in
theorem prev_valid (denotes : Denotes valid heap head members) : valid (heap head).prev :=
  denotes.valid_of_mem _ denotes.path.prev_mem

omit [DecidableEq Node] in
/-- A list is not affected by changes to other nodes. -/
theorem congr (denotes : Denotes valid heap head members)
    (same : ∀ node ∈ head :: members, later node = heap node) :
    Denotes valid later head members where
  path := denotes.path.congr (fun node member => by rw [same node member])
    (fun node member => by
      simp only [List.mem_append, List.mem_singleton] at member
      rw [same node (List.mem_cons.mpr member.symm)])
  nodup := denotes.nodup
  valid_of_mem := denotes.valid_of_mem

/-- An initialised head denotes the empty sequence. -/
theorem initListHead (ok : valid head) : Denotes valid (heap.initListHead head) head [] where
  path := by simp [Path, Heap.initListHead]
  nodup := by simp
  valid_of_mem := by simpa using ok

omit [DecidableEq Node] in
theorem load_eq {node : Node} (denotes : Denotes valid heap head members)
    (member : node ∈ head :: members) : Heap.load valid heap node = .ok (heap node) := by
  rw [Heap.load, if_pos (denotes.valid_of_mem node member)]

omit [DecidableEq Node] in
/-- The node with which a part of the list starts, or the head behind its end. -/
theorem load_headD_eq {before after : List Node}
    (denotes : Denotes valid heap head (before ++ after)) :
    Heap.load valid heap (after.headD head) = .ok (heap (after.headD head)) := by
  refine denotes.load_eq ?_
  cases after with
  | nil => exact List.mem_cons_self
  | cons first after =>
      exact List.mem_cons_of_mem _ (List.mem_append_right _ List.mem_cons_self)

omit [DecidableEq Node] in
/-- A node that is not on the way round is at neither end. -/
theorem not_mem_ends {new : Node} (fresh : new ∉ head :: members) :
    new ∉ head :: members ++ [head] := by
  simp only [List.cons_append, List.mem_cons, List.mem_append, List.not_mem_nil, or_false,
    not_or] at fresh ⊢
  exact ⟨fresh.1, fresh.2, fresh.1⟩

theorem addHead {new : Node} (denotes : Denotes valid heap head members) (ok : valid new)
    (fresh : new ∉ head :: members) :
    Heap.listAddHead valid heap new head =
        .ok (heap.linked new head (heap head).next) ∧
      Denotes valid (heap.linked new head (heap head).next) head (new :: members) := by
  have headOk := denotes.valid_of_mem head (by simp)
  have notMember := not_mem_ends fresh
  constructor
  · simp only [Heap.listAddHead, denotes.load_eq List.mem_cons_self, bind, Except.bind]
    exact Heap.listInsert_eq_linked ok headOk denotes.next_valid
  · exact
      { path := denotes.path.linked_first notMember denotes.nodup denotes.endOnce
        nodup := by
          have nodup := denotes.nodup
          simp only [List.nodup_cons, List.mem_cons, not_or] at fresh nodup ⊢
          exact ⟨⟨Ne.symm fresh.1, nodup.1⟩, fresh.2, nodup.2⟩
        valid_of_mem := by
          intro node member
          simp only [List.mem_cons] at member
          rcases member with rfl | rfl | member
          · exact headOk
          · exact ok
          · exact denotes.valid_of_mem node (List.mem_cons_of_mem _ member) }

/-- Linking at the back writes the same pointers for a node that is linked already. -/
theorem listAddTail_eq {new : Node} (denotes : Denotes valid heap head members)
    (ok : valid new) :
    Heap.listAddTail valid heap new head = .ok (heap.linked new (heap head).prev head) := by
  simp only [Heap.listAddTail, denotes.load_eq List.mem_cons_self, bind, Except.bind]
  exact Heap.listInsert_eq_linked ok denotes.prev_valid
    (denotes.valid_of_mem head List.mem_cons_self)

theorem addTail {new : Node} (denotes : Denotes valid heap head members) (ok : valid new)
    (fresh : new ∉ head :: members) :
    Heap.listAddTail valid heap new head =
        .ok (heap.linked new (heap head).prev head) ∧
      Denotes valid (heap.linked new (heap head).prev head) head (members ++ [new]) := by
  have headOk := denotes.valid_of_mem head (by simp)
  have notMember := not_mem_ends fresh
  constructor
  · exact denotes.listAddTail_eq ok
  · exact
      { path := denotes.path.linked_last notMember denotes.nodup denotes.endOnce
        nodup := by
          have nodup := denotes.nodup
          simp only [List.nodup_cons, List.mem_cons, not_or, List.mem_append,
            List.not_mem_nil, or_false, List.nodup_append] at fresh nodup ⊢
          refine ⟨⟨nodup.1, Ne.symm fresh.1⟩, nodup.2, by simp, ?_⟩
          rintro node member _ rfl rfl
          exact fresh.2 member
        valid_of_mem := by
          intro node member
          simp only [List.mem_cons, List.mem_append, List.not_mem_nil, or_false] at member
          rcases member with rfl | member | rfl
          · exact headOk
          · exact denotes.valid_of_mem node (List.mem_cons_of_mem _ member)
          · exact ok }

omit [DecidableEq Node] in
theorem not_mem_rest {entry : Node} {before after : List Node}
    (denotes : Denotes valid heap head (before ++ entry :: after)) : entry ∉ before ++ after :=
  (List.nodup_cons.mp (List.nodup_middle.mp (List.nodup_cons.mp denotes.nodup).2)).1

omit [DecidableEq Node] in
/-- The neighbours of a member are the head or members other than itself. -/
theorem neighbours {entry : Node} (denotes : Denotes valid heap head members)
    (member : entry ∈ members) :
    ((heap entry).next ∈ head :: members ∧ (heap entry).next ≠ entry) ∧
      (heap entry).prev ∈ head :: members ∧ (heap entry).prev ≠ entry := by
  obtain ⟨before, after, rfl⟩ := List.append_of_mem member
  obtain ⟨lead, tail⟩ := Path.append.mp denotes.path
  have next := tail.next_mem
  have prev := lead.prev_mem
  have notHead : entry ≠ head := fun same => denotes.not_mem (same ▸ member)
  have apart := denotes.not_mem_rest
  simp only [List.mem_append, List.mem_cons, List.not_mem_nil, or_false, not_or]
    at next prev apart ⊢
  refine ⟨⟨by tauto, ?_⟩, by tauto, ?_⟩
  · intro same
    rw [same] at next
    exact next.elim apart.2 notHead
  · intro same
    rw [same] at prev
    exact prev.elim notHead apart.1

/-- Linking a member at the back once more gives no list that still has the others. -/
theorem not_denotes_linked {node : Node} {moved : List Node}
    (denotes : Denotes valid heap head members) (member : node ∈ members)
    (rest : ∀ other ∈ members, other ≠ node → other ∈ moved) :
    ¬ Denotes valid (heap.linked node (heap head).prev head) head moved := by
  intro linked
  obtain ⟨_, prevMember, prevNe⟩ := denotes.neighbours member
  have notHead : node ≠ head := fun same => denotes.not_mem (same ▸ member)
  set before := (heap node).prev
  -- the node before it still points to it, and so does the last one
  have next : (heap before).next = node :=
    denotes.path.next_prev (List.mem_append_left _ member)
  have pointed : (heap.linked node (heap head).prev head before).next = node := by
    simp only [Heap.linked, if_neg prevNe, next, ite_self]
  have inside : before ∈ head :: moved := by
    rcases List.mem_cons.mp prevMember with atHead | within
    · exact atHead ▸ List.mem_cons_self
    · exact List.mem_cons_of_mem _ (rest before within prevNe)
  have back := linked.path.prev_next inside
  rw [pointed] at back
  have last : (heap head).prev = before := by
    simpa only [Heap.linked, if_true] using back
  have lastNext : (heap (heap head).prev).next = head :=
    denotes.path.next_prev (by simp)
  rw [last, next] at lastNext
  exact notHead lastNext

theorem deleteEntry {entry : Node} (denotes : Denotes valid heap head members)
    (member : entry ∈ members) :
    Heap.listDeleteEntry valid heap entry = .ok (heap.unlinked entry) ∧
      Denotes valid (heap.unlinked entry) head (members.erase entry) := by
  obtain ⟨⟨nextMember, _⟩, prevMember, _⟩ := denotes.neighbours member
  have entryOk := denotes.valid_of_mem entry (List.mem_cons_of_mem _ member)
  refine ⟨Heap.listDeleteEntry_eq_unlinked entryOk (denotes.valid_of_mem _ prevMember)
    (denotes.valid_of_mem _ nextMember), ?_⟩
  have nodup := denotes.nodup
  have endOnce := denotes.endOnce
  have validOf := denotes.valid_of_mem
  have path := denotes.path
  obtain ⟨before, after, rfl⟩ := List.append_of_mem member
  have notBefore : entry ∉ before := fun inside =>
    denotes.not_mem_rest (List.mem_append_left _ inside)
  have erased : (before ++ entry :: after).erase entry = before ++ after := by
    rw [List.erase_append_right _ notBefore, List.erase_cons_head]
  obtain ⟨lead, tail⟩ := Path.append.mp path
  rw [erased]
  exact
    { path := lead.unlinked tail nodup endOnce
      nodup := nodup.sublist
        (List.Sublist.cons_cons _ (List.Sublist.append_left (List.sublist_cons_self _ _) _))
      valid_of_mem := by
        intro node inside
        apply validOf
        simp only [List.mem_cons, List.mem_append] at inside ⊢
        tauto }

omit [DecidableEq Node] in
/-- A member points to the next one, or to the head. -/
theorem next_eq {node : Node} {before after : List Node}
    (denotes : Denotes valid heap head (before ++ node :: after)) :
    (heap node).next = after.headD head :=
  (Path.append.mp denotes.path).2.next_eq

omit [DecidableEq Node] in
/-- **The rule for a traversal** that follows `next` from the head with a bounded
number of steps: what holds at the head, and at a member if it holds of the rest,
holds of the whole list. -/
theorem walk {motive : ℕ → Node → List Node → Prop} {fuel : ℕ}
    (denotes : Denotes valid heap head members) (enough : members.length < fuel)
    (atHead : ∀ steps, motive (steps + 1) head [])
    (atMember : ∀ steps node rest, node ∈ members → node ≠ head →
      motive steps (heap node).next rest → motive (steps + 1) node (node :: rest)) :
    motive fuel (heap head).next members := by
  have onward : ∀ (rest : List Node) (first : Node) (steps : ℕ), Path heap first rest head →
      rest ⊆ members → rest.length < steps → motive steps (heap first).next rest := by
    intro rest
    induction rest with
    | nil =>
        intro first steps path _ bound
        obtain ⟨steps, rfl⟩ := Nat.exists_eq_succ_of_ne_zero (Nat.ne_of_gt bound)
        rw [path.1]
        exact atHead steps
    | cons node rest ih =>
        intro first steps path inside bound
        obtain ⟨steps, rfl⟩ :=
          Nat.exists_eq_succ_of_ne_zero (Nat.ne_of_gt (Nat.zero_lt_of_lt bound))
        obtain ⟨next, _, behind⟩ := path
        obtain ⟨member, inside⟩ := List.cons_subset.mp inside
        rw [next]
        refine atMember steps node rest member (fun same => denotes.not_mem (same ▸ member)) ?_
        exact ih node steps behind inside (Nat.lt_of_succ_lt_succ bound)
  exact onward members head fuel denotes.path (List.Subset.refl _) enough

/-- **A search meets the members in order.** -/
theorem find {α : Type u} {visit : Node → Except Fault (Option α)} {found : Node → Option α}
    {fuel : ℕ} (denotes : Denotes valid heap head members) (enough : members.length < fuel)
    (visits : ∀ node ∈ members, visit node = .ok (found node)) :
    Heap.listFind valid heap head fuel visit = .ok (members.findSome? found) := by
  simp only [Heap.listFind, denotes.load_eq List.mem_cons_self, bind, Except.bind]
  refine denotes.walk (motive := fun steps node rest =>
    Heap.findFrom valid heap head visit steps node = .ok (rest.findSome? found)) enough ?_ ?_
  · intro steps
    rw [Heap.findFrom, if_pos rfl]
    rfl
  · intro steps node rest member notHead later
    simp only [Heap.findFrom, if_neg notHead, visits node member, bind, Except.bind,
      List.findSome?_cons]
    cases found node with
    | some value => rfl
    | none => simp only [denotes.load_eq (List.mem_cons_of_mem _ member), later]

/-- **A traversal visits the members in order.** -/
theorem forEach {σ : Type u} {visit : σ → Node → Except Fault σ} {after : σ → Node → σ}
    {fuel : ℕ} (denotes : Denotes valid heap head members) (enough : members.length < fuel)
    (visits : ∀ node ∈ members, ∀ state, visit state node = .ok (after state node))
    (state : σ) :
    Heap.listForEach valid heap head fuel visit state = .ok (members.foldl after state) := by
  simp only [Heap.listForEach, denotes.load_eq List.mem_cons_self, bind, Except.bind]
  refine denotes.walk (motive := fun steps node rest => ∀ state,
    Heap.forEachFrom valid heap head visit steps node state =
      .ok (rest.foldl after state)) enough ?_ ?_ state
  · intro steps state
    rw [Heap.forEachFrom, if_pos rfl]
    rfl
  · intro steps node rest member notHead later state
    simp only [Heap.forEachFrom, if_neg notHead, visits node member, bind, Except.bind,
      denotes.load_eq (List.mem_cons_of_mem _ member), later, List.foldl_cons]

/-- Following the pointers of a list gives its members. -/
theorem listNodes_eq {fuel : ℕ} (denotes : Denotes valid heap head members)
    (enough : members.length < fuel) : heap.listNodes head fuel = members := by
  rw [Heap.listNodes]
  refine denotes.walk (motive := fun steps node rest =>
    heap.nodesFrom head steps node = rest) enough ?_ ?_
  · intro steps
    rw [Heap.nodesFrom, if_pos rfl]
  · intro steps node rest _ notHead later
    rw [Heap.nodesFrom, if_neg notHead, later]

end Denotes

namespace Family

variable {IsHead : Node → Prop} {table : Node → List Node}

omit [DecidableEq Node] in
/-- The nodes of one list are not nodes of another. -/
theorem disjoint (family : Family valid heap IsHead table) {other node : Node}
    (isHead : IsHead head) (isOther : IsHead other) (different : other ≠ head)
    (member : node ∈ other :: table other) : node ∉ head :: table head := by
  intro inside
  rcases List.mem_cons.mp member with rfl | member
  · rcases List.mem_cons.mp inside with same | inside
    · exact different same
    · exact family.notHead head _ isHead inside isOther
  · rcases List.mem_cons.mp inside with rfl | inside
    · exact family.notHead other _ isOther member isHead
    · exact different (family.unique other head node isOther isHead member inside)

omit [DecidableEq Node] in
/-- A family is not affected by changes to nodes outside its lists. -/
theorem congr (family : Family valid heap IsHead table)
    (same : ∀ other, IsHead other → ∀ node ∈ other :: table other, later node = heap node) :
    Family valid later IsHead table where
  denotes := fun other isOther => (family.denotes other isOther).congr (same other isOther)
  notHead := family.notHead
  unique := family.unique

/-- Changing one list of a family, with members taken from that list or from
outside the family. -/
theorem replace (family : Family valid heap IsHead table) (isHead : IsHead head)
    (denotes : Denotes valid later head members)
    (source : ∀ node ∈ members, node ∈ table head ∨
      ¬ IsHead node ∧ ∀ other, IsHead other → node ∉ table other)
    (same : ∀ other, IsHead other → other ≠ head → ∀ node ∈ other :: table other,
      later node = heap node) :
    Family valid later IsHead (Function.update table head members) where
  denotes := by
    intro other isOther
    by_cases here : other = head
    · subst here
      rwa [Function.update_self]
    · rw [Function.update_of_ne here]
      exact (family.denotes other isOther).congr (same other isOther here)
  notHead := by
    intro other node isOther member
    by_cases here : other = head
    · subst here
      rw [Function.update_self] at member
      rcases source node member with old | ⟨new, _⟩
      · exact family.notHead other node isOther old
      · exact new
    · rw [Function.update_of_ne here] at member
      exact family.notHead other node isOther member
  unique := by
    intro first second node isFirst isSecond inFirst inSecond
    by_cases firstHere : first = head <;> by_cases secondHere : second = head
    · exact firstHere.trans secondHere.symm
    · subst firstHere
      rw [Function.update_self] at inFirst
      rw [Function.update_of_ne secondHere] at inSecond
      rcases source node inFirst with old | ⟨_, new⟩
      · exact family.unique _ _ node isFirst isSecond old inSecond
      · exact absurd inSecond (new second isSecond)
    · subst secondHere
      rw [Function.update_self] at inSecond
      rw [Function.update_of_ne firstHere] at inFirst
      rcases source node inSecond with old | ⟨_, new⟩
      · exact family.unique _ _ node isFirst isSecond inFirst old
      · exact absurd inFirst (new first isFirst)
    · rw [Function.update_of_ne firstHere] at inFirst
      rw [Function.update_of_ne secondHere] at inSecond
      exact family.unique _ _ node isFirst isSecond inFirst inSecond

omit [DecidableEq Node] in
theorem not_mem_of_fresh {new other : Node} (notHead : ¬ IsHead new)
    (fresh : ∀ other, IsHead other → new ∉ table other) (isOther : IsHead other) :
    new ∉ other :: table other := by
  intro member
  rcases List.mem_cons.mp member with rfl | member
  · exact notHead isOther
  · exact fresh other isOther member

section Insert

variable {new : Node} (family : Family valid heap IsHead table) (isHead : IsHead head)
  (ok : valid new) (notHead : ¬ IsHead new) (fresh : ∀ other, IsHead other → new ∉ table other)
include family isHead ok notHead fresh

/-- **Adding a node at the front.** -/
theorem addHead :
    ∃ later, Heap.listAddHead valid heap new head = .ok later ∧
      Family valid later IsHead (Function.update table head (new :: table head)) ∧
      ∀ node, node ≠ new → node ∉ head :: table head → later node = heap node := by
  have before := family.denotes head isHead
  have newFresh := not_mem_of_fresh notHead fresh isHead
  obtain ⟨added, denotes⟩ := before.addHead ok newFresh
  have nextMember := before.path.next_mem
  have same : ∀ node, node ≠ new → node ∉ head :: table head →
      heap.linked new head (heap head).next node = heap node := by
    intro node notNew outside
    simp only [List.mem_cons, not_or] at outside
    refine Heap.linked_of_ne notNew outside.1 fun atNext => ?_
    rw [← atNext] at nextMember
    simp only [List.mem_append, List.mem_singleton] at nextMember
    exact nextMember.elim outside.2 outside.1
  refine ⟨_, added, family.replace isHead denotes ?_ ?_, same⟩
  · intro node member
    rcases List.mem_cons.mp member with rfl | member
    · exact .inr ⟨notHead, fresh⟩
    · exact .inl member
  · intro other isOther different node member
    refine same node ?_ (family.disjoint isHead isOther different member)
    rintro rfl
    exact not_mem_of_fresh notHead fresh isOther member

/-- **Adding a node at the back.** -/
theorem addTail :
    ∃ later, Heap.listAddTail valid heap new head = .ok later ∧
      Family valid later IsHead (Function.update table head (table head ++ [new])) ∧
      ∀ node, node ≠ new → node ∉ head :: table head → later node = heap node := by
  have before := family.denotes head isHead
  have newFresh := not_mem_of_fresh notHead fresh isHead
  obtain ⟨added, denotes⟩ := before.addTail ok newFresh
  have prevMember := before.path.prev_mem
  have same : ∀ node, node ≠ new → node ∉ head :: table head →
      heap.linked new (heap head).prev head node = heap node := by
    intro node notNew outside
    refine Heap.linked_of_ne notNew (fun atPrev => ?_) (fun atHead => ?_)
    · rw [← atPrev] at prevMember
      exact outside prevMember
    · exact outside (atHead ▸ List.mem_cons_self)
  refine ⟨_, added, family.replace isHead denotes ?_ ?_, same⟩
  · intro node member
    rcases List.mem_append.mp member with member | member
    · exact .inl member
    · rw [List.mem_singleton.mp member]
      exact .inr ⟨notHead, fresh⟩
  · intro other isOther different node member
    refine same node ?_ (family.disjoint isHead isOther different member)
    rintro rfl
    exact not_mem_of_fresh notHead fresh isOther member

end Insert

/-- **Removing a member.** Its own pointers stay what they were. -/
theorem deleteEntry {entry : Node} (family : Family valid heap IsHead table)
    (isHead : IsHead head) (member : entry ∈ table head) :
    ∃ later, Heap.listDeleteEntry valid heap entry = .ok later ∧
      Family valid later IsHead (Function.update table head ((table head).erase entry)) ∧
      ∀ node, node = entry ∨ node ∉ head :: table head → later node = heap node := by
  have before := family.denotes head isHead
  obtain ⟨deleted, denotes⟩ := before.deleteEntry member
  obtain ⟨⟨nextMember, nextNe⟩, prevMember, prevNe⟩ := before.neighbours member
  have same : ∀ node, node = entry ∨ node ∉ head :: table head →
      heap.unlinked entry node = heap node := by
    rintro node (rfl | outside)
    · exact Heap.unlinked_of_ne (Ne.symm prevNe) (Ne.symm nextNe)
    · refine Heap.unlinked_of_ne (fun atPrev => ?_) (fun atNext => ?_)
      · exact outside (atPrev ▸ prevMember)
      · exact outside (atNext ▸ nextMember)
  refine ⟨_, deleted, family.replace isHead denotes ?_ ?_, same⟩
  · exact fun node inside => .inl (List.mem_of_mem_erase inside)
  · exact fun other isOther different node inside =>
      same node (.inr (family.disjoint isHead isOther different inside))

/-- A member that was removed is in no list, and its pointers may be written
over. -/
theorem deleteEntry_overwritten {entry : Node} (family : Family valid heap IsHead table)
    (isHead : IsHead head) (member : entry ∈ table head) {unlinked later : Heap Node}
    (deleted : Heap.listDeleteEntry valid heap entry = .ok unlinked)
    (same : ∀ node, node ≠ entry → later node = unlinked node) :
    Family valid later IsHead (Function.update table head ((table head).erase entry)) := by
  obtain ⟨_, deletedOnce, rest, _⟩ := family.deleteEntry isHead member
  cases deleted.symm.trans deletedOnce
  refine rest.congr fun other isOther node inside => same node ?_
  rintro rfl
  rcases List.mem_cons.mp inside with atHead | inside
  · exact family.notHead head _ isHead member (atHead ▸ isOther)
  · by_cases here : other = head
    · rw [here, Function.update_self] at inside
      have once := (List.nodup_cons.mp (family.denotes head isHead).nodup).2
      exact once.not_mem_erase inside
    · rw [Function.update_of_ne here] at inside
      exact here (family.unique other head _ isOther isHead inside member)

/-- **A new head joins the family with an empty list.** -/
theorem initListHead (family : Family valid heap IsHead table) (ok : valid head)
    (notHead : ¬ IsHead head) (fresh : ∀ other, IsHead other → head ∉ table other) :
    Family valid (heap.initListHead head) (fun node => IsHead node ∨ node = head)
      (Function.update table head []) where
  denotes := by
    rintro other (isOther | rfl)
    · have different : other ≠ head := fun same => notHead (same ▸ isOther)
      rw [Function.update_of_ne different]
      refine (family.denotes other isOther).congr fun node member => ?_
      refine Function.update_of_ne ?_ _ _
      rintro rfl
      rcases List.mem_cons.mp member with rfl | member
      · exact different rfl
      · exact fresh other isOther member
    · rw [Function.update_self]
      exact .initListHead ok
  notHead := by
    rintro other node (isOther | rfl) member
    · have different : other ≠ head := fun same => notHead (same ▸ isOther)
      rw [Function.update_of_ne different] at member
      rintro (isHead | rfl)
      · exact family.notHead other node isOther member isHead
      · exact fresh other isOther member
    · simp at member
  unique := by
    rintro first second node (isFirst | rfl) (isSecond | rfl) inFirst inSecond
    · have firstNe : first ≠ head := fun same => notHead (same ▸ isFirst)
      have secondNe : second ≠ head := fun same => notHead (same ▸ isSecond)
      rw [Function.update_of_ne firstNe] at inFirst
      rw [Function.update_of_ne secondNe] at inSecond
      exact family.unique first second node isFirst isSecond inFirst inSecond
    · simp at inSecond
    · simp at inFirst
    · rfl

end Family

end Family

end TcpStack.Lib
