import TcpStack.Lib.CircularList

/-!
# Lists of records

`list.h`: the loops over lists whose nodes are members of larger records, and
what the operations of the file do to any number of lists at once.

A loop goes over the records, and finds a node by adding the offset of the
member to the address of its record. `list_for_each_entry` follows the pointer of
a record after its body; `list_for_each_entry_safe` has followed it before, so
that the body may take the record out of the list and write over its pointers.
Both run their body on the records of the list, in order, and end
(`listForEachEntry_eq`, `listForEachEntrySafe_eq`).

Together with the rules of the library this says that the operations on pointers
are those on sequences (`list_operations_on_sequences`).
-/

set_option autoImplicit false

namespace TcpStack

open Lib

/-- A member of type `struct list_head` of a record: `list_entry` takes the
address of a node to that of its record, and `&pos->member` goes back. -/
structure ListMember (Entry Node : Type) where
  listEntry : Node → Entry
  node : Entry → Node
  node_listEntry : ∀ address, node (listEntry address) = address

section Loops

variable {Entry Node σ : Type} [DecidableEq Node] (valid : Node → Bool)
  (member : ListMember Entry Node) (links : σ → Heap Node) (head : Node)
  (body : σ → Entry → Except Fault σ)

/-- The turns of `list_for_each_entry` from the record `pos` on; the pointers are
part of the state the body works on. -/
def listForEachEntryFrom : ℕ → Entry → σ → Except Fault σ
  | 0, _, _ => .error .endless
  | turns + 1, pos, state =>
      if member.node pos = head then .ok state
      else do
        let state ← body state pos
        let link ← Heap.load valid (links state) (member.node pos)
        listForEachEntryFrom turns (member.listEntry link.next) state

/-- `list_for_each_entry`, for at most the given number of turns. -/
def listForEachEntry (turns : ℕ) (state : σ) : Except Fault σ := do
  let link ← Heap.load valid (links state) head
  listForEachEntryFrom valid member links head body turns (member.listEntry link.next) state

/-- The turns of `list_for_each_entry_safe` from the record `pos` on, with the
record `q` behind it. -/
def listForEachEntrySafeFrom : ℕ → Entry → Entry → σ → Except Fault σ
  | 0, _, _, _ => .error .endless
  | turns + 1, pos, q, state =>
      if member.node pos = head then .ok state
      else do
        let state ← body state pos
        let link ← Heap.load valid (links state) (member.node q)
        listForEachEntrySafeFrom turns q (member.listEntry link.next) state

/-- `list_for_each_entry_safe`, for at most the given number of turns. -/
def listForEachEntrySafe (turns : ℕ) (state : σ) : Except Fault σ := do
  let link ← Heap.load valid (links state) head
  let pos := member.listEntry link.next
  let link ← Heap.load valid (links state) (member.node pos)
  listForEachEntrySafeFrom valid member links head body turns pos (member.listEntry link.next)
    state

end Loops

/-! ## What bodies do to the pointers -/

section Bodies

variable {Entry Node σ : Type} [DecidableEq Node] (valid : Node → Bool)
  (member : ListMember Entry Node) (links : σ → Heap Node)

/-- The body took the record out of its list, and may have written over the
pointers of the record after that. -/
def Removes (before after : σ) (pos : Entry) : Prop :=
  ∃ unlinked, Heap.listDeleteEntry valid (links before) (member.node pos) = .ok unlinked ∧
    ∀ other, other ≠ member.node pos → links after other = unlinked other

end Bodies

section Rules

variable {Entry Node σ : Type} [DecidableEq Node] {valid : Node → Bool}
  {member : ListMember Entry Node} {links : σ → Heap Node} {body : σ → Entry → Except Fault σ}
  {head : Node}

/-- From a record of the list on, `list_for_each_entry` runs its body on the rest
of the list. -/
theorem listForEachEntryFrom_eq {members : List Node}
    (keeps : ∀ before pos after, body before pos = .ok after →
      ∀ node ∈ head :: members, links after node = links before node)
    {before rest : List Node} (parts : members = before ++ rest) {turns : ℕ}
    (enough : rest.length < turns) {state : σ}
    (denotes : Denotes valid (links state) head members) :
    listForEachEntryFrom valid member links head body turns (member.listEntry (rest.headD head))
      state = (rest.map member.listEntry).foldlM body state := by
  induction rest generalizing before turns state with
  | nil =>
      obtain ⟨turns, rfl⟩ := Nat.exists_eq_succ_of_ne_zero (Nat.ne_of_gt enough)
      rw [List.headD_nil, listForEachEntryFrom, if_pos (member.node_listEntry head)]
      rfl
  | cons node rest ih =>
      obtain ⟨turns, rfl⟩ :=
        Nat.exists_eq_succ_of_ne_zero (Nat.ne_of_gt (Nat.zero_lt_of_lt enough))
      have inside : node ∈ members := parts ▸ List.mem_append_right _ List.mem_cons_self
      have notHead : node ≠ head := fun same => denotes.not_mem (same ▸ inside)
      rw [List.headD_cons, listForEachEntryFrom, member.node_listEntry, if_neg notHead,
        List.map_cons, List.foldlM_cons]
      cases outcome : body state (member.listEntry node) with
      | error fault => rfl
      | ok later =>
          have there : Denotes valid (links later) head members :=
            denotes.congr (keeps state _ later outcome)
          have next : (links later node).next = rest.headD head := Denotes.next_eq (parts ▸ there)
          have onward : members = (before ++ [node]) ++ rest := by
            rw [parts, List.append_assoc, List.singleton_append]
          simp only [bind, Except.bind, there.load_eq (List.mem_cons_of_mem _ inside), next]
          exact ih onward (Nat.lt_of_succ_lt_succ enough) there

/-- **`list_for_each_entry` runs its body on the records of the list, in order**,
when the body keeps the pointers of the list. -/
theorem listForEachEntry_eq {members : List Node} {turns : ℕ} {state : σ}
    (denotes : Denotes valid (links state) head members) (enough : members.length < turns)
    (keeps : ∀ before pos after, body before pos = .ok after →
      ∀ node ∈ head :: members, links after node = links before node) :
    listForEachEntry valid member links head body turns state =
      (members.map member.listEntry).foldlM body state := by
  simp only [listForEachEntry, denotes.load_eq List.mem_cons_self, bind, Except.bind,
    denotes.path.next_eq]
  exact listForEachEntryFrom_eq keeps (List.nil_append members).symm enough denotes

variable {IsHead : Node → Prop} {table : Node → List Node}

/-- Taking a record out of the middle of a list, with its pointers written over
afterwards. -/
theorem Removes.family {before after : σ} {node : Node} {kept rest : List Node}
    (removes : Removes valid member links before after (member.listEntry node))
    (isHead : IsHead head)
    (family : Family valid (links before) IsHead
      (Function.update table head (kept ++ node :: rest))) :
    Family valid (links after) IsHead (Function.update table head (kept ++ rest)) := by
  obtain ⟨unlinked, deleted, same⟩ := removes
  rw [member.node_listEntry] at deleted same
  have denotes := family.denotes head isHead
  rw [Function.update_self] at denotes
  have inside : node ∈ Function.update table head (kept ++ node :: rest) head := by
    rw [Function.update_self]
    exact List.mem_append_right _ List.mem_cons_self
  have later := family.deleteEntry_overwritten isHead inside deleted same
  have notKept : node ∉ kept := fun early =>
    denotes.not_mem_rest (List.mem_append_left _ early)
  rwa [Function.update_idem, Function.update_self, List.erase_append_right _ notKept,
    List.erase_cons_head] at later

/-- What holds after `list_for_each_entry_safe` ran its body on the rest of the
list: some of these records are left in the list, and none when the body
removes them all. -/
structure LeftBehind (valid : Node → Bool) (member : ListMember Entry Node) (links : σ → Heap Node)
    (IsHead : Node → Prop) (table : Node → List Node) (head : Node)
    (body : σ → Entry → Except Fault σ) (kept rest left : List Node) (final : σ) : Prop where
  sublist : left.Sublist rest
  family : Family valid (links final) IsHead (Function.update table head (kept ++ left))
  none : (∀ before pos after, body before pos = .ok after →
    Removes valid member links before after pos) → left = []

/-- From a record of the list on, `list_for_each_entry_safe` runs its body on the
rest of the list. -/
theorem listForEachEntrySafeFrom_eq (isHead : IsHead head)
    (steps : ∀ before pos after, body before pos = .ok after →
      Removes valid member links before after pos ∨ links after = links before)
    {kept rest : List Node} {turns : ℕ} (enough : rest.length < turns) {state : σ}
    (family : Family valid (links state) IsHead (Function.update table head (kept ++ rest))) :
    listForEachEntrySafeFrom valid member links head body turns
          (member.listEntry (rest.headD head))
          (member.listEntry (links state (rest.headD head)).next) state =
        (rest.map member.listEntry).foldlM body state ∧
      ∀ final, (rest.map member.listEntry).foldlM body state = .ok final →
        ∃ left, LeftBehind valid member links IsHead table head body kept rest left final := by
  induction rest generalizing kept turns state with
  | nil =>
      obtain ⟨turns, rfl⟩ := Nat.exists_eq_succ_of_ne_zero (Nat.ne_of_gt enough)
      constructor
      · rw [List.headD_nil, listForEachEntrySafeFrom, if_pos (member.node_listEntry head)]
        rfl
      · intro final finished
        cases finished
        exact ⟨[], List.Sublist.refl _, family, fun _ => rfl⟩
  | cons node rest ih =>
      obtain ⟨turns, rfl⟩ :=
        Nat.exists_eq_succ_of_ne_zero (Nat.ne_of_gt (Nat.zero_lt_of_lt enough))
      have denotes := family.denotes head isHead
      rw [Function.update_self] at denotes
      have notHead : node ≠ head := fun same =>
        denotes.not_mem (same ▸ List.mem_append_right _ List.mem_cons_self)
      rw [List.headD_cons, listForEachEntrySafeFrom, member.node_listEntry, if_neg notHead,
        denotes.next_eq, member.node_listEntry, List.map_cons, List.foldlM_cons]
      cases outcome : body state (member.listEntry node) with
      | error fault => exact ⟨rfl, fun final finished => nomatch finished⟩
      | ok later =>
          -- `q` is a record of the list, or stands for its head
          have behind : ∀ {before : List Node},
              Family valid (links later) IsHead (Function.update table head (before ++ rest)) →
                Heap.load valid (links later) (rest.headD head) =
                  .ok (links later (rest.headD head)) := by
            intro before there
            have laterDenotes := there.denotes head isHead
            rw [Function.update_self] at laterDenotes
            exact laterDenotes.load_headD_eq
          by_cases removes : Removes valid member links state later (member.listEntry node)
          · have there := removes.family isHead family
            obtain ⟨run, ends⟩ := ih (Nat.lt_of_succ_lt_succ enough) there
            simp only [bind, Except.bind, behind there]
            refine ⟨run, fun final finished => ?_⟩
            obtain ⟨left, sublist, after, none⟩ := ends final finished
            exact ⟨left, sublist.cons _, after, none⟩
          · have same := (steps state _ later outcome).resolve_left removes
            have there : Family valid (links later) IsHead
                (Function.update table head ((kept ++ [node]) ++ rest)) := by
              rw [same, List.append_assoc, List.singleton_append]
              exact family
            obtain ⟨run, ends⟩ := ih (Nat.lt_of_succ_lt_succ enough) there
            simp only [bind, Except.bind, behind there]
            refine ⟨run, fun final finished => ?_⟩
            obtain ⟨left, sublist, after, _⟩ := ends final finished
            rw [List.append_assoc, List.singleton_append] at after
            exact ⟨node :: left, sublist.cons_cons _, after,
              fun always => absurd (always state _ later outcome) removes⟩

/-- **`list_for_each_entry_safe` runs its body on the records of the list, in
order**, also when the body removes the record it is run on and writes over its
pointers. What was not removed stays in the list, and the other lists stay what
they were. -/
theorem listForEachEntrySafe_eq {turns : ℕ} {state : σ}
    (family : Family valid (links state) IsHead table) (isHead : IsHead head)
    (enough : (table head).length < turns)
    (steps : ∀ before pos after, body before pos = .ok after →
      Removes valid member links before after pos ∨ links after = links before) :
    listForEachEntrySafe valid member links head body turns state =
        ((table head).map member.listEntry).foldlM body state ∧
      ∀ final, ((table head).map member.listEntry).foldlM body state = .ok final →
        ∃ left, LeftBehind valid member links IsHead table head body [] (table head) left
          final := by
  have denotes := family.denotes head isHead
  have first : (links state head).next ∈ head :: table head := by
    have next := denotes.path.next_mem
    rw [List.mem_append, List.mem_singleton] at next
    exact List.mem_cons.mpr next.symm
  have whole : Family valid (links state) IsHead
      (Function.update table head ([] ++ table head)) := by
    rwa [List.nil_append, Function.update_eq_self]
  simp only [listForEachEntrySafe, denotes.load_eq List.mem_cons_self, member.node_listEntry,
    denotes.load_eq first, bind, Except.bind]
  rw [denotes.path.next_eq]
  exact listForEachEntrySafeFrom_eq isHead steps enough whole

end Rules

/-! ## All operations at once -/

/-- **The operations on pointers are those on sequences.** For any number of lists
that share no node: a node of none of them can be made the head of an empty
list, or be linked at the front or the back of one of them; a member can be taken
out; and the two loops run their bodies on the records of a list in order and
end. The lists that an operation is not about stay what they were, and so do the
pointers outside the list that it is about. -/
theorem list_operations_on_sequences {Node : Type} [DecidableEq Node] {valid : Node → Bool}
    {heap : Heap Node} {IsHead : Node → Prop} {table : Node → List Node}
    (family : Family valid heap IsHead table) :
    (∀ new, valid new → ¬ IsHead new → (∀ other, IsHead other → new ∉ table other) →
      Family valid (heap.initListHead new) (fun node => IsHead node ∨ node = new)
          (Function.update table new []) ∧
        ∀ head, IsHead head →
          (∃ later, Heap.listAddHead valid heap new head = .ok later ∧
            Family valid later IsHead (Function.update table head (new :: table head)) ∧
            ∀ node, node ≠ new → node ∉ head :: table head → later node = heap node) ∧
          ∃ later, Heap.listAddTail valid heap new head = .ok later ∧
            Family valid later IsHead (Function.update table head (table head ++ [new])) ∧
            ∀ node, node ≠ new → node ∉ head :: table head → later node = heap node) ∧
      (∀ head entry, IsHead head → entry ∈ table head →
        ∃ later, Heap.listDeleteEntry valid heap entry = .ok later ∧
          Family valid later IsHead (Function.update table head ((table head).erase entry)) ∧
          ∀ node, node = entry ∨ node ∉ head :: table head → later node = heap node) ∧
      ∀ (Entry σ : Type) (member : ListMember Entry Node) (links : σ → Heap Node)
        (body : σ → Entry → Except Fault σ) (head : Node) (turns : ℕ) (state : σ),
        IsHead head → links state = heap → (table head).length < turns →
        ((∀ before pos after, body before pos = .ok after →
            ∀ node ∈ head :: table head, links after node = links before node) →
          listForEachEntry valid member links head body turns state =
            ((table head).map member.listEntry).foldlM body state) ∧
        ((∀ before pos after, body before pos = .ok after →
            Removes valid member links before after pos ∨ links after = links before) →
          listForEachEntrySafe valid member links head body turns state =
              ((table head).map member.listEntry).foldlM body state ∧
            ∀ final, ((table head).map member.listEntry).foldlM body state = .ok final →
              ∃ left, left.Sublist (table head) ∧
                Family valid (links final) IsHead (Function.update table head left) ∧
                ((∀ before pos after, body before pos = .ok after →
                  Removes valid member links before after pos) → left = [])) := by
  refine ⟨?_, ?_, ?_⟩
  · intro new ok notHead fresh
    exact ⟨family.initListHead ok notHead fresh, fun head isHead =>
      ⟨family.addHead isHead ok notHead fresh, family.addTail isHead ok notHead fresh⟩⟩
  · intro head entry isHead inside
    exact family.deleteEntry isHead inside
  · intro Entry σ member links body head turns state isHead here enough
    subst here
    constructor
    · intro keeps
      exact listForEachEntry_eq (family.denotes head isHead) enough keeps
    · intro steps
      obtain ⟨run, ends⟩ := listForEachEntrySafe_eq family isHead enough steps
      refine ⟨run, fun final finished => ?_⟩
      obtain ⟨left, sublist, after, none⟩ := ends final finished
      exact ⟨left, sublist, after, none⟩

/-- A list with the head `0` and the members `1`, `2` and `3`, and one with the head `5` and
the member `6`. -/
def twoListsHeap : Heap ℕ
  | 0 => ⟨1, 3⟩
  | 1 => ⟨2, 0⟩
  | 2 => ⟨3, 1⟩
  | 3 => ⟨0, 2⟩
  | 5 => ⟨6, 6⟩
  | _ => ⟨5, 5⟩

theorem twoListsHeap_family : Family (fun _ => true) twoListsHeap (fun node => node = 0 ∨ node = 5)
    fun head => if head = 0 then [1, 2, 3] else [6] where
  denotes := by
    rintro head (rfl | rfl)
    · exact ⟨⟨rfl, rfl, rfl, rfl, rfl, rfl, rfl, rfl⟩, by decide, fun _ _ => rfl⟩
    · exact ⟨⟨rfl, rfl, rfl, rfl⟩, by decide, fun _ _ => rfl⟩
  notHead := by
    rintro head node (rfl | rfl) inside isHead
    · rcases isHead with rfl | rfl <;> simp at inside
    · rcases isHead with rfl | rfl <;> simp at inside
  unique := by
    rintro first second node (rfl | rfl) (rfl | rfl) inFirst inSecond
    · rfl
    · simp only [if_true, Nat.reduceEqDiff, if_false, List.mem_singleton] at inFirst inSecond
      simp [inSecond] at inFirst
    · simp only [if_true, Nat.reduceEqDiff, if_false, List.mem_singleton] at inFirst inSecond
      simp [inFirst] at inSecond
    · rfl

/-- The middle member of the first list is taken out, a node is linked at the back of the second,
and a loop takes all members out of the first. -/
theorem list_operations_on_two_lists :
    (∃ later, Heap.listDeleteEntry (fun _ => true) twoListsHeap 2 = .ok later ∧
      Denotes (fun _ => true) later 0 [1, 3] ∧ Denotes (fun _ => true) later 5 [6]) ∧
    (∃ later, Heap.listAddTail (fun _ => true) twoListsHeap 4 5 = .ok later ∧
      Denotes (fun _ => true) later 0 [1, 2, 3] ∧ Denotes (fun _ => true) later 5 [6, 4]) ∧
    ∃ later, listForEachEntrySafe (fun _ => true) (⟨id, id, fun _ => rfl⟩ : ListMember ℕ ℕ) id 0
        (Heap.listDeleteEntry fun _ => true) 4 twoListsHeap = .ok later ∧
      Denotes (fun _ => true) later 0 [] ∧ Denotes (fun _ => true) later 5 [6] := by
  obtain ⟨adds, deletes, loops⟩ := list_operations_on_sequences twoListsHeap_family
  refine ⟨?_, ?_, ?_⟩
  · obtain ⟨later, deleted, family, _⟩ := deletes 0 2 (.inl rfl) (by decide)
    exact ⟨later, deleted, family.denotes 0 (.inl rfl), family.denotes 5 (.inr rfl)⟩
  · have absent : ∀ other, other = 0 ∨ other = 5 → 4 ∉ if other = 0 then [1, 2, 3] else [6] := by
      rintro other (rfl | rfl) <;> decide
    obtain ⟨later, added, family, _⟩ := ((adds 4 rfl (by decide) absent).2 5 (.inr rfl)).2
    exact ⟨later, added, family.denotes 0 (.inl rfl), family.denotes 5 (.inr rfl)⟩
  · obtain ⟨later, ends⟩ : ∃ later, [1, 2, 3].foldlM (Heap.listDeleteEntry fun _ => true)
        twoListsHeap = .ok later := ⟨_, rfl⟩
    have removes : ∀ (before : Heap ℕ) pos after,
        Heap.listDeleteEntry (fun _ => true) before pos = .ok after →
          Removes (fun _ => true) (⟨id, id, fun _ => rfl⟩ : ListMember ℕ ℕ) id before after pos :=
      fun before pos after deleted => ⟨after, deleted, fun _ _ => rfl⟩
    obtain ⟨run, left⟩ := (loops ℕ (Heap ℕ) ⟨id, id, fun _ => rfl⟩ id
      (Heap.listDeleteEntry fun _ => true) 0 4 twoListsHeap (.inl rfl) rfl (by decide)).2
        fun before pos after deleted => .inl (removes before pos after deleted)
    obtain ⟨rest, _, family, none⟩ := left later ends
    rw [none removes] at family
    exact ⟨later, run.trans ends, family.denotes 0 (.inl rfl), family.denotes 5 (.inr rfl)⟩

end TcpStack
