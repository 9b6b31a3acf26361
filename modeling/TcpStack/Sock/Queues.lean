import TcpStack.Sock.TableOps

/-!
# Queues and ports

What the operations on the queues of a listener and on the bind table do to
lists that are in order: a sock is moved to the back of a queue
(`Stack.Shape.moveTail`) or taken out of one (`Stack.Shape.dequeue`), and linked
under its port or unlinked again (`Stack.Shape.tcpBindHash_linked`,
`Stack.Shape.tcpBindUnhash_linked`). Nodes that are in no list keep their
pointers.
-/

set_option autoImplicit false

namespace TcpStack

open Lib

namespace Sequences

variable {socks : Sequences} {tsk other : SockPtr} {head place : Node}

/-- Taking a sock out of a list does not move the others. -/
theorem mem_erase_of_ne (different : other ≠ tsk) :
    other ∈ Function.update socks head ((socks head).erase tsk) place ↔ other ∈ socks place := by
  by_cases here : place = head
  · rw [here, Function.update_self, List.mem_erase_of_ne different]
  · rw [Function.update_of_ne here]

/-- Adding a sock to the front of a list does not move the others. -/
theorem mem_cons_of_ne (different : other ≠ tsk) :
    other ∈ Function.update socks head (tsk :: socks head) place ↔ other ∈ socks place := by
  by_cases here : place = head
  · rw [here, Function.update_self, List.mem_cons, or_iff_right different]
  · rw [Function.update_of_ne here]

/-- Adding a sock to the back of a list does not move the others. -/
theorem mem_append_of_ne (different : other ≠ tsk) :
    other ∈ Function.update socks head (socks head ++ [tsk]) place ↔ other ∈ socks place := by
  by_cases here : place = head
  · rw [here, Function.update_self, List.mem_append, List.mem_singleton, or_iff_left different]
  · rw [Function.update_of_ne here]

/-- Lists that link socks by other nodes than the one that changes. -/
theorem update_of_slot_ne {sequence : List SockPtr} (different : place.slot ≠ head.slot) :
    Function.update socks head sequence place = socks place := by
  refine Function.update_of_ne ?_ _ _
  rintro rfl
  exact different rfl

theorem mem_of_queued (queue : head.slot = Node.list) (inside : tsk ∈ socks head) :
    Node.list tsk ∈ socks.nodes head := by
  rw [← congrFun queue tsk]
  exact Sequences.mem_nodes.mpr inside

end Sequences

namespace Stack.Shape

variable {s : Stack} {socks : Sequences} {tsk : SockPtr} {head : Node}

/-- A sock is linked by its `bind_hash_list` in the bind table only. -/
theorem mem_bind (isHead : s.IsHead head) (inside : Node.bindHashList tsk ∈ socks.nodes head) :
    ∃ bucket, head = .bindTable bucket ∧ tsk ∈ socks head := by
  obtain ⟨other, member, equal⟩ := List.mem_map.mp inside
  cases head with
  | bindTable bucket =>
      cases equal
      exact ⟨bucket, rfl, member⟩
  | null | hashList | bindHashList | list => exact isHead.elim
  | establishedTable | listenTable | listenQueue | acceptQueue => cases equal

/-- A sock is linked by its `list` in queues only. -/
theorem mem_queue (isHead : s.IsHead head) (inside : Node.list tsk ∈ socks.nodes head) :
    (∃ parent, head = .listenQueue parent ∨ head = .acceptQueue parent) ∧ tsk ∈ socks head := by
  obtain ⟨other, member, equal⟩ := List.mem_map.mp inside
  cases head with
  | listenQueue parent =>
      cases equal
      exact ⟨⟨parent, .inl rfl⟩, member⟩
  | acceptQueue parent =>
      cases equal
      exact ⟨⟨parent, .inr rfl⟩, member⟩
  | null | hashList | bindHashList | list => exact isHead.elim
  | establishedTable | listenTable | bindTable => cases equal

/-- A sock taken out of a list is in no other list that would link it by the same
node. -/
theorem gone (shape : s.Shape socks) (isHead : s.IsHead head) (inside : tsk ∈ socks head)
    {place : Node} (isPlace : s.IsHead place) (slot : place.slot tsk = head.slot tsk) :
    tsk ∉ Function.update socks head ((socks head).erase tsk) place := by
  intro member
  by_cases here : place = head
  · subst here
    rw [Function.update_self] at member
    exact ((shape.nodup isPlace).mem_erase_iff.mp member).1 rfl
  · rw [Function.update_of_ne here] at member
    exact here (shape.unique isPlace isHead slot member inside)

/-- The node for the bind table of a sock that is not bound is in no list. -/
theorem outside_of_not_bound (unbound : ∀ bucket, tsk ∉ socks (.bindTable bucket)) :
    s.Outside socks (.bindHashList tsk) := by
  intro head isHead inside
  rcases List.mem_cons.mp inside with rfl | inside
  · exact isHead
  · obtain ⟨bucket, rfl, member⟩ := mem_bind isHead inside
    exact unbound bucket member

/-- A queue node that was in no list before a change and is in none after it is
still an empty list. -/
theorem alone_of_kept (shape : s.Shape socks) {links : Heap Node} {moved : Sequences}
    {other : SockPtr} (member : other ∈ s.allocated)
    (stays : ∀ place, s.IsHead place → other ∈ socks place → other ∈ moved place)
    (lonely : ∀ place, s.IsHead place → Node.list other ∉ moved.nodes place)
    (kept : s.Outside socks (.list other) → links (.list other) = s.links (.list other)) :
    (links (.list other)).next = .list other := by
  have before : ∀ place, s.IsHead place → Node.list other ∉ socks.nodes place := by
    intro place isPlace inside
    obtain ⟨⟨parent, rfl | rfl⟩, here⟩ := mem_queue isPlace inside
    · exact lonely _ isPlace (List.mem_map_of_mem (stays _ isPlace here))
    · exact lonely _ isPlace (List.mem_map_of_mem (stays _ isPlace here))
  rw [kept]
  · exact shape.alone other member before
  · intro place isPlace inside
    rcases List.mem_cons.mp inside with rfl | inside
    · exact isPlace
    · exact before place isPlace inside

/-! ## The bind table -/

/-- Linking a sock under its port. -/
theorem tcpBindHash_linked (shape : s.Shape socks) (member : tsk ∈ s.allocated)
    (unbound : ∀ bucket, tsk ∉ socks (.bindTable bucket)) :
    ∃ links, tcpBindHash s tsk = .ok (tcpSockIncRefCnt { s with links := links } tsk) ∧
      ({ s with links := links } : Stack).Shape
        (Function.update socks (.bindTable (portBucket (s.sock tsk).skSport))
          (tsk :: socks (.bindTable (portBucket (s.sock tsk).skSport)))) ∧
      ∀ node, s.Outside socks node → node ≠ .bindHashList tsk → links node = s.links node := by
  have isHead := s.isHead_bind (portBucket (s.sock tsk).skSport)
  obtain ⟨links, added, later, same⟩ := shape.addHead isHead member fun other isOther inside =>
    outside_of_not_bound unbound other isOther (List.mem_cons_of_mem _ inside)
  refine ⟨links, ?_, later, fun node outside different => same node different (outside _ isHead)⟩
  have added' : s.links.listAddHead Node.valid (.bindHashList tsk)
      (.bindTable (tcpHashFunction 0 0 (s.sock tsk).skSport 0)) = .ok links := added
  simp only [tcpBindHash, added', Stack.relink, bind, Except.bind, pure, Except.pure]

/-- Unlinking a sock from its port. -/
theorem tcpBindUnhash_linked (shape : s.Shape socks) {bucket : U8}
    (inside : tsk ∈ socks (.bindTable bucket)) :
    ∃ links, tcpBindUnhash s tsk = .ok (freeTcpSock { s with links := links } tsk) ∧
      ({ s with links := links } : Stack).Shape
        (Function.update socks (.bindTable bucket) ((socks (.bindTable bucket)).erase tsk)) ∧
      ∀ node, s.Outside socks node → links node = s.links node := by
  have isHead := s.isHead_bind bucket
  obtain ⟨links, deleted, later, same⟩ := shape.deleteEntry isHead inside (by simp [Node.slot])
  have linked : s.links.listEmpty (.bindHashList tsk) = false := shape.not_listEmpty isHead inside
  refine ⟨links, ?_, later, fun node outside => same node ?_ (outside _ isHead)⟩
  · have deleted' : s.links.listDeleteEntry Node.valid (.bindHashList tsk) = .ok links := deleted
    simp [tcpBindUnhash, linked, deleted', Stack.relink, bind, Except.bind, pure, Except.pure]
  · rintro rfl
    exact outside _ isHead (List.mem_cons_of_mem _ (Sequences.mem_nodes.mpr inside))

/-! ## Queues -/

section Leave

variable (shape : s.Shape socks) (isHead : s.IsHead head) (queue : head.slot = Node.list)
  (inside : tsk ∈ socks head)
include shape isHead queue inside

/-- Unlinking a sock from its queue. Its node is in no list then, and has stale
pointers. -/
theorem leave :
    ∃ removed, s.links.listDeleteEntry Node.valid (.list tsk) = .ok removed ∧
      Family Node.valid removed s.IsHead
        (Sequences.nodes (Function.update socks head ((socks head).erase tsk))) ∧
      (∀ other, s.IsHead other → Node.list tsk ∉
        Sequences.nodes (Function.update socks head ((socks head).erase tsk)) other) ∧
      ∀ node, node ∉ head :: socks.nodes head → removed node = s.links node := by
  have linked := Sequences.mem_of_queued queue inside
  obtain ⟨removed, deleted, without, same⟩ := shape.family.deleteEntry isHead linked
  have rest : Function.update socks.nodes head ((socks.nodes head).erase (.list tsk)) =
      Sequences.nodes (Function.update socks head ((socks head).erase tsk)) := by
    rw [Sequences.nodes_update, List.map_erase head.slot_injective, congrFun queue tsk]
    rfl
  rw [rest] at without
  refine ⟨removed, deleted, without, ?_, fun node outside => same node (.inr outside)⟩
  intro other isOther member
  obtain ⟨⟨parent, rfl | rfl⟩, here⟩ := mem_queue isOther member
  · exact shape.gone isHead inside isOther (by rw [queue]; rfl) here
  · exact shape.gone isHead inside isOther (by rw [queue]; rfl) here

/-- Taking a sock out of a queue, with its node made an empty list. -/
theorem dequeue :
    ∃ removed, s.links.listDeleteEntry Node.valid (.list tsk) = .ok removed ∧
      ({ s with links := removed.initListHead (.list tsk) } : Stack).Shape
        (Function.update socks head ((socks head).erase tsk)) ∧
      ∀ node, s.Outside socks node → removed.initListHead (.list tsk) node = s.links node := by
  obtain ⟨removed, deleted, without, gone, same⟩ := shape.leave isHead queue inside
  have kept : ∀ node, s.Outside socks node →
      removed.initListHead (.list tsk) node = s.links node := by
    intro node outside
    have different : node ≠ .list tsk := by
      rintro rfl
      exact outside head isHead
        (List.mem_cons_of_mem _ (Sequences.mem_of_queued queue inside))
    rw [Heap.initListHead, Function.update_of_ne different, same node (outside head isHead)]
  refine ⟨removed, deleted, ?_, kept⟩
  exact
    { family := by
        refine without.congr fun other isOther node member => Function.update_of_ne ?_ _ _
        rintro rfl
        rcases List.mem_cons.mp member with rfl | member
        · exact isOther
        · exact gone other isOther member
      allocated := fun other node isOther member =>
        shape.allocated other node isOther (Sequences.mem_of_erase member)
      notNull := shape.notNull
      once := shape.once
      alone := by
        intro other member lonely
        by_cases same : other = tsk
        · simp [same, Heap.initListHead]
        · exact shape.alone_of_kept member
            (fun place _ here => (Sequences.mem_erase_of_ne same).mpr here) lonely (kept _) }

/-- Moving a sock from a queue to the back of a queue. -/
theorem moveTail {target : Node} (isTarget : s.IsHead target)
    (toQueue : target.slot = Node.list) :
    ∃ removed links, s.links.listDeleteEntry Node.valid (.list tsk) = .ok removed ∧
      removed.listAddTail Node.valid (.list tsk) target = .ok links ∧
      ({ s with links := links } : Stack).Shape
        (Function.update (Function.update socks head ((socks head).erase tsk)) target
          (Function.update socks head ((socks head).erase tsk) target ++ [tsk])) ∧
      ∀ node, s.Outside socks node → links node = s.links node := by
  have linked := Sequences.mem_of_queued queue inside
  obtain ⟨removed, deleted, without, gone, same⟩ := shape.leave isHead queue inside
  have ok : Node.valid (.list tsk) :=
    Node.valid_slot (.listenQueue 0) (shape.ne_null (shape.allocated head tsk isHead inside))
  obtain ⟨links, added, family, later⟩ :=
    without.addTail isTarget ok (s.not_isHead_slot (.listenQueue 0) tsk) gone
  have kept : ∀ node, node ≠ .list tsk → s.Outside socks node → links node = s.links node := by
    intro node different outside
    rw [later node different, same node (outside head isHead)]
    intro member
    rcases List.mem_cons.mp member with rfl | member
    · exact outside _ isTarget List.mem_cons_self
    · obtain ⟨other, here, rfl⟩ := List.mem_map.mp member
      have moved : other ≠ tsk := by
        rintro rfl
        exact different (congrFun toQueue other)
      exact outside target isTarget
        (List.mem_cons_of_mem _ (List.mem_map_of_mem ((Sequences.mem_erase_of_ne moved).mp here)))
  refine ⟨removed, links, deleted, added, ?_, fun node outside => kept node ?_ outside⟩
  · exact
      { family := by
          rw [Sequences.nodes_update, List.map_append, List.map_singleton, congrFun toQueue tsk]
          exact family
        allocated := by
          intro place other isPlace member
          by_cases same : other = tsk
          · exact same ▸ shape.allocated head tsk isHead inside
          · exact shape.allocated place other isPlace
              ((Sequences.mem_erase_of_ne same).mp ((Sequences.mem_append_of_ne same).mp member))
        notNull := shape.notNull
        once := shape.once
        alone := by
          intro other member lonely
          have different : other ≠ tsk := by
            rintro rfl
            refine lonely target isTarget ?_
            rw [← congrFun toQueue other]
            exact Sequences.mem_nodes.mpr (by simp)
          refine shape.alone_of_kept member (fun place _ here => ?_) lonely fun outside => ?_
          · exact (Sequences.mem_append_of_ne different).mpr
              ((Sequences.mem_erase_of_ne different).mpr here)
          · exact kept _ (by simpa using different) outside }
  · rintro rfl
    exact outside head isHead (List.mem_cons_of_mem _ linked)

end Leave

end Stack.Shape

end TcpStack
