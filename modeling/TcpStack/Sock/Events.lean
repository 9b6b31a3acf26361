import TcpStack.Sock.Arrivals

/-!
# Events and runs

What happens to the whole stack: socket calls and packets, in any order. An event
is orderly when it links no sock that was released, and none by a node that is
linked already (`Event.Orderly`); closes and packets are free. A run is a sequence
of events that return (`Run`). In a stack whose lists are in order, where a sock is
can be read off the sequences of the lists (`Stack.Shape.linked_iff`).
-/

set_option autoImplicit false

namespace TcpStack

open Lib

/-! ## Runs -/

/-- What can happen to the stack. A call that sleeps is two events. -/
inductive Event where
  | alloc (tsk : SockPtr)
  | bind (tsk : SockPtr) (skaddr : SockAddr)
  | listen (tsk : SockPtr) (backlog : ℤ)
  | connect (tsk : SockPtr) (skaddr : SockAddr) (cursorIp : U32)
  | connectWoken (tsk : SockPtr)
  | accept (tsk : SockPtr)
  | acceptWoken (tsk : SockPtr)
  | close (tsk : SockPtr)
  | arrive (packet : Memory U8) (ip tcp : ℕ) (tmp : SockPtr)

def Event.run (s : Stack) : Event → Outcome Stack
  | .alloc tsk => .ok (allocTcpSock s tsk)
  | .bind tsk skaddr => tcpSockBind s tsk skaddr >>= fun result => .ok result.2
  | .listen tsk backlog => tcpSockListen s tsk backlog >>= fun result => .ok result.2
  | .connect tsk skaddr cursorIp =>
      tcpSockConnect s tsk skaddr cursorIp >>= fun result => .ok result.2
  | .connectWoken tsk => .ok (tcpSockConnectWoken s tsk).2
  | .accept tsk => tcpSockAccept s tsk >>= fun result => .ok result.2
  | .acceptWoken tsk => tcpSockAcceptWoken s tsk >>= fun result => .ok result.2
  | .close tsk => tcpSockClose s tsk
  | .arrive packet ip tcp tmp => handleTcpPacket s packet ip tcp tmp

/-- `malloc` returns memory that is not in use, and calls are made on socks that
were allocated. -/
def Event.Possible (s : Stack) : Event → Prop
  | .alloc tsk | .arrive _ _ _ tsk => tsk ≠ 0 ∧ tsk ∉ s.allocated
  | .bind tsk _ | .listen tsk _ | .connect tsk _ _ | .connectWoken tsk | .accept tsk
  | .acceptWoken tsk | .close tsk => tsk ∈ s.allocated

namespace Stack

/-- The sock is in a queue of some sock. -/
def Queued (s : Stack) (tsk : SockPtr) : Prop :=
  ∃ parent ∈ s.allocated,
    tsk ∈ s.entries (.listenQueue parent) ∨ tsk ∈ s.entries (.acceptQueue parent)

/-- The sock is in a table or in a queue. -/
def Linked (s : Stack) (tsk : SockPtr) : Prop :=
  s.InEstablished tsk ∨ s.InListen tsk ∨ s.InBind tsk ∨ s.Queued tsk

end Stack

/-- The event links no released sock, and no sock twice by the same node. -/
def Event.Orderly (s : Stack) : Event → Prop
  | .bind tsk _ => ¬ s.Released tsk ∧ ¬ s.InBind tsk
  | .listen tsk _ => ¬ s.Released tsk ∧ ¬ s.Hashed tsk
  | .connect tsk _ _ => ¬ s.Released tsk ∧ ¬ s.InBind tsk ∧ ¬ s.Hashed tsk
  | .alloc _ | .connectWoken _ | .accept _ | .acceptWoken _ | .close _ | .arrive _ _ _ _ => True

/-- The event closes the sock: a call does, or a packet that is handed to it. -/
def Event.Closes (s : Stack) (tsk : SockPtr) : Event → Prop
  | .close other => other = tsk
  | .arrive packet ip tcp _ => checksumMatches packet ip tcp = true ∧
      tcpSockLookup s (tcpCbInit packet ip tcp) = .ok tsk ∧
      (tcpCbInit packet ip tcp).Closes (s.sock tsk)
  | .alloc _ | .bind _ _ | .listen _ _ | .connect _ _ _ | .connectWoken _ | .accept _
  | .acceptWoken _ => False

/-- One event that returns. -/
def Step (allowed : Stack → Event → Prop) (s later : Stack) : Prop :=
  ∃ event : Event, event.Possible s ∧ allowed s event ∧ event.run s = .ok later

/-- A run of events that all return. -/
abbrev Run (allowed : Stack → Event → Prop) : Stack → Stack → Prop :=
  Relation.ReflTransGen (Step allowed)

/-! ## Places -/

section Places

variable {s later : Stack} {socks moved : Sequences} {tsk : SockPtr}

theorem Stack.Shape.inBind_iff (shape : s.Shape socks) :
    s.InBind tsk ↔ ∃ bucket, tsk ∈ socks (.bindTable bucket) := by
  simp only [Stack.InBind, shape.bind_entries]

theorem Stack.Shape.queued_iff (shape : s.Shape socks) :
    s.Queued tsk ↔ ∃ head, s.IsHead head ∧ head.slot = Node.list ∧ tsk ∈ socks head := by
  constructor
  · rintro ⟨parent, member, inside | inside⟩
    · have isHead : s.IsHead (.listenQueue parent) := member
      exact ⟨_, isHead, rfl, shape.entries_eq isHead ▸ inside⟩
    · have isHead : s.IsHead (.acceptQueue parent) := member
      exact ⟨_, isHead, rfl, shape.entries_eq isHead ▸ inside⟩
  · rintro ⟨head, isHead, slot, inside⟩
    cases head with
    | listenQueue parent => exact ⟨parent, isHead, .inl ((shape.entries_eq isHead).symm ▸ inside)⟩
    | acceptQueue parent => exact ⟨parent, isHead, .inr ((shape.entries_eq isHead).symm ▸ inside)⟩
    | null | hashList | bindHashList | list => exact isHead.elim
    | establishedTable | listenTable | bindTable => cases congrFun slot 0

/-- A sock is linked when it is in some list. -/
theorem Stack.Shape.linked_iff (shape : s.Shape socks) :
    s.Linked tsk ↔ ∃ head, s.IsHead head ∧ tsk ∈ socks head := by
  have split : s.Linked tsk ↔ s.Hashed tsk ∨ s.InBind tsk ∨ s.Queued tsk := by
    rw [Stack.Linked, Stack.Hashed, or_assoc]
  rw [split, shape.hashed_iff, shape.inBind_iff, shape.queued_iff]
  constructor
  · rintro (⟨head, isHead, _, inside⟩ | ⟨bucket, inside⟩ | ⟨head, isHead, _, inside⟩)
    · exact ⟨head, isHead, inside⟩
    · exact ⟨_, s.isHead_bind bucket, inside⟩
    · exact ⟨head, isHead, inside⟩
  · rintro ⟨head, isHead, inside⟩
    cases head with
    | establishedTable | listenTable => exact .inl ⟨_, isHead, rfl, inside⟩
    | bindTable bucket => exact .inr (.inl ⟨bucket, inside⟩)
    | listenQueue | acceptQueue => exact .inr (.inr ⟨_, isHead, rfl, inside⟩)
    | null | hashList | bindHashList | list => exact isHead.elim

theorem Stack.Aside.hashed (aside : s.Aside socks later moved tsk) (shape : s.Shape socks)
    (laterShape : later.Shape moved) : later.Hashed tsk ↔ s.Hashed tsk := by
  have table : ∀ {any : Stack} {head : Node}, head.slot = Node.hashList → s.IsHead head →
      any.IsHead head := by
    intro any head slot isHead
    cases head with
    | establishedTable | listenTable => trivial
    | bindTable | listenQueue | acceptQueue => cases congrFun slot 0
    | null | hashList | bindHashList | list => exact isHead.elim
  rw [shape.hashed_iff, laterShape.hashed_iff]
  constructor
  · rintro ⟨head, isHead, slot, inside⟩
    obtain ⟨before, inside⟩ := (aside.places head isHead).mp inside
    exact ⟨head, before, slot, inside⟩
  · rintro ⟨head, isHead, slot, inside⟩
    exact ⟨head, table slot isHead, slot,
      (aside.places head (table slot isHead)).mpr ⟨isHead, inside⟩⟩

theorem Stack.Aside.inBind (aside : s.Aside socks later moved tsk) (shape : s.Shape socks)
    (laterShape : later.Shape moved) : later.InBind tsk ↔ s.InBind tsk := by
  rw [shape.inBind_iff, laterShape.inBind_iff]
  exact exists_congr aside.bind_iff

end Places

end TcpStack
