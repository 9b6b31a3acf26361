import TcpStack.Sock.Endpoint
import TcpStack.Sock.PassiveOpen

/-!
# What one event does

A sock that the application made has no parent, and as long as no sock has one, a
SYN that reaches a listener stops the program. So an event that returns does one
of a few things to one sock: it makes, names, opens, connects or closes the sock,
and leaves every other sock as it is (`Effect`). Whatever an orderly event does is
such an effect (`Event.effect`).
-/

set_option autoImplicit false

namespace TcpStack

open Lib

/-! ## Socks that stay as they are -/

/-- The fields of a sock by which segments are routed, answered and numbered. -/
def TcpSock.face (sk : TcpSock) : TcpState × (U32 × U32 × U16 × U16) × U32 :=
  (sk.state, sk.tuple, sk.sndNxt)

theorem TcpSock.face_eq_iff {sk other : TcpSock} : sk.face = other.face ↔
    sk.state = other.state ∧ sk.tuple = other.tuple ∧ sk.sndNxt = other.sndNxt := by
  simp [face]

/-- The sock keeps its face and its places, and is in no queue unless it was in
one. -/
structure Stack.Stays (s later : Stack) (tsk : SockPtr) : Prop where
  face : (later.sock tsk).face = (s.sock tsk).face
  released : later.Released tsk ↔ s.Released tsk
  places : s.SamePlaces later tsk
  queued : later.Queued tsk → s.Queued tsk

/-- Pointers and allocations say where the socks are. -/
theorem Stack.entries_congr {s later : Stack} (links : later.links = s.links)
    (allocated : later.allocated = s.allocated) : later.entries = s.entries := by
  funext head
  rw [Stack.entries, Stack.entries, links, Stack.fuel, Stack.fuel, allocated]

namespace Stack.SamePlaces

variable {s middle later : Stack} {tsk : SockPtr}

theorem trans (first : s.SamePlaces middle tsk) (second : middle.SamePlaces later tsk) :
    s.SamePlaces later tsk where
  established := fun bucket => (second.established bucket).trans (first.established bucket)
  listen := fun bucket => (second.listen bucket).trans (first.listen bucket)
  bind := fun bucket => (second.bind bucket).trans (first.bind bucket)

theorem of_links (links : later.links = s.links) (allocated : later.allocated = s.allocated) :
    s.SamePlaces later tsk := by
  have entries := Stack.entries_congr links allocated
  refine ⟨fun bucket => ?_, fun bucket => ?_, fun bucket => ?_⟩ <;> rw [entries]

theorem inEstablished (places : s.SamePlaces later tsk) :
    later.InEstablished tsk ↔ s.InEstablished tsk := exists_congr places.established

theorem inListen (places : s.SamePlaces later tsk) : later.InListen tsk ↔ s.InListen tsk :=
  exists_congr places.listen

theorem inBind (places : s.SamePlaces later tsk) : later.InBind tsk ↔ s.InBind tsk :=
  exists_congr places.bind

end Stack.SamePlaces

namespace Stack.Stays

variable {s middle later : Stack} {tsk : SockPtr}

theorem refl (s : Stack) (tsk : SockPtr) : s.Stays s tsk := ⟨rfl, Iff.rfl, .refl s tsk, id⟩

theorem trans (first : s.Stays middle tsk) (second : middle.Stays later tsk) :
    s.Stays later tsk where
  face := second.face.trans first.face
  released := second.released.trans first.released
  places := first.places.trans second.places
  queued := fun queued => first.queued (second.queued queued)

theorem state (stays : s.Stays later tsk) : (later.sock tsk).state = (s.sock tsk).state :=
  (TcpSock.face_eq_iff.mp stays.face).1

theorem tuple (stays : s.Stays later tsk) : (later.sock tsk).tuple = (s.sock tsk).tuple :=
  (TcpSock.face_eq_iff.mp stays.face).2.1

theorem sndNxt (stays : s.Stays later tsk) : (later.sock tsk).sndNxt = (s.sock tsk).sndNxt :=
  (TcpSock.face_eq_iff.mp stays.face).2.2

/-- A sock that is left aside, and whose face is kept. -/
theorem of_aside {socks moved : Sequences} (shape : s.Shape socks) (laterShape : later.Shape moved)
    (aside : s.Aside socks later moved tsk)
    (face : (later.sock tsk).face = (s.sock tsk).face) : s.Stays later tsk where
  face := face
  released := aside.released
  places := aside.samePlaces shape laterShape
  queued := by
    rw [laterShape.queued_iff, shape.queued_iff]
    rintro ⟨head, isHead, slot, inside⟩
    obtain ⟨before, inside⟩ := (aside.places head isHead).mp inside
    exact ⟨head, before, slot, inside⟩

/-- A sock whose record is left alone. -/
theorem of_others {socks moved : Sequences} (shape : s.Shape socks)
    (laterShape : later.Shape moved) (aside : s.Aside socks later moved tsk)
    (same : later.sock tsk = s.sock tsk) : s.Stays later tsk :=
  of_aside shape laterShape aside (congrArg TcpSock.face same)

theorem of_links (links : later.links = s.links) (allocated : later.allocated = s.allocated)
    (freed : later.Released tsk ↔ s.Released tsk)
    (face : (later.sock tsk).face = (s.sock tsk).face) : s.Stays later tsk where
  face := face
  released := freed
  places := .of_links links allocated
  queued := by
    rw [Stack.Queued, Stack.Queued, Stack.entries_congr links allocated, allocated]
    exact id

/-- A change of a record that keeps the face. -/
theorem modify (s : Stack) (changed : SockPtr) {change : TcpSock → TcpSock}
    (face : ∀ sk, (change sk).face = sk.face) (tsk : SockPtr) :
    s.Stays (s.modify changed change) tsk :=
  of_links rfl rfl Iff.rfl (s.modify_field TcpSock.face changed face tsk)

end Stack.Stays

/-- An answer to a segment that is unexpected changes no sock. -/
theorem tcpSendReset_stays (s : Stack) (cb : TcpCb) (tsk : SockPtr) :
    s.Stays (tcpSendReset s cb) tsk := .of_links rfl rfl Iff.rfl rfl

/-! ## Effects -/

/-- Every sock stays as it is, and nothing was emitted. -/
structure Stack.Quiet (s later : Stack) : Prop where
  stays : ∀ tsk, s.Stays later tsk
  allocated : later.allocated = s.allocated
  out : later.out = s.out

/-- Only this sock was altered, and these segments were emitted. -/
structure Stack.Alters (s : Stack) (tsk : SockPtr) (emitted : List Segment) (later : Stack) :
    Prop where
  others : ∀ other, other ≠ tsk → s.Stays later other
  allocated : later.allocated = s.allocated
  out : later.out = s.out ++ emitted
  released : s.Released tsk → later.Released tsk
  queued : later.Queued tsk → s.Queued tsk

/-- What a sock that is closed emits. -/
def TcpSock.closingSegments (sk : TcpSock) : List Segment :=
  match sk.state with
  | .established => [sk.controlSegment tcpFin]
  | .closeWait => [sk.controlSegment tcpAck, sk.controlSegment tcpFin]
  | _ => []

/-- The FINs that a sock that is closed emits. -/
def TcpSock.closingFins (sk : TcpSock) : U32 :=
  match sk.state with
  | .established | .closeWait => 1
  | _ => 0

/-- The sock was closed. A listener is released and leaves its tables, and any other
sock keeps its places. -/
structure Stack.Closed (s : Stack) (tsk : SockPtr) (before : List Segment) (later : Stack) :
    Prop where
  alters : s.Alters tsk (before ++ (s.sock tsk).closingSegments) later
  state : (later.sock tsk).state = (s.sock tsk).state.afterClose
  tuple : (later.sock tsk).tuple = (s.sock tsk).tuple
  sndNxt : (later.sock tsk).sndNxt = (s.sock tsk).sndNxt + (s.sock tsk).closingFins
  listening : (s.sock tsk).state = .listen →
    later.Released tsk ∧ ¬ later.InListen tsk ∧ ¬ later.InEstablished tsk
  places : (s.sock tsk).state ≠ .listen → s.SamePlaces later tsk

/-- The sock was bound to a port. -/
structure Stack.Named (s : Stack) (tsk : SockPtr) (later : Stack) : Prop where
  alters : s.Alters tsk [] later
  state : (later.sock tsk).state = (s.sock tsk).state
  sndNxt : (later.sock tsk).sndNxt = (s.sock tsk).sndNxt
  inBind : later.InBind tsk
  inListen : later.InListen tsk ↔ s.InListen tsk
  inEstablished : later.InEstablished tsk ↔ s.InEstablished tsk

/-- The sock has come to listen. -/
structure Stack.StartsListening (s : Stack) (tsk : SockPtr) (later : Stack) : Prop where
  alters : s.Alters tsk [] later
  state : (later.sock tsk).state = .listen
  tuple : (later.sock tsk).tuple = (s.sock tsk).tuple
  sndNxt : (later.sock tsk).sndNxt = (s.sock tsk).sndNxt
  placed : tsk ∈ later.entries (.listenTable (portBucket (s.sock tsk).skSport))
  notInEstablished : ¬ later.InEstablished tsk
  inBind : later.InBind tsk ↔ s.InBind tsk

theorem Stack.StartsListening.inListen {s later : Stack} {tsk : SockPtr}
    (listens : s.StartsListening tsk later) : later.InListen tsk := ⟨_, listens.placed⟩

/-- The sock has sent its SYN. If it is in the established table then it is in the
bucket of its 4-tuple, which nobody there shares. -/
structure Stack.Connects (s : Stack) (tsk : SockPtr) (skaddr : SockAddr) (cursorIp : U32)
    (later : Stack) : Prop where
  alters : ∃ sk : TcpSock, sk.tuple = (later.sock tsk).tuple ∧
    sk.sndNxt = (s.sock tsk).sndNxt ∧ s.Alters tsk [sk.controlSegment tcpSyn] later
  state : (later.sock tsk).state = .synSent
  tuple : (later.sock tsk).tuple =
    (cursorIp, htonl skaddr.ip, htons portMin, htons skaddr.port)
  sndNxt : (later.sock tsk).sndNxt = (s.sock tsk).sndNxt + 1
  inBind : later.InBind tsk
  notInListen : ¬ later.InListen tsk
  placed : ∀ bucket, tsk ∈ later.entries (.establishedTable bucket) →
    (later.sock tsk).bucket = bucket ∧ ∀ other ∈ s.entries (.establishedTable bucket),
      (s.sock other).tuple ≠ (later.sock tsk).tuple
  hashed : (∀ bucket, ∀ other ∈ s.entries (.establishedTable bucket),
    (s.sock other).tuple ≠ (later.sock tsk).tuple) → later.InEstablished tsk

/-- The sock got the segment it waited for. -/
structure Stack.Establishes (s : Stack) (tsk : SockPtr) (later : Stack) : Prop where
  alters : s.Alters tsk [(s.sock tsk).controlSegment tcpAck] later
  state : (later.sock tsk).state = .established
  tuple : (later.sock tsk).tuple = (s.sock tsk).tuple
  sndNxt : (later.sock tsk).sndNxt = (s.sock tsk).sndNxt
  places : s.SamePlaces later tsk

/-- A sock that was not there before, as `alloc_tcp_sock` leaves it. -/
structure Stack.Makes (s : Stack) (tsk : SockPtr) (later : Stack) : Prop where
  others : ∀ other, other ≠ tsk → s.Stays later other
  absent : tsk ∉ s.allocated
  allocated : later.allocated = tsk :: s.allocated
  out : later.out = s.out
  sock : later.sock tsk = zeroedSock
  unlinked : ¬ later.Linked tsk
  unreleased : ¬ later.Released tsk

/-- What a segment does to the sock it is handed to. -/
inductive SegmentEffect (s : Stack) (tsk : SockPtr) (cb : TcpCb) (later : Stack) : Prop where
  | ignored : later = s → SegmentEffect s tsk cb later
  | answered : cb.flags ≠ tcpRst → cb.flags ≠ tcpFin →
      (s.sock tsk).state = .closed ∨ (s.sock tsk).state = .listen ∧ cb.flags ≠ tcpSyn →
      later = tcpSendReset s cb → SegmentEffect s tsk cb later
  | establishes : cb.flags ≠ tcpRst → cb.flags ≠ tcpFin → (s.sock tsk).state = .synSent →
      s.Establishes tsk later → SegmentEffect s tsk cb later
  | finished : cb.flags = tcpFin → s.Closed tsk [] later → SegmentEffect s tsk cb later
  | aborted : cb.flags = tcpRst → s.Closed tsk [(s.sock tsk).controlSegment tcpAck] later →
      SegmentEffect s tsk cb later

/-- What an event that returns does to a stack in which no sock has a parent. -/
inductive Effect (s : Stack) : Event → Stack → Prop where
  | quiet {event : Event} {later : Stack} : s.Quiet later → Effect s event later
  | makes {tsk : SockPtr} {later : Stack} : s.Makes tsk later → Effect s (.alloc tsk) later
  | names {tsk : SockPtr} {skaddr : SockAddr} {later : Stack} : s.Named tsk later →
      Effect s (.bind tsk skaddr) later
  | listens {tsk : SockPtr} {backlog : ℤ} {later : Stack} : s.StartsListening tsk later →
      Effect s (.listen tsk backlog) later
  | connects {tsk : SockPtr} {skaddr : SockAddr} {cursorIp : U32} {later : Stack} :
      s.Connects tsk skaddr cursorIp later → Effect s (.connect tsk skaddr cursorIp) later
  | closes {tsk : SockPtr} {later : Stack} : s.Closed tsk [] later → Effect s (.close tsk) later
  | arrives {packet : Memory U8} {ip tcp : ℕ} {tmp tsk : SockPtr} {later : Stack} :
      tcpSockLookup s (tcpCbInit packet ip tcp) = .ok tsk → s.Hashed tsk →
      SegmentEffect s tsk (tcpCbInit packet ip tcp) later →
        Effect s (.arrive packet ip tcp tmp) later

/-! ## Calls -/

/-- No sock has a parent. -/
def Stack.Childless (s : Stack) : Prop := ∀ tsk ∈ s.allocated, (s.sock tsk).parent = 0

theorem Stack.Childless.boundOrphans {s : Stack} {socks : Sequences} (childless : s.Childless)
    (shape : s.Shape socks) : s.BoundOrphans socks :=
  fun bucket tsk inside => childless tsk (shape.allocated _ tsk (s.isHead_bind bucket) inside)

section Places

variable {s later : Stack} {socks moved : Sequences} {tsk : SockPtr}

theorem Stack.Shape.inEstablished_iff (shape : s.Shape socks) :
    s.InEstablished tsk ↔ ∃ bucket, tsk ∈ socks (.establishedTable bucket) := by
  simp only [Stack.InEstablished, shape.established_entries]

theorem Stack.Shape.inListen_iff (shape : s.Shape socks) :
    s.InListen tsk ↔ ∃ bucket, tsk ∈ socks (.listenTable bucket) := by
  simp only [Stack.InListen, shape.listen_entries]

end Places

namespace Stack.Alters

variable {s later : Stack} {tsk : SockPtr}

/-- Some pointers, the record of the sock and the released socks changed, and
nothing was emitted. -/
theorem of_aside {socks moved : Sequences} (shape : s.Shape socks) (laterShape : later.Shape moved)
    (aside : ∀ other, other ≠ tsk → s.Aside socks later moved other)
    (same : ∀ other, other ≠ tsk → later.sock other = s.sock other)
    (allocated : later.allocated = s.allocated) (out : later.out = s.out)
    (released : s.Released tsk → later.Released tsk)
    (queues : ∀ head, s.IsHead head → head.slot = Node.list → tsk ∈ moved head →
      tsk ∈ socks head) :
    s.Alters tsk [] later where
  others := fun other different =>
    .of_others shape laterShape (aside other different) (same other different)
  allocated := allocated
  out := by rw [out, List.append_nil]
  released := released
  queued := by
    rw [laterShape.queued_iff, shape.queued_iff, Stack.isHead_congr allocated]
    rintro ⟨head, isHead, slot, inside⟩
    exact ⟨head, isHead, slot, queues head isHead slot inside⟩

/-- Two alterations of one sock. -/
theorem trans {middle : Stack} {first second : List Segment} (before : s.Alters tsk first middle)
    (after : middle.Alters tsk second later) : s.Alters tsk (first ++ second) later where
  others := fun other different => (before.others other different).trans
    (after.others other different)
  allocated := after.allocated.trans before.allocated
  out := by rw [after.out, before.out, List.append_assoc]
  released := fun released => after.released (before.released released)
  queued := fun queued => before.queued (after.queued queued)

/-- A change of records, with what was emitted. -/
theorem of_links {emitted : List Segment} (links : later.links = s.links)
    (allocated : later.allocated = s.allocated)
    (freed : ∀ other, other ≠ tsk → (later.Released other ↔ s.Released other))
    (same : ∀ other, other ≠ tsk → later.sock other = s.sock other)
    (out : later.out = s.out ++ emitted) (released : s.Released tsk → later.Released tsk) :
    s.Alters tsk emitted later where
  others := fun other different => .of_links links allocated (freed other different)
    (congrArg TcpSock.face (same other different))
  allocated := allocated
  out := out
  released := released
  queued := by
    rw [Stack.Queued, Stack.Queued, Stack.entries_congr links allocated, allocated]
    exact id

theorem touched {emitted : List Segment} (touches : s.Touches tsk later)
    (links : later.links = s.links) (out : later.out = s.out ++ emitted)
    (released : s.Released tsk → later.Released tsk) : s.Alters tsk emitted later :=
  of_links links touches.allocated touches.freed touches.others out released

theorem refl (s : Stack) (tsk : SockPtr) : s.Alters tsk [] s :=
  of_links rfl rfl (fun _ _ => Iff.rfl) (fun _ _ => rfl) (List.append_nil _).symm id

theorem modify (s : Stack) (tsk : SockPtr) (change : TcpSock → TcpSock) :
    s.Alters tsk [] (s.modify tsk change) :=
  of_links rfl rfl (fun _ _ => Iff.rfl)
    (fun _ different => Stack.modify_sock_of_ne _ _ different) (List.append_nil _).symm id

end Stack.Alters

section Calls

variable {s later : Stack} {socks : Sequences} {tsk : SockPtr}

theorem Stack.Orderly.makes (orderly : s.Orderly socks) (notNull : tsk ≠ 0)
    (absent : tsk ∉ s.allocated) : s.Makes tsk (allocTcpSock s tsk) := by
  have made : (allocTcpSock s tsk).modify tsk (fun _ => zeroedSock) = allocTcpSock s tsk := by
    simp [Stack.modify, allocTcpSock]
  obtain ⟨sound, aside⟩ := orderly.sound.alloc zeroedSock notNull absent (.inl rfl) rfl
  rw [made] at sound aside
  refine ⟨fun other different => .of_others orderly.sound.shape sound.shape (aside other different)
    (Function.update_of_ne different _ _), absent, rfl, rfl, Function.update_self _ _ _, ?_,
    fun released => absent (orderly.freed tsk released)⟩
  rw [sound.shape.linked_iff]
  rintro ⟨head, isHead, inside⟩
  rw [← made] at isHead
  obtain ⟨before, inside⟩ := (Sequences.mem_withSock absent isHead).mp inside
  exact absent (orderly.sound.shape.allocated head tsk before inside)

/-- Linking a sock under its port. -/
theorem Stack.Sound.bindHash_named (sound : s.Sound socks) (member : tsk ∈ s.allocated)
    (unbound : ¬ s.InBind tsk) :
    ∃ later moved, tcpBindHash s tsk = .ok later ∧ later.Sound moved ∧ s.Named tsk later ∧
      (later.sock tsk).tuple = (s.sock tsk).tuple := by
  have outside : ∀ bucket, tsk ∉ socks (.bindTable bucket) :=
    fun bucket inside => unbound (sound.shape.inBind_iff.mpr ⟨bucket, inside⟩)
  obtain ⟨links, bucket, linked, laterSound, aside⟩ := sound.bindHash member outside
  have kept : ∀ head, head.slot ≠ Node.bindHashList → Function.update socks (.bindTable bucket)
      (tsk :: socks (.bindTable bucket)) head = socks head :=
    fun head slot => Sequences.update_of_slot_ne slot
  refine ⟨_, _, linked, laterSound, ⟨?_, ?_, ?_, ?_, ?_, ?_⟩, tcpSockIncRefCnt_tuple _ tsk tsk⟩
  · refine .of_aside sound.shape laterSound.shape aside (fun other different => ?_) rfl rfl id
      fun head _ slot inside => ?_
    · rw [tcpSockIncRefCnt_sock, if_neg different]
    · rwa [kept head (slot ▸ Node.bindHashList_ne_list.symm)] at inside
  · exact tcpSockIncRefCnt_field _ tsk TcpSock.state (fun _ _ => rfl) tsk
  · exact tcpSockIncRefCnt_field _ tsk TcpSock.sndNxt (fun _ _ => rfl) tsk
  · exact laterSound.shape.inBind_iff.mpr ⟨bucket, by simp⟩
  · rw [laterSound.shape.inListen_iff, sound.shape.inListen_iff]
    exact exists_congr fun place =>
      by rw [kept (.listenTable place) Node.bindHashList_ne_hashList.symm]
  · rw [laterSound.shape.inEstablished_iff, sound.shape.inEstablished_iff]
    exact exists_congr fun place =>
      by rw [kept (.establishedTable place) Node.bindHashList_ne_hashList.symm]

/-- A change of the record of a sock that keeps its state and its number, and then
an event that names it. -/
theorem Stack.Named.after_modify {change : TcpSock → TcpSock}
    (named : (s.modify tsk change).Named tsk later)
    (state : ∀ sk, (change sk).state = sk.state) (sndNxt : ∀ sk, (change sk).sndNxt = sk.sndNxt) :
    s.Named tsk later where
  alters := (Stack.Alters.modify s tsk change).trans named.alters
  state := by rw [named.state, Stack.modify_sock_self, state]
  sndNxt := by rw [named.sndNxt, Stack.modify_sock_self, sndNxt]
  inBind := named.inBind
  inListen := named.inListen
  inEstablished := named.inEstablished

/-- A call of `tcp_sock_bind` is granted its port. -/
theorem Stack.Sound.bind_named (sound : s.Sound socks) (childless : s.Childless)
    (member : tsk ∈ s.allocated) (unbound : ¬ s.InBind tsk) (skaddr : SockAddr) :
    ∃ later, tcpSockBind s tsk skaddr = .ok (0, later) ∧ s.Named tsk later := by
  obtain ⟨later, moved, linked, _, named, _⟩ := Stack.Sound.bindHash_named
    (s := s.modify tsk fun sk => { sk with skSport := (BindCall.mk tsk skaddr).granted })
    (sound.modify (fun _ => rfl) (fun _ => rfl)) member unbound
  refine ⟨later, ?_, named.after_modify (fun _ => rfl) (fun _ => rfl)⟩
  have called := sound.shape.tcpSockBind_orphans (childless.boundOrphans sound.shape)
    (BindCall.mk tsk skaddr)
  rw [linked] at called
  exact called

/-- Linking a sock in one of the two hash tables. -/
theorem Stack.Sound.link_alters (sound : s.Sound socks) {links : Heap Node} {head : Node}
    (slot : head.slot = Node.hashList)
    (shape : ({ s with links := links } : Stack).Shape
      (Function.update socks head (tsk :: socks head)))
    (kept : ∀ node, s.Outside socks node → node ≠ .hashList tsk → links node = s.links node) :
    s.Alters tsk [] (tcpSockIncRefCnt { s with links := links } tsk) ∧
      ((tcpSockIncRefCnt { s with links := links } tsk).InBind tsk ↔ s.InBind tsk) := by
  obtain ⟨linked, aside, _⟩ := sound.linkHashed slot shape kept
  have elsewhere : ∀ place, place.slot ≠ Node.hashList →
      Function.update socks head (tsk :: socks head) place = socks place :=
    fun place other => Sequences.update_of_slot_ne (slot ▸ other)
  refine ⟨.of_aside sound.shape linked.shape aside (fun other different => ?_) rfl rfl id
    fun place _ queue inside => ?_, ?_⟩
  · rw [tcpSockIncRefCnt_sock, if_neg different]
  · rwa [elsewhere place (queue ▸ Node.hashList_ne_list.symm)] at inside
  · rw [linked.shape.inBind_iff, sound.shape.inBind_iff]
    exact exists_congr fun bucket =>
      by rw [elsewhere (.bindTable bucket) Node.bindHashList_ne_hashList]

/-- A call of `tcp_sock_listen` links the sock. -/
theorem Stack.Orderly.startsListening (orderly : s.Orderly socks) (member : tsk ∈ s.allocated)
    (unreleased : ¬ s.Released tsk) (unhashed : ¬ s.Hashed tsk) (backlog : ℤ) :
    ∃ later, tcpSockListen s tsk backlog = .ok (0, later) ∧ s.StartsListening tsk later := by
  have sized : (s.modify tsk fun sk => { sk with backlog := backlog }).Sound socks :=
    orderly.sound.modify (fun _ => rfl) (fun _ => rfl)
  have ready := (orderly.balances tsk member).ready unreleased
  set before := tcpSetState (s.modify tsk fun sk => { sk with backlog := backlog }) tsk .listen
    with eqBefore
  have sound : before.Sound socks := sized.setListen ready
  have own : before.sock tsk = { s.sock tsk with backlog := backlog, state := .listen } := by
    rw [eqBefore, tcpSetState_sock, if_pos rfl, Stack.modify_sock_self]
  have readied : s.Alters tsk [] before :=
    (Stack.Alters.modify s tsk _).trans (.modify _ tsk _)
  obtain ⟨links, hashed, shape, kept⟩ := sound.shape.tcpHash_listen member unhashed (by rw [own])
  obtain ⟨linked, inBind⟩ := sound.link_alters rfl shape kept
  have laterShape : (tcpSockIncRefCnt { before with links := links } tsk).Shape _ :=
    shape.congr rfl rfl
  have placed : tsk ∈ (tcpSockIncRefCnt { before with links := links } tsk).entries
      (.listenTable (portBucket (s.sock tsk).skSport)) := by
    have home : (before.sock tsk).skSport = (s.sock tsk).skSport := by rw [own]
    rw [laterShape.listen_entries, ← home]
    simp
  have last : (tcpSockIncRefCnt { before with links := links } tsk).sock tsk =
      { before.sock tsk with refCnt := (before.sock tsk).refCnt + 1 } := by
    rw [tcpSockIncRefCnt_sock, if_pos rfl]
  refine ⟨_, hashed, readied.trans linked, ?_, ?_, ?_, placed,
    fun inside => laterShape.not_inListen_of_inEstablished inside ⟨_, placed⟩, inBind⟩
  · rw [last, own]
  · rw [last, own]
    rfl
  · rw [last, own]

/-- A sock in `TCP_SYN_SENT` that is hashed comes into the bucket of its 4-tuple, unless
a sock there has the same. -/
theorem Stack.Sound.hash_opened (sound : s.Sound socks) (member : tsk ∈ s.allocated)
    (unhashed : ¬ s.Hashed tsk) (opening : (s.sock tsk).state = .synSent) :
    ∃ result later moved, tcpHash s tsk = .ok (result, later) ∧ later.Shape moved ∧
      s.Alters tsk [] later ∧ (later.InBind tsk ↔ s.InBind tsk) ∧ ¬ later.InListen tsk ∧
      (∀ bucket, tsk ∈ later.entries (.establishedTable bucket) → (s.sock tsk).bucket = bucket ∧
        ∀ other ∈ s.entries (.establishedTable bucket),
          (s.sock other).tuple ≠ (s.sock tsk).tuple) ∧
      ((∀ bucket, ∀ other ∈ s.entries (.establishedTable bucket),
        (s.sock other).tuple ≠ (s.sock tsk).tuple) → later.InEstablished tsk) := by
  have notClosed : (s.sock tsk).state ≠ .closed := by simp [opening]
  have notListen : (s.sock tsk).state ≠ .listen := by simp [opening]
  by_cases free : ∀ other ∈ socks (.establishedTable (s.sock tsk).bucket),
      (s.sock other).tuple ≠ (s.sock tsk).tuple
  · obtain ⟨links, hashed, shape, kept⟩ :=
      sound.shape.tcpHash_free member unhashed notClosed notListen free
    obtain ⟨linked, inBind⟩ := sound.link_alters rfl shape kept
    have laterShape : (tcpSockIncRefCnt { s with links := links } tsk).Shape _ :=
      shape.congr rfl rfl
    have inside : (tcpSockIncRefCnt { s with links := links } tsk).InEstablished tsk :=
      laterShape.inEstablished_iff.mpr ⟨(s.sock tsk).bucket, by simp⟩
    refine ⟨_, _, _, hashed, laterShape, linked, inBind,
      laterShape.not_inListen_of_inEstablished inside, fun bucket placed => ?_, fun _ => inside⟩
    rw [laterShape.established_entries] at placed
    by_cases here : bucket = (s.sock tsk).bucket
    · rw [here, sound.shape.established_entries]
      exact ⟨rfl, free⟩
    · rw [Function.update_of_ne (by simpa using here)] at placed
      exact absurd (sound.shape.hashed_iff.mpr ⟨_, s.isHead_established bucket, rfl, placed⟩)
        unhashed
  · push Not at free
    obtain ⟨other, inside, same⟩ := free
    refine ⟨_, s, socks, sound.shape.tcpHash_taken notClosed notListen inside same, sound.shape,
      .refl s tsk, Iff.rfl, fun listed => unhashed (.inr listed),
      fun bucket placed => absurd (.inl ⟨bucket, placed⟩) unhashed, fun distinct => ?_⟩
    exact absurd same (distinct (s.sock tsk).bucket other
      (by rwa [sound.shape.established_entries]))

/-- The middle of `tcp_sock_connect`: the SYN is sent, and the state is set. -/
def Stack.sendSyn (s : Stack) (tsk : SockPtr) : Stack :=
  tcpSetState (tcpSendControlPacket s tsk tcpSyn) tsk .synSent

theorem Stack.sendSyn_sock (s : Stack) (tsk : SockPtr) : (s.sendSyn tsk).sock tsk =
    { s.sock tsk with sndNxt := (s.sock tsk).sndNxt + 1, state := .synSent } := by
  have consumes : tcpSyn &&& (tcpSyn ||| tcpFin) ≠ 0 := by decide
  rw [Stack.sendSyn, tcpSetState_sock, if_pos rfl, tcpSendControlPacket_sock, if_pos rfl,
    if_pos consumes]

theorem Stack.sendSyn_alters (s : Stack) (tsk : SockPtr) :
    s.Alters tsk [(s.sock tsk).controlSegment tcpSyn] (s.sendSyn tsk) :=
  .touched ((Stack.Touches.sendControl s tsk tcpSyn).trans (.setState _ tsk _))
    (by simp [sendSyn]) (by simp [sendSyn]) (by simp [Stack.Released, sendSyn])

theorem Stack.Sound.sendSyn (sound : s.Sound socks) : (s.sendSyn tsk).Sound socks :=
  sound.touched ((Stack.Touches.sendControl s tsk tcpSyn).trans (.setState _ tsk _))
    (by simp [Stack.sendSyn]) (by simp [Stack.sendSyn_sock]) (by simp [Stack.sendSyn_sock])

/-- The SYN of `tcp_sock_connect` leaves from the first port of the range. -/
theorem Stack.Orderly.connectSent (orderly : s.Orderly socks) (childless : s.Childless)
    (member : tsk ∈ s.allocated) (unbound : ¬ s.InBind tsk) (skaddr : SockAddr) (cursorIp : U32) :
    ∃ bound moved, tcpSockConnectSent s tsk skaddr cursorIp =
        .ok (tcpSendControlPacket bound tsk tcpSyn) ∧ bound.Sound moved ∧ s.Named tsk bound ∧
      (bound.sock tsk).tuple = (cursorIp, htonl skaddr.ip, htons portMin, htons skaddr.port) := by
  have shape := orderly.sound.shape
  have found : tcpGetPort (s.modify tsk fun sk =>
      { sk with skDip := htonl skaddr.ip, skDport := htons skaddr.port, skSip := cursorIp }) =
        .ok portMin := by
    refine (shape.tcpGetPort_modify tsk ?_).trans
      (shape.tcpGetPort_orphans (childless.boundOrphans shape))
    exact fun _ => rfl
  have merged : ((s.modify tsk fun sk =>
      { sk with skDip := htonl skaddr.ip, skDport := htons skaddr.port,
                skSip := cursorIp }).modify tsk fun sk => { sk with skSport := htons portMin }) =
        s.named tsk skaddr cursorIp portMin := by
    simp [Stack.named, Stack.modify]
  have addressed : (s.named tsk skaddr cursorIp portMin).Sound socks :=
    orderly.sound.modify (fun _ => rfl) (fun _ => rfl)
  obtain ⟨bound, moved, binding, sound, named, tuple⟩ := addressed.bindHash_named member unbound
  refine ⟨bound, moved, ?_, sound, named.after_modify (fun _ => rfl) (fun _ => rfl), ?_⟩
  · refine Outcome.bind_eq_ok.mpr ⟨portMin, by rw [found]; rfl, ?_⟩
    exact Outcome.bind_eq_ok.mpr ⟨bound, by rw [merged, binding], rfl⟩
  · rw [tuple, Stack.named, Stack.modify_sock_self]
    rfl

/-- A call of `tcp_sock_connect` opens the sock. -/
theorem Stack.Orderly.connects (orderly : s.Orderly socks) (childless : s.Childless)
    (member : tsk ∈ s.allocated) (unbound : ¬ s.InBind tsk) (unhashed : ¬ s.Hashed tsk)
    (skaddr : SockAddr) (cursorIp : U32) :
    ∃ result later, tcpSockConnect s tsk skaddr cursorIp = .ok (result, later) ∧
      s.Connects tsk skaddr cursorIp later := by
  obtain ⟨bound, _, sending, sound, named, tuple⟩ :=
    orderly.connectSent childless member unbound skaddr cursorIp
  have own := bound.sendSyn_sock tsk
  have notHashed : ¬ (bound.sendSyn tsk).Hashed tsk := by
    rw [Stack.hashed_congr (show (bound.sendSyn tsk).links = bound.links by simp [Stack.sendSyn])
      (bound.sendSyn_alters tsk).allocated]
    exact fun hashed => unhashed (hashed.imp named.inEstablished.mp named.inListen.mp)
  obtain ⟨code, hashed, moved, hashing, laterShape, linked, inBind, notInListen, placed,
    free⟩ := sound.sendSyn.hash_opened
      ((bound.sendSyn_alters tsk).allocated ▸ named.alters.allocated ▸ member) notHashed
      (by rw [own])
  set last := hashed.setWaitConnect tsk fun _ => (sleepOn (hashed.sock tsk).waitConnect).1
    with eqLast
  have called : ∃ result, tcpSockConnect s tsk skaddr cursorIp = .ok (result, last) := by
    have rest : tcpHash (tcpSetState (tcpSendControlPacket bound tsk tcpSyn) tsk .synSent) tsk =
        .ok (code, hashed) := hashing
    rw [tcpSockConnect_eq]
    exact ⟨_, Outcome.bind_eq_ok.mpr ⟨_, sending, Outcome.bind_eq_ok.mpr ⟨_, rest, rfl⟩⟩⟩
  have opening : s.Alters tsk [(bound.sock tsk).controlSegment tcpSyn] (bound.sendSyn tsk) :=
    named.alters.trans (bound.sendSyn_alters tsk)
  have asleep : hashed.Alters tsk [] last := .modify hashed tsk _
  have face : (last.sock tsk).face = ((bound.sendSyn tsk).sock tsk).face := by
    rw [eqLast, Stack.setWaitConnect, Stack.modify_sock_self]
    exact tcpHash_field TcpSock.face hashing (fun _ _ => rfl) tsk
  obtain ⟨state, sameTuple, sndNxt⟩ := TcpSock.face_eq_iff.mp face
  rw [own] at state sameTuple sndNxt
  have filled : (last.sock tsk).tuple = (bound.sock tsk).tuple := sameTuple
  have places : hashed.SamePlaces last tsk := .of_links rfl rfl
  have sent : bound.SamePlaces (bound.sendSyn tsk) tsk :=
    .of_links (by simp [Stack.sendSyn]) (bound.sendSyn_alters tsk).allocated
  -- who else is in a bucket, and with which 4-tuple, has not changed on the way
  have elsewhere : ∀ bucket other, other ≠ tsk →
      (other ∈ (bound.sendSyn tsk).entries (.establishedTable bucket) ↔
        other ∈ s.entries (.establishedTable bucket)) ∧
      ((bound.sendSyn tsk).sock other).tuple = (s.sock other).tuple :=
    fun bucket other different =>
      ⟨(opening.others other different).places.established bucket,
        (opening.others other different).tuple⟩
  obtain ⟨result, called⟩ := called
  refine ⟨result, last, called, ⟨⟨bound.sock tsk, filled.symm, named.sndNxt,
    (opening.trans linked).trans asleep⟩, state, filled.trans tuple, ?_, ?_, ?_, ?_, ?_⟩⟩
  · rw [sndNxt, named.sndNxt]
  · rw [places.inBind, inBind, sent.inBind]
    exact named.inBind
  · rw [places.inListen]
    exact notInListen
  · intro bucket inside
    obtain ⟨home, distinct⟩ := placed bucket ((places.established bucket).mp inside)
    rw [own] at home distinct
    refine ⟨(TcpSock.bucket_of_tuple filled).trans home, fun other there => ?_⟩
    have different : other ≠ tsk := fun same => unhashed (.inl ⟨bucket, same ▸ there⟩)
    obtain ⟨still, same⟩ := elsewhere bucket other different
    rw [filled, ← same]
    exact distinct other (still.mpr there)
  · intro distinct
    rw [places.inEstablished]
    refine free fun bucket other inside => ?_
    have different : other ≠ tsk := fun same => notHashed (.inl ⟨bucket, same ▸ inside⟩)
    obtain ⟨still, same⟩ := elsewhere bucket other different
    rw [own, same, ← sameTuple]
    exact distinct bucket other (still.mp inside)

/-! ### Accepting -/

theorem Stack.Quiet.trans {middle : Stack} (first : s.Quiet middle) (second : middle.Quiet later) :
    s.Quiet later :=
  ⟨fun other => (first.stays other).trans (second.stays other),
    second.allocated.trans first.allocated, second.out.trans first.out⟩

theorem Stack.Quiet.modify (s : Stack) (tsk : SockPtr) {change : TcpSock → TcpSock}
    (face : ∀ sk, (change sk).face = sk.face) : s.Quiet (s.modify tsk change) :=
  ⟨.modify s tsk face, rfl, rfl⟩

/-- Taking a sock for `accept` moves no sock between the tables. -/
theorem Stack.Sound.dequeue_quiet (sound : s.Sound socks) (member : tsk ∈ s.allocated) :
    ∃ popped later, tcpSockAcceptDequeue s tsk = .ok (popped, later) ∧ s.Quiet later := by
  obtain ⟨popped, links, moved, dequeued, thinned, fewer, elsewhere, _⟩ :=
    sound.acceptDequeue member
  have places : ∀ other, s.SamePlaces { s with links := links } other := by
    refine fun other => ⟨fun bucket => ?_, fun bucket => ?_, fun bucket => ?_⟩
    · rw [thinned.shape.established_entries, sound.shape.established_entries,
        elsewhere _ (by simp)]
    · rw [thinned.shape.listen_entries, sound.shape.listen_entries, elsewhere _ (by simp)]
    · rw [thinned.shape.bind_entries, sound.shape.bind_entries, elsewhere _ (by simp)]
  have relinked : s.Quiet { s with links := links } := by
    refine ⟨fun other => ⟨rfl, Iff.rfl, places other, ?_⟩, rfl, rfl⟩
    rw [thinned.shape.queued_iff, sound.shape.queued_iff]
    rintro ⟨head, isHead, slot, inside⟩
    exact ⟨head, isHead, slot, fewer head other inside⟩
  exact ⟨popped, _, dequeued, relinked.trans (.modify _ tsk fun _ => rfl)⟩

theorem Stack.Sound.accept_quiet (sound : s.Sound socks) (member : tsk ∈ s.allocated) :
    ∃ popped later, tcpSockAccept s tsk = .ok (popped, later) ∧ s.Quiet later := by
  rw [tcpSockAccept]
  split
  · obtain ⟨popped, later, dequeued, quiet⟩ := sound.dequeue_quiet member
    exact ⟨_, later, Outcome.bind_eq_ok.mpr ⟨_, dequeued, rfl⟩, quiet⟩
  · have slept : s.Quiet (s.modify tsk fun sk =>
        { sk with waitAccept := (sleepOn (s.sock tsk).waitAccept).1 }) :=
      .modify s tsk fun _ => rfl
    cases blocks : (sleepOn (s.sock tsk).waitAccept).2 with
    | true =>
        refine ⟨none, _, ?_, slept⟩
        simp only [blocks, if_true]
        rfl
    | false =>
        have still : (s.modify tsk fun sk =>
            { sk with waitAccept := (sleepOn (s.sock tsk).waitAccept).1 }).Sound socks :=
          sound.modify (fun _ => rfl) (fun _ => rfl)
        obtain ⟨popped, later, dequeued, quiet⟩ := still.dequeue_quiet member
        refine ⟨some popped, later, ?_, slept.trans quiet⟩
        simp only [blocks, Bool.false_eq_true, if_false]
        exact Outcome.bind_eq_ok.mpr ⟨_, dequeued, rfl⟩

theorem Stack.Sound.acceptWoken_quiet (sound : s.Sound socks) (member : tsk ∈ s.allocated) :
    ∃ popped later, tcpSockAcceptWoken s tsk = .ok (popped, later) ∧ s.Quiet later := by
  have woken : s.Quiet (s.modify tsk fun sk =>
      { sk with waitAccept := sleepOnWoken sk.waitAccept }) := .modify s tsk fun _ => rfl
  have still : (s.modify tsk fun sk =>
      { sk with waitAccept := sleepOnWoken sk.waitAccept }).Sound socks :=
    sound.modify (fun _ => rfl) (fun _ => rfl)
  obtain ⟨popped, later, dequeued, quiet⟩ := still.dequeue_quiet member
  exact ⟨popped, later, dequeued, woken.trans quiet⟩

/-! ### Closing -/

/-- What a sock that does not listen emits when it is closed. -/
theorem tcpSockClose_closed_out (notListen : (s.sock tsk).state ≠ .listen)
    (done : tcpSockClose s tsk = .ok later) :
    later.out = s.out ++ (s.sock tsk).closingSegments ∧
      (later.sock tsk).sndNxt = (s.sock tsk).sndNxt + (s.sock tsk).closingFins := by
  have fin : ¬ tcpFin &&& (tcpSyn ||| tcpFin) = 0 := by decide
  have ack : tcpAck &&& (tcpSyn ||| tcpFin) = 0 := by decide
  cases state : (s.sock tsk).state <;> simp only [tcpSockClose, state] at done
  case listen => exact absurd state notListen
  case established | closeWait =>
    cases done
    simp [TcpSock.closingSegments, TcpSock.closingFins, state, freeTcpSock_sock, tcpSetState_sock,
      tcpSendControlPacket_sock, ack, TcpSock.controlSegment]
    exact fin
  all_goals
    cases done
    simp [TcpSock.closingSegments, TcpSock.closingFins, state, freeTcpSock_sock, tcpSetState_sock]

/-- Closing a sock that does not listen. -/
theorem Stack.Sound.close_closed (notListen : (s.sock tsk).state ≠ .listen) :
    ∃ later, tcpSockClose s tsk = .ok later ∧ s.Closed tsk [] later := by
  obtain ⟨done, links⟩ := tcpSockClose_quiet notListen
  have touches := tcpSockClose_touches done
  obtain ⟨out, sndNxt⟩ := tcpSockClose_closed_out notListen done
  have released : s.Released tsk → (tcpSockClose s tsk).stack.Released tsk := by
    intro before
    rcases tcpSockClose_refs notListen done with ⟨same, _⟩ | ⟨_, _, freed⟩
    · rwa [same]
    · rw [Stack.Released, freed]
      split
      · exact List.mem_cons_of_mem _ before
      · exact before
  exact ⟨_, done, .touched touches links out released, tcpSockClose_state done,
    touches.field TcpSock.tuple (fun _ _ _ _ => rfl) tsk, sndNxt,
    fun listening => absurd listening notListen, fun _ => .of_links links touches.allocated⟩

/-- Unlinking a sock touches its reference count only. -/
theorem unlink_sndNxt {node : Node} (done : (if !s.links.listEmpty node then do
      let s ← s.relink (s.links.listDeleteEntry Node.valid node)
      pure (freeTcpSock s tsk)
    else pure s : Outcome Stack) = .ok later) :
    (later.sock tsk).sndNxt = (s.sock tsk).sndNxt := by
  rcases unlink_ok done with rfl | ⟨links, _, rfl⟩
  · rfl
  · rw [freeTcpSock_sock, if_pos rfl]

theorem tcpSockClose_listen_sndNxt (listening : (s.sock tsk).state = .listen)
    (done : tcpSockClose s tsk = .ok later) :
    (later.sock tsk).sndNxt = (s.sock tsk).sndNxt := by
  simp only [tcpSockClose, listening] at done
  obtain ⟨unhashed, first, done⟩ := Outcome.bind_eq_ok.mp done
  obtain ⟨unbound, second, done⟩ := Outcome.bind_eq_ok.mp done
  cases done
  rw [freeTcpSock_sock, if_pos rfl, tcpSetState_sock, if_pos rfl]
  exact (unlink_sndNxt second).trans (unlink_sndNxt first)

/-- Closing a listener returns exactly when the listener is bound. -/
theorem Stack.Orderly.close_listener (orderly : s.Orderly socks) (member : tsk ∈ s.allocated)
    (listening : (s.sock tsk).state = .listen) :
    ((∃ later, tcpSockClose s tsk = .ok later) ↔ s.InBind tsk) ∧
      ∀ later, tcpSockClose s tsk = .ok later → s.Closed tsk [] later := by
  have balanced := orderly.balances tsk member
  obtain ⟨moved, sound, aside, bound, own⟩ :=
    orderly.sound.close_listen listening (balanced.hashed listening)
  refine ⟨bound.trans orderly.sound.shape.inBind_iff.symm, fun later done => ?_⟩
  have touches := tcpSockClose_touches done
  obtain ⟨refCnt, released, places⟩ := own later done
  rw [done, Outcome.stack_ok] at sound aside
  have few := balanced.backed.refCnt_le
  have gone : later.Released tsk := released (by omega)
  have out := tcpSockClose_listen_out listening
  rw [done, Outcome.stack_ok] at out
  have away : ∀ head, s.IsHead head → head.slot = Node.hashList → tsk ∉ moved head :=
    fun head isHead slot inside =>
      Node.hashList_ne_list (slot.symm.trans ((places head isHead).mp inside).2)
  have segments : (s.sock tsk).closingSegments = [] := by simp [TcpSock.closingSegments, listening]
  have fins : (s.sock tsk).closingFins = 0 := by simp [TcpSock.closingFins, listening]
  refine ⟨?_, tcpSockClose_state done, touches.field TcpSock.tuple (fun _ _ _ _ => rfl) tsk, ?_,
    fun _ => ⟨gone, ?_, ?_⟩, fun notListen => absurd listening notListen⟩
  · rw [segments]
    exact .of_aside orderly.sound.shape sound.shape aside touches.others touches.allocated out
      (fun _ => gone) fun head isHead _ inside => ((places head isHead).mp inside).1
  · rw [tcpSockClose_listen_sndNxt listening done, fins]
    exact (BitVec.add_zero _).symm
  · rw [sound.shape.inListen_iff]
    rintro ⟨bucket, inside⟩
    exact away _ (s.isHead_listen bucket) rfl inside
  · rw [sound.shape.inEstablished_iff]
    rintro ⟨bucket, inside⟩
    exact away _ (s.isHead_established bucket) rfl inside

/-- A close that returns has closed the sock. -/
theorem Stack.Orderly.close_closed (orderly : s.Orderly socks) (member : tsk ∈ s.allocated)
    (done : tcpSockClose s tsk = .ok later) : s.Closed tsk [] later := by
  by_cases listening : (s.sock tsk).state = .listen
  · exact (orderly.close_listener member listening).2 later done
  · obtain ⟨final, closes, closed⟩ := Stack.Sound.close_closed listening
    rw [closes] at done
    cases done
    exact closed

/-! ### Packets -/

/-- Closing a sock right after it sent an acknowledgement. -/
theorem Stack.Closed.after_ack
    (closed : (tcpSendControlPacket s tsk tcpAck).Closed tsk [] later) :
    s.Closed tsk [(s.sock tsk).controlSegment tcpAck] later := by
  have ack : tcpAck &&& (tcpSyn ||| tcpFin) = 0 := by decide
  have own : (tcpSendControlPacket s tsk tcpAck).sock tsk = s.sock tsk := by
    rw [tcpSendControlPacket_sock, if_pos rfl]
    simp [ack]
  have sent : s.Alters tsk [(s.sock tsk).controlSegment tcpAck]
      (tcpSendControlPacket s tsk tcpAck) :=
    .touched (.sendControl s tsk tcpAck) (by simp) (by simp) (by simp [Stack.Released])
  obtain ⟨alters, state, tuple, sndNxt, listening, places⟩ := closed
  rw [own] at alters state tuple sndNxt listening places
  have same : s.SamePlaces (tcpSendControlPacket s tsk tcpAck) tsk :=
    .of_links (by simp) (by simp)
  exact ⟨sent.trans alters, state, tuple, sndNxt, listening,
    fun notListen => same.trans (places notListen)⟩

/-- The segment that a sock in `TCP_SYN_SENT` waits for. -/
theorem tcpProcessSynSent_establishes (s : Stack) (tsk : SockPtr) :
    s.Establishes tsk (tcpProcessSynSent s tsk) := by
  have plain : tcpAck &&& (tcpSyn ||| tcpFin) = 0 := by decide
  have links : (tcpProcessSynSent s tsk).links = s.links := by simp [tcpProcessSynSent]
  have allocated : (tcpProcessSynSent s tsk).allocated = s.allocated := by
    simp [tcpProcessSynSent]
  have own : ((tcpProcessSynSent s tsk).sock tsk).face = { s.sock tsk with
      state := .established }.face := by
    simp [tcpProcessSynSent, tcpSendControlPacket_sock, tcpSetState_sock, TcpSock.face,
      TcpSock.tuple, plain]
  obtain ⟨state, tuple, sndNxt⟩ := TcpSock.face_eq_iff.mp own
  refine ⟨.of_links links allocated (fun other _ => ?_) (fun other different => ?_) ?_ ?_, state,
    tuple, sndNxt, .of_links links allocated⟩
  · simp [Stack.Released, tcpProcessSynSent]
  · rw [tcpProcessSynSent, Stack.modify_sock_of_ne _ _ different, tcpSendControlPacket_sock,
      if_neg different, tcpSetState_sock, if_neg different]
  · rw [tcpProcessSynSent_out, tcpSetState_sock, if_pos rfl]
    rfl
  · simp [Stack.Released, tcpProcessSynSent]

/-- What a segment that is processed does to the sock it is handed to. -/
theorem Stack.Orderly.segmentEffect (orderly : s.Orderly socks) (childless : s.Childless)
    (member : tsk ∈ s.allocated) {cb : TcpCb} {tmp : SockPtr} (absent : tmp ∉ s.allocated)
    (done : tcpProcess s tsk cb tmp = .ok later) : SegmentEffect s tsk cb later := by
  cases (tcpProcess_step done).2 with
  | dropped | ignored => exact .ignored rfl
  | rst _ isRst closing =>
      obtain ⟨sent, _⟩ := orderly.sendControl tsk tcpAck
      exact .aborted isRst (sent.close_closed (by simpa using member) closing).after_ack
  | fin _ isFin closing => exact .finished isFin (orderly.close_closed member closing)
  | answered _ notRst notFin answered =>
      refine .answered notRst notFin ?_ rfl
      rcases answered with closed | listening | ⟨state, _⟩
      · exact .inl closed
      · exact .inr listening
      · exact absurd (childless tsk member) (orderly.sound.children tsk member state)
  | syn _ _ _ opened =>
      have stops := tcpProcessSyn_orphan cb (ne_of_mem_of_not_mem member absent)
        (childless tsk member)
      rw [stops] at opened
      cases opened
  | ack _ state => exact absurd (childless tsk member) (orderly.sound.children tsk member state)
  | synSent _ notRst notFin state =>
      exact .establishes notRst notFin state (tcpProcessSynSent_establishes s tsk)

end Calls

/-! ## One event -/

/-- An effect makes one sock at most, as `alloc_tcp_sock` leaves it. -/
theorem Effect.allocated {s later : Stack} {event : Event} (effect : Effect s event later) :
    later.allocated = s.allocated ∨
      ∃ tsk, event = .alloc tsk ∧ tsk ∉ s.allocated ∧ later.allocated = tsk :: s.allocated ∧
        later.sock tsk = zeroedSock := by
  cases effect with
  | quiet quiet => exact .inl quiet.allocated
  | makes makes => exact .inr ⟨_, rfl, makes.absent, makes.allocated, makes.sock⟩
  | names named => exact .inl named.alters.allocated
  | listens listens => exact .inl listens.alters.allocated
  | connects connects =>
      obtain ⟨_, _, _, alters⟩ := connects.alters
      exact .inl alters.allocated
  | closes closed => exact .inl closed.alters.allocated
  | arrives _ _ segment =>
      cases segment with
      | ignored same => exact .inl (by rw [same])
      | answered _ _ _ same => exact .inl (by rw [same]; rfl)
      | establishes _ _ _ establishes => exact .inl establishes.alters.allocated
      | finished _ closed | aborted _ closed => exact .inl closed.alters.allocated

/-- **What an orderly event does when no sock has a parent** is one of the effects. -/
theorem Event.effect {s later : Stack} {socks : Sequences} {event : Event}
    (orderly : s.Orderly socks) (childless : s.Childless) (possible : event.Possible s)
    (allowed : event.Orderly s) (done : event.run s = .ok later) :
    Effect s event later := by
  have sound := orderly.sound
  cases event with
  | alloc tsk =>
      cases done
      exact .makes (orderly.makes possible.1 possible.2)
  | bind tsk skaddr =>
      obtain ⟨final, called, named⟩ := sound.bind_named childless possible allowed.2 skaddr
      simp only [Event.run, called] at done
      cases done
      exact .names named
  | listen tsk backlog =>
      obtain ⟨final, called, listens⟩ :=
        orderly.startsListening possible allowed.1 allowed.2 backlog
      simp only [Event.run, called] at done
      cases done
      exact .listens listens
  | connect tsk skaddr cursorIp =>
      obtain ⟨result, final, called, connects⟩ :=
        orderly.connects childless possible allowed.2.1 allowed.2.2 skaddr cursorIp
      simp only [Event.run, called] at done
      cases done
      exact .connects connects
  | connectWoken tsk =>
      cases done
      have woken : s.Quiet (s.modify tsk fun sk =>
        { sk with waitConnect := sleepOnWoken sk.waitConnect }) := .modify s tsk fun _ => rfl
      exact .quiet woken
  | accept tsk =>
      obtain ⟨popped, final, called, quiet⟩ := sound.accept_quiet possible
      simp only [Event.run, called] at done
      cases done
      exact .quiet quiet
  | acceptWoken tsk =>
      obtain ⟨popped, final, called, quiet⟩ := sound.acceptWoken_quiet possible
      simp only [Event.run, called] at done
      cases done
      exact .quiet quiet
  | close tsk => exact .closes (orderly.close_closed possible done)
  | arrive packet ip tcp tmp =>
      cases matching : checksumMatches packet ip tcp with
      | false =>
          have same : handleTcpPacket s packet ip tcp tmp = .ok later := done
          rw [handleTcpPacket_mismatch matching] at same
          cases same
          exact .quiet ⟨.refl s, rfl, rfl⟩
      | true =>
          obtain ⟨tsk, found, routed⟩ := sound.shape.lookup (tcpCbInit packet ip tcp)
          have handed : tcpProcess s tsk (tcpCbInit packet ip tcp) tmp = .ok later :=
            (handleTcpPacket_routed matching found tmp).symm.trans done
          have hashed := routed.resolve_left (tcpProcess_step handed).1
          exact .arrives found hashed (orderly.segmentEffect childless
            (sound.shape.allocated_of_hashed hashed) possible.2 handed)

/-- A sock keeps the fields that no event writes, or was made. -/
theorem Effect.origin {s later : Stack} {event : Event} (effect : Effect s event later)
    (possible : event.Possible s) (done : event.run s = .ok later) {tsk : SockPtr}
    (member : tsk ∈ later.allocated) :
    tsk ∈ s.allocated ∧ (later.sock tsk).origin = (s.sock tsk).origin ∨
      later.sock tsk = zeroedSock := by
  have kept : ∀ other ∈ s.allocated, (later.sock other).origin = (s.sock other).origin :=
    (Stack.Keeps.event possible done).origin
  rcases effect.allocated with same | ⟨made, _, _, grown, zeroed⟩
  · rw [same] at member
    exact .inl ⟨member, kept tsk member⟩
  · rw [grown] at member
    rcases List.mem_cons.mp member with rfl | before
    · exact .inr zeroed
    · exact .inl ⟨before, kept tsk before⟩

end TcpStack
