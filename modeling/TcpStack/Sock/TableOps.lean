import TcpStack.Sock.Shape

/-!
# Hashing, unhashing and looking up

What one call of `tcp_hash`, `tcp_unhash` and the two lookups does to lists that
are in order, in terms of the sequences of socks they denote.
-/

set_option autoImplicit false

namespace TcpStack

open Lib

/-- The 4-tuple of a sock: source and destination address, source and
destination port. -/
def TcpSock.tuple (sk : TcpSock) : U32 × U32 × U16 × U16 :=
  (sk.skSip, sk.skDip, sk.skSport, sk.skDport)

/-- The bucket of the established table a sock belongs to. -/
def TcpSock.bucket (sk : TcpSock) : U8 :=
  tcpHashFunction sk.skSip sk.skDip sk.skSport sk.skDport

/-- The bucket of the listen table and of the bind table a port belongs to. -/
def portBucket (sport : U16) : U8 := tcpHashFunction 0 0 sport 0

theorem TcpSock.hasTuple_iff (sk : TcpSock) (saddr daddr : U32) (sport dport : U16) :
    sk.hasTuple saddr daddr sport dport = true ↔ sk.tuple = (saddr, daddr, sport, dport) := by
  simp only [hasTuple, tuple, Bool.and_eq_true, beq_iff_eq, Prod.mk.injEq]
  tauto

/-- Socks with the same 4-tuple belong to the same bucket. -/
theorem TcpSock.bucket_eq {sk : TcpSock} {saddr daddr : U32} {sport dport : U16}
    (tuple : sk.tuple = (saddr, daddr, sport, dport)) :
    sk.bucket = tcpHashFunction saddr daddr sport dport := by
  simp only [TcpSock.tuple, Prod.mk.injEq] at tuple
  obtain ⟨rfl, rfl, rfl, rfl⟩ := tuple
  rfl

@[simp] theorem tcpSockIncRefCnt_tuple (s : Stack) (tsk other : SockPtr) :
    ((tcpSockIncRefCnt s tsk).sock other).tuple = (s.sock other).tuple := by
  rw [tcpSockIncRefCnt_sock]
  split
  · next same => rw [same]; rfl
  · rfl

@[simp] theorem freeTcpSock_tuple (s : Stack) (tsk other : SockPtr) :
    ((freeTcpSock s tsk).sock other).tuple = (s.sock other).tuple := by
  rw [freeTcpSock_sock]
  split
  · next same => rw [same]; rfl
  · rfl

theorem TcpSock.bucket_of_tuple {first second : TcpSock} (same : first.tuple = second.tuple) :
    first.bucket = second.bucket := TcpSock.bucket_eq same

theorem TcpSock.skSport_of_tuple {first second : TcpSock} (same : first.tuple = second.tuple) :
    first.skSport = second.skSport := congrArg (fun tuple => tuple.2.2.1) same

namespace Stack

def InEstablished (s : Stack) (tsk : SockPtr) : Prop :=
  ∃ bucket, tsk ∈ s.entries (.establishedTable bucket)

def InListen (s : Stack) (tsk : SockPtr) : Prop :=
  ∃ bucket, tsk ∈ s.entries (.listenTable bucket)

def InBind (s : Stack) (tsk : SockPtr) : Prop :=
  ∃ bucket, tsk ∈ s.entries (.bindTable bucket)

/-- The sock is linked by its `hash_list`. -/
def Hashed (s : Stack) (tsk : SockPtr) : Prop := s.InEstablished tsk ∨ s.InListen tsk

/-- Who is hashed depends on the pointers and on which socks exist only. -/
theorem hashed_congr {s later : Stack} (links : later.links = s.links)
    (allocated : later.allocated = s.allocated) : later.Hashed = s.Hashed := by
  funext tsk
  simp only [Hashed, InEstablished, InListen, entries, fuel, links, allocated]

open Classical in
/-- The number of tables a sock is linked in. -/
noncomputable def tableCount (s : Stack) (tsk : SockPtr) : ℤ :=
  (if s.InEstablished tsk then 1 else 0) + (if s.InListen tsk then 1 else 0) +
    (if s.InBind tsk then 1 else 0)

end Stack

/-! ## One operation -/

namespace Stack.Shape

variable {s : Stack} {socks : Sequences} {tsk : SockPtr}

/-- A sock is hashed when it is in a list that links socks by `hash_list`. -/
theorem hashed_iff (shape : s.Shape socks) :
    s.Hashed tsk ↔ ∃ head, s.IsHead head ∧ head.slot = Node.hashList ∧ tsk ∈ socks head := by
  constructor
  · rintro (⟨bucket, member⟩ | ⟨bucket, member⟩)
    · rw [shape.established_entries] at member
      exact ⟨.establishedTable bucket, trivial, rfl, member⟩
    · rw [shape.listen_entries] at member
      exact ⟨.listenTable bucket, trivial, rfl, member⟩
  · rintro ⟨head, isHead, slot, member⟩
    cases head with
    | establishedTable bucket => exact .inl ⟨bucket, by rwa [shape.established_entries]⟩
    | listenTable bucket => exact .inr ⟨bucket, by rwa [shape.listen_entries]⟩
    | null => exact isHead.elim
    | bindTable bucket => cases congrFun slot 0
    | hashList other => exact isHead.elim
    | bindHashList other => exact isHead.elim
    | listenQueue other => cases congrFun slot 0
    | acceptQueue other => cases congrFun slot 0
    | list other => exact isHead.elim

/-- The two tables have no sock in common. -/
theorem not_inListen_of_inEstablished (shape : s.Shape socks) (inside : s.InEstablished tsk) :
    ¬ s.InListen tsk := by
  rintro ⟨second, inListen⟩
  obtain ⟨first, inEstablished⟩ := inside
  rw [shape.established_entries] at inEstablished
  rw [shape.listen_entries] at inListen
  exact shape.not_listen_of_established inEstablished inListen

theorem allocated_of_hashed (shape : s.Shape socks) (hashed : s.Hashed tsk) :
    tsk ∈ s.allocated := by
  obtain ⟨head, isHead, _, inside⟩ := shape.hashed_iff.mp hashed
  exact shape.allocated head tsk isHead inside

/-- The node of a sock that is not hashed is in no list. -/
theorem fresh_of_not_hashed (shape : s.Shape socks) (unhashed : ¬ s.Hashed tsk) (other : Node)
    (isOther : s.IsHead other) : Node.hashList tsk ∉ socks.nodes other := by
  intro inside
  obtain ⟨node, member, equal⟩ := List.mem_map.mp inside
  have owner := congrArg Node.owner equal
  rw [Node.owner_slot] at owner
  obtain rfl : node = tsk := Option.some.inj owner
  refine unhashed (shape.hashed_iff.mpr ⟨other, isOther, ?_, member⟩)
  funext anyone
  cases other <;> first | rfl | cases equal

/-- Hashing a listener links it at the front of its port's bucket. -/
theorem tcpHash_listen (shape : s.Shape socks) (member : tsk ∈ s.allocated)
    (unhashed : ¬ s.Hashed tsk) (listening : (s.sock tsk).state = .listen) :
    ∃ links, tcpHash s tsk = .ok (0, tcpSockIncRefCnt { s with links := links } tsk) ∧
      ({ s with links := links } : Stack).Shape
        (Function.update socks (.listenTable (portBucket (s.sock tsk).skSport))
          (tsk :: socks (.listenTable (portBucket (s.sock tsk).skSport)))) ∧
      ∀ node, s.Outside socks node → node ≠ .hashList tsk → links node = s.links node := by
  have isHead := s.isHead_listen (portBucket (s.sock tsk).skSport)
  obtain ⟨links, added, later, same⟩ := shape.addHead isHead member
    (shape.fresh_of_not_hashed unhashed)
  refine ⟨links, ?_, later, fun node outside different => same node different (outside _ isHead)⟩
  have added' : s.links.listAddHead Node.valid (.hashList tsk)
      (.listenTable (tcpHashFunction 0 0 (s.sock tsk).skSport 0)) = .ok links := added
  simp only [tcpHash, listening, reduceCtorEq, if_false, if_true, added', Stack.relink, bind,
    Except.bind, pure, Except.pure]

/-- Searching the bucket of a 4-tuple. -/
theorem find_tuple (shape : s.Shape socks) (saddr daddr : U32) (sport dport : U16) :
    s.links.listFind Node.valid (.establishedTable (tcpHashFunction saddr daddr sport dport))
        s.fuel (visitHashed s fun sk => sk.hasTuple saddr daddr sport dport) =
      .ok ((socks (.establishedTable (tcpHashFunction saddr daddr sport dport))).find?
        fun tsk => (s.sock tsk).hasTuple saddr daddr sport dport) :=
  shape.find_hashed (s.isHead_established _) rfl _

/-- Hashing a sock whose 4-tuple is in its bucket already fails and changes
nothing. -/
theorem tcpHash_taken (shape : s.Shape socks) (notClosed : (s.sock tsk).state ≠ .closed)
    (notListen : (s.sock tsk).state ≠ .listen) {other : SockPtr}
    (inside : other ∈ socks (.establishedTable (s.sock tsk).bucket))
    (same : (s.sock other).tuple = (s.sock tsk).tuple) :
    tcpHash s tsk = .ok (-1, s) := by
  have found : ((socks (.establishedTable (s.sock tsk).bucket)).find? fun tmp =>
      (s.sock tmp).hasTuple (s.sock tsk).skSip (s.sock tsk).skDip (s.sock tsk).skSport
        (s.sock tsk).skDport).isSome := by
    rw [List.find?_isSome]
    exact ⟨other, inside, ((s.sock other).hasTuple_iff _ _ _ _).mpr same⟩
  have search := shape.find_tuple (s.sock tsk).skSip (s.sock tsk).skDip (s.sock tsk).skSport
    (s.sock tsk).skDport
  rw [TcpSock.bucket] at found
  simp [tcpHash, notClosed, notListen, search, Stack.stopOn, found, bind, Except.bind, pure,
    Except.pure]

/-- Hashing a sock whose 4-tuple is not in its bucket links it at the front. -/
theorem tcpHash_free (shape : s.Shape socks) (member : tsk ∈ s.allocated)
    (unhashed : ¬ s.Hashed tsk) (notClosed : (s.sock tsk).state ≠ .closed)
    (notListen : (s.sock tsk).state ≠ .listen)
    (free : ∀ other ∈ socks (.establishedTable (s.sock tsk).bucket),
      (s.sock other).tuple ≠ (s.sock tsk).tuple) :
    ∃ links, tcpHash s tsk = .ok (0, tcpSockIncRefCnt { s with links := links } tsk) ∧
      ({ s with links := links } : Stack).Shape
        (Function.update socks (.establishedTable (s.sock tsk).bucket)
          (tsk :: socks (.establishedTable (s.sock tsk).bucket))) ∧
      ∀ node, s.Outside socks node → node ≠ .hashList tsk → links node = s.links node := by
  have isHead := s.isHead_established (s.sock tsk).bucket
  obtain ⟨links, added, later, same⟩ := shape.addHead isHead member
    (shape.fresh_of_not_hashed unhashed)
  have missing : (socks (.establishedTable (s.sock tsk).bucket)).find? (fun tmp =>
      (s.sock tmp).hasTuple (s.sock tsk).skSip (s.sock tsk).skDip (s.sock tsk).skSport
        (s.sock tsk).skDport) = none := by
    rw [List.find?_eq_none]
    intro other inside taken
    exact free other inside (((s.sock other).hasTuple_iff _ _ _ _).mp taken)
  have search := shape.find_tuple (s.sock tsk).skSip (s.sock tsk).skDip (s.sock tsk).skSport
    (s.sock tsk).skDport
  have added' : s.links.listAddHead Node.valid (.hashList tsk)
      (.establishedTable (tcpHashFunction (s.sock tsk).skSip (s.sock tsk).skDip
        (s.sock tsk).skSport (s.sock tsk).skDport)) = .ok links := added
  rw [TcpSock.bucket] at missing
  refine ⟨links, ?_, later, fun node outside different => same node different (outside _ isHead)⟩
  simp [tcpHash, notClosed, notListen, search, missing, Stack.stopOn, added', Stack.relink, bind,
    Except.bind, pure, Except.pure]

/-- Unhashing a linked sock unlinks it and drops a reference. -/
theorem tcpUnhash_linked (shape : s.Shape socks) {head : Node} (isHead : s.IsHead head)
    (slot : head.slot tsk = .hashList tsk) (inside : tsk ∈ socks head) :
    ∃ links, tcpUnhash s tsk = .ok (freeTcpSock { s with links := links } tsk) ∧
      ({ s with links := links } : Stack).Shape
        (Function.update socks head ((socks head).erase tsk)) ∧
      ∀ node, s.Outside socks node → links node = s.links node := by
  obtain ⟨links, deleted, later, same⟩ := shape.deleteEntry isHead inside (by simp [slot])
  have linked := shape.not_listEmpty isHead inside
  have kept : ∀ node, s.Outside socks node → links node = s.links node := by
    intro node outside
    refine same node ?_ (outside _ isHead)
    rintro rfl
    exact outside _ isHead (List.mem_cons_of_mem _ (Sequences.mem_nodes.mpr inside))
  rw [slot] at deleted linked
  refine ⟨links, ?_, later, kept⟩
  simp [tcpUnhash, linked, deleted, Stack.relink, bind, Except.bind, pure, Except.pure]

/-- The lookup in the established table searches one bucket. -/
theorem lookupEstablished_eq (shape : s.Shape socks) (saddr daddr : U32) (sport dport : U16) :
    tcpSockLookupEstablished s saddr daddr sport dport =
      .ok (((socks (.establishedTable (tcpHashFunction saddr daddr sport dport))).find?
        fun tsk => (s.sock tsk).hasTuple saddr daddr sport dport).getD 0) := by
  simp [tcpSockLookupEstablished, shape.find_tuple, bind, Except.bind, pure, Except.pure]

/-- It finds a sock that nobody in its bucket shares the 4-tuple with. -/
theorem lookupEstablished_of_unique (shape : s.Shape socks) {saddr daddr : U32} {sport dport : U16}
    (tuple : (s.sock tsk).tuple = (saddr, daddr, sport, dport))
    (inside : tsk ∈ socks (.establishedTable (s.sock tsk).bucket))
    (unique : ∀ other ∈ socks (.establishedTable (s.sock tsk).bucket),
      (s.sock other).tuple = (s.sock tsk).tuple → other = tsk) :
    tcpSockLookupEstablished s saddr daddr sport dport = .ok tsk := by
  rw [TcpSock.bucket_eq tuple] at inside unique
  rw [shape.lookupEstablished_eq]
  cases found : (socks (.establishedTable (tcpHashFunction saddr daddr sport dport))).find?
      fun tsk => (s.sock tsk).hasTuple saddr daddr sport dport with
  | none =>
      have missing := List.find?_eq_none.mp found tsk inside
      exact absurd (((s.sock tsk).hasTuple_iff _ _ _ _).mpr tuple) missing
  | some other =>
      have holds : (s.sock other).hasTuple saddr daddr sport dport = true := by
        simpa using List.find?_some found
      have same := ((s.sock other).hasTuple_iff _ _ _ _).mp holds
      rw [unique other (List.mem_of_find?_eq_some found) (same.trans tuple.symm), Option.getD_some]

/-- The lookup in the listen table searches one bucket. -/
theorem lookupListen_eq (shape : s.Shape socks) (saddr : U32) (sport : U16) :
    tcpSockLookupListen s saddr sport =
      .ok (((socks (.listenTable (portBucket sport))).find?
        fun tsk => (s.sock tsk).skSport == sport).getD 0) := by
  have search := shape.find_hashed (s.isHead_listen (portBucket sport)) rfl
    fun sk => sk.skSport == sport
  rw [portBucket] at search ⊢
  simp only [tcpSockLookupListen, search, bind, Except.bind, pure, Except.pure]

/-- The search for a port goes through one bucket of the bind table. -/
theorem tcpPortInUse_eq (shape : s.Shape socks) (sport : U16) :
    tcpPortInUse s sport = .ok ((socks (.bindTable (portBucket sport))).any fun tsk =>
      (Node.bindHashList tsk).portThroughHashList s = .ok sport) := by
  have isHead := s.isHead_bind (portBucket sport)
  have visits : ∀ node ∈ socks.nodes (.bindTable (portBucket sport)),
      (do
        let port ← node.portThroughHashList s
        pure (if port = sport then some () else none) : Except Fault (Option Unit)) =
        .ok (if node.portThroughHashList s = .ok sport then some () else none) := by
    intro node member
    obtain ⟨tsk, _, rfl⟩ := List.mem_map.mp member
    simp [Node.slot, Node.portThroughHashList, bind, Except.bind, pure, Except.pure]
  have found := (shape.family.denotes _ isHead).find (shape.length_lt_fuel isHead) visits
  have bucket : tcpHashFunction 0 0 sport 0 = portBucket sport := rfl
  rw [tcpPortInUse, bucket]
  simp only [found]
  refine congrArg Except.ok (Bool.eq_iff_iff.mpr ?_)
  simp [Sequences.nodes, Node.slot]

/-- Who is hashed after a sock was linked. -/
theorem hashed_link {later : Stack} {head : Node} (shape : s.Shape socks)
    (laterShape : later.Shape (Function.update socks head (tsk :: socks head)))
    (allocated : later.allocated = s.allocated) (isHead : s.IsHead head)
    (slot : head.slot = Node.hashList) (other : SockPtr) :
    later.Hashed other ↔ other = tsk ∨ s.Hashed other := by
  have heads := Stack.isHead_congr allocated
  rw [laterShape.hashed_iff, shape.hashed_iff, heads]
  constructor
  · rintro ⟨place, isPlace, placeSlot, member⟩
    rcases Sequences.mem_front.mp member with ⟨_, same⟩ | member
    · exact .inl same
    · exact .inr ⟨place, isPlace, placeSlot, member⟩
  · rintro (rfl | ⟨place, isPlace, placeSlot, member⟩)
    · exact ⟨head, isHead, slot, Sequences.mem_front.mpr (.inl ⟨rfl, rfl⟩)⟩
    · exact ⟨place, isPlace, placeSlot, Sequences.mem_front.mpr (.inr member)⟩

/-- Who is hashed after a sock was unlinked. -/
theorem hashed_unlink {later : Stack} {head : Node} (shape : s.Shape socks)
    (laterShape : later.Shape (Function.update socks head ((socks head).erase tsk)))
    (allocated : later.allocated = s.allocated) (isHead : s.IsHead head)
    (slot : head.slot = Node.hashList) (inside : tsk ∈ socks head) (other : SockPtr) :
    later.Hashed other ↔ other ≠ tsk ∧ s.Hashed other := by
  have heads := Stack.isHead_congr allocated
  rw [laterShape.hashed_iff, shape.hashed_iff, heads]
  constructor
  · rintro ⟨place, isPlace, placeSlot, member⟩
    by_cases here : place = head
    · subst here
      rw [Function.update_self, (shape.nodup isPlace).mem_erase_iff] at member
      exact ⟨member.1, place, isPlace, placeSlot, member.2⟩
    · rw [Function.update_of_ne here] at member
      refine ⟨?_, place, isPlace, placeSlot, member⟩
      rintro rfl
      exact here (shape.unique isPlace isHead (by rw [placeSlot, slot]) member inside)
  · rintro ⟨different, place, isPlace, placeSlot, member⟩
    refine ⟨place, isPlace, placeSlot, ?_⟩
    by_cases here : place = head
    · subst here
      rw [Function.update_self]
      exact (List.mem_erase_of_ne different).mpr member
    · rwa [Function.update_of_ne here]

end Stack.Shape

end TcpStack
