import TcpStack.Sock.Connecting
import TcpStack.Sock.Ports

/-!
# The local end of an active open

`tcp_sock_connect` fills in the local address and the local port of the sock, and
links the sock in two tables.

The address is read after the loop over the interfaces, through a cursor that has
come back to the head of their list. The head is the first member of `ustack_t`,
which ends where the address of an interface would be. The port is found in host
byte order and stored with its bytes swapped. So the endpoint is valid only if
the memory behind `ustack_t` and the ports in use happen to be right
(`endpoint_valid_iff`).

The call ignores that there was no port and that `tcp_hash` refused the sock. It
does what it should exactly when neither is the case (`connect_clean_iff`).
-/

set_option autoImplicit false

namespace TcpStack

open Lib

/-! ## The interfaces -/

/-- The address of a list node of the interfaces: that of the head, or that of an
`iface_info_t`. -/
inductive IfaceNode where
  | ifaceList
  | list (iface : ℕ)
  deriving DecidableEq, Repr

/-- `ustack_t`, as far as `tcp_sock_connect` uses it, with what is read through
`iface->ip` when the node is taken for the one of an interface. -/
structure Ustack where
  links : Heap IfaceNode
  nifs : ℕ
  ip : IfaceNode → U32

/-- The cursor after `list_for_each_entry` with an empty body: the loop stops
when it is back at the head. -/
def ifaceCursor (ustack : Ustack) : Except Fault IfaceNode := do
  let _ ← ustack.links.listFind (fun _ => true) .ifaceList (ustack.nifs + 1) fun _ =>
    .ok (none : Option Unit)
  pure .ifaceList

/-- The interfaces are linked in the given order. -/
structure Ustack.Lists (ustack : Ustack) (ifaces : List IfaceNode) : Prop where
  denotes : Denotes (fun _ => true) ustack.links .ifaceList ifaces
  nifs : ustack.nifs = ifaces.length

/-- Whatever interfaces there are, the cursor ends at the head of their list. -/
theorem Ustack.Lists.ifaceCursor_eq {ustack : Ustack} {ifaces : List IfaceNode}
    (lists : ustack.Lists ifaces) : ifaceCursor ustack = .ok .ifaceList := by
  have walked : ustack.links.listFind (fun _ => true) .ifaceList (ustack.nifs + 1)
      (fun _ => .ok (none : Option Unit)) = .ok (ifaces.findSome? fun _ => none) :=
    lists.denotes.find (Nat.lt_succ_of_le lists.nifs.ge) fun _ _ => rfl
  rw [ifaceCursor, walked]
  rfl

/-! ## Looking for a port -/

/-- `tcp_port_in_use` reports all ports of the range before this one, and not
this one. -/
structure Stack.FirstUnreported (s : Stack) (port : U16) : Prop where
  lower : portMin ≤ port
  upper : port < portMax
  unreported : tcpPortInUse s port = .ok false
  reported : ∀ before, portMin ≤ before → before < port → tcpPortInUse s before = .ok true

section Port

variable {s : Stack}

/-- The loop over the ports returns the first one that is not reported. -/
theorem tcpGetPortFrom_cases (decided : ∀ port, ∃ used, tcpPortInUse s port = .ok used)
    (count : ℕ) (start : U16) (inside : start.toNat + count < 65536) :
    (∃ port, start ≤ port ∧ port.toNat < start.toNat + count ∧
      tcpPortInUse s port = .ok false ∧
      (∀ before, start ≤ before → before < port → tcpPortInUse s before = .ok true) ∧
      tcpGetPortFrom s count start = .ok port) ∨
    tcpGetPortFrom s count start = .ok 0 ∧
      ∀ port, start ≤ port → port.toNat < start.toNat + count →
        tcpPortInUse s port = .ok true := by
  induction count generalizing start with
  | zero =>
      refine .inr ⟨rfl, fun port above below => ?_⟩
      rw [BitVec.le_def] at above
      omega
  | succ count ih =>
      have next : (start + 1).toNat = start.toNat + 1 := by
        rw [BitVec.toNat_add, show (1 : U16).toNat = 1 from rfl]
        omega
      obtain ⟨used, looked⟩ := decided start
      cases used with
      | false =>
          refine .inl ⟨start, BitVec.le_refl _, by omega, looked, fun before above below => ?_, ?_⟩
          · rw [BitVec.le_def] at above
            rw [BitVec.lt_def] at below
            omega
          · simp [tcpGetPortFrom, looked, bind, Except.bind, pure, Except.pure]
      | true =>
          have onward : tcpGetPortFrom s (count + 1) start =
              tcpGetPortFrom s count (start + 1) := by
            simp [tcpGetPortFrom, looked, bind, Except.bind]
          have reported : ∀ port, start ≤ port →
              (start + 1 ≤ port → tcpPortInUse s port = .ok true) →
                tcpPortInUse s port = .ok true := by
            intro port above later
            by_cases same : port = start
            · rw [same, looked]
            · refine later ?_
              have different : port.toNat ≠ start.toNat := fun equal =>
                same (BitVec.eq_of_toNat_eq equal)
              rw [BitVec.le_def] at above ⊢
              omega
          rw [onward]
          rcases ih (start + 1) (by omega) with ⟨port, above, below, free, before, found⟩ |
            ⟨none, all⟩
          · rw [BitVec.le_def] at above
            refine .inl ⟨port, ?_, by omega, free, fun lower least less => ?_, found⟩
            · rw [BitVec.le_def]
              omega
            · exact reported lower least fun further => before lower further less
          · refine .inr ⟨none, fun port above below => ?_⟩
            exact reported port above fun further => all port further (by omega)

/-- What `tcp_get_port` returns. -/
theorem tcpGetPort_cases (decided : ∀ port, ∃ used, tcpPortInUse s port = .ok used) :
    (∃ port, s.FirstUnreported port ∧ tcpGetPort s = .ok port) ∨
      tcpGetPort s = .ok 0 ∧ ∀ port, portMin ≤ port → port < portMax →
        tcpPortInUse s port = .ok true := by
  have range : portMin.toNat + (portMax.toNat - portMin.toNat) = portMax.toNat := rfl
  rcases tcpGetPortFrom_cases decided (portMax.toNat - portMin.toNat) portMin (by decide) with
    ⟨port, above, below, free, before, found⟩ | ⟨none, all⟩
  · rw [range, ← BitVec.lt_def] at below
    exact .inl ⟨port, ⟨above, below, free, before⟩, found⟩
  · rw [range] at all
    exact .inr ⟨none, fun port above below => all port above (BitVec.lt_def.mp below)⟩

/-- There is one such port at most. -/
theorem Stack.FirstUnreported.unique {first second : U16} (one : s.FirstUnreported first)
    (two : s.FirstUnreported second) : first = second := by
  have notBelow : ¬ first < second := fun below => by
    have seen := two.reported first one.lower below
    rw [one.unreported] at seen
    cases seen
  have notAbove : ¬ second < first := fun below => by
    have seen := one.reported second two.lower below
    rw [two.unreported] at seen
    cases seen
  rw [BitVec.lt_def] at notBelow notAbove
  exact BitVec.eq_of_toNat_eq (by omega)

/-- On lists in order the search for a port comes to an end. -/
theorem Stack.Shape.port_decided {socks : Sequences} (shape : s.Shape socks) (port : U16) :
    ∃ used, tcpPortInUse s port = .ok used := ⟨_, shape.tcpPortInUse_eq port⟩

/-- Looking for a port does not read the endpoint of a sock. -/
theorem Stack.Shape.tcpPortInUse_modify {socks : Sequences} (shape : s.Shape socks)
    (tsk : SockPtr) {change : TcpSock → TcpSock} (parent : ∀ sk, (change sk).parent = sk.parent)
    (port : U16) : tcpPortInUse (s.modify tsk change) port = tcpPortInUse s port := by
  have same : ∀ other, ((s.modify tsk change).sock other).parent = (s.sock other).parent :=
    s.modify_field TcpSock.parent tsk parent
  rw [shape.tcpPortInUse_eq, (shape.modify tsk change).tcpPortInUse_eq]
  refine congrArg (fun test => Except.ok (List.any _ test)) (funext fun other => ?_)
  rw [Node.portThroughHashList, Node.portThroughHashList, same]

/-- So the port found does not depend on it either. -/
theorem Stack.Shape.tcpGetPort_modify {socks : Sequences} (shape : s.Shape socks)
    (tsk : SockPtr) {change : TcpSock → TcpSock} (parent : ∀ sk, (change sk).parent = sk.parent) :
    tcpGetPort (s.modify tsk change) = tcpGetPort s := by
  have loop : ∀ (count : ℕ) (port : U16),
      tcpGetPortFrom (s.modify tsk change) count port = tcpGetPortFrom s count port := by
    intro count
    induction count with
    | zero => exact fun _ => rfl
    | succ count ih =>
        intro port
        simp only [tcpGetPortFrom, shape.tcpPortInUse_modify tsk parent, ih]
  exact loop _ _

end Port

/-! ## Filling in the endpoint -/

/-- The part of `tcp_sock_connect` that fills in both endpoints of the sock. -/
def tcpSockConnectNamed (s : Stack) (tsk : SockPtr) (skaddr : SockAddr) (ustack : Ustack) :
    Outcome Stack := do
  let s := s.modify tsk fun sk =>
    { sk with skDip := htonl skaddr.ip, skDport := htons skaddr.port }
  let iface ← s.stopOn (ifaceCursor ustack)
  let s := s.modify tsk fun sk => { sk with skSip := ustack.ip iface }
  let port ← s.stopOn (tcpGetPort s)
  pure (s.modify tsk fun sk => { sk with skSport := htons port })

/-- The part is the first one of the call. -/
theorem tcpSockConnect_named (s : Stack) (tsk : SockPtr) (skaddr : SockAddr) {ustack : Ustack}
    {ifaces : List IfaceNode} (lists : ustack.Lists ifaces) :
    tcpSockConnect s tsk skaddr (ustack.ip .ifaceList) =
      tcpSockConnectNamed s tsk skaddr ustack >>= fun s =>
        tcpBindHash s tsk >>= fun s =>
          tcpSockConnectRest (tcpSendControlPacket s tsk tcpSyn) tsk := by
  have merged : ∀ ip : U32, ((s.modify tsk fun sk =>
      { sk with skDip := htonl skaddr.ip, skDport := htons skaddr.port }).modify tsk fun sk =>
        { sk with skSip := ip }) =
      s.modify tsk fun sk =>
        { sk with skDip := htonl skaddr.ip, skDport := htons skaddr.port, skSip := ip } := by
    intro ip
    simp [Stack.modify]
  simp only [tcpSockConnect_eq, tcpSockConnectSent, tcpSockConnectNamed, lists.ifaceCursor_eq,
    Stack.stopOn, merged, bind_assoc, pure_bind]
  rfl

/-- The stack with both endpoints of a sock filled in. -/
def Stack.named (s : Stack) (tsk : SockPtr) (skaddr : SockAddr) (ip : U32) (port : U16) : Stack :=
  s.modify tsk fun sk =>
    { sk with skDip := htonl skaddr.ip, skDport := htons skaddr.port, skSip := ip,
              skSport := htons port }

/-- The local endpoint of the sock is the address of an interface and a port of
the range that no other sock of the bind table has. -/
structure Stack.EndpointValid (s : Stack) (tsk : SockPtr) (ustack : Ustack)
    (ifaces : List IfaceNode) (ip : U32) (port : U16) : Prop where
  address : ∃ iface ∈ ifaces, ip = ustack.ip iface
  lower : portMin ≤ port
  upper : port < portMax
  free : ∀ other, other ≠ tsk → s.InBind other → (s.sock other).skSport ≠ port

/-- Filling in the endpoint gives a valid one. -/
def Stack.PicksEndpoint (s : Stack) (tsk : SockPtr) (skaddr : SockAddr) (ustack : Ustack)
    (ifaces : List IfaceNode) : Prop :=
  ∃ later, tcpSockConnectNamed s tsk skaddr ustack = .ok later ∧
    s.EndpointValid tsk ustack ifaces (later.sock tsk).skSip (later.sock tsk).skSport

section Endpoint

variable {s : Stack} {socks : Sequences} {ustack : Ustack} {ifaces : List IfaceNode}

/-- The address comes from behind the list of interfaces, and the port has its
bytes swapped. -/
theorem Stack.Shape.connectNamed (shape : s.Shape socks) (lists : ustack.Lists ifaces)
    (tsk : SockPtr) (skaddr : SockAddr) {port : U16} (found : tcpGetPort s = .ok port) :
    tcpSockConnectNamed s tsk skaddr ustack =
      .ok (s.named tsk skaddr (ustack.ip .ifaceList) port) := by
  have addressed : tcpGetPort ((s.modify tsk fun sk =>
      { sk with skDip := htonl skaddr.ip, skDport := htons skaddr.port }).modify tsk fun sk =>
        { sk with skSip := ustack.ip .ifaceList }) = .ok port := by
    refine ((shape.modify tsk _).tcpGetPort_modify tsk ?_).trans
      ((shape.tcpGetPort_modify tsk ?_).trans found)
    · exact fun _ => rfl
    · exact fun _ => rfl
  simp only [tcpSockConnectNamed, lists.ifaceCursor_eq, Stack.stopOn, addressed, bind, Except.bind,
    pure, Except.pure]
  simp [Stack.named, Stack.modify]

theorem Stack.named_sock (s : Stack) (tsk : SockPtr) (skaddr : SockAddr) (ip : U32) (port : U16) :
    ((s.named tsk skaddr ip port).sock tsk).skSip = ip ∧
      ((s.named tsk skaddr ip port).sock tsk).skSport = htons port := by
  rw [Stack.named, Stack.modify_sock_self]
  exact ⟨rfl, rfl⟩

end Endpoint

/-- **When an active open picks a valid local endpoint.** The address filled in is that of a
listed interface, and the port is one of the range that no other sock of the bind
table has, if and only if what lies behind `ustack_t` is the address of a listed
interface, and the first port of the range that `tcp_port_in_use` does not report
is, with its bytes swapped, in the range and free. -/
theorem endpoint_valid_iff (s : Stack) (socks : Sequences) (shape : s.Shape socks) (tsk : SockPtr)
    (skaddr : SockAddr) (ustack : Ustack) (ifaces : List IfaceNode)
    (lists : ustack.Lists ifaces) :
    s.PicksEndpoint tsk skaddr ustack ifaces ↔
      (∃ iface ∈ ifaces, ustack.ip .ifaceList = ustack.ip iface) ∧
        ∃ port, s.FirstUnreported port ∧ portMin ≤ htons port ∧ htons port < portMax ∧
          ∀ other, other ≠ tsk → s.InBind other → (s.sock other).skSport ≠ htons port := by
  constructor
  · rintro ⟨later, filled, valid⟩
    rcases tcpGetPort_cases shape.port_decided with ⟨port, first, found⟩ | ⟨found, _⟩
    · cases filled.symm.trans (shape.connectNamed lists tsk skaddr found)
      obtain ⟨sip, sport⟩ := s.named_sock tsk skaddr (ustack.ip .ifaceList) port
      rw [sip, sport] at valid
      exact ⟨valid.address, port, first, valid.lower, valid.upper, valid.free⟩
    · cases filled.symm.trans (shape.connectNamed lists tsk skaddr found)
      have lower := valid.lower
      rw [(s.named_sock tsk skaddr (ustack.ip .ifaceList) 0).2] at lower
      exact absurd lower (by decide)
  · rintro ⟨address, port, first, lower, upper, free⟩
    rcases tcpGetPort_cases shape.port_decided with ⟨settled, unreported, found⟩ | ⟨_, all⟩
    · rw [unreported.unique first] at found
      refine ⟨_, shape.connectNamed lists tsk skaddr found, ?_⟩
      obtain ⟨sip, sport⟩ := s.named_sock tsk skaddr (ustack.ip .ifaceList) port
      rw [sip, sport]
      exact ⟨address, lower, upper, free⟩
    · have reported := all port first.lower first.upper
      rw [first.unreported] at reported
      cases reported

/-- One interface with address 10.0.0.1, and the given bytes behind the
`ustack_t`. -/
def oneIface (behind : U32) : Ustack where
  links
    | .ifaceList => ⟨.list 0, .list 0⟩
    | .list _ => ⟨.ifaceList, .ifaceList⟩
  nifs := 1
  ip
    | .ifaceList => behind
    | .list _ => 0x0a000001

theorem oneIface_lists (behind : U32) : (oneIface behind).Lists [.list 0] where
  denotes :=
    { path := ⟨rfl, rfl, rfl, rfl⟩
      nodup := by decide
      valid_of_mem := fun _ _ => rfl }
  nifs := rfl

/-- Nothing is bound, and the bytes behind the `ustack_t` happen to be the address
of the interface. -/
theorem endpoint_valid_iff_lucky :
    twoFresh.PicksEndpoint 2 ⟨htonl 2, htons 80⟩ (oneIface 0x0a000001) [.list 0] := by
  obtain ⟨socks, shape, empty⟩ := twoFresh_shape
  have orphans := shape.boundOrphans empty
  have first : twoFresh.FirstUnreported portMin :=
    { lower := BitVec.le_refl _
      upper := by decide
      unreported := shape.tcpPortInUse_orphans orphans (by decide)
      reported := fun before above below => absurd above (BitVec.not_le.mpr below) }
  refine (endpoint_valid_iff twoFresh socks shape 2 _ _ _ (oneIface_lists _)).mpr
    ⟨⟨.list 0, List.mem_singleton_self _, rfl⟩, portMin, first, by decide, by decide, ?_⟩
  exact fun other _ bound => absurd bound (Stack.not_inBind_of_empty empty other)

/-- **An active open that picks neither a valid address nor a free port**: port 14640 is
bound, port 12345 is free, its bytes swapped are 14640, and behind the `ustack_t`
are zeros. -/
theorem endpoint_invalid :
    ∃ bound, tcpSockBind twoFresh 1 ⟨0, htons 14640⟩ = .ok (0, bound) ∧
      ¬ bound.Holds 12345 ∧ bound.InBind 1 ∧ (bound.sock 1).skSport = 14640 ∧
      (oneIface 0).Lists [.list 0] ∧
      (∃ later, tcpSockConnectNamed bound 2 ⟨htonl 2, htons 80⟩ (oneIface 0) = .ok later ∧
        (later.sock 2).skSip = 0 ∧ (later.sock 2).skSport = 14640) ∧
      ¬ bound.PicksEndpoint 2 ⟨htonl 2, htons 80⟩ (oneIface 0) [.list 0] := by
  obtain ⟨socks, shape, empty⟩ := twoFresh_shape
  have unheld := Stack.not_inBind_of_empty empty
  have waiting : twoFresh.ReadyToBind socks [bindTo 1 14640] :=
    shape.readyToBind empty (by decide) (List.forall_mem_singleton.mpr rfl) (by decide)
  obtain ⟨bound, moved, done, binds, ready⟩ := waiting.bind
  have found := ready.shape.tcpGetPort_orphans ready.orphans
  have named := ready.shape.connectNamed (oneIface_lists 0) 2 ⟨htonl 2, htons 80⟩ found
  obtain ⟨sip, sport⟩ := bound.named_sock 2 ⟨htonl 2, htons 80⟩ 0 portMin
  refine ⟨bound, done, ?_, (binds.bound 1).mpr (.inl rfl), binds.port, oneIface_lists 0,
    ⟨_, named, sip, sport⟩, ?_⟩
  · rw [binds.holds_iff (unheld 1)]
    rintro (same | ⟨tsk, was, _⟩)
    · exact absurd same (by decide)
    · exact unheld tsk was
  · rintro ⟨later, filled, valid⟩
    cases filled.symm.trans named
    exact valid.free 1 (by decide) ((binds.bound 1).mpr (.inl rfl)) (binds.port.trans sport.symm)

/-! ## Connecting without a port or a 4-tuple -/

/-- `tcp_get_port` finds no port, or the 4-tuple that `tcp_sock_connect` fills in is
in the established table already. -/
def Stack.ConnectFails (s : Stack) (tsk : SockPtr) (skaddr : SockAddr) (ip : U32) : Prop :=
  ∃ port, tcpGetPort s = .ok port ∧ (port = 0 ∨ ¬ (s.named tsk skaddr ip port).TupleFree tsk)

/-- Nothing was emitted, and the tables and the state of the sock are what they
were. -/
structure Stack.Untouched (s : Stack) (tsk : SockPtr) (later : Stack) : Prop where
  out : later.out = s.out
  established : ∀ bucket,
    later.entries (.establishedTable bucket) = s.entries (.establishedTable bucket)
  listen : ∀ bucket, later.entries (.listenTable bucket) = s.entries (.listenTable bucket)
  bind : ∀ bucket, later.entries (.bindTable bucket) = s.entries (.bindTable bucket)
  state : (later.sock tsk).state = (s.sock tsk).state
  refCnt : (later.sock tsk).refCnt = (s.sock tsk).refCnt
  sndNxt : (later.sock tsk).sndNxt = (s.sock tsk).sndNxt

/-- A call that fails returns -1 and has no effect; one that returns zero, at once
or after its sleep, has linked the sock in both tables. -/
structure Stack.ConnectsCleanly (s : Stack) (tsk : SockPtr) (skaddr : SockAddr) (ip : U32) :
    Prop where
  fails : s.ConnectFails tsk skaddr ip →
    ∃ later, tcpSockConnect s tsk skaddr ip = .ok (some (-1), later) ∧ s.Untouched tsk later
  connects : ∀ result later, tcpSockConnect s tsk skaddr ip = .ok (result, later) →
    result = some 0 ∨ result = none → later.InBind tsk ∧ later.InEstablished tsk

section Connect

variable {s later : Stack} {socks : Sequences} {tsk : SockPtr}

/-- Linking in the bind table puts the sock in front of a bucket, and leaves the
buckets of the established table alone. -/
theorem Stack.Shape.tcpBindHash_ok (shape : s.Shape socks)
    (done : tcpBindHash s tsk = .ok later) :
    ∃ links, later = tcpSockIncRefCnt { s with links := links } tsk ∧
      (∃ bucket, (links (.bindTable bucket)).next = .bindHashList tsk) ∧
      ∀ bucket, Denotes Node.valid links (.establishedTable bucket)
        (socks.nodes (.establishedTable bucket)) := by
  obtain ⟨middle, relinked, done⟩ := Outcome.bind_eq_ok.mp done
  cases done
  obtain ⟨links, added, rfl⟩ := Stack.relink_eq_ok.mp relinked
  have wrote := Heap.eq_linked_of_listAddHead added
  set head := Node.bindTable (tcpHashFunction 0 0 (s.sock tsk).skSport 0)
  refine ⟨links, rfl, ⟨tcpHashFunction 0 0 (s.sock tsk).skSport 0, ?_⟩, fun bucket => ?_⟩
  · rw [wrote]
    simp [Heap.linked, head]
  · refine (shape.family.denotes _ (s.isHead_established bucket)).congr fun node member => ?_
    have next := (shape.family.denotes head (s.isHead_bind _)).path.next_mem
    have kind : node = .establishedTable bucket ∨ ∃ other, node = .hashList other := by
      rcases List.mem_cons.mp member with same | inside
      · exact .inl same
      · obtain ⟨other, _, same⟩ := List.mem_map.mp inside
        exact .inr ⟨other, same.symm⟩
    have plain : ∀ other, node ≠ .bindHashList other := by
      rcases kind with rfl | ⟨_, rfl⟩ <;> exact fun other same => by cases same
    have notHead : node ≠ head := by
      rcases kind with rfl | ⟨_, rfl⟩ <;> simp [head]
    rw [wrote]
    refine Heap.linked_of_ne (plain tsk) notHead fun atNext => ?_
    rw [← atNext] at next
    rcases List.mem_append.mp next with inside | same
    · obtain ⟨other, _, same⟩ := List.mem_map.mp inside
      exact plain other same.symm
    · exact notHead (List.mem_singleton.mp same)

/-- Linking a sock whose 4-tuple is free puts it in front of its bucket. -/
theorem tcpHash_inserts {sequence : List SockPtr} (notClosed : (s.sock tsk).state ≠ .closed)
    (notListen : (s.sock tsk).state ≠ .listen)
    (denotes : Denotes Node.valid s.links (.establishedTable (s.sock tsk).bucket)
      (sequence.map .hashList))
    (enough : (sequence.map Node.hashList).length < s.fuel)
    (free : ∀ other ∈ sequence, (s.sock other).tuple ≠ (s.sock tsk).tuple) {result : ℤ}
    (done : tcpHash s tsk = .ok (result, later)) :
    ∃ links, later = tcpSockIncRefCnt { s with links := links } tsk ∧
      (links (.establishedTable (s.sock tsk).bucket)).next = .hashList tsk ∧
      ∀ bucket, (links (.bindTable bucket)).next = (s.links (.bindTable bucket)).next := by
  have missing : sequence.find? (fun tmp => (s.sock tmp).hasTuple (s.sock tsk).skSip
      (s.sock tsk).skDip (s.sock tsk).skSport (s.sock tsk).skDport) = none := by
    rw [List.find?_eq_none]
    intro other inside taken
    exact free other inside (((s.sock other).hasTuple_iff _ _ _ _).mp taken)
  have search := s.find_hashed denotes enough fun tmp => tmp.hasTuple (s.sock tsk).skSip
    (s.sock tsk).skDip (s.sock tsk).skSport (s.sock tsk).skDport
  rw [missing, TcpSock.bucket] at search
  rw [tcpHash, if_neg notClosed, if_neg notListen] at done
  simp only [search] at done
  obtain ⟨same, none, done⟩ := Outcome.bind_eq_ok.mp done
  cases none
  obtain ⟨middle, relinked, done⟩ := Outcome.bind_eq_ok.mp done
  cases done
  obtain ⟨links, added, rfl⟩ := Stack.relink_eq_ok.mp relinked
  have wrote := Heap.eq_linked_of_listAddHead added
  refine ⟨links, rfl, ?_, fun bucket => ?_⟩
  · rw [wrote]
    simp [Heap.linked, TcpSock.bucket]
  · rw [wrote]
    simp [Heap.linked]

/-- The call returns zero or sleeps. -/
theorem tcpSockConnect_result {skaddr : SockAddr} {ip : U32} {result : Option ℤ}
    (done : tcpSockConnect s tsk skaddr ip = .ok (result, later)) :
    result ≠ some (-1) := by
  rw [tcpSockConnect_eq] at done
  obtain ⟨sent, _, done⟩ := Outcome.bind_eq_ok.mp done
  obtain ⟨⟨_, hashed⟩, _, done⟩ := Outcome.bind_eq_ok.mp done
  cases done
  split <;> simp

/-- Once the SYN is sent, the sock has its endpoints and is in front of a bucket of the
bind table. -/
theorem Stack.Shape.tcpSockConnectSent_ok (shape : s.Shape socks) {skaddr : SockAddr} {ip : U32}
    {port : U16} (found : tcpGetPort s = .ok port)
    (done : tcpSockConnectSent s tsk skaddr ip = .ok later) :
    ∃ links, later = tcpSendControlPacket (tcpSockIncRefCnt
        { s.named tsk skaddr ip port with links := links } tsk) tsk tcpSyn ∧
      (∃ bucket, (links (.bindTable bucket)).next = .bindHashList tsk) ∧
      ∀ bucket, Denotes Node.valid links (.establishedTable bucket)
        (socks.nodes (.establishedTable bucket)) := by
  have addressed : tcpGetPort (s.modify tsk fun sk =>
      { sk with skDip := htonl skaddr.ip, skDport := htons skaddr.port, skSip := ip }) =
        .ok port := by
    refine (shape.tcpGetPort_modify tsk ?_).trans found
    exact fun _ => rfl
  have merged : ((s.modify tsk fun sk =>
      { sk with skDip := htonl skaddr.ip, skDport := htons skaddr.port, skSip := ip }).modify tsk
        fun sk => { sk with skSport := htons port }) = s.named tsk skaddr ip port := by
    simp [Stack.named, Stack.modify]
  obtain ⟨chosen, settled, done⟩ := Outcome.bind_eq_ok.mp done
  rw [addressed] at settled
  cases settled
  rw [merged] at done
  obtain ⟨bound, binding, done⟩ := Outcome.bind_eq_ok.mp done
  cases done
  have named : (s.named tsk skaddr ip port).Shape socks := shape.modify tsk _
  obtain ⟨links, rfl, inFront, denotes⟩ := named.tcpBindHash_ok binding
  exact ⟨links, rfl, inFront, denotes⟩

/-- With a port and a free 4-tuple, the sock ends up in both tables. -/
theorem Stack.Shape.connect_inserts (shape : s.Shape socks) {skaddr : SockAddr} {ip : U32}
    {port : U16} (found : tcpGetPort s = .ok port)
    (free : (s.named tsk skaddr ip port).TupleFree tsk)
    {result : Option ℤ} (done : tcpSockConnect s tsk skaddr ip = .ok (result, later)) :
    later.InBind tsk ∧ later.InEstablished tsk := by
  rw [tcpSockConnect_eq] at done
  obtain ⟨sent, sending, done⟩ := Outcome.bind_eq_ok.mp done
  obtain ⟨links, rfl, ⟨bucket, inFront⟩, denotes⟩ := shape.tcpSockConnectSent_ok found sending
  have named : (s.named tsk skaddr ip port).Shape socks := shape.modify tsk _
  obtain ⟨⟨code, hashed⟩, hashing, done⟩ := Outcome.bind_eq_ok.mp done
  cases done
  set before := s.named tsk skaddr ip port
  set ready := tcpSetState (tcpSendControlPacket
    (tcpSockIncRefCnt { before with links := links } tsk) tsk tcpSyn) tsk .synSent
  have touches : before.Touches tsk ready :=
    (((Stack.Touches.relinked before tsk links).trans (.incRefCnt _ tsk)).trans
      (.sendControl _ tsk tcpSyn)).trans (.setState _ tsk .synSent)
  have tuples : ∀ other, (ready.sock other).tuple = (before.sock other).tuple :=
    touches.field TcpSock.tuple fun _ _ _ _ => rfl
  have home := TcpSock.bucket_of_tuple (tuples tsk)
  have state : (ready.sock tsk).state = .synSent := by
    simp only [ready, tcpSetState_sock, if_pos]
  have pointers : ready.links = links := by simp [ready]
  have enough : (socks.nodes (.establishedTable (before.sock tsk).bucket)).length < ready.fuel := by
    have bound := named.length_lt_fuel (before.isHead_established (before.sock tsk).bucket)
    rwa [Stack.fuel, ← touches.allocated] at bound
  rw [Stack.TupleFree, named.established_entries] at free
  obtain ⟨more, rfl, first, kept⟩ := tcpHash_inserts (by simp [state]) (by simp [state])
    (by rw [pointers, home]; exact denotes _) enough
    (fun other inside => by rw [tuples, tuples]; exact free other inside) hashing
  refine ⟨⟨bucket, Stack.mem_entries_of_next ?_ (by simp [Node.slot])⟩,
    ⟨(ready.sock tsk).bucket, Stack.mem_entries_of_next first (by simp [Node.slot])⟩⟩
  exact (kept bucket).trans (by rw [pointers]; exact inFront)

end Connect

/-- A call that fails is not clean. -/
theorem Stack.ConnectFails.not_clean {s : Stack} {tsk : SockPtr} {skaddr : SockAddr} {ip : U32}
    (fails : s.ConnectFails tsk skaddr ip) : ¬ s.ConnectsCleanly tsk skaddr ip := by
  intro clean
  obtain ⟨later, refused, _⟩ := clean.fails fails
  exact tcpSockConnect_result refused rfl

/-- **When a connect is clean.** On lists in order, a call that fails returns -1 and has no
effect, and a call that returns zero has linked the sock in both tables, if and only
if the call does not fail: there is a port that `tcp_port_in_use` does not report,
and the 4-tuple filled in is not in the established table. -/
theorem connect_clean_iff (s : Stack) (socks : Sequences) (shape : s.Shape socks) (tsk : SockPtr)
    (skaddr : SockAddr) (ip : U32) :
    s.ConnectsCleanly tsk skaddr ip ↔ ¬ s.ConnectFails tsk skaddr ip := by
  constructor
  · exact fun clean fails => fails.not_clean clean
  · intro succeeds
    refine ⟨fun fails => absurd fails succeeds, fun result later done _ => ?_⟩
    have port : ∃ port, tcpGetPort s = .ok port := by
      rcases tcpGetPort_cases shape.port_decided with ⟨port, _, found⟩ | ⟨found, _⟩
      · exact ⟨port, found⟩
      · exact ⟨0, found⟩
    obtain ⟨port, found⟩ := port
    have free : (s.named tsk skaddr ip port).TupleFree tsk := by
      by_contra taken
      exact succeeds ⟨port, found, .inr taken⟩
    exact shape.connect_inserts found free done

instance (s : Stack) (tsk : SockPtr) : Decidable (s.TupleFree tsk) :=
  inferInstanceAs (Decidable (∀ other ∈ _, _))

/-- On two fresh socks, the first connect is clean. -/
theorem connect_clean_iff_fresh : twoFresh.ConnectsCleanly 1 ⟨htonl 2, htons 80⟩ 1 := by
  obtain ⟨socks, shape, empty⟩ := twoFresh_shape
  have found := shape.tcpGetPort_orphans (shape.boundOrphans empty)
  refine (connect_clean_iff twoFresh socks shape 1 ⟨htonl 2, htons 80⟩ 1).mpr ?_
  rintro ⟨port, looked, none | taken⟩
  · rw [none] at looked
    cases found.symm.trans looked
  · cases found.symm.trans looked
    exact taken (by decide)

/-- The stack once a sock connects to port 80 of host 2. -/
def Stack.connecting (s : Stack) (tsk : SockPtr) : Stack :=
  match tcpSockConnect s tsk ⟨htonl 2, htons 80⟩ 1 with
  | .ok (_, later) => later
  | .error halt => halt.stack

theorem Stack.connecting_eq {s : Stack} {tsk : SockPtr}
    (asleep : (tcpSockConnect s tsk ⟨htonl 2, htons 80⟩ 1).toOption.map Prod.fst = some none) :
    tcpSockConnect s tsk ⟨htonl 2, htons 80⟩ 1 = .ok (none, s.connecting tsk) := by
  rw [Stack.connecting]
  cases returned : tcpSockConnect s tsk ⟨htonl 2, htons 80⟩ 1 with
  | ok pair =>
      rw [returned] at asleep
      exact congrArg Except.ok (Prod.ext (Option.some.inj asleep) rfl)
  | error halt =>
      rw [returned] at asleep
      cases asleep

/-- **A connect that fails unnoticed**: the 4-tuple is that of sock 1. The call does not
return -1, a SYN leaves, and the sock is bound and in `TCP_SYN_SENT`, but it is not
in the established table. -/
theorem connect_fails_unnoticed :
    let first := twoFresh.connecting 1
    let second := first.connecting 2
    tcpSockConnect twoFresh 1 ⟨htonl 2, htons 80⟩ 1 = .ok (none, first) ∧
      first.ConnectFails 2 ⟨htonl 2, htons 80⟩ 1 ∧
      tcpSockConnect first 2 ⟨htonl 2, htons 80⟩ 1 = .ok (none, second) ∧
      second.out.length = 2 ∧ second.InBind 2 ∧ (second.sock 2).state = .synSent ∧
      second.entries (.establishedTable (second.sock 2).bucket) = [1] ∧
      ¬ first.ConnectsCleanly 2 ⟨htonl 2, htons 80⟩ 1 := by
  intro first second
  have found : tcpGetPort first = .ok portMin := by decide
  have fails : first.ConnectFails 2 ⟨htonl 2, htons 80⟩ 1 := ⟨portMin, found, .inr (by decide)⟩
  have bound : 2 ∈ second.entries (.bindTable (tcpHashFunction 0 0 (htons portMin) 0)) := by
    decide
  have hashed : second.entries (.establishedTable (second.sock 2).bucket) = [1] := by decide
  have asleep : (tcpSockConnect first 2 ⟨htonl 2, htons 80⟩ 1).toOption.map Prod.fst =
      some none := by decide
  exact ⟨rfl, fails, Stack.connecting_eq asleep, by decide, ⟨_, bound⟩, by decide, hashed,
    fails.not_clean⟩

end TcpStack
