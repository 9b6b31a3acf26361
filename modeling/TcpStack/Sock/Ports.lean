import TcpStack.Sock.Lifetime

/-!
# Ports

What `tcp_sock_bind` does to the bind table, call after call. `tcp_port_in_use`
looks for a port where the sock has half a pointer, and for a sock that has no
parent that half is zero. So it finds no port in use, whatever the table holds:
an explicit port is always granted, and a call that leaves the choice open always
gets the first port of the range. Ports are bound once exactly when the callers
see to it themselves (`ports_honoured_iff`).
-/

set_option autoImplicit false

namespace TcpStack

open Lib

/-! ## What binding owes to its callers -/

/-- A call of `tcp_sock_bind`. -/
structure BindCall where
  tsk : SockPtr
  skaddr : SockAddr
  deriving DecidableEq, Repr

namespace BindCall

/-- The port asked for; `0` leaves the choice to the stack. -/
def port (call : BindCall) : U16 := ntohs call.skaddr.port

/-- The port asked for, or the first one of the range. -/
def granted (call : BindCall) : U16 := if call.port = 0 then portMin else call.port

end BindCall

/-- Some sock of the bind table has the port. -/
def Stack.Holds (s : Stack) (port : U16) : Prop :=
  ∃ tsk, s.InBind tsk ∧ (s.sock tsk).skSport = port

/-- No two socks of the bind table have the same port. -/
def Stack.PortsDistinct (s : Stack) : Prop :=
  ∀ first second, s.InBind first → s.InBind second →
    (s.sock first).skSport = (s.sock second).skSport → first = second

/-- A call returned what it should have. -/
structure BindCall.Obeys (call : BindCall) (s : Stack) (result : ℤ) (later : Stack) : Prop where
  explicit : call.port ≠ 0 → (result = -1 ↔ s.Holds call.port)
  full : call.port = 0 → (result = -1 ↔ ∀ port, portMin ≤ port → port < portMax → s.Holds port)
  taken : call.port = 0 → result ≠ -1 →
    portMin ≤ (later.sock call.tsk).skSport ∧ (later.sock call.tsk).skSport < portMax ∧
      ¬ s.Holds (later.sock call.tsk).skSport
  refused : result = -1 → later.sock call.tsk = s.sock call.tsk ∧
    ∀ bucket, later.entries (.bindTable bucket) = s.entries (.bindTable bucket)

/-- Along a sequence of calls, every call returns what it should, and no port is
bound twice. -/
def HonoursPorts : Stack → List BindCall → Prop
  | s, [] => s.PortsDistinct
  | s, call :: calls => s.PortsDistinct ∧
      ∃ result later, tcpSockBind s call.tsk call.skaddr = .ok (result, later) ∧
        call.Obeys s result later ∧ HonoursPorts later calls

/-! ## Looking for a port -/

section Port

variable {s : Stack} {socks : Sequences}

/-- The socks of the bind table have no parent. -/
def Stack.BoundOrphans (s : Stack) (socks : Sequences) : Prop :=
  ∀ bucket, ∀ tsk ∈ socks (.bindTable bucket), (s.sock tsk).parent = 0

/-- No port is found in use. -/
theorem Stack.Shape.tcpPortInUse_orphans (shape : s.Shape socks) (orphans : s.BoundOrphans socks)
    {sport : U16} (notZero : sport ≠ 0) : tcpPortInUse s sport = .ok false := by
  rw [shape.tcpPortInUse_eq]
  refine congrArg Except.ok (List.any_eq_false.mpr fun tsk inside => ?_)
  have zero : ¬ 0#16 = sport := notZero.symm
  simp [Node.portThroughHashList, orphans _ tsk inside, zero]

/-- The first port of the range is free. -/
theorem Stack.Shape.tcpGetPort_orphans (shape : s.Shape socks) (orphans : s.BoundOrphans socks) :
    tcpGetPort s = .ok portMin := by
  have range : portMax.toNat - portMin.toNat = 11110 + 1 := by decide
  rw [tcpGetPort, range, tcpGetPortFrom, shape.tcpPortInUse_orphans orphans (by decide)]
  rfl

/-- So every call is granted its port. -/
theorem Stack.Shape.tcpSockBind_orphans (shape : s.Shape socks) (orphans : s.BoundOrphans socks)
    (call : BindCall) :
    tcpSockBind s call.tsk call.skaddr =
      tcpBindHash (s.modify call.tsk fun sk => { sk with skSport := call.granted }) call.tsk >>=
        fun later => pure (0, later) := by
  by_cases any : call.port = 0
  · have zero : ntohs call.skaddr.port = 0 := any
    have notZero : portMin ≠ 0 := by decide
    simp only [tcpSockBind, tcpSockSetSport, BindCall.granted, any, zero, ne_eq, not_true_eq_false,
      if_false, if_true, shape.tcpGetPort_orphans orphans, Stack.stopOn, notZero,
      Bool.false_eq_true, bind, Except.bind, pure, Except.pure]
  · have notZero : ntohs call.skaddr.port ≠ 0 := any
    simp only [tcpSockBind, tcpSockSetSport, BindCall.granted, BindCall.port, notZero, ne_eq,
      not_false_eq_true, if_false, if_true, shape.tcpPortInUse_orphans orphans notZero,
      Stack.stopOn, Bool.false_eq_true, bind, Except.bind, pure, Except.pure]

end Port

/-! ## One call -/

/-- The socks of the calls to come are distinct, and as `alloc_tcp_sock` left them
as far as binding is concerned. -/
structure Stack.ReadyToBind (s : Stack) (socks : Sequences) (calls : List BindCall) : Prop where
  shape : s.Shape socks
  orphans : s.BoundOrphans socks
  allocated : ∀ call ∈ calls, call.tsk ∈ s.allocated
  parentless : ∀ call ∈ calls, (s.sock call.tsk).parent = 0
  unbound : ∀ call ∈ calls, ¬ s.InBind call.tsk
  distinct : (calls.map BindCall.tsk).Nodup

/-- The port of one more sock is taken. -/
structure Stack.Binds (s : Stack) (call : BindCall) (later : Stack) : Prop where
  bound : ∀ other, later.InBind other ↔ other = call.tsk ∨ s.InBind other
  port : (later.sock call.tsk).skSport = call.granted
  others : ∀ other, other ≠ call.tsk → later.sock other = s.sock other

namespace Stack.ReadyToBind

variable {s : Stack} {socks : Sequences} {call : BindCall} {calls : List BindCall}

theorem outside (ready : s.ReadyToBind socks (call :: calls)) (bucket : U8) :
    call.tsk ∉ socks (.bindTable bucket) := fun inside =>
  ready.unbound call List.mem_cons_self (ready.shape.inBind_iff.mpr ⟨bucket, inside⟩)

/-- Once a sock is bound, the calls after it can go on. -/
theorem tail {later : Stack} {moved : Sequences} (ready : s.ReadyToBind socks (call :: calls))
    (binds : s.Binds call later) (shape : later.Shape moved)
    (allocated : later.allocated = s.allocated)
    (parents : ∀ tsk, (later.sock tsk).parent = (s.sock tsk).parent) :
    later.ReadyToBind moved calls where
  shape := shape
  orphans := by
    intro bucket tsk inside
    rw [parents]
    rcases (binds.bound tsk).mp (shape.inBind_iff.mpr ⟨bucket, inside⟩) with same | before
    · rw [same]
      exact ready.parentless call List.mem_cons_self
    · obtain ⟨earlier, was⟩ := ready.shape.inBind_iff.mp before
      exact ready.orphans earlier tsk was
  allocated := by
    rw [allocated]
    exact fun other member => ready.allocated other (List.mem_cons_of_mem _ member)
  parentless := by
    intro other member
    rw [parents]
    exact ready.parentless other (List.mem_cons_of_mem _ member)
  unbound := by
    intro other member
    rw [binds.bound, not_or]
    refine ⟨fun same => ?_, ready.unbound other (List.mem_cons_of_mem _ member)⟩
    exact (List.nodup_cons.mp ready.distinct).1 (same ▸ List.mem_map_of_mem member)
  distinct := (List.nodup_cons.mp ready.distinct).2

/-- **A call on a fresh sock returns zero and binds it**, whoever holds its port. -/
theorem bind (ready : s.ReadyToBind socks (call :: calls)) :
    ∃ later moved, tcpSockBind s call.tsk call.skaddr = .ok (0, later) ∧
      s.Binds call later ∧ later.ReadyToBind moved calls := by
  have named : (s.modify call.tsk fun sk => { sk with skSport := call.granted }).Shape socks :=
    ready.shape.congr rfl rfl
  obtain ⟨links, hashed, shape, _⟩ :=
    named.tcpBindHash_linked (ready.allocated call List.mem_cons_self) ready.outside
  have done := ready.shape.tcpSockBind_orphans ready.orphans call
  rw [hashed] at done
  set linked : Stack :=
    { s.modify call.tsk fun sk => { sk with skSport := call.granted } with links := links }
  have self : linked.sock call.tsk = { s.sock call.tsk with skSport := call.granted } :=
    Function.update_self _ _ _
  have others : ∀ other, other ≠ call.tsk → linked.sock other = s.sock other :=
    fun other different => Function.update_of_ne different _ _
  have later : (tcpSockIncRefCnt linked call.tsk).Shape _ := shape.congr rfl rfl
  have parents : ∀ other, ((tcpSockIncRefCnt linked call.tsk).sock other).parent =
      (s.sock other).parent := by
    intro other
    rw [tcpSockIncRefCnt_field linked call.tsk TcpSock.parent (fun _ _ => rfl)]
    by_cases same : other = call.tsk
    · rw [same, self]
    · rw [others other same]
  have binds : s.Binds call (tcpSockIncRefCnt linked call.tsk) :=
    { bound := by
        intro other
        rw [later.inBind_iff, ready.shape.inBind_iff]
        by_cases same : other = call.tsk
        · exact iff_of_true ⟨_, by rw [Function.update_self, same]; exact List.mem_cons_self⟩
            (.inl same)
        · rw [or_iff_right same]
          exact exists_congr fun bucket => Sequences.mem_cons_of_ne same
      port := by
        rw [tcpSockIncRefCnt_field linked call.tsk TcpSock.skSport (fun _ _ => rfl),
          self]
      others := by
        intro other different
        rw [tcpSockIncRefCnt_sock, if_neg different, others other different] }
  exact ⟨_, _, done, binds, ready.tail binds later rfl parents⟩

end Stack.ReadyToBind

namespace Stack.Binds

variable {s later : Stack} {call : BindCall} (binds : s.Binds call later)
include binds

/-- The ports held are those held before, and the one granted. -/
theorem holds_iff (unbound : ¬ s.InBind call.tsk) (port : U16) :
    later.Holds port ↔ port = call.granted ∨ s.Holds port := by
  constructor
  · rintro ⟨tsk, bound, rfl⟩
    by_cases same : tsk = call.tsk
    · exact .inl (same ▸ binds.port)
    · refine .inr ⟨tsk, ((binds.bound tsk).mp bound).resolve_left same, ?_⟩
      rw [binds.others tsk same]
  · rintro (rfl | ⟨tsk, bound, rfl⟩)
    · exact ⟨call.tsk, (binds.bound _).mpr (.inl rfl), binds.port⟩
    · refine ⟨tsk, (binds.bound tsk).mpr (.inr bound), ?_⟩
      rw [binds.others tsk]
      rintro rfl
      exact unbound bound

/-- The ports stay distinct when nobody held the one granted. -/
theorem portsDistinct (distinct : s.PortsDistinct) (free : ¬ s.Holds call.granted) :
    later.PortsDistinct := by
  have granted : ∀ tsk, later.InBind tsk → (later.sock tsk).skSport = call.granted →
      tsk = call.tsk := by
    intro tsk bound same
    by_contra different
    rw [binds.others tsk different] at same
    exact free ⟨tsk, ((binds.bound tsk).mp bound).resolve_left different, same⟩
  intro first second inFirst inSecond same
  by_cases isFirst : first = call.tsk
  · rw [isFirst, granted second inSecond (by rw [← same, isFirst, binds.port])]
  · by_cases isSecond : second = call.tsk
    · exact absurd (granted first inFirst (by rw [same, isSecond, binds.port])) isFirst
    · rw [binds.others first isFirst, binds.others second isSecond] at same
      exact distinct first second (((binds.bound first).mp inFirst).resolve_left isFirst)
        (((binds.bound second).mp inSecond).resolve_left isSecond) same

/-- A call that returned zero obeys exactly when nobody held the port granted. -/
theorem obeys_iff : call.Obeys s 0 later ↔ ¬ s.Holds call.granted := by
  have returned : ¬ (0 : ℤ) = -1 := by decide
  constructor
  · intro obeys held
    by_cases any : call.port = 0
    · exact (obeys.taken any returned).2.2 (binds.port ▸ held)
    · rw [BindCall.granted, if_neg any] at held
      exact returned ((obeys.explicit any).mpr held)
  · intro free
    refine ⟨fun some => ?_, fun any => ?_, fun any _ => ?_, fun refused => absurd refused returned⟩
    · rw [BindCall.granted, if_neg some] at free
      exact iff_of_false returned free
    · rw [BindCall.granted, if_pos any] at free
      exact iff_of_false returned fun all => free (all portMin (by decide) (by decide))
    · rw [binds.port]
      refine ⟨?_, ?_, free⟩
      · rw [BindCall.granted, if_pos any]
        exact BitVec.le_refl _
      · rw [BindCall.granted, if_pos any]
        decide

end Stack.Binds

/-! ## Every sequence of calls -/

/-- From any table, the calls of a sequence obey exactly when the ports they are
granted are distinct, among themselves and from those already held. -/
theorem Stack.ReadyToBind.honoursPorts_iff {s : Stack} {socks : Sequences} {calls : List BindCall}
    (ready : s.ReadyToBind socks calls) :
    HonoursPorts s calls ↔ s.PortsDistinct ∧ (∀ call ∈ calls, ¬ s.Holds call.granted) ∧
      (calls.map BindCall.granted).Nodup := by
  induction calls generalizing s socks with
  | nil => simp [HonoursPorts]
  | cons call calls ih =>
      obtain ⟨later, moved, done, binds, readyLater⟩ := ready.bind
      have unbound := ready.unbound call List.mem_cons_self
      have next : HonoursPorts s (call :: calls) ↔ s.PortsDistinct ∧ ¬ s.Holds call.granted ∧
          HonoursPorts later calls := by
        refine and_congr_right fun _ => ⟨?_, ?_⟩
        · rintro ⟨result, last, returned, obeys, rest⟩
          cases done.symm.trans returned
          exact ⟨binds.obeys_iff.mp obeys, rest⟩
        · rintro ⟨free, rest⟩
          exact ⟨0, later, done, binds.obeys_iff.mpr free, rest⟩
      rw [next, ih readyLater]
      simp only [List.forall_mem_cons, List.map_cons, List.nodup_cons, binds.holds_iff unbound,
        not_or]
      constructor
      · rintro ⟨distinct, free, _, apart, nodup⟩
        refine ⟨distinct, ⟨free, fun other member => (apart other member).2⟩, ?_, nodup⟩
        intro again
        obtain ⟨other, member, same⟩ := List.mem_map.mp again
        exact (apart other member).1 same
      · rintro ⟨distinct, ⟨free, rest⟩, fresh, nodup⟩
        refine ⟨distinct, free, binds.portsDistinct distinct free, ?_, nodup⟩
        exact fun other member => ⟨fun same => fresh (same ▸ List.mem_map_of_mem member),
          rest other member⟩

theorem Stack.not_inBind_of_empty {s : Stack}
    (empty : ∀ bucket, s.entries (.bindTable bucket) = []) (tsk : SockPtr) : ¬ s.InBind tsk := by
  rintro ⟨bucket, inside⟩
  rw [empty] at inside
  exact absurd inside List.not_mem_nil

theorem Stack.Shape.boundOrphans {s : Stack} {socks : Sequences} (shape : s.Shape socks)
    (empty : ∀ bucket, s.entries (.bindTable bucket) = []) : s.BoundOrphans socks :=
  fun bucket tsk inside =>
    absurd (shape.inBind_iff.mpr ⟨bucket, inside⟩) (Stack.not_inBind_of_empty empty tsk)

/-- From an empty table, a sequence of calls on distinct fresh socks can begin. -/
theorem Stack.Shape.readyToBind {s : Stack} {socks : Sequences} (shape : s.Shape socks)
    (empty : ∀ bucket, s.entries (.bindTable bucket) = []) {calls : List BindCall}
    (allocated : ∀ call ∈ calls, call.tsk ∈ s.allocated)
    (fresh : ∀ call ∈ calls, s.sock call.tsk = zeroedSock)
    (distinct : (calls.map BindCall.tsk).Nodup) : s.ReadyToBind socks calls where
  shape := shape
  orphans := shape.boundOrphans empty
  allocated := allocated
  parentless := by
    intro call member
    rw [fresh call member]
    rfl
  unbound := fun call _ => Stack.not_inBind_of_empty empty call.tsk
  distinct := distinct

/-- **When no port is bound twice.** From an empty bind table, every call of a sequence on
distinct fresh socks returns what it should, and no port is bound twice, if and
only if the ports asked for are distinct, where a call that leaves the choice open
counts as one for the first port of the range. -/
theorem ports_honoured_iff (s : Stack) (socks : Sequences) (shape : s.Shape socks)
    (empty : ∀ bucket, s.entries (.bindTable bucket) = []) (calls : List BindCall)
    (allocated : ∀ call ∈ calls, call.tsk ∈ s.allocated)
    (fresh : ∀ call ∈ calls, s.sock call.tsk = zeroedSock)
    (distinct : (calls.map BindCall.tsk).Nodup) :
    HonoursPorts s calls ↔ (calls.map BindCall.granted).Nodup := by
  have unheld := Stack.not_inBind_of_empty empty
  have vacant : s.PortsDistinct := fun first _ inFirst => absurd inFirst (unheld first)
  have free : ∀ call ∈ calls, ¬ s.Holds call.granted := by
    rintro call _ ⟨tsk, bound, _⟩
    exact unheld tsk bound
  rw [(shape.readyToBind empty allocated fresh distinct).honoursPorts_iff, and_iff_right vacant,
    and_iff_right free]

/-- Two socks just allocated. -/
def twoFresh : Stack := allocTcpSock (allocTcpSock initTcpStack 1) 2

/-- A call that binds a sock to the given port. -/
def bindTo (tsk : SockPtr) (port : U16) : BindCall := ⟨tsk, ⟨0, htons port⟩⟩

theorem twoFresh_shape :
    ∃ socks, twoFresh.Shape socks ∧ ∀ bucket, twoFresh.entries (.bindTable bucket) = [] := by
  have shape := (initTcpStack_shape.alloc (show (1 : SockPtr) ≠ 0 by decide) (by decide)).alloc
    (show (2 : SockPtr) ≠ 0 by decide) (by decide)
  exact ⟨_, shape, fun bucket => (shape.bind_entries bucket).trans (by simp)⟩

theorem twoFresh_fresh (first second : U16) :
    ∀ call ∈ [bindTo 1 first, bindTo 2 second], twoFresh.sock call.tsk = zeroedSock :=
  List.forall_mem_cons.mpr ⟨rfl, List.forall_mem_singleton.mpr rfl⟩

/-- **Two fresh socks are bound to port 80**, one after the other. -/
theorem port_bound_twice :
    (∃ socks, twoFresh.Shape socks) ∧ (∀ bucket, twoFresh.entries (.bindTable bucket) = []) ∧
      (∀ call ∈ [bindTo 1 80, bindTo 2 80], twoFresh.sock call.tsk = zeroedSock) ∧
      ¬ HonoursPorts twoFresh [bindTo 1 80, bindTo 2 80] := by
  obtain ⟨socks, shape, empty⟩ := twoFresh_shape
  refine ⟨⟨socks, shape⟩, empty, twoFresh_fresh 80 80, ?_⟩
  rw [(shape.readyToBind empty (by decide) (twoFresh_fresh 80 80) (by decide)).honoursPorts_iff]
  rintro ⟨_, _, nodup⟩
  exact absurd nodup (by decide)

/-- Two socks that ask for two ports get them. -/
theorem ports_honoured_iff_distinct : HonoursPorts twoFresh [bindTo 1 80, bindTo 2 81] := by
  obtain ⟨socks, shape, empty⟩ := twoFresh_shape
  exact (ports_honoured_iff twoFresh socks shape empty _ (by decide) (twoFresh_fresh 80 81)
    (by decide)).mpr (by decide)

end TcpStack
