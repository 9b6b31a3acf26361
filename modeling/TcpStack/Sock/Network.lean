import TcpStack.Lib.Network
import TcpStack.Sock.Sleeping
import TcpStack.Sock.Stops

/-!
# Hosts on a network

Hosts that all run this program, with applications that make orderly calls, on a
network that may lose, duplicate, delay, reorder and misroute what they send, and
damage it so that its checksum shows it: at any time any host may be handed any
segment that any host ever sent. A call or a segment that stops the program takes the
host down for good.

Every segment ever sent is a SYN of a call of `tcp_sock_connect`, or belongs to a
connection that both ends asked for (`Segment.Valid`). It follows that a sock is
connected only if two calls of `tcp_sock_connect` asked for each other, from and
to the first port of the range (`connection_agreed`), so that a client never gets
a connection to a server (`server_never_connected`). No segment is ever dropped for
its sequence number, and none is taken for a reset (`segments_accepted`). Where two
calls did ask for each other, the connection can still be completed
(`open_completes`).
-/

set_option autoImplicit false

namespace TcpStack

open Lib

/-! ## Hosts -/

/-- A host that runs the program, and whether the program has stopped. -/
structure Host where
  stack : Stack
  down : Bool

namespace Host

/-- The host before the first call. -/
def init : Host := ⟨initTcpStack, false⟩

/-- The host after something that may stop the program. -/
def after : Outcome Stack → Host
  | .ok later => ⟨later, false⟩
  | .error halt => ⟨halt.stack, true⟩

end Host

/-- The event is a call of the application. -/
def Event.IsCall : Event → Prop
  | .arrive _ _ _ _ => False
  | _ => True

/-- What a host may be handed for a segment: a packet that carries it, or one so
damaged that its checksum shows it. -/
def Segment.Arrives (sent : Segment) (packet : Memory U8) (ip tcp : ℕ) : Prop :=
  Delivers packet sent ∧ ip = packetToIpHdr ∧ tcp = tcpPlace ∨
    checksumMatches packet ip tcp = false

/-- The application of a running host makes a call. -/
def Host.Calls (allowed : Event → Prop) (host later : Host) : Prop :=
  host.down = false ∧ ∃ event : Event, event.IsCall ∧ allowed event ∧
    event.Possible host.stack ∧ event.Orderly host.stack ∧
    later = .after (event.run host.stack)

/-- A running host is handed a packet for a segment. -/
def Host.Receives (sent : Segment) (host later : Host) : Prop :=
  host.down = false ∧ ∃ packet ip tcp tmp, sent.Arrives packet ip tcp ∧
    (Event.arrive packet ip tcp tmp).Possible host.stack ∧
    later = .after ((Event.arrive packet ip tcp tmp).run host.stack)

/-- Hosts with names, and the calls that their applications may make. -/
def hosts {Name : Type} (allowed : Name → Event → Prop) : Protocol Name Host Segment where
  sent host := {sent | sent ∈ host.stack.out}
  moves name := Host.Calls (allowed name)
  takes := Host.Receives

/-- All hosts before their first calls. -/
def quietHosts (Name : Type) : Name → Host := fun _ => .init

/-! ## Segments -/

/-- The endpoints of a segment, seen from its sender. -/
def Segment.tuple (sent : Segment) : U32 × U32 × U16 × U16 :=
  (sent.saddr, sent.daddr, sent.sport, sent.dport)

/-- The same connection, seen from the other end. -/
def mirror (tuple : U32 × U32 × U16 × U16) : U32 × U32 × U16 × U16 :=
  (tuple.2.1, tuple.1, tuple.2.2.2, tuple.2.2.1)

/-- Some host may call `tcp_sock_connect` for the connection. -/
def Asks {Name : Type} (allowed : Name → Event → Prop) (tuple : U32 × U32 × U16 × U16) : Prop :=
  ∃ name tsk skaddr cursorIp, allowed name (.connect tsk skaddr cursorIp) ∧
    tuple = (cursorIp, htonl skaddr.ip, htons portMin, htons skaddr.port)

section Wire

variable {Name : Type} {allowed : Name → Event → Prop} {wire more : Set Segment}

/-- A SYN for the connection was sent. -/
def Opened (wire : Set Segment) (tuple : U32 × U32 × U16 × U16) : Prop :=
  ∃ sent ∈ wire, sent.flags = tcpSyn ∧ sent.tuple = tuple

/-- SYNs for the connection were sent from both ends. -/
structure Paired (wire : Set Segment) (tuple : U32 × U32 × U16 × U16) : Prop where
  here : Opened wire tuple
  there : Opened wire (mirror tuple)

theorem Opened.mono {tuple : U32 × U32 × U16 × U16} (sub : wire ⊆ more)
    (opened : Opened wire tuple) : Opened more tuple := by
  obtain ⟨sent, member, found⟩ := opened
  exact ⟨sent, sub member, found⟩

theorem Paired.mono {tuple : U32 × U32 × U16 × U16} (sub : wire ⊆ more)
    (paired : Paired wire tuple) : Paired more tuple :=
  ⟨paired.here.mono sub, paired.there.mono sub⟩

theorem Paired.mirror {tuple : U32 × U32 × U16 × U16} (paired : Paired wire tuple) :
    Paired wire (mirror tuple) := ⟨paired.there, paired.here⟩

/-- An acknowledgement or a FIN with the number after the SYN, or the answer to a
segment that was not expected. -/
def Segment.Follows (sent : Segment) : Prop :=
  (sent.flags = tcpAck ∨ sent.flags = tcpFin) ∧ sent.seq = 1 ∨
    sent.flags = tcpRst ||| tcpAck ∧ sent.seq = 0

/-- What a segment on the wire can be. -/
structure Segment.Valid (allowed : Name → Event → Prop) (wire : Set Segment) (sent : Segment) :
    Prop where
  bare : sent.payload = []
  kind : sent.flags = tcpSyn ∧ sent.seq = 0 ∧ Asks allowed sent.tuple ∨
    sent.Follows ∧ Paired wire sent.tuple

namespace Segment.Valid

variable {sent : Segment}

theorem mono (sub : wire ⊆ more) (valid : sent.Valid allowed wire) : sent.Valid allowed more :=
  ⟨valid.bare, valid.kind.imp_right (And.imp_right (Paired.mono sub))⟩

/-- The sender of a segment on the wire has sent a SYN. -/
theorem opened (valid : sent.Valid allowed wire) (member : sent ∈ wire) :
    Opened wire sent.tuple := by
  rcases valid.kind with ⟨isSyn, _⟩ | ⟨_, paired⟩
  · exact ⟨sent, member, isSyn, rfl⟩
  · exact paired.here

theorem notRst (valid : sent.Valid allowed wire) : sent.flags ≠ tcpRst := by
  rcases valid.kind with ⟨flags, _⟩ | ⟨⟨flags | flags, _⟩ | ⟨flags, _⟩, _⟩ <;> rw [flags] <;> decide

theorem seq (valid : sent.Valid allowed wire) : sent.seq = 0 ∨ sent.seq = 1 := by
  rcases valid.kind with ⟨_, seq, _⟩ | ⟨⟨_, seq⟩ | ⟨_, seq⟩, _⟩
  · exact .inl seq
  · exact .inr seq
  · exact .inl seq

/-- Every sock that has received nothing accepts it. -/
theorem accepted (valid : sent.Valid allowed wire) {sk : TcpSock}
    (origin : sk.origin = (0, 0, tcpDefaultWindow)) : isTcpSeqValid sk sent.received = true :=
  isTcpSeqValid_early origin valid.seq (Segment.received_seqEnd valid.bare)

end Segment.Valid

/-! ## What holds of a host -/

/-- What the wire says about the stack of a running host. -/
structure Stack.Fits (allowed : Name → Event → Prop) (wire : Set Segment) (s : Stack) :
    Prop where
  sleeps : s.Sleeps
  valid : ∀ sent ∈ s.out, sent.Valid allowed wire
  /-- A sock that has sent its SYN sent it with the endpoints that it has now. -/
  opened : ∀ tsk ∈ s.allocated, (s.sock tsk).sndNxt ≠ 0 → Opened wire (s.sock tsk).tuple
  /-- A sock is connected only after its peer has sent a SYN, too. -/
  answered : ∀ tsk ∈ s.allocated, (s.sock tsk).state.connected →
    Opened wire (mirror (s.sock tsk).tuple)

/-- What the wire says about a host. -/
structure Host.Fits (allowed : Name → Event → Prop) (wire : Set Segment) (host : Host) :
    Prop where
  valid : ∀ sent ∈ host.stack.out, sent.Valid allowed wire
  running : host.down = false → host.stack.Fits allowed wire

variable {s later : Stack} {tsk : SockPtr}

theorem Stack.Fits.mono (sub : wire ⊆ more) (fits : s.Fits allowed wire) : s.Fits allowed more where
  sleeps := fits.sleeps
  valid := fun sent member => (fits.valid sent member).mono sub
  opened := fun tsk member sent => (fits.opened tsk member sent).mono sub
  answered := fun tsk member connected => (fits.answered tsk member connected).mono sub

theorem Host.Fits.mono {host : Host} (sub : wire ⊆ more) (fits : host.Fits allowed wire) :
    host.Fits allowed more where
  valid := fun sent member => (fits.valid sent member).mono sub
  running := fun up => (fits.running up).mono sub

/-- What the wire says about a sock. -/
structure Stack.Shown (wire : Set Segment) (s : Stack) (tsk : SockPtr) : Prop where
  opened : (s.sock tsk).sndNxt ≠ 0 → Opened wire (s.sock tsk).tuple
  answered : (s.sock tsk).state.connected → Opened wire (mirror (s.sock tsk).tuple)

/-- Some segments were sent, and every sock stays as it is or is in line with the
wire. -/
theorem Stack.Fits.step (fits : s.Fits allowed wire) (sleeps : later.Sleeps)
    {emitted : List Segment} (out : later.out = s.out ++ emitted) (sub : wire ⊆ more)
    (valid : ∀ sent ∈ emitted, sent.Valid allowed more)
    (shown : ∀ tsk ∈ later.allocated,
      tsk ∈ s.allocated ∧ s.Stays later tsk ∨ later.Shown more tsk) :
    later.Fits allowed more where
  sleeps := sleeps
  valid := by
    rw [out]
    intro sent member
    rcases List.mem_append.mp member with before | added
    · exact (fits.valid sent before).mono sub
    · exact valid sent added
  opened := by
    intro tsk member
    rcases shown tsk member with ⟨before, stays⟩ | shown
    · rw [stays.sndNxt, stays.tuple]
      exact fun sent => (fits.opened tsk before sent).mono sub
    · exact shown.opened
  answered := by
    intro tsk member
    rcases shown tsk member with ⟨before, stays⟩ | shown
    · rw [stays.state, stays.tuple]
      exact fun connected => (fits.answered tsk before connected).mono sub
    · exact shown.answered

/-- Only one sock was made or altered. -/
theorem Stack.Fits.alter (fits : s.Fits allowed wire) (sleeps : later.Sleeps)
    {emitted : List Segment} (out : later.out = s.out ++ emitted) (sub : wire ⊆ more)
    (valid : ∀ sent ∈ emitted, sent.Valid allowed more)
    (others : ∀ other, other ≠ tsk → s.Stays later other)
    (grown : ∀ other ∈ later.allocated, other = tsk ∨ other ∈ s.allocated)
    (shown : later.Shown more tsk) : later.Fits allowed more := by
  refine fits.step sleeps out sub valid fun other member => ?_
  by_cases same : other = tsk
  · rw [same]
    exact .inr shown
  · exact .inl ⟨(grown other member).resolve_left same, others other same⟩

/-! ## Steps -/

/-- A connected sock has a SYN of both ends on the wire. -/
theorem Stack.Fits.paired (fits : s.Fits allowed wire) (member : tsk ∈ s.allocated)
    (connected : (s.sock tsk).state.connected) : Paired wire (s.sock tsk).tuple := by
  have stands := fits.sleeps.reached.standing.stands tsk member
  exact ⟨fits.opened tsk member (stands.opened (stands.connected connected)),
    fits.answered tsk member connected⟩

theorem Stack.Fits.closing_valid (fits : s.Fits allowed wire) (member : tsk ∈ s.allocated) :
    ∀ sent ∈ (s.sock tsk).closingSegments, sent.Valid allowed wire := by
  intro sent emitted
  have numbered := (fits.sleeps.reached.standing.stands tsk member).numbered
  rw [TcpSock.closingSegments] at emitted
  cases state : (s.sock tsk).state <;> rw [state] at numbered emitted
  case established =>
    obtain rfl := List.mem_singleton.mp emitted
    exact ⟨rfl, .inr ⟨.inl ⟨.inr rfl, List.mem_singleton.mp numbered⟩,
      fits.paired member (.inl state)⟩⟩
  case closeWait => cases numbered
  all_goals cases emitted

theorem Stack.Fits.closed (fits : s.Fits allowed wire) (sleeps : later.Sleeps)
    (member : tsk ∈ s.allocated) (closed : s.Closed tsk [] later) (sub : wire ⊆ more) :
    later.Fits allowed more := by
  have stands := fits.sleeps.reached.standing.stands tsk member
  refine fits.alter sleeps closed.alters.out sub
    (fun sent emitted => (fits.closing_valid member sent emitted).mono sub) closed.alters.others
    closed.alters.grown ⟨?_, ?_⟩
  · rw [(closed.numbered stands).2, closed.tuple]
    exact fun sent => (fits.opened tsk member sent).mono sub
  · rw [closed.state, closed.tuple]
    exact fun connected =>
      (fits.answered tsk member (TcpState.connected_of_afterClose connected)).mono sub

theorem not_connected_of_opening {state : TcpState} (opening : state = .closed ∨ state = .listen ∨
    state = .synSent) : ¬ state.connected := by
  rcases opening with rfl | rfl | rfl <;> simp [TcpState.connected]

/-- A call keeps a stack in line with the wire. -/
theorem Stack.Fits.call {name : Name} {event : Event} (fits : s.Fits allowed wire)
    (isCall : event.IsCall) (possible : event.Possible s) (inOrder : event.Orderly s)
    (isAllowed : allowed name event) (done : event.run s = .ok later) (sub : wire ⊆ more)
    (sent : {sent | sent ∈ later.out} ⊆ more) : later.Fits allowed more := by
  have sleeps := fits.sleeps.event possible inOrder done
  have standing := fits.sleeps.reached.standing
  cases fits.sleeps.reached.effect possible inOrder done with
  | quiet quiet =>
      have out : later.out = s.out ++ [] := by rw [quiet.out, List.append_nil]
      refine fits.step sleeps out sub (fun _ => nofun) fun other member => ?_
      exact .inl ⟨quiet.allocated ▸ member, quiet.stays other⟩
  | makes makes =>
      have out : later.out = s.out ++ [] := by rw [makes.out, List.append_nil]
      refine fits.alter sleeps out sub (fun _ => nofun) makes.others (fun other member => ?_) ?_
      · rw [makes.allocated] at member
        exact List.mem_cons.mp member
      · constructor <;> rw [makes.sock]
        · exact fun sent => absurd rfl sent
        · exact fun connected => absurd connected (not_connected_of_opening (.inl rfl))
  | names named =>
      have stands := standing.stands _ possible
      have none := stands.sndNxt_eq_zero inOrder.1 inOrder.2
      refine fits.alter sleeps named.alters.out sub (fun _ => nofun) named.alters.others
        named.alters.grown ⟨fun sent => ?_, fun connected => ?_⟩
      · exact absurd (named.sndNxt.trans none) sent
      · rw [named.state] at connected
        exact absurd (stands.connected connected) (stands.not_inEstablished none)
  | listens listens =>
      refine fits.alter sleeps listens.alters.out sub (fun _ => nofun) listens.alters.others
        listens.alters.grown ⟨?_, ?_⟩
      · rw [listens.sndNxt, listens.tuple]
        exact fun sent => (fits.opened _ possible sent).mono sub
      · rw [listens.state]
        exact fun connected => absurd connected (not_connected_of_opening (.inr (.inl rfl)))
  | @connects tsk skaddr cursorIp _ connects =>
      obtain ⟨sk, tuple, sndNxt, alters⟩ := connects.alters
      have none := (standing.stands _ possible).sndNxt_eq_zero inOrder.1 inOrder.2.1
      have emitted : sk.controlSegment tcpSyn ∈ later.out := by
        rw [alters.out]
        exact List.mem_append_right _ (List.mem_singleton_self _)
      refine fits.alter sleeps alters.out sub ?_ alters.others alters.grown ⟨fun _ => ?_, ?_⟩
      · intro segment isSyn
        obtain rfl := List.mem_singleton.mp isSyn
        refine ⟨rfl, .inl ⟨rfl, sndNxt.trans none, name, tsk, skaddr, cursorIp, isAllowed, ?_⟩⟩
        exact tuple.trans connects.tuple
      · exact ⟨_, sent emitted, rfl, tuple⟩
      · rw [connects.state]
        exact fun connected => absurd connected (not_connected_of_opening (.inr (.inr rfl)))
  | closes closed => exact fits.closed sleeps possible closed sub
  | arrives => exact isCall.elim

/-- A segment of the wire keeps a stack in line with the wire. -/
theorem Stack.Fits.segment {sent : Segment} (fits : s.Fits allowed wire) (sleeps : later.Sleeps)
    (member : sent ∈ wire) (valid : sent.Valid allowed wire)
    (found : tcpSockLookup s sent.received = .ok tsk) (hashed : s.Hashed tsk)
    (effect : SegmentEffect s tsk sent.received later) (sub : wire ⊆ more) :
    later.Fits allowed more := by
  have reached := fits.sleeps.reached
  obtain ⟨_, orderly⟩ := reached.inOrder
  have shape := orderly.sound.shape
  have here := shape.allocated_of_hashed hashed
  have stands := reached.standing.stands tsk here
  -- a sock that does not listen got the segment because it has the mirrored endpoints
  have paired : (s.sock tsk).state ≠ .listen → Paired wire (s.sock tsk).tuple := by
    intro notListen
    have inside := hashed.resolve_right fun listed => notListen (stands.listening.mp listed)
    have tuple := reached.standing.tuple_of_lookup shape found inside
    refine ⟨fits.opened tsk here (stands.opened inside), ?_⟩
    rw [tuple]
    exact valid.opened member
  cases effect with
  | ignored same =>
      rw [same]
      exact fits.mono sub
  | answered _ _ state same =>
      have stays := tcpSendReset_stays s sent.received
      rw [same] at sleeps ⊢
      have out : (tcpSendReset s sent.received).out = s.out ++ [sent.received.resetSegment] := rfl
      refine fits.step sleeps out sub ?_ fun other before => .inl ⟨before, stays other⟩
      intro answer isReset
      obtain rfl := List.mem_singleton.mp isReset
      refine ⟨rfl, .inr ⟨.inr ⟨rfl, rfl⟩, Paired.mono sub ?_⟩⟩
      rcases state with closed | ⟨_, notSyn⟩
      · have both := paired (by rw [closed]; decide)
        have inside := hashed.resolve_right fun listed => by
          rw [stands.listening, closed] at listed
          cases listed
        rw [reached.standing.tuple_of_lookup shape found inside] at both
        exact both
      · rcases valid.kind with ⟨isSyn, _⟩ | ⟨_, both⟩
        · exact absurd isSyn notSyn
        · exact both.mirror
  | establishes _ _ state establishes =>
      have both := paired (by rw [state]; decide)
      have numbered := stands.numbered
      rw [state] at numbered
      refine fits.alter sleeps establishes.alters.out sub ?_ establishes.alters.others
        establishes.alters.grown ⟨fun _ => ?_, fun _ => ?_⟩
      · intro answer isAck
        obtain rfl := List.mem_singleton.mp isAck
        exact ⟨rfl, .inr ⟨.inl ⟨.inl rfl, List.mem_singleton.mp numbered⟩, both.mono sub⟩⟩
      · rw [establishes.tuple]
        exact both.here.mono sub
      · rw [establishes.tuple]
        exact both.there.mono sub
  | finished _ closed => exact fits.closed sleeps here closed sub
  | aborted isRst _ => exact absurd isRst valid.notRst

/-- Nothing that was sent is taken back. -/
theorem Effect.out {event : Event} (effect : Effect s event later) :
    ∃ emitted, later.out = s.out ++ emitted := by
  cases effect with
  | quiet quiet => exact ⟨[], by rw [quiet.out, List.append_nil]⟩
  | makes makes => exact ⟨[], by rw [makes.out, List.append_nil]⟩
  | names named => exact ⟨_, named.alters.out⟩
  | listens listens => exact ⟨_, listens.alters.out⟩
  | connects connects =>
      obtain ⟨_, _, _, alters⟩ := connects.alters
      exact ⟨_, alters.out⟩
  | closes closed => exact ⟨_, closed.alters.out⟩
  | arrives _ _ segment =>
      cases segment with
      | ignored same => exact ⟨[], by rw [same, List.append_nil]⟩
      | answered _ _ _ same => exact ⟨_, by rw [same]; rfl⟩
      | establishes _ _ _ establishes => exact ⟨_, establishes.alters.out⟩
      | finished _ closed | aborted _ closed => exact ⟨_, closed.alters.out⟩

/-- A packet for a segment of the wire keeps a stack in line with the wire. -/
theorem Stack.Fits.arrive {sent : Segment} {packet : Memory U8} {ip tcp : ℕ} {tmp : SockPtr}
    (fits : s.Fits allowed wire) (arrives : sent.Arrives packet ip tcp) (member : sent ∈ wire)
    (valid : sent.Valid allowed wire) (possible : (Event.arrive packet ip tcp tmp).Possible s)
    (done : (Event.arrive packet ip tcp tmp).run s = .ok later) (sub : wire ⊆ more) :
    later.Fits allowed more := by
  have sleeps := fits.sleeps.event possible trivial done
  have called : handleTcpPacket s packet ip tcp tmp = .ok later := done
  rcases arrives with ⟨delivers, rfl, rfl⟩ | damaged
  · cases fits.sleeps.reached.effect possible trivial done with
    | quiet quiet =>
        have out : later.out = s.out ++ [] := by rw [quiet.out, List.append_nil]
        refine fits.step sleeps out sub (fun _ => nofun) fun other member => ?_
        exact .inl ⟨quiet.allocated ▸ member, quiet.stays other⟩
    | arrives found hashed segment =>
        rw [delivers.received] at found segment
        exact fits.segment sleeps member valid found hashed segment sub
  · rw [handleTcpPacket_mismatch damaged] at called
    cases called
    exact fits.mono sub

/-- A host whose running stack takes some event. -/
theorem Stack.Fits.after {event : Event} (fits : s.Fits allowed wire) (possible : event.Possible s)
    (inOrder : event.Orderly s) (mild : ∀ packet ip tcp tmp, event = .arrive packet ip tcp tmp →
      (∃ sent : Segment, sent.Valid allowed wire ∧ sent.Arrives packet ip tcp))
    (next : ∀ later, event.run s = .ok later →
      later.Fits allowed (wire ∪ {sent | sent ∈ later.out})) :
    {sent | sent ∈ s.out} ⊆ {sent | sent ∈ (Host.after (event.run s)).stack.out} ∧
      (Host.after (event.run s)).Fits allowed
        (wire ∪ {sent | sent ∈ (Host.after (event.run s)).stack.out}) := by
  have reached := fits.sleeps.reached
  obtain ⟨_, orderly⟩ := reached.inOrder
  cases result : event.run s with
  | ok later =>
      obtain ⟨emitted, out⟩ := (reached.effect possible inOrder result).out
      refine ⟨fun sent member => ?_, (next later result).valid, fun _ => next later result⟩
      have grown : later.out = s.out ++ emitted := out
      exact grown ▸ List.mem_append_left _ member
  | error halt =>
      have same : halt.stack.out = s.out := by
        rcases event.halt_out orderly reached.childless possible inOrder result with
          same | ⟨packet, ip, tcp, tmp, rfl, isRst⟩
        · exact same
        · obtain ⟨sent, valid, ⟨delivers, rfl, rfl⟩ | damaged⟩ := mild _ _ _ _ rfl
          · rw [delivers.received] at isRst
            exact absurd isRst valid.notRst
          · have done : handleTcpPacket s packet ip tcp tmp = .error halt := result
            rw [handleTcpPacket_mismatch damaged] at done
            cases done
      refine ⟨fun sent member => same.symm ▸ member, fun sent member => ?_, nofun⟩
      have before : sent ∈ s.out := same ▸ member
      exact (fits.valid sent before).mono Set.subset_union_left

/-- **The wire and the hosts stay in line.** -/
theorem hosts_keep : (hosts allowed).Keeps (Host.Fits allowed)
    fun wire sent => sent.Valid allowed wire where
  mono := fun sub fits => fits.mono sub
  valid := fun fits => fits.valid
  moves := by
    rintro wire name host _ fits _ ⟨up, event, isCall, isAllowed, possible, inOrder, rfl⟩
    refine (fits.running up).after possible inOrder ?_ fun later done => ?_
    · rintro packet ip tcp tmp rfl
      exact isCall.elim
    · exact (fits.running up).call isCall possible inOrder isAllowed done Set.subset_union_left
        Set.subset_union_right
  takes := by
    rintro wire sent host _ fits _ member valid ⟨up, packet, ip, tcp, tmp, arrives, possible, rfl⟩
    refine (fits.running up).after possible trivial ?_ fun later done => ?_
    · rintro _ _ _ _ ⟨⟩
      exact ⟨sent, valid, arrives⟩
    · exact (fits.running up).arrive arrives member valid possible done Set.subset_union_left

theorem init_fits : Host.init.Fits allowed wire where
  valid := nofun
  running := fun _ =>
    { sleeps := initTcpStack_sleeps
      valid := nofun
      opened := fun _ member => nomatch member
      answered := fun _ member => nomatch member }

end Wire

section Runs

variable {Name : Type} [DecidableEq Name] {allowed : Name → Event → Prop} {last : Name → Host}

/-- What holds of every host in every state that the hosts can get to. -/
theorem hosts_fit (run : (hosts allowed).Run (quietHosts Name) last) (name : Name) :
    (last name).Fits allowed ((hosts allowed).wire last) :=
  hosts_keep.run (fun _ => init_fits) run name

/-- Every segment ever sent is valid. -/
theorem wire_valid (run : (hosts allowed).Run (quietHosts Name) last) {sent : Segment}
    (member : sent ∈ (hosts allowed).wire last) : sent.Valid allowed ((hosts allowed).wire last) :=
  hosts_keep.valid_of_mem_wire (hosts_fit run) member

/-- A SYN on the wire is one that a call may send. -/
theorem Opened.asks (run : (hosts allowed).Run (quietHosts Name) last)
    {tuple : U32 × U32 × U16 × U16} (opened : Opened ((hosts allowed).wire last) tuple) :
    Asks allowed tuple := by
  obtain ⟨sent, member, isSyn, rfl⟩ := opened
  rcases (wire_valid run member).kind with ⟨_, _, asks⟩ | ⟨⟨flags | flags, _⟩ | ⟨flags, _⟩, _⟩
  · exact asks
  · exact absurd (flags.symm.trans isSyn) (by decide)
  · exact absurd (flags.symm.trans isSyn) (by decide)
  · exact absurd (flags.symm.trans isSyn) (by decide)

/-! ## Answers -/

/-- Every segment without payload is in some packet. -/
theorem Segment.exists_delivers {sent : Segment} (bare : sent.payload = []) :
    ∃ packet, Delivers packet sent := by
  have same : sent = TcpSock.controlSegment { zeroedSock with
      skSip := sent.saddr, skDip := sent.daddr, skSport := sent.sport, skDport := sent.dport,
      sndNxt := sent.seq, rcvNxt := sent.ack, rcvWnd := sent.rwnd } sent.flags := by
    cases sent
    simp [TcpSock.controlSegment] at bare ⊢
    exact bare
  rw [same]
  exact ⟨_, tcpSendControlPacketFrame_delivers (ipInitHdrWithId_fills 7) _ _ fun _ => 0⟩

/-- The hosts after a sock got the segment that it waits for. -/
def answer (last : Name → Host) (name : Name) (tsk : SockPtr) : Name → Host :=
  Function.update last name ⟨tcpProcessSynSent (last name).stack tsk, false⟩

theorem answer_own (last : Name → Host) (name : Name) (tsk : SockPtr) :
    (answer last name tsk name).down = false ∧
      ((answer last name tsk name).stack.sock tsk).state = .established ∧
      ((answer last name tsk name).stack.sock tsk).tuple =
        ((last name).stack.sock tsk).tuple := by
  have establishes := tcpProcessSynSent_establishes (last name).stack tsk
  rw [answer, Function.update_self]
  exact ⟨rfl, establishes.state, establishes.tuple⟩

/-- All other socks stay as they are. -/
theorem answer_stays (last : Name → Host) (name : Name) (tsk : SockPtr) {other : Name}
    {otherTsk : SockPtr} (different : ¬(other = name ∧ otherTsk = tsk)) :
    ((last other).down = false → (answer last name tsk other).down = false) ∧
      (last other).stack.Stays (answer last name tsk other).stack otherTsk := by
  by_cases same : other = name
  · subst same
    have apart : otherTsk ≠ tsk := fun equal => different ⟨rfl, equal⟩
    rw [answer, Function.update_self]
    exact ⟨fun _ => rfl, (tcpProcessSynSent_establishes _ tsk).alters.others otherTsk apart⟩
  · rw [answer, Function.update_of_ne same]
    exact ⟨id, .refl _ _⟩

/-- A sock that waits takes every segment from its peer for the one that it waits
for, unless it is a FIN. -/
theorem hosts_answer (run : (hosts allowed).Run (quietHosts Name) last) {name : Name}
    {tsk : SockPtr} (up : (last name).down = false) (waits : (last name).stack.Answerable tsk)
    {sent : Segment} (member : sent ∈ (hosts allowed).wire last)
    (tuple : ((last name).stack.sock tsk).tuple = mirror sent.tuple) (notFin : sent.flags ≠ tcpFin)
    {packet : Memory U8} (delivers : Delivers packet sent) (tmp : SockPtr) :
    (Event.arrive packet packetToIpHdr tcpPlace tmp).run (last name).stack =
      .ok (tcpProcessSynSent (last name).stack tsk) := by
  have valid := wire_valid run member
  have reached := ((hosts_fit run name).running up).sleeps.reached
  exact reached.answer delivers valid.bare valid.seq valid.notRst notFin waits.1 waits.2 tuple

/-- A sock that waits for a SYN on the wire may get it. -/
theorem Opened.answers {tuple : U32 × U32 × U16 × U16}
    (opened : Opened ((hosts allowed).wire last) tuple)
    (run : (hosts allowed).Run (quietHosts Name) last) {name : Name} {tsk : SockPtr}
    (up : (last name).down = false) (waits : (last name).stack.Answerable tsk)
    (mirrored : ((last name).stack.sock tsk).tuple = mirror tuple) :
    (hosts allowed).Step last (answer last name tsk) := by
  obtain ⟨sent, member, isSyn, rfl⟩ := opened
  have notFin : sent.flags ≠ tcpFin := by
    rw [isSyn]
    decide
  obtain ⟨packet, delivers⟩ := Segment.exists_delivers (wire_valid run member).bare
  obtain ⟨tmp, fresh⟩ := (last name).stack.exists_fresh
  have done := hosts_answer run up waits member mirrored notFin delivers tmp
  refine .takes member
    ⟨up, packet, packetToIpHdr, tcpPlace, tmp, .inl ⟨delivers, rfl, rfl⟩, fresh, ?_⟩
  rw [done]
  rfl

/-- The SYN of a sock that waits is on the wire. -/
theorem Stack.Answerable.opened {name : Name} {tsk : SockPtr}
    (waits : (last name).stack.Answerable tsk) (run : (hosts allowed).Run (quietHosts Name) last)
    (up : (last name).down = false) :
    Opened ((hosts allowed).wire last) ((last name).stack.sock tsk).tuple := by
  have fits := (hosts_fit run name).running up
  obtain ⟨_, orderly⟩ := fits.sleeps.reached.inOrder
  have member := orderly.sound.shape.allocated_of_hashed (.inl waits.1)
  exact fits.opened tsk member ((fits.sleeps.reached.standing.stands tsk member).opened waits.1)

/-! ## Two hosts -/

/-- The stack of a host whose first sock opens a connection. -/
def askingStack (skaddr : SockAddr) (cursorIp : U32) : Stack :=
  (Event.run (allocTcpSock initTcpStack 1) (.connect 1 skaddr cursorIp)).stack

/-- A quiet host may come to ask for a connection. -/
theorem hosts_ask {name : Name} (quiet : last name = .init) (skaddr : SockAddr) (cursorIp : U32)
    (alloc : allowed name (.alloc 1)) (connect : allowed name (.connect 1 skaddr cursorIp)) :
    (hosts allowed).Run last (Function.update last name ⟨askingStack skaddr cursorIp, false⟩) := by
  have notNull : (1 : SockPtr) ≠ 0 := by decide
  have absent : 1 ∉ initTcpStack.allocated := List.not_mem_nil
  have unlinked := oneSock_not_linked
  have made : (hosts allowed).Step last
      (Function.update last name ⟨allocTcpSock initTcpStack 1, false⟩) := by
    refine .moves ⟨?_, .alloc 1, trivial, alloc, ?_, trivial, ?_⟩
    · rw [quiet]
      rfl
    · rw [quiet]
      exact ⟨notNull, absent⟩
    · rw [quiet]
      rfl
  have inOrder : (Event.connect 1 skaddr cursorIp).Orderly (allocTcpSock initTcpStack 1) :=
    ⟨List.not_mem_nil, fun bound => unlinked (.inr (.inr (.inl bound))),
      fun hashed => unlinked (hashed.imp_right .inl)⟩
  have created : (Event.alloc 1).Possible initTcpStack := ⟨notNull, absent⟩
  have reached : (allocTcpSock initTcpStack 1).Reached :=
    initTcpStack_reached.event created trivial rfl
  obtain ⟨_, orderly⟩ := reached.inOrder
  obtain ⟨result, later, called, _⟩ := orderly.connects reached.childless List.mem_cons_self
    inOrder.2.1 inOrder.2.2 skaddr cursorIp
  have done : (Event.connect 1 skaddr cursorIp).run (allocTcpSock initTcpStack 1) = .ok later :=
    Outcome.bind_eq_ok.mpr ⟨_, called, rfl⟩
  have same : askingStack skaddr cursorIp = later := by
    rw [askingStack, done]
    rfl
  have opened : (hosts allowed).Step
      (Function.update last name ⟨allocTcpSock initTcpStack 1, false⟩)
      (Function.update (Function.update last name ⟨allocTcpSock initTcpStack 1, false⟩) name
        ⟨askingStack skaddr cursorIp, false⟩) := by
    refine .moves ⟨?_, .connect 1 skaddr cursorIp, trivial, connect, ?_, ?_, ?_⟩
    · rw [Function.update_self]
    · rw [Function.update_self]
      exact List.mem_cons_self
    · rw [Function.update_self]
      exact inOrder
    · rw [Function.update_self, done, same]
      rfl
  rw [Function.update_idem] at opened
  exact (Relation.ReflTransGen.single made).tail opened

end Runs

/-- Host 1, which asks for a connection to host 2. -/
def askingHost : Bool → Host :=
  Function.update (quietHosts Bool) false ⟨askingStack ⟨htonl 2, portMin⟩ 1, false⟩

/-- Hosts 1 and 2, which ask for each other. -/
def askingHosts : Bool → Host :=
  Function.update askingHost true ⟨askingStack ⟨htonl 1, portMin⟩ 2, false⟩

/-- Every call is allowed. -/
def everyCall : Bool → Event → Prop := fun _ _ => True

theorem askingHosts_run : (hosts everyCall).Run (quietHosts Bool) askingHosts := by
  have one : quietHosts Bool false = .init := rfl
  have two : askingHost true = .init := rfl
  have first : (hosts everyCall).Run (quietHosts Bool) askingHost :=
    hosts_ask one _ _ trivial trivial
  exact first.trans (hosts_ask two _ _ trivial trivial)

theorem askingHosts_wait : (askingHosts false).stack.Answerable 1 ∧
    (askingHosts true).stack.Answerable 1 :=
  ⟨⟨⟨tcpHashFunction 1 2 (htons portMin) (htons portMin), by decide⟩, by decide⟩,
    ⟨⟨tcpHashFunction 2 1 (htons portMin) (htons portMin), by decide⟩, by decide⟩⟩

/-! ## Agreement -/

section Agreement

variable {Name : Type} [DecidableEq Name] {allowed : Name → Event → Prop} {last : Name → Host}

/-- **A connection is one that both ends asked for.** In every state that the hosts can get
to, whatever the network did, a sock that is or was in `ESTABLISHED` belongs to a
connection for which two calls of `tcp_sock_connect` asked, one from each end, and
both of whose SYNs were sent. Both ports are the first one of the range. -/
theorem connection_agreed (run : (hosts allowed).Run (quietHosts Name) last) (name : Name)
    (up : (last name).down = false) (tsk : SockPtr) (member : tsk ∈ (last name).stack.allocated)
    (connected : ((last name).stack.sock tsk).state.connected) :
    Asks allowed ((last name).stack.sock tsk).tuple ∧
      Asks allowed (mirror ((last name).stack.sock tsk).tuple) ∧
      Paired ((hosts allowed).wire last) ((last name).stack.sock tsk).tuple ∧
      ((last name).stack.sock tsk).skSport = htons portMin ∧
      ((last name).stack.sock tsk).skDport = htons portMin := by
  have paired := ((hosts_fit run name).running up).paired member connected
  have here := paired.here.asks run
  have there := paired.there.asks run
  refine ⟨here, there, paired, ?_, ?_⟩
  · obtain ⟨_, _, _, _, _, tuple⟩ := here
    exact congrArg (fun tuple => tuple.2.2.1) tuple
  · obtain ⟨_, _, _, _, _, tuple⟩ := there
    exact congrArg (fun tuple => tuple.2.2.1) tuple

/-- One end of the connection of both hosts. -/
theorem connection_agreed_asking : ∃ last, (hosts everyCall).Run (quietHosts Bool) last ∧
    ((last false).stack.sock 1).state = .established ∧
      Asks everyCall (mirror ((last false).stack.sock 1).tuple) := by
  have opened := askingHosts_wait.2.opened askingHosts_run rfl
  have step := opened.answers askingHosts_run rfl askingHosts_wait.1 (by decide)
  obtain ⟨up, state, _⟩ := answer_own askingHosts false 1
  have run := askingHosts_run.tail step
  obtain ⟨_, there, _⟩ := connection_agreed run false up 1 (by decide) (.inl state)
  exact ⟨_, run, state, there⟩

/-- **A client never gets a connection.** If no two calls that the applications may make
ask for each other, as with clients and servers, then no sock ever gets to
`ESTABLISHED`, on any host, and no call of `tcp_sock_connect` is ever woken. -/
theorem server_never_connected (run : (hosts allowed).Run (quietHosts Name) last)
    (unrequited : ∀ tuple, Asks allowed tuple → ¬ Asks allowed (mirror tuple)) (name : Name)
    (up : (last name).down = false) (tsk : SockPtr)
    (member : tsk ∈ (last name).stack.allocated) :
    ¬ ((last name).stack.sock tsk).state.connected ∧
      ((last name).stack.sock tsk).waitConnect.notified = false := by
  have fits := (hosts_fit run name).running up
  have never : ¬ ((last name).stack.sock tsk).state.connected := by
    intro connected
    have paired := fits.paired member connected
    exact unrequited _ (paired.here.asks run) (paired.there.asks run)
  refine ⟨never, ?_⟩
  rw [← Bool.not_eq_true]
  exact fun notified => never ((fits.sleeps.waits tsk member).connect notified)

/-- The first host calls `tcp_sock_connect` for port 80 only, and the second one does
not call it. -/
def clientAndServer : Bool → Event → Prop
  | false, .connect _ skaddr _ => skaddr.port = htons 80
  | true, .connect _ _ _ => False
  | _, _ => True

/-- The hosts when the client has called. -/
def clientHosts : Bool → Host :=
  Function.update (quietHosts Bool) false ⟨askingStack ⟨htonl 2, htons 80⟩ 1, false⟩

/-- The client waits in vain. -/
theorem server_never_connected_client :
    ((clientHosts false).stack.sock 1).waitConnect.notified = false := by
  have quiet : quietHosts Bool false = .init := rfl
  have run : (hosts clientAndServer).Run (quietHosts Bool) clientHosts :=
    hosts_ask quiet _ _ trivial rfl
  have unrequited : ∀ tuple, Asks clientAndServer tuple →
      ¬ Asks clientAndServer (mirror tuple) := by
    rintro tuple ⟨name, tsk, skaddr, cursorIp, asked, rfl⟩ ⟨_, _, _, _, _, mirrored⟩
    have port : htons skaddr.port = htons portMin := congrArg (fun tuple => tuple.2.2.1) mirrored
    cases name with
    | false =>
        have asked : skaddr.port = htons 80 := asked
        rw [asked] at port
        exact absurd port (by decide)
    | true => exact asked
  exact (server_never_connected run unrequited false rfl 1 (by decide)).2

/-- **No segment is dropped for its number, and none is a reset.** In every state that the
hosts can get to, every segment that was ever sent passes the window test of every
sock of every running host. It carries no data, its sequence number is 0 or 1, and
it is not taken for a reset by the host that gets it. -/
theorem segments_accepted (run : (hosts allowed).Run (quietHosts Name) last) (sent : Segment)
    (member : sent ∈ (hosts allowed).wire last) :
    sent.payload = [] ∧ (sent.seq = 0 ∨ sent.seq = 1) ∧ sent.received.flags ≠ tcpRst ∧
      ∀ name, (last name).down = false → ∀ tsk ∈ (last name).stack.allocated,
        isTcpSeqValid ((last name).stack.sock tsk) sent.received = true := by
  have valid := wire_valid run member
  refine ⟨valid.bare, valid.seq, valid.notRst, fun name up tsk here => ?_⟩
  exact valid.accepted (((hosts_fit run name).running up).sleeps.reached.origins tsk here)

/-- The SYN of the first host passes the test of the second one. -/
theorem segments_accepted_asking : ∃ sent ∈ (hosts everyCall).wire askingHosts,
    isTcpSeqValid ((askingHosts true).stack.sock 1) sent.received = true := by
  obtain ⟨sent, member, _⟩ := askingHosts_wait.1.opened askingHosts_run rfl
  obtain ⟨_, _, _, accepted⟩ := segments_accepted askingHosts_run sent member
  exact ⟨sent, member, accepted true rfl 1 (by decide)⟩

end Agreement

/-! ## Completion -/

section Completion

variable {Name : Type} [DecidableEq Name] {allowed : Name → Event → Prop} {last : Name → Host}

/-- **No segment refuses a connection.** In every state that the hosts can get to, a hashed
sock in `TCP_SYN_SENT` that gets any segment that was sent from the other end of its
connection goes to `ESTABLISHED`, also if the segment is a reset that answers the
SYN. Only a FIN closes it. -/
theorem answer_establishes (run : (hosts allowed).Run (quietHosts Name) last) (name : Name)
    (up : (last name).down = false) (tsk : SockPtr) (waits : (last name).stack.Answerable tsk)
    (sent : Segment) (member : sent ∈ (hosts allowed).wire last)
    (tuple : ((last name).stack.sock tsk).tuple = mirror sent.tuple) (packet : Memory U8)
    (delivers : Delivers packet sent) (tmp : SockPtr) :
    ∃ later, (Event.arrive packet packetToIpHdr tcpPlace tmp).run (last name).stack = .ok later ∧
      (later.sock tsk).state = if sent.flags = tcpFin then .closed else .established := by
  by_cases isFin : sent.flags = tcpFin
  · have valid := wire_valid run member
    have reached := ((hosts_fit run name).running up).sleeps.reached
    obtain ⟨_, orderly⟩ := reached.inOrder
    have shape := orderly.sound.shape
    have here := shape.allocated_of_hashed (.inl waits.1)
    have found : tcpSockLookup (last name).stack sent.received = .ok tsk :=
      reached.standing.lookup_of_established shape waits.1 tuple
    have notListen : ((last name).stack.sock tsk).state ≠ .listen := by
      rw [waits.2]
      decide
    obtain ⟨later, closes, closed⟩ := Stack.Sound.close_closed notListen
    refine ⟨later, ?_, ?_⟩
    · refine (delivers.handle found tmp).trans ?_
      rw [tcpProcess_fin (shape.ne_null here) (valid.accepted (reached.origins tsk here)) isFin]
      exact closes
    · rw [closed.state, waits.2, if_pos isFin]
      rfl
  · refine ⟨_, hosts_answer run up waits member tuple isFin delivers tmp, ?_⟩
    rw [if_neg isFin]
    exact (tcpProcessSynSent_establishes _ tsk).state

/-- The SYN of the second host establishes the sock of the first one. -/
theorem answer_establishes_asking : ∃ packet later,
    (Event.arrive packet packetToIpHdr tcpPlace 2).run (askingHosts false).stack = .ok later ∧
      (later.sock 1).state = .established := by
  obtain ⟨sent, member, isSyn, tuple⟩ := askingHosts_wait.2.opened askingHosts_run rfl
  obtain ⟨packet, delivers⟩ := Segment.exists_delivers (wire_valid askingHosts_run member).bare
  have mirrored : ((askingHosts false).stack.sock 1).tuple = mirror sent.tuple := by
    rw [tuple]
    decide
  obtain ⟨later, done, state⟩ := answer_establishes askingHosts_run false rfl 1
    askingHosts_wait.1 sent member mirrored packet delivers 2
  rw [isSyn] at state
  exact ⟨packet, later, done, state⟩

/-- **Two calls that ask for each other can be connected.** In every state that the hosts can
get to in which two hashed socks wait for each other, on running hosts, the network
can bring both to `ESTABLISHED`, whatever was lost, duplicated or refused before. -/
theorem open_completes (run : (hosts allowed).Run (quietHosts Name) last) (one two : Name)
    (first second : SockPtr) (upOne : (last one).down = false) (upTwo : (last two).down = false)
    (waitsOne : (last one).stack.Answerable first) (waitsTwo : (last two).stack.Answerable second)
    (mirrored : ((last two).stack.sock second).tuple = mirror ((last one).stack.sock first).tuple) :
    ∃ done, (hosts allowed).Run last done ∧ (done one).down = false ∧ (done two).down = false ∧
      ((done one).stack.sock first).state = .established ∧
      ((done two).stack.sock second).state = .established := by
  have openedTwo := waitsTwo.opened run upTwo
  rw [mirrored] at openedTwo
  have firstStep := openedTwo.answers run upOne waitsOne rfl
  have between := run.tail firstStep
  obtain ⟨downOne, stateOne, tupleOne⟩ := answer_own last one first
  by_cases same : two = one ∧ second = first
  · obtain ⟨rfl, rfl⟩ := same
    exact ⟨_, .single firstStep, downOne, downOne, stateOne, stateOne⟩
  · obtain ⟨upBetween, stays⟩ := answer_stays last one first same
    have waits : (answer last one first two).stack.Answerable second :=
      ⟨stays.places.inEstablished.mpr waitsTwo.1, stays.state.trans waitsTwo.2⟩
    have openedOne := (waitsOne.opened run upOne).mono
      (hosts_keep.wire_subset (hosts_fit run) (.single firstStep))
    have secondStep := openedOne.answers between (upBetween upTwo) waits
      (stays.tuple.trans mirrored)
    obtain ⟨downTwo, stateTwo, _⟩ := answer_own (answer last one first) two second
    have apart : ¬(one = two ∧ first = second) := fun equal =>
      same ⟨equal.1.symm, equal.2.symm⟩
    obtain ⟨upLast, kept⟩ := answer_stays (answer last one first) two second apart
    exact ⟨_, (Relation.ReflTransGen.single firstStep).tail secondStep, upLast downOne, downTwo,
      kept.state.trans stateOne, stateTwo⟩

/-- Both hosts get connected. -/
theorem open_completes_asking : ∃ done, (hosts everyCall).Run askingHosts done ∧
    ((done false).stack.sock 1).state = .established ∧
      ((done true).stack.sock 1).state = .established := by
  obtain ⟨done, run, _, _, one, two⟩ := open_completes askingHosts_run false true 1 1 rfl rfl
    askingHosts_wait.1 askingHosts_wait.2 (by decide)
  exact ⟨done, run, one, two⟩

end Completion

end TcpStack
