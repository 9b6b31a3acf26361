import TcpStack.Program.Applications
import TcpStack.Sock.Stops

/-!
# The server

`tcp_server` binds and listens without an error, whatever its port is, and sleeps in
`tcp_sock_accept` for ever: none of the code behind it ever runs
(`server_never_serves`). As long as its sock listens, the process answers the segments
for its port that are no SYN, reset or FIN. It stops at the first one that is, and at the
first one that is for another port (`server_stops_iff`).
-/

set_option autoImplicit false

namespace TcpStack

open Lib

/-! ## Where the thread can be -/

/-- The port that `tcp_sock_bind` gives to the server, in host byte order. -/
def serverPort (port : U16) : U16 := if ntohs port = 0 then portMin else ntohs port

/-- The only sock listens on its port, or it was closed and with that released twice. -/
structure Stack.Awaits (s : Stack) (tsk : SockPtr) (sport : U16) : Prop where
  allocated : s.allocated = [tsk]
  named : (s.sock tsk).skSport = sport
  state : (s.sock tsk).state = .listen ∧ s.InBind tsk ∧
      tsk ∈ s.entries (.listenTable (portBucket sport)) ∨
    (s.sock tsk).state = .closed ∧ ¬ s.Hashed tsk ∧ ¬ s.freed.Nodup

/-- The calls of the thread. -/
def serverCalls : Event → Prop
  | .connect _ _ _ => False
  | _ => True

/-- What holds of the stack at each place of the thread. -/
def ServerPlace.Holds (port : U16) (s : Stack) : ServerPlace → Prop
  | .start => s.allocated = []
  | .allocated tsk => s.Made tsk ∧ ¬ s.InBind tsk
  | .bound tsk => s.Made tsk ∧ s.InBind tsk ∧ (s.sock tsk).skSport = serverPort port
  | .listening tsk | .sleeping tsk => s.Awaits tsk (serverPort port)
  | .serving _ _ _ | .closing _ _ | .finished _ | .exited => False

section Moves

variable {s later : Stack} {tsk tmp : SockPtr} {port sport : U16} {rbuf : Memory U8}
  {event : Event} {place : ServerPlace}

/-- A call of `tcp_sock_bind` on the only sock. -/
theorem Stack.Made.binds (made : s.Made tsk) (reached : s.Reached) (unbound : ¬ s.InBind tsk)
    (port : U16) :
    ∃ later, tcpSockBind s tsk ⟨htonl 0, port⟩ = .ok (0, later) ∧ later.Made tsk ∧
      later.InBind tsk ∧ (later.sock tsk).skSport = serverPort port := by
  obtain ⟨_, orderly⟩ := reached.inOrder
  have member : tsk ∈ s.allocated := made.allocated ▸ List.mem_singleton_self tsk
  obtain ⟨later, called, named⟩ :=
    orderly.sound.bind_named reached.childless member unbound ⟨htonl 0, port⟩
  have granted := orderly.sound.shape.tcpSockBind_orphans
    (reached.childless.boundOrphans orderly.sound.shape) ⟨tsk, ⟨htonl 0, port⟩⟩
  rw [called] at granted
  obtain ⟨_, linked, same⟩ := Outcome.bind_eq_ok.mp granted.symm
  cases same
  obtain ⟨links, rfl⟩ := tcpBindHash_ok linked
  refine ⟨_, called, ⟨named.alters.allocated.trans made.allocated, ?_, ?_⟩, named.inBind, ?_⟩
  · simpa [Stack.Released] using made.unreleased
  · exact fun hashed => made.unhashed (hashed.imp named.inEstablished.mp named.inListen.mp)
  · rw [tcpSockIncRefCnt_sock, if_pos rfl]
    simp only [Stack.modify_sock_self]
    rfl

/-- A call of `tcp_sock_listen` on the only sock. -/
theorem Stack.Made.listens (made : s.Made tsk) (reached : s.Reached) (bound : s.InBind tsk)
    (named : (s.sock tsk).skSport = sport) :
    ∃ later, tcpSockListen s tsk 3 = .ok (0, later) ∧ later.Awaits tsk sport ∧
      (later.sock tsk).state = .listen := by
  obtain ⟨_, orderly⟩ := reached.inOrder
  have member : tsk ∈ s.allocated := made.allocated ▸ List.mem_singleton_self tsk
  obtain ⟨later, called, listens⟩ :=
    orderly.startsListening member made.unreleased made.unhashed 3
  refine ⟨later, called, ⟨listens.alters.allocated.trans made.allocated, ?_, .inl ?_⟩,
    listens.state⟩
  · exact (TcpSock.skSport_of_tuple listens.tuple).trans named
  · exact ⟨listens.state, listens.inBind.mpr bound, named ▸ listens.placed⟩

/-- What leaves the only sock as it is. -/
theorem Stack.Awaits.stays (awaits : s.Awaits tsk sport) (allocated : later.allocated = s.allocated)
    (stays : s.Stays later tsk) (twice : ¬ s.freed.Nodup → ¬ later.freed.Nodup) :
    later.Awaits tsk sport where
  allocated := allocated.trans awaits.allocated
  named := (TcpSock.skSport_of_tuple stays.tuple).trans awaits.named
  state := by
    rw [stays.state, stays.places.inBind, stays.hashed_iff, stays.places.listen]
    exact awaits.state.imp_right fun closed => ⟨closed.1, closed.2.1, twice closed.2.2⟩

/-- A packet leaves the listener as it is, or closes it. -/
theorem Stack.Awaits.arrives (awaits : s.Awaits tsk sport) (reached : s.Reached)
    (arrival : event.IsArrival s) (done : event.run s = .ok later) : later.Awaits tsk sport := by
  have same := arrival.allocated reached done
  obtain ⟨_, orderly⟩ := reached.inOrder
  have twice := Event.freed_twice orderly reached.childless arrival.possible done
  rcases awaits.state with ⟨listening, _⟩ | ⟨_, unhashed, _⟩
  · rcases reached.arrival_cases arrival done with stays | ⟨cb, handed, hashed, segment⟩
    · exact awaits.stays same (stays tsk) twice
    · have own := orderly.sound.shape.allocated_of_hashed hashed
      have member := own
      rw [awaits.allocated, List.mem_singleton] at own
      subst own
      cases segment with
      | ignored unchanged => exact unchanged ▸ awaits
      | answered _ _ _ answer =>
          exact awaits.stays same (answer ▸ tcpSendReset_stays s cb handed) twice
      | establishes _ _ state =>
          rw [listening] at state
          cases state
      | finished _ closed | aborted _ closed =>
          obtain ⟨_, notListen, notEstablished⟩ := closed.listening listening
          have state : (later.sock handed).state = .closed := by
            rw [closed.state, listening]
            rfl
          have ends := Event.endsListener_of_closed orderly arrival.possible arrival.orderly done
            member listening state
          refine ⟨same.trans awaits.allocated, ?_, .inr ⟨state, ?_, ?_⟩⟩
          · exact (TcpSock.skSport_of_tuple closed.tuple).trans awaits.named
          · rintro (established | listed)
            · exact notEstablished established
            · exact notListen listed
          · exact ends.freed orderly arrival.possible done
  · exact awaits.stays same (reached.arrival_stays arrival done unhashed) twice

/-- A packet keeps what holds at a place. -/
theorem ServerPlace.Holds.arrives (holds : place.Holds port s) (reached : s.Reached)
    (arrival : event.IsArrival s) (done : event.run s = .ok later) : place.Holds port later := by
  have same := arrival.allocated reached done
  cases place with
  | start => exact same.trans holds
  | allocated tsk =>
      obtain ⟨made, unbound⟩ := holds
      have stays := reached.arrival_stays arrival done made.unhashed
      exact ⟨made.arrives reached arrival done, fun bound => unbound (stays.places.inBind.mp bound)⟩
  | bound tsk =>
      obtain ⟨made, bound, sport⟩ := holds
      have stays := reached.arrival_stays arrival done made.unhashed
      exact ⟨made.arrives reached arrival done, stays.places.inBind.mpr bound,
        (TcpSock.skSport_of_tuple stays.tuple).trans sport⟩
  | listening tsk | sleeping tsk => exact Stack.Awaits.arrives holds reached arrival done
  | serving | closing | finished | exited => exact holds.elim

/-- The port was granted. -/
theorem serverNext_allocated (port : U16) (rbuf : Memory U8) (tmp : SockPtr)
    (called : tcpSockBind s tsk ⟨htonl 0, port⟩ = .ok (0, later)) :
    serverNext port rbuf tmp s (.allocated tsk) = some (.ok (.bound tsk, later)) := by
  rw [serverNext, called]
  rfl

/-- The sock listens. -/
theorem serverNext_bound (port : U16) (rbuf : Memory U8) (tmp : SockPtr)
    (called : tcpSockListen s tsk 3 = .ok (0, later)) :
    serverNext port rbuf tmp s (.bound tsk) = some (.ok (.listening tsk, later)) := by
  rw [serverNext, called]
  rfl

/-- The accept queue was empty. -/
theorem serverNext_listening (port : U16) (rbuf : Memory U8) (tmp : SockPtr)
    (called : tcpSockAccept s tsk = .ok (none, later)) :
    serverNext port rbuf tmp s (.listening tsk) = some (.ok (.sleeping tsk, later)) := by
  rw [serverNext, called]
  rfl

/-- The call of `tcp_sock_accept` leaves the listener as it is. -/
theorem Stack.Awaits.accepts (awaits : s.Awaits tsk sport) (sleeps : s.Sleeps) :
    ∃ later, tcpSockAccept s tsk = .ok (none, later) ∧ later.Awaits tsk sport ∧
      s.Stays later tsk := by
  have member : tsk ∈ s.allocated := awaits.allocated ▸ List.mem_singleton_self tsk
  obtain ⟨_, orderly⟩ := sleeps.reached.inOrder
  obtain ⟨_, later, called⟩ := sleeps.accept_blocks member
  obtain ⟨popped, final, accepted, quiet⟩ := orderly.sound.accept_quiet member
  rw [called] at accepted
  cases accepted
  have freed : later.freed = s.freed := tcpSockAccept_freed called
  have after := awaits.stays quiet.allocated (quiet.stays tsk) fun twice => by rwa [freed]
  exact ⟨later, called, after, quiet.stays tsk⟩

/-- The thread sleeps, or its next call returns. -/
theorem ServerPlace.Holds.moves (holds : place.Holds port s) (sleeps : s.Sleeps)
    (notNull : tmp ≠ 0) (absent : tmp ∉ s.allocated) :
    (∃ tsk, place = .sleeping tsk ∧ serverNext port rbuf tmp s place = none) ∨
      ∃ next later, serverNext port rbuf tmp s place = some (.ok (next, later)) ∧
        (later = s ∨ s.Calls serverCalls later) ∧ next.Holds port later := by
  cases place with
  | start =>
      have created : (Event.alloc tmp).Possible s := ⟨notNull, absent⟩
      have calls : s.Calls serverCalls (allocTcpSock s tmp) :=
        ⟨.alloc tmp, trivial, trivial, created, trivial, rfl⟩
      exact .inr ⟨_, _, rfl, .inr calls, sleeps.reached.makes holds notNull⟩
  | allocated tsk =>
      obtain ⟨made, unbound⟩ := holds
      obtain ⟨later, called, after⟩ := made.binds sleeps.reached unbound port
      have member : tsk ∈ s.allocated := made.allocated ▸ List.mem_singleton_self tsk
      have calls : s.Calls serverCalls later :=
        ⟨.bind tsk ⟨htonl 0, port⟩, trivial, trivial, member, ⟨made.unreleased, unbound⟩,
          Outcome.bind_eq_ok.mpr ⟨_, called, rfl⟩⟩
      exact .inr ⟨.bound tsk, later, serverNext_allocated port rbuf tmp called, .inr calls, after⟩
  | bound tsk =>
      obtain ⟨made, bound, named⟩ := holds
      obtain ⟨later, called, after, _⟩ := made.listens sleeps.reached bound named
      have member : tsk ∈ s.allocated := made.allocated ▸ List.mem_singleton_self tsk
      have calls : s.Calls serverCalls later :=
        ⟨.listen tsk 3, trivial, trivial, member, ⟨made.unreleased, made.unhashed⟩,
          Outcome.bind_eq_ok.mpr ⟨_, called, rfl⟩⟩
      exact .inr ⟨.listening tsk, later, serverNext_bound port rbuf tmp called, .inr calls, after⟩
  | listening tsk =>
      have awaits : s.Awaits tsk (serverPort port) := holds
      have member : tsk ∈ s.allocated := awaits.allocated ▸ List.mem_singleton_self tsk
      obtain ⟨later, called, after, _⟩ := awaits.accepts sleeps
      have calls : s.Calls serverCalls later :=
        ⟨.accept tsk, trivial, trivial, member, trivial, Outcome.bind_eq_ok.mpr ⟨_, called, rfl⟩⟩
      exact .inr ⟨.sleeping tsk, later, serverNext_listening port rbuf tmp called, .inr calls,
        after⟩
  | sleeping tsk =>
      have awaits : s.Awaits tsk (serverPort port) := holds
      have member : tsk ∈ s.allocated := awaits.allocated ▸ List.mem_singleton_self tsk
      refine .inl ⟨tsk, rfl, ?_⟩
      rw [serverNext, (sleeps.waits tsk member).accept]
      rfl
  | serving | closing | finished | exited => exact holds.elim

end Moves

/-- What a run of the server comes to. -/
theorem server_holds {port : U16} {rbuf : Memory U8} {process : Process (tcpServer port rbuf)}
    (run : Process.Run (.init (tcpServer port rbuf)) process) :
    Run Event.Orderly initTcpStack process.stack ∧
      ServerPlace.Holds port process.stack process.place := by
  have start : ServerPlace.Holds port initTcpStack .start := rfl
  refine Process.Run.keeps serverCalls start ?_ ?_ run
  · intro s later place next tmp sleeps holds notNull absent isNext
    have called : serverNext port rbuf tmp s place = some (.ok (next, later)) := isNext
    rcases holds.moves sleeps notNull absent with ⟨_, _, none⟩ | ⟨_, _, moved, further, after⟩
    · rw [none] at called
      cases called
    · rw [moved] at called
      cases called
      exact ⟨further, after⟩
  · intro s later place event sleeps holds arrival done
    exact holds.arrives sleeps.reached arrival done

/-- What the thread does in any run. -/
theorem server_obeys (port : U16) (rbuf : Memory U8) :
    (tcpServer port rbuf).Obeys serverCalls where
  returns := by
    intro process next later tmp run notNull absent isNext
    obtain ⟨before, holds⟩ := server_holds run
    have called : serverNext port rbuf tmp process.stack process.place = some (.ok (next, later)) :=
      isNext
    rcases holds.moves (before.sleeps initTcpStack_sleeps) notNull absent with
      ⟨_, _, none⟩ | ⟨_, _, moved, turn, _⟩
    · rw [none] at called
      cases called
    · rw [moved] at called
      cases called
      exact turn
  halts := by
    intro process halt tmp run notNull absent isNext
    obtain ⟨before, holds⟩ := server_holds run
    have called : serverNext port rbuf tmp process.stack process.place = some (.error halt) :=
      isNext
    rcases holds.moves (before.sleeps initTcpStack_sleeps) notNull absent with
      ⟨_, _, none⟩ | ⟨_, _, moved, _⟩
    · rw [none] at called
      cases called
    · rw [moved] at called
      cases called

/-- `tcp_sock_accept` has not returned. -/
def ServerPlace.Opening : ServerPlace → Prop
  | .start | .allocated _ | .bound _ | .listening _ | .sleeping _ => True
  | .serving _ _ _ | .closing _ _ | .finished _ | .exited => False

/-- Without packets, the server comes to sleep with a sock that listens. -/
theorem server_listens (port : U16) (rbuf : Memory U8) {tsk : SockPtr} (notNull : tsk ≠ 0) :
    ∃ s, Process.SparingRun (.init (tcpServer port rbuf)) ⟨s, ServerPlace.sleeping tsk⟩ ∧
      s.freed = [] ∧ (s.sock tsk).state = .listen := by
  obtain ⟨made, unbound⟩ := initTcpStack_reached.makes rfl notNull
  have created : Process.SparingRun (.init (tcpServer port rbuf))
      ⟨allocTcpSock initTcpStack tsk, ServerPlace.allocated tsk⟩ :=
    .single ⟨initTcpStack_intact, .moves tsk notNull List.not_mem_nil rfl, List.nodup_nil⟩
  have none := allocTcpSock_freed initTcpStack tsk
  have reached := (server_holds created.run).1.reached initTcpStack_reached
  obtain ⟨bound, binds, made, inBind, named⟩ := made.binds reached unbound port
  have noneBound := (tcpSockBind_freed binds).trans none
  have binding : Process.SparingRun (.init (tcpServer port rbuf)) ⟨bound, ServerPlace.bound tsk⟩ :=
    created.call (.of_freed none) (noneBound ▸ List.nodup_nil)
      fun tmp => serverNext_allocated port rbuf tmp binds
  have reached := (server_holds binding.run).1.reached initTcpStack_reached
  obtain ⟨listening, listens, awaits, state⟩ := made.listens reached inBind named
  have noneListening := (tcpSockListen_freed listens).trans noneBound
  have opening : Process.SparingRun (.init (tcpServer port rbuf))
      ⟨listening, ServerPlace.listening tsk⟩ :=
    binding.call (.of_freed noneBound) (noneListening ▸ List.nodup_nil)
      fun tmp => serverNext_bound port rbuf tmp listens
  obtain ⟨last, accepts, _, stays⟩ :=
    awaits.accepts ((server_holds opening.run).1.sleeps initTcpStack_sleeps)
  have noneLast := (tcpSockAccept_freed accepts).trans noneListening
  have sleeping : Process.SparingRun (.init (tcpServer port rbuf))
      ⟨last, ServerPlace.sleeping tsk⟩ :=
    opening.call (.of_freed noneListening) (noneLast ▸ List.nodup_nil)
      fun tmp => serverNext_listening port rbuf tmp accepts
  exact ⟨last, sleeping, noneLast, stays.state.trans state⟩

/-- The sock that listens, while there is one. -/
def ServerPlace.listener : ServerPlace → Option SockPtr
  | .listening tsk | .sleeping tsk => some tsk
  | _ => none

section Stops

variable {s : Stack} {tsk tmp : SockPtr} {port sport : U16} {place : ServerPlace}

/-- The listener gets the segments for its port, and nobody gets any other. -/
theorem Stack.Awaits.lookup (awaits : s.Awaits tsk sport) (reached : s.Reached)
    (listening : (s.sock tsk).state = .listen) (cb : TcpCb) :
    tcpSockLookup s cb = .ok (if cb.dport = sport then tsk else 0) := by
  obtain ⟨_, orderly⟩ := reached.inOrder
  have shape := orderly.sound.shape
  have only : ∀ other, s.Hashed other → other = tsk := by
    intro other hashed
    have member := shape.allocated_of_hashed hashed
    rwa [awaits.allocated, List.mem_singleton] at member
  obtain ⟨_, _, placed⟩ := awaits.state.resolve_right fun closed => by
    rw [listening] at closed
    cases closed.1
  have free : ∀ other, s.InEstablished other → (s.sock other).tuple ≠ cb.mirrored := by
    intro other inside
    have same := only other (.inl inside)
    subst same
    exact absurd ⟨_, placed⟩ (shape.not_inListen_of_inEstablished inside)
  rw [shape.lookup_of_not_established free]
  cases search : (s.entries (.listenTable (portBucket cb.dport))).find?
      fun tsk => (s.sock tsk).skSport == cb.dport with
  | none =>
      have other : cb.dport ≠ sport := by
        rintro rfl
        have missed := List.find?_eq_none.mp search tsk placed
        rw [awaits.named, beq_self_eq_true] at missed
        exact missed rfl
      rw [if_neg other]
      rfl
  | some found =>
      have same := only found (.inr ⟨_, List.mem_of_find?_eq_some search⟩)
      subst same
      have port : (s.sock found).skSport = cb.dport := by simpa using List.find?_some search
      rw [if_pos (port.symm.trans awaits.named)]
      rfl

/-- The listener takes the segments for its port that are no SYN. -/
theorem Stack.Awaits.breaks_iff (awaits : s.Awaits tsk sport) (reached : s.Reached) (cb : TcpCb) :
    (∃ handed, tcpSockLookup s cb = .ok handed ∧ (handed = 0 ∨ s.Breaks handed cb)) ↔
      ¬((s.sock tsk).state = .listen ∧ cb.dport = sport ∧
        ¬(cb.flags = tcpSyn ∧ isTcpSeqValid (s.sock tsk) cb = true)) := by
  obtain ⟨_, orderly⟩ := reached.inOrder
  have member : tsk ∈ s.allocated := awaits.allocated ▸ List.mem_singleton_self tsk
  rcases awaits.state with ⟨listening, bound, _⟩ | ⟨closed, unhashed, _⟩
  · rw [awaits.lookup reached listening cb]
    by_cases port : cb.dport = sport
    · have notNull := orderly.sound.shape.ne_null member
      simp only [port, if_true, Except.ok.injEq, exists_eq_left', notNull, false_or, Stack.Breaks,
        listening, bound, not_true_eq_false, and_false, or_false, true_and, not_not]
      exact and_comm
    · simp [port]
  · refine iff_of_true (reached.stops_of_unhashed cb fun other there => ?_) fun both => ?_
    · rw [awaits.allocated, List.mem_singleton] at there
      exact there ▸ unhashed
    · rw [closed] at both
      cases both.1

/-- A packet for a process stops it, or the listener takes it. -/
theorem ServerPlace.Holds.breaks_iff (holds : place.Holds port s) (reached : s.Reached)
    (cb : TcpCb) :
    (∃ handed, tcpSockLookup s cb = .ok handed ∧ (handed = 0 ∨ s.Breaks handed cb)) ↔
      ¬∃ tsk, place.listener = some tsk ∧ (s.sock tsk).state = .listen ∧
        cb.dport = serverPort port ∧
        ¬(cb.flags = tcpSyn ∧ isTcpSeqValid (s.sock tsk) cb = true) := by
  cases place with
  | start =>
      have none : s.allocated = [] := holds
      refine iff_of_true (reached.stops_of_unhashed _ fun tsk there => ?_) (by rintro ⟨_, ⟨⟩, _⟩)
      rw [none] at there
      cases there
  | allocated tsk | bound tsk =>
      have made : s.Made tsk := holds.1
      refine iff_of_true (reached.stops_of_unhashed _ fun other there => ?_) (by rintro ⟨_, ⟨⟩, _⟩)
      rw [made.allocated, List.mem_singleton] at there
      exact there ▸ made.unhashed
  | listening tsk | sleeping tsk =>
      have awaits : s.Awaits tsk (serverPort port) := holds
      refine (awaits.breaks_iff reached cb).trans (not_congr ?_)
      simp [ServerPlace.listener]
  | serving | closing | finished | exited => exact holds.elim

/-- A packet that is checked stops a process that is intact, or the listener takes it. -/
theorem ServerPlace.Holds.stopped_iff (holds : place.Holds port s) (reached : s.Reached)
    (intact : s.Intact) (cb : TcpCb) :
    (∃ handed, tcpSockLookup s cb = .ok handed ∧
        (handed = 0 ∨ (s.sock handed).state = .listen ∧ cb.StopsListener (s.sock handed))) ↔
      ¬∃ tsk, place.listener = some tsk ∧ cb.dport = serverPort port ∧
        ¬ cb.StopsListener (s.sock tsk) := by
  obtain ⟨_, orderly⟩ := reached.inOrder
  cases place with
  | start =>
      have none : s.allocated = [] := holds
      refine iff_of_true ⟨0, reached.lookup_of_unhashed cb ?_, .inl rfl⟩ (by rintro ⟨_, ⟨⟩, _⟩)
      rw [none]
      exact fun _ => nofun
  | allocated tsk | bound tsk =>
      have made : s.Made tsk := holds.1
      refine iff_of_true ⟨0, reached.lookup_of_unhashed cb fun other there => ?_, .inl rfl⟩
        (by rintro ⟨_, ⟨⟩, _⟩)
      rw [made.allocated, List.mem_singleton] at there
      exact there ▸ made.unhashed
  | listening tsk | sleeping tsk =>
      have awaits : s.Awaits tsk (serverPort port) := holds
      have member : tsk ∈ s.allocated := awaits.allocated ▸ List.mem_singleton_self tsk
      have notNull := orderly.sound.shape.ne_null member
      obtain ⟨listening, _⟩ := awaits.state.resolve_right fun closed => closed.2.2 intact.once
      rw [awaits.lookup reached listening cb]
      by_cases same : cb.dport = serverPort port <;>
        simp [ServerPlace.listener, same, notNull, listening]
  | serving | closing | finished | exited => exact holds.elim

end Stops

/-- **What stops the server.** In every state that the process can get to without using memory
that it gave back, a packet stops it if and only if its checksum is good and it is not one
that the listener survives: the thread has called `tcp_sock_listen`, the packet is for its
port, and it is no SYN, reset or FIN whose number is accepted. -/
theorem server_stops_iff (port : U16) (rbuf : Memory U8) (process : Process (tcpServer port rbuf))
    (run : Process.SparingRun (.init (tcpServer port rbuf)) process)
    (intact : process.stack.Intact) (packet : Memory U8) (ip tcp : ℕ) (tmp : SockPtr)
    (notNull : tmp ≠ 0) (absent : tmp ∉ process.stack.allocated) :
    (∃ halt, (handleTcpPacket process.stack packet ip tcp tmp).checked = .error halt) ↔
      checksumMatches packet ip tcp = true ∧
        ¬∃ tsk, ServerPlace.listener process.place = some tsk ∧
          (tcpCbInit packet ip tcp).dport = serverPort port ∧
          ¬ (tcpCbInit packet ip tcp).StopsListener (process.stack.sock tsk) := by
  obtain ⟨before, holds⟩ := server_holds run.run
  have reached := before.reached initTcpStack_reached
  exact (reached.handle_stops_iff intact packet ip tcp notNull absent).trans
    (and_congr_right fun _ => holds.stopped_iff reached intact _)

/-- A FIN for the server on port 80 stops it, and an ACK does not. -/
theorem server_stops_iff_port_80 : ∃ s tmp,
    (∃ halt, (handleTcpPacket s (clientPacket tcpFin) packetToIpHdr tcpPlace tmp).checked =
        .error halt) ∧
      ¬∃ halt, (handleTcpPacket s (clientPacket tcpAck) packetToIpHdr tcpPlace tmp).checked =
        .error halt := by
  obtain ⟨s, run, none, state⟩ :=
    server_listens (htons 80) (fun _ => 0) (show (1 : SockPtr) ≠ 0 by decide)
  obtain ⟨tmp, notNull, absent⟩ := s.exists_fresh
  obtain ⟨before, awaits⟩ := server_holds run.run
  have reached := before.reached initTcpStack_reached
  have member : 1 ∈ s.allocated :=
    (Stack.Awaits.allocated awaits).symm ▸ List.mem_singleton_self 1
  have stops := fun packet ip tcp =>
    server_stops_iff _ _ _ run (.of_freed none) packet ip tcp tmp notNull absent
  refine ⟨s, tmp, ?_, ?_⟩
  · refine (stops _ _ _).mpr ⟨(clientPacket_delivers tcpFin).matching, ?_⟩
    rintro ⟨tsk, ⟨⟩, _, survives⟩
    rw [(clientPacket_delivers tcpFin).received] at survives
    exact survives ⟨isTcpSeqValid_early (reached.origins 1 member) (.inl rfl) (.inr rfl),
      .inr (.inr rfl)⟩
  · rw [stops]
    rintro ⟨_, nobody⟩
    refine nobody ⟨1, rfl, ?_, ?_⟩
    · rw [(clientPacket_delivers tcpAck).received]
      rfl
    · rw [(clientPacket_delivers tcpAck).received]
      exact fun ends => absurd ends.2 (by decide)

end TcpStack
