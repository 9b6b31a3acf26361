import TcpStack.Sock.Standing

/-!
# What stops the program

Four things follow a null pointer in a run of orderly events: a packet that no sock is
found for, a SYN that a listener accepts, and the end of a listener that was never bound, by
the application or by a FIN or a reset of the peer (`Event.faults_iff_of_orderly`). A
listener that was bound does not survive its end either, as it is released twice then. So
these things stop the program in a run that comes to no released sock, and nothing else
does (`stops_iff`).
-/

set_option autoImplicit false

namespace TcpStack

open Lib

/-- The listener the segment is handed to cannot deal with it: it has no parent to
queue a child at, or no place in the bind table to leave. -/
def Stack.Breaks (s : Stack) (tsk : SockPtr) (cb : TcpCb) : Prop :=
  isTcpSeqValid (s.sock tsk) cb = true ∧ (s.sock tsk).state = .listen ∧
    (cb.flags = tcpSyn ∨ (cb.flags = tcpRst ∨ cb.flags = tcpFin) ∧ ¬ s.InBind tsk)

/-- The event follows a null pointer. -/
def Event.Faults (s : Stack) : Event → Prop
  | .close tsk => (s.sock tsk).state = .listen ∧ ¬ s.InBind tsk
  | .arrive packet ip tcp _ => checksumMatches packet ip tcp = true ∧
      ∃ tsk, tcpSockLookup s (tcpCbInit packet ip tcp) = .ok tsk ∧
        (tsk = 0 ∨ s.Breaks tsk (tcpCbInit packet ip tcp))
  | .alloc _ | .bind _ _ | .listen _ _ | .connect _ _ _ | .connectWoken _ | .accept _
  | .acceptWoken _ => False

section Orderly

variable {s : Stack} {socks : Sequences} {tsk : SockPtr}

/-- A close follows a null pointer if the sock is a listener that is not bound. -/
theorem Stack.Orderly.close_faults_iff (orderly : s.Orderly socks) (member : tsk ∈ s.allocated) :
    (∃ halt, tcpSockClose s tsk = .error halt) ↔
      (s.sock tsk).state = .listen ∧ ¬ s.InBind tsk := by
  by_cases listening : (s.sock tsk).state = .listen
  · rw [← (orderly.close_listener member listening).1, and_iff_right listening]
    cases tcpSockClose s tsk with
    | ok later => simp
    | error halt => simp
  · obtain ⟨later, closes, _⟩ := Stack.Sound.close_closed listening
    rw [closes]
    simp [listening]

/-- A segment leads to a null pointer exactly if it breaks the sock it is handed to. -/
theorem Stack.Orderly.process_faults_iff (orderly : s.Orderly socks) (childless : s.Childless)
    (member : tsk ∈ s.allocated) (cb : TcpCb) {tmp : SockPtr} (absent : tmp ∉ s.allocated) :
    (∃ halt, tcpProcess s tsk cb tmp = .error halt) ↔ s.Breaks tsk cb := by
  have notNull : tsk ≠ 0 := orderly.sound.shape.ne_null member
  have synNotRst : tcpSyn ≠ tcpRst := by decide
  have synNotFin : tcpSyn ≠ tcpFin := by decide
  refine tcpProcess_cases (motive := fun result => (∃ halt, result = .error halt) ↔
    s.Breaks tsk cb) notNull ?_ ?_ ?_ ?_ ?_ ?_ ?_ ?_
  · intro dropped
    simp [Stack.Breaks, dropped]
  · intro accepted isRst
    obtain ⟨sent, _⟩ := orderly.sendControl tsk tcpAck
    have inBind : (tcpSendControlPacket s tsk tcpAck).InBind tsk ↔ s.InBind tsk :=
      (Stack.SamePlaces.of_links (by simp) (by simp)).inBind
    rw [sent.close_faults_iff (by simpa using member), tcpSendControlPacket_state, inBind]
    simp [Stack.Breaks, accepted, isRst, synNotRst.symm]
  · intro accepted isFin
    rw [orderly.close_faults_iff member]
    simp [Stack.Breaks, accepted, isFin, synNotFin.symm]
  · intro accepted notRst notFin answered
    have notSyn : (s.sock tsk).state = .listen → cb.flags ≠ tcpSyn := by
      intro listening
      rcases answered with state | ⟨_, notSyn⟩ | ⟨state, _⟩
      · rw [state] at listening
        cases listening
      · exact notSyn
      · rw [state] at listening
        cases listening
    simp only [Stack.Breaks, notRst, notFin, or_self, false_and, or_false, reduceCtorEq,
      exists_false, false_iff]
    exact fun breaks => notSyn breaks.2.1 breaks.2.2
  · intro accepted listening isSyn
    rw [tcpProcessSyn_orphan cb (ne_of_mem_of_not_mem member absent) (childless tsk member)]
    exact iff_of_true ⟨_, rfl⟩ ⟨accepted, listening, .inl isSyn⟩
  · intro _ state
    exact absurd (childless tsk member) (orderly.sound.children tsk member state)
  · intro _ _ _ state
    simp [Stack.Breaks, state]
  · intro _ _ _ _ notListen
    simp [Stack.Breaks, notListen]

/-- What a segment that leads to a null pointer has emitted: the answer to a reset, or
nothing. -/
theorem Stack.Orderly.process_halt_out (orderly : s.Orderly socks) (childless : s.Childless)
    (member : tsk ∈ s.allocated) {cb : TcpCb} {tmp : SockPtr} (absent : tmp ∉ s.allocated)
    {halt : Halt} (stopped : tcpProcess s tsk cb tmp = .error halt) :
    halt.stack.out = s.out ∨ cb.flags = tcpRst := by
  obtain ⟨accepted, listening, reason⟩ :=
    (orderly.process_faults_iff childless member cb absent).mp ⟨halt, stopped⟩
  have notNull : tsk ≠ 0 := orderly.sound.shape.ne_null member
  rcases reason with isSyn | ⟨isRst | isFin, _⟩
  · rw [tcpProcess_syn notNull accepted (by rw [isSyn]; decide) (by rw [isSyn]; decide) listening
      isSyn, tcpProcessSyn_orphan cb (ne_of_mem_of_not_mem member absent)
      (childless tsk member)] at stopped
    cases stopped
    exact .inl rfl
  · exact .inr isRst
  · rw [tcpProcess_fin notNull accepted isFin] at stopped
    have out := tcpSockClose_listen_out listening
    rw [stopped] at out
    exact .inl out

/-- An event that returns follows no null pointer. -/
theorem Event.not_error_of_ok {event : Event} {later : Stack} (done : event.run s = .ok later) :
    ¬∃ halt, event.run s = .error halt := by
  rw [done]
  rintro ⟨halt, ⟨⟩⟩

/-- **An orderly event follows a null pointer exactly if it is one of these.** -/
theorem Event.faults_iff_of_orderly {event : Event} (orderly : s.Orderly socks)
    (childless : s.Childless) (possible : event.Possible s) (allowed : event.Orderly s) :
    (∃ halt, event.run s = .error halt) ↔ event.Faults s := by
  have sound := orderly.sound
  cases event with
  | alloc tsk => exact iff_of_false (Event.not_error_of_ok rfl) id
  | bind tsk skaddr =>
      obtain ⟨final, called, _⟩ := sound.bind_named childless possible allowed.2 skaddr
      exact iff_of_false (Event.not_error_of_ok (Outcome.bind_eq_ok.mpr ⟨_, called, rfl⟩)) id
  | listen tsk backlog =>
      obtain ⟨final, called, _⟩ := orderly.startsListening possible allowed.1 allowed.2 backlog
      exact iff_of_false (Event.not_error_of_ok (Outcome.bind_eq_ok.mpr ⟨_, called, rfl⟩)) id
  | connect tsk skaddr cursorIp =>
      obtain ⟨result, final, called, _⟩ :=
        orderly.connects childless possible allowed.2.1 allowed.2.2 skaddr cursorIp
      exact iff_of_false (Event.not_error_of_ok (Outcome.bind_eq_ok.mpr ⟨_, called, rfl⟩)) id
  | connectWoken tsk => exact iff_of_false (Event.not_error_of_ok rfl) id
  | accept tsk =>
      obtain ⟨popped, final, called, _⟩ := sound.accept_quiet possible
      exact iff_of_false (Event.not_error_of_ok (Outcome.bind_eq_ok.mpr ⟨_, called, rfl⟩)) id
  | acceptWoken tsk =>
      obtain ⟨popped, final, called, _⟩ := sound.acceptWoken_quiet possible
      exact iff_of_false (Event.not_error_of_ok (Outcome.bind_eq_ok.mpr ⟨_, called, rfl⟩)) id
  | close tsk => exact orderly.close_faults_iff possible
  | arrive packet ip tcp tmp =>
      show (∃ halt, handleTcpPacket s packet ip tcp tmp = .error halt) ↔ _
      cases matching : checksumMatches packet ip tcp with
      | false =>
          rw [handleTcpPacket_mismatch matching]
          simp [Event.Faults, matching]
      | true =>
          obtain ⟨tsk, found, routed⟩ := sound.shape.lookup (tcpCbInit packet ip tcp)
          rw [handleTcpPacket_routed matching found]
          simp only [Event.Faults, matching, found, true_and, Except.ok.injEq, exists_eq_left']
          rcases routed with rfl | hashed
          · simp [tcpProcess]
          · have member := sound.shape.allocated_of_hashed hashed
            rw [orderly.process_faults_iff childless member _ possible.2,
              or_iff_right (sound.shape.ne_null member)]

/-- What an event that follows a null pointer has emitted. -/
theorem Event.halt_out {event : Event} (orderly : s.Orderly socks) (childless : s.Childless)
    (possible : event.Possible s) (allowed : event.Orderly s) {halt : Halt}
    (stopped : event.run s = .error halt) :
    halt.stack.out = s.out ∨ ∃ packet ip tcp tmp, event = .arrive packet ip tcp tmp ∧
      (tcpCbInit packet ip tcp).flags = tcpRst := by
  have stops :=
    (Event.faults_iff_of_orderly orderly childless possible allowed).mp ⟨halt, stopped⟩
  cases event with
  | alloc | bind | listen | connect | connectWoken | accept | acceptWoken => exact stops.elim
  | close tsk =>
      have out := tcpSockClose_listen_out stops.1
      have same : tcpSockClose s tsk = .error halt := stopped
      rw [same] at out
      exact .inl out
  | arrive packet ip tcp tmp =>
      obtain ⟨matching, tsk, found, breaks⟩ := stops
      have handed : tcpProcess s tsk (tcpCbInit packet ip tcp) tmp = .error halt :=
        (handleTcpPacket_routed matching found tmp).symm.trans stopped
      by_cases null : tsk = 0
      · rw [null, tcpProcess, if_pos rfl] at handed
        cases handed
        exact .inl rfl
      · have hashed := orderly.sound.shape.hashed_of_lookup found null
        have member := orderly.sound.shape.allocated_of_hashed hashed
        rcases orderly.process_halt_out childless member possible.2 handed with same | isRst
        · exact .inl same
        · exact .inr ⟨packet, ip, tcp, tmp, rfl, isRst⟩

end Orderly

/-! ## The end of a listener -/

/-- The segment is one that no listener survives: a SYN, a reset or a FIN with a number that is
accepted. -/
def TcpCb.StopsListener (cb : TcpCb) (sk : TcpSock) : Prop :=
  isTcpSeqValid sk cb = true ∧ (cb.flags = tcpSyn ∨ cb.flags = tcpRst ∨ cb.flags = tcpFin)

/-- The event stops the program: it is the end of a listener, a SYN for a listener, or a packet
for nobody. -/
def Event.Stops (s : Stack) : Event → Prop
  | .close tsk => (s.sock tsk).state = .listen
  | .arrive packet ip tcp _ => checksumMatches packet ip tcp = true ∧
      ∃ tsk, tcpSockLookup s (tcpCbInit packet ip tcp) = .ok tsk ∧
        (tsk = 0 ∨ (s.sock tsk).state = .listen ∧
          (tcpCbInit packet ip tcp).StopsListener (s.sock tsk))
  | .alloc _ | .bind _ _ | .listen _ _ | .connect _ _ _ | .connectWoken _ | .accept _
  | .acceptWoken _ => False

section Sparing

variable {s : Stack} {socks : Sequences}

/-- A listener gives way to a null pointer, or it is closed. -/
theorem Stack.stopsListener_iff (s : Stack) (tsk : SockPtr) (cb : TcpCb) :
    (s.sock tsk).state = .listen ∧ cb.StopsListener (s.sock tsk) ↔
      s.Breaks tsk cb ∨ cb.Closes (s.sock tsk) ∧ (s.sock tsk).state = .listen := by
  rw [TcpCb.StopsListener, Stack.Breaks, TcpCb.Closes]
  tauto

/-- An event stops the program by a null pointer, or by the end of a listener. -/
theorem Event.stops_iff_faults_or_ends (event : Event) :
    event.Stops s ↔ event.Faults s ∨ event.EndsListener s := by
  cases event with
  | close tsk =>
      constructor
      · exact fun listening => .inr ⟨tsk, rfl, listening⟩
      · rintro (faults | ⟨_, rfl, listening⟩)
        · exact faults.1
        · exact listening
  | arrive packet ip tcp tmp =>
      simp only [Event.Stops, s.stopsListener_iff]
      constructor
      · rintro ⟨matching, tsk, found, null | breaks | ⟨closes, listening⟩⟩
        · exact .inl ⟨matching, tsk, found, .inl null⟩
        · exact .inl ⟨matching, tsk, found, .inr breaks⟩
        · exact .inr ⟨tsk, ⟨matching, found, closes⟩, listening⟩
      · rintro (⟨matching, tsk, found, null | breaks⟩ | ⟨tsk, ⟨matching, found, closes⟩, listening⟩)
        · exact ⟨matching, tsk, found, .inl null⟩
        · exact ⟨matching, tsk, found, .inr (.inl breaks)⟩
        · exact ⟨matching, tsk, found, .inr (.inr ⟨closes, listening⟩)⟩
  | alloc | bind | listen | connect | connectWoken | accept | acceptWoken =>
      refine ⟨False.elim, ?_⟩
      rintro (faults | ⟨_, closes, _⟩)
      · exact faults
      · exact closes

/-- **A sparing event stops the program exactly if it is one of these.** -/
theorem Event.Sparing.halts_iff {event : Event} (sparing : event.Sparing s)
    (orderly : s.Orderly socks) (childless : s.Childless) (possible : event.Possible s) :
    (∃ halt, event.exec s = .error halt) ↔ event.Stops s := by
  rw [event.stops_iff_faults_or_ends,
    ← Event.faults_iff_of_orderly orderly childless possible sparing.orderly]
  cases done : event.run s with
  | error halt =>
      rw [Event.exec, done]
      exact iff_of_true ⟨halt, rfl⟩ (.inl ⟨halt, rfl⟩)
  | ok later =>
      have returns : event.exec s = .ok later ↔ event.run s = .ok later ∧ ¬ event.EndsListener s :=
        sparing.exec_eq_ok orderly childless possible
      cases checked : event.exec s with
      | error halt =>
          rw [checked, done] at returns
          refine iff_of_true ⟨halt, rfl⟩ (.inr ?_)
          by_contra kept
          cases returns.mpr ⟨rfl, kept⟩
      | ok final =>
          obtain ⟨same, once⟩ := Event.exec_eq_ok.mp checked
          have kept := ((sparing.exec_eq_ok orderly childless possible).mp checked).2
          refine iff_of_false nofun ?_
          rintro (⟨halt, ⟨⟩⟩ | ends)
          exact kept ends

end Sparing

/-! ## Runs -/

/-- **What stops the program.** After every sparing run, the next sparing event stops the program
exactly if it is a packet with a good checksum that no sock is found for, a SYN, a reset or a FIN
that a listener accepts, or the close of a listener. Any other one returns, and has released no
sock twice; and it leaves a stack that is intact unless it closes a sock that is linked and
has one reference left. -/
theorem stops_iff (s : Stack) (run : Run Event.Sparing initTcpStack s) (event : Event)
    (possible : event.Possible s) (sparing : event.Sparing s) :
    ((∃ halt, event.exec s = .error halt) ↔ event.Stops s) ∧
      ∀ later, event.exec s = .ok later →
        (later.Intact ↔ ∀ tsk, event.Closes s tsk → s.Closable tsk) := by
  have reached := run.orderly_of_sparing.reached initTcpStack_reached
  obtain ⟨_, orderly⟩ := reached.inOrder
  exact ⟨sparing.halts_iff orderly reached.childless possible,
    fun later => sparing.intact_iff orderly possible⟩

/-- A FIN for a listener on port 80 that was bound, and an ACK for it. -/
theorem stops_iff_listener :
    (∃ halt, (Event.arrive (clientPacket tcpFin) packetToIpHdr tcpPlace 2).exec listeningStack =
        .error halt) ∧
      ∃ later, (Event.arrive (clientPacket tcpAck) packetToIpHdr tcpPlace 2).exec listeningStack =
        .ok later ∧ later.Intact := by
  obtain ⟨run, none⟩ := Run.sparing_of_calm
    (listeningStack_reached fun _ _ orderly calm => ⟨orderly, calm⟩)
  have listening : (listeningStack.sock 1).state = .listen := rfl
  have sparing : ∀ flags,
      (Event.arrive (clientPacket flags) packetToIpHdr tcpPlace 2).Sparing listeningStack :=
    fun flags => ⟨trivial, .of_freed none, nofun⟩
  have possible : ∀ flags,
      (Event.arrive (clientPacket flags) packetToIpHdr tcpPlace 2).Possible listeningStack :=
    fun flags => ⟨by decide, by decide⟩
  constructor
  · refine (stops_iff listeningStack run _ (possible tcpFin) (sparing tcpFin)).1.mpr ?_
    refine ⟨(clientPacket_delivers tcpFin).matching, 1, ?_⟩
    rw [(clientPacket_delivers tcpFin).received]
    exact ⟨rfl, .inr ⟨listening, by decide, .inr (.inr rfl)⟩⟩
  · obtain ⟨stops, leaves⟩ := stops_iff listeningStack run _ (possible tcpAck) (sparing tcpAck)
    cases done : (Event.arrive (clientPacket tcpAck) packetToIpHdr tcpPlace 2).exec
        listeningStack with
    | error halt =>
        obtain ⟨_, tsk, found, reason⟩ := stops.mp ⟨halt, done⟩
        rw [(clientPacket_delivers tcpAck).received] at found reason
        have lookup : tcpSockLookup listeningStack (clientSock.controlSegment tcpAck).received =
          .ok 1 := rfl
        rw [lookup] at found
        cases found
        rcases reason with null | ⟨_, _, flags⟩
        · cases null
        · exact absurd flags (by decide)
    | ok later =>
        refine ⟨later, rfl, (leaves later done).mpr fun tsk closes => ?_⟩
        obtain ⟨_, _, _, flags⟩ := closes
        rw [(clientPacket_delivers tcpAck).received] at flags
        exact absurd flags (by decide)

end TcpStack
