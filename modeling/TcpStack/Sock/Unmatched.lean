import TcpStack.Sock.PassiveOpen

/-!
# Packets that nobody waits for

A packet with a correct checksum should be handled whether or not a sock matches
it: a packet that finds no sock should be answered with one reset, or with none
when it carries RST itself, and change nothing else. `handle_tcp_packet` hands
the null pointer of a failed lookup to `tcp_process`, which reads the receive
window through it. Two kinds of packets that do find a sock stop the program as
well: a SYN to a listener without parent, and a RST or a FIN to a listener that
was never bound. All others are handled (`packet_handled_iff`).
-/

set_option autoImplicit false

namespace TcpStack

open Lib

/-! ## Handling a packet -/

/-- `handle_tcp_packet` returns. If no sock matches the packet, then the socks and
the lists are as they were, and one reset was sent, or none if the segment carries
RST. -/
def Stack.Handles (s : Stack) (packet : Memory U8) (ip tcp : ℕ) (tmp : SockPtr) : Prop :=
  ∃ later, handleTcpPacket s packet ip tcp tmp = .ok later ∧
    (tcpSockLookup s (tcpCbInit packet ip tcp) = .ok 0 →
      ∃ sent, later = { s with out := s.out ++ sent } ∧
        if (tcpCbInit packet ip tcp).bears tcpRst then sent = []
        else ∃ reset, sent = [reset] ∧ reset.flags &&& tcpRst ≠ 0)

/-- A listener that accepts the segment has what the segment needs: a parent for
a SYN, and a place in the bind table for a RST or a FIN. -/
structure Stack.Takes (s : Stack) (tsk : SockPtr) (cb : TcpCb) : Prop where
  opens : (s.sock tsk).state = .listen → isTcpSeqValid (s.sock tsk) cb = true →
    cb.flags = tcpSyn → (s.sock tsk).parent ≠ 0
  closes : (s.sock tsk).state = .listen → cb.Closes (s.sock tsk) → s.InBind tsk

/-! ## Which segments return -/

section Returns

variable {s : Stack} {socks : Sequences} {tsk tmp : SockPtr} {cb : TcpCb}

/-- A hashed sock can be closed unless it is a listener that was never bound. -/
theorem Stack.Sound.close_returns_iff (sound : s.Sound socks) (hashed : s.Hashed tsk) :
    (∃ later, tcpSockClose s tsk = .ok later) ↔
      ((s.sock tsk).state = .listen → s.InBind tsk) := by
  by_cases listening : (s.sock tsk).state = .listen
  · obtain ⟨_, _, _, returns, _⟩ := sound.close_listen listening hashed
    rw [returns, ← sound.shape.inBind_iff]
    exact ⟨fun bound _ => bound, fun bound => bound listening⟩
  · exact ⟨fun _ listens => absurd listens listening,
      fun _ => ⟨_, (tcpSockClose_quiet listening).1⟩⟩

theorem Stack.Takes.of_not_listen (notListen : (s.sock tsk).state ≠ .listen) : s.Takes tsk cb :=
  ⟨fun listens => absurd listens notListen, fun listens => absurd listens notListen⟩

theorem Stack.Takes.of_dropped (dropped : isTcpSeqValid (s.sock tsk) cb = false) :
    s.Takes tsk cb := by
  constructor
  · intro _ accepted
    rw [dropped] at accepted
    cases accepted
  · rintro _ ⟨accepted, _⟩
    rw [dropped] at accepted
    cases accepted

/-- **A hashed sock processes exactly the segments it takes.** -/
theorem Stack.Sound.process_returns_iff (sound : s.Sound socks) (hashed : s.Hashed tsk)
    (notNull : tmp ≠ 0) (absent : tmp ∉ s.allocated) (cb : TcpCb) :
    (∃ later, tcpProcess s tsk cb tmp = .ok later) ↔ s.Takes tsk cb := by
  have member := sound.shape.allocated_of_hashed hashed
  have notSyn : cb.flags = tcpRst ∨ cb.flags = tcpFin → cb.flags ≠ tcpSyn := by
    rintro (flags | flags) <;> rw [flags] <;> decide
  have closing : isTcpSeqValid (s.sock tsk) cb = true → cb.flags = tcpRst ∨ cb.flags = tcpFin →
      (s.Takes tsk cb ↔ ((s.sock tsk).state = .listen → s.InBind tsk)) := by
    intro accepted flags
    constructor
    · exact fun takes listening => takes.closes listening ⟨accepted, flags⟩
    · exact fun bound =>
        ⟨fun _ _ isSyn => absurd isSyn (notSyn flags), fun listening _ => bound listening⟩
  refine tcpProcess_cases (motive := fun result => (∃ later, result = .ok later) ↔ s.Takes tsk cb)
    (sound.shape.ne_null member) ?_ ?_ ?_ ?_ ?_ ?_ ?_ ?_
  · exact fun dropped => iff_of_true ⟨s, rfl⟩ (.of_dropped dropped)
  · intro accepted isRst
    obtain ⟨sent, aside⟩ := sound.sendControl tsk tcpAck
    rw [closing accepted (.inl isRst), sent.close_returns_iff
      (((aside tsk).hashed sound.shape sent.shape).mpr hashed), (aside tsk).state,
      (aside tsk).inBind sound.shape sent.shape]
  · intro accepted isFin
    rw [closing accepted (.inr isFin), sound.close_returns_iff hashed]
  · intro _ notRst notFin answers
    refine iff_of_true ⟨_, rfl⟩ ⟨fun listening _ isSyn => ?_, fun _ closes =>
      absurd closes.2 (not_or.mpr ⟨notRst, notFin⟩)⟩
    rcases answers with state | ⟨_, notSyn⟩ | ⟨state, _⟩
    · rw [listening] at state
      cases state
    · exact absurd isSyn notSyn
    · rw [listening] at state
      cases state
  · intro accepted listening isSyn
    obtain ⟨_, _, _, returns, _⟩ := sound.passiveOpen member notNull absent cb
    rw [returns]
    refine ⟨fun isParent => ⟨fun _ _ _ => isParent, fun _ closes => ?_⟩,
      fun takes => takes.opens listening accepted isSyn⟩
    exact absurd isSyn (notSyn closes.2)
  · intro _ state _
    obtain ⟨queued, _, enqueued, _⟩ := sound.establish member state
    rw [enqueued]
    exact iff_of_true ⟨_, rfl⟩ (.of_not_listen (by simp [state]))
  · exact fun _ _ _ state => iff_of_true ⟨_, rfl⟩ (.of_not_listen (by simp [state]))
  · exact fun _ _ _ _ notListen _ _ => iff_of_true ⟨s, rfl⟩ (.of_not_listen notListen)

end Returns

/-! ## Every packet of an orderly run -/

/-- **Which packets with a correct checksum are handled**: in every orderly run,
those that find a sock which takes them. A packet that finds none never is. -/
theorem packet_handled_iff {s : Stack} (run : Run Event.Orderly initTcpStack s)
    (packet : Memory U8) (ip tcp : ℕ) (tmp : SockPtr) (notNull : tmp ≠ 0)
    (absent : tmp ∉ s.allocated) (matching : checksumMatches packet ip tcp = true) :
    s.Handles packet ip tcp tmp ↔
      ∃ tsk, tcpSockLookup s (tcpCbInit packet ip tcp) = .ok tsk ∧ tsk ≠ 0 ∧
        s.Takes tsk (tcpCbInit packet ip tcp) := by
  obtain ⟨socks, orderly⟩ := Run.orderly initTcpStack_orderly (fun _ _ => id) run
  obtain ⟨tsk, found, routed⟩ := orderly.sound.shape.lookup (tcpCbInit packet ip tcp)
  rw [Stack.Handles, handleTcpPacket_routed matching found, found]
  rcases routed with rfl | hashed
  · refine iff_of_false ?_ ?_
    · rintro ⟨later, done, _⟩
      exact (tcpProcess_step done).1 rfl
    · rintro ⟨_, ⟨⟩, notNull, _⟩
      exact notNull rfl
  · have present := orderly.sound.shape.ne_null (orderly.sound.shape.allocated_of_hashed hashed)
    have returns := orderly.sound.process_returns_iff hashed notNull absent
      (tcpCbInit packet ip tcp)
    constructor
    · rintro ⟨later, done, _⟩
      exact ⟨tsk, rfl, present, returns.mp ⟨later, done⟩⟩
    · rintro ⟨_, ⟨⟩, _, takes⟩
      obtain ⟨later, done⟩ := returns.mpr takes
      exact ⟨later, done, fun none => absurd (Except.ok.inj none) present⟩

/-- The listener on port 80 handles an ACK. -/
theorem packet_handled_iff_ack :
    checksumMatches (clientPacket tcpAck) packetToIpHdr tcpPlace = true ∧
      listeningStack.Handles (clientPacket tcpAck) packetToIpHdr tcpPlace 2 := by
  have matching := (clientPacket_delivers tcpAck).matching
  have orderly : Run Event.Orderly initTcpStack listeningStack :=
    listeningStack_reached fun _ _ orderly _ => orderly
  refine ⟨matching, (packet_handled_iff orderly _ _ _ 2 (by decide) (by decide) matching).mpr ?_⟩
  rw [(clientPacket_delivers tcpAck).received]
  exact ⟨1, rfl, by decide, fun _ _ isSyn => absurd isSyn (by decide),
    fun _ closes => absurd closes.2 (by decide)⟩

/-- **The first packet to a host without sockets stops the program**, however
correct it is. -/
theorem packet_unmatched_stops : ¬∀ (s : Stack) (packet : Memory U8) (ip tcp : ℕ) (tmp : SockPtr),
    Run (fun _ _ => True) initTcpStack s → tmp ≠ 0 → tmp ∉ s.allocated →
      checksumMatches packet ip tcp = true → s.Handles packet ip tcp tmp := by
  intro always
  obtain ⟨later, done, _⟩ := always initTcpStack (clientPacket tcpSyn) packetToIpHdr tcpPlace 1
    .refl (by decide) (by decide) (clientPacket_delivers tcpSyn).matching
  have stops : handleTcpPacket initTcpStack (clientPacket tcpSyn) packetToIpHdr tcpPlace 1 =
      .error ⟨.badPointer, initTcpStack⟩ := ((clientPacket_delivers tcpSyn).handle rfl 1).trans rfl
  rw [stops] at done
  cases done

end TcpStack
