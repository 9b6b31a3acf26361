import TcpStack.Sock.Lifetime

/-!
# Listeners and the network

What packets alone can do to a listener. `tcp_process` looks at RST and FIN
before it looks at the state, so a packet whose only flag is one of the two
closes whatever sock it is handed to, a listener included
(`listener_taken_down`). Every other packet leaves every listener as it is, and
so does any sequence of them (`listener_survives`).
-/

set_option autoImplicit false

namespace TcpStack

open Lib

/-- The sock listens, and is linked as a listener is. -/
structure Stack.Listens (s : Stack) (tsk : SockPtr) : Prop where
  state : (s.sock tsk).state = .listen
  inListen : s.InListen tsk
  inBind : s.InBind tsk

/-- A packet handed to `handle_tcp_packet`, and the address that `malloc` returns
if a sock is made for it. -/
structure Arrival where
  packet : Memory U8
  ip : ℕ
  tcp : ℕ
  tmp : SockPtr

/-- The stack once the packet was handled, whether that returned or stopped the
program. -/
def Stack.receive (s : Stack) (arrival : Arrival) : Stack :=
  (handleTcpPacket s arrival.packet arrival.ip arrival.tcp arrival.tmp).stack

/-- The packet does not close the sock: its checksum is wrong, it is routed
elsewhere, it is out of the window, or its flags are neither exactly RST nor
exactly FIN. -/
def Arrival.Spares (tsk : SockPtr) (s : Stack) (arrival : Arrival) : Prop :=
  ¬ (checksumMatches arrival.packet arrival.ip arrival.tcp = true ∧
    tcpSockLookup s (tcpCbInit arrival.packet arrival.ip arrival.tcp) = .ok tsk ∧
    (tcpCbInit arrival.packet arrival.ip arrival.tcp).Closes (s.sock tsk))

/-- One packet is handled. -/
def Receives (allowed : Stack → Arrival → Prop) (s later : Stack) : Prop :=
  ∃ arrival : Arrival, arrival.tmp ≠ 0 ∧ arrival.tmp ∉ s.allocated ∧ allowed s arrival ∧
    later = s.receive arrival

section Listener

variable {s later : Stack} {socks moved : Sequences} {tsk : SockPtr}

theorem Stack.Aside.inListen (aside : s.Aside socks later moved tsk) (shape : s.Shape socks)
    (laterShape : later.Shape moved) : later.InListen tsk ↔ s.InListen tsk := by
  simp only [Stack.InListen, shape.listen_entries, laterShape.listen_entries]
  exact exists_congr fun bucket => (aside.places _ (later.isHead_listen bucket)).trans
    (and_iff_right (s.isHead_listen bucket))

theorem Stack.Listens.aside (listens : s.Listens tsk) (aside : s.Aside socks later moved tsk)
    (shape : s.Shape socks) (laterShape : later.Shape moved) : later.Listens tsk where
  state := aside.state.trans listens.state
  inListen := (aside.inListen shape laterShape).mpr listens.inListen
  inBind := (aside.inBind shape laterShape).mpr listens.inBind

theorem Stack.Listens.allocated (listens : s.Listens tsk) (shape : s.Shape socks) :
    tsk ∈ s.allocated := by
  obtain ⟨bucket, inside⟩ := listens.inListen
  rw [shape.listen_entries] at inside
  exact shape.allocated _ tsk (s.isHead_listen bucket) inside

/-- A packet that spares a listener leaves it as it is. -/
theorem Stack.Listens.receive (listens : s.Listens tsk) (sound : s.Sound socks) {arrival : Arrival}
    (notNull : arrival.tmp ≠ 0) (absent : arrival.tmp ∉ s.allocated)
    (spares : arrival.Spares tsk s) :
    ∃ moved, (s.receive arrival).Sound moved ∧ (s.receive arrival).Listens tsk ∧
      ((s.receive arrival).sock tsk).refCnt = (s.sock tsk).refCnt := by
  obtain ⟨moved, inOrder, aside⟩ :=
    sound.handle arrival.packet arrival.ip arrival.tcp notNull absent
  have kept := aside tsk (listens.allocated sound.shape) listens.state fun matching found closes =>
    spares ⟨matching, found, closes⟩
  exact ⟨moved, inOrder, listens.aside kept sound.shape inOrder.shape, kept.refCnt⟩

/-- A close takes a listener down. -/
theorem Stack.Listens.close (listens : s.Listens tsk) (sound : s.Sound socks) :
    ((tcpSockClose s tsk).stack.sock tsk).state = .closed := by
  obtain ⟨_, _, _, returns, _⟩ := sound.close_listen listens.state (.inr listens.inListen)
  obtain ⟨later, closed⟩ := returns.mpr (sound.shape.inBind_iff.mp listens.inBind)
  rw [closed, Outcome.stack_ok, tcpSockClose_state closed, listens.state]
  rfl

/-- **A packet that does not spare a listener takes it down.** -/
theorem listener_taken_down (listens : s.Listens tsk) (sound : s.Sound socks) {arrival : Arrival}
    (closes : ¬ arrival.Spares tsk s) : ((s.receive arrival).sock tsk).state = .closed := by
  obtain ⟨matching, found, accepted, flags⟩ := not_not.mp closes
  have notNull := sound.shape.ne_null (listens.allocated sound.shape)
  rw [Stack.receive, handleTcpPacket_routed matching found]
  rcases flags with isRst | isFin
  · obtain ⟨sent, aside⟩ := sound.sendControl tsk tcpAck
    rw [tcpProcess_rst notNull accepted isRst]
    exact (listens.aside (aside tsk) sound.shape sent.shape).close sent
  · rw [tcpProcess_fin notNull accepted isFin]
    exact listens.close sound

end Listener

/-- **Packets that spare a listener leave it listening**, linked in both tables
and with its references, however many they are; the next packet does so exactly
when it spares it. -/
theorem listener_survives (s : Stack) (socks : Sequences) (sound : s.Sound socks) (tsk : SockPtr)
    (listens : s.Listens tsk) (later : Stack)
    (run : Relation.ReflTransGen (Receives (Arrival.Spares tsk)) s later) :
    (later.Listens tsk ∧ (later.sock tsk).refCnt = (s.sock tsk).refCnt) ∧
      ∀ arrival : Arrival, arrival.tmp ≠ 0 → arrival.tmp ∉ later.allocated →
        ((later.receive arrival).Listens tsk ∧
          ((later.receive arrival).sock tsk).refCnt = (s.sock tsk).refCnt ↔
            arrival.Spares tsk later) := by
  have kept : ∃ moved, later.Sound moved ∧ later.Listens tsk ∧
      (later.sock tsk).refCnt = (s.sock tsk).refCnt := by
    induction run with
    | refl => exact ⟨socks, sound, listens, rfl⟩
    | tail _ step ih =>
        obtain ⟨between, inOrder, still, refCnt⟩ := ih
        obtain ⟨arrival, notNull, absent, spares, rfl⟩ := step
        obtain ⟨moved, next, stays, same⟩ := still.receive inOrder notNull absent spares
        exact ⟨moved, next, stays, same.trans refCnt⟩
  obtain ⟨moved, inOrder, stays, refCnt⟩ := kept
  refine ⟨⟨stays, refCnt⟩, fun arrival notNull absent => ⟨?_, ?_⟩⟩
  · rintro ⟨still, _⟩
    by_contra closes
    have state := listener_taken_down stays inOrder closes
    rw [still.state] at state
    cases state
  · intro spares
    obtain ⟨_, _, still, same⟩ := stays.receive inOrder notNull absent spares
    exact ⟨still, same.trans refCnt⟩

/-- A sock bound to port 80. -/
def boundStack : Stack :=
  (tcpBindHash ((allocTcpSock initTcpStack 1).modify 1 fun sk => { sk with skSport := 80 }) 1).stack

/-- A listener on port 80. -/
def listeningStack : Stack := (Event.run boundStack (.listen 1 4)).stack

theorem listeningStack_reached {allowed : Stack → Event → Prop}
    (calm : ∀ s event, event.Orderly s → (∀ tsk, ¬ event.Closes s tsk) → allowed s event) :
    Run allowed initTcpStack listeningStack := by
  have made : Step allowed initTcpStack (allocTcpSock initTcpStack 1) :=
    ⟨.alloc 1, ⟨by decide, by decide⟩, calm _ _ trivial fun _ => id, rfl⟩
  have unbound : ¬ (allocTcpSock initTcpStack 1).InBind 1 :=
    fun bound => oneSock_not_linked (.inr (.inr (.inl bound)))
  have bound : Step allowed (allocTcpSock initTcpStack 1) boundStack :=
    ⟨.bind 1 ⟨0, htons 80⟩, List.mem_cons_self, calm _ _ ⟨by decide, unbound⟩ fun _ => id, rfl⟩
  have unhashed : ¬ boundStack.Hashed 1 := by
    obtain ⟨alone, _⟩ := initTcpStack_orderly.alloc (show (1 : SockPtr) ≠ 0 by decide) (by decide)
    obtain ⟨named, _⟩ : ((allocTcpSock initTcpStack 1).modify 1 fun sk =>
        { sk with skSport := 80 }).Orderly _ ∧ _ :=
      alone.modify (fun _ => rfl) (fun _ => rfl) (fun _ => rfl)
    obtain ⟨links, moved, done, _, still, _⟩ := named.bindHash List.mem_cons_self unbound
    rw [boundStack, done, Outcome.stack_ok, still]
    exact fun hashed => oneSock_not_linked (hashed.imp_right .inl)
  have member : 1 ∈ boundStack.allocated := by decide
  have opened : Step allowed boundStack listeningStack :=
    ⟨.listen 1 4, member, calm _ _ ⟨by decide, unhashed⟩ fun _ => id, rfl⟩
  exact ((Relation.ReflTransGen.single made).tail bound).tail opened

theorem listeningStack_run : Run Event.Careful initTcpStack listeningStack :=
  listeningStack_reached fun _ _ orderly calm => orderly.careful calm

theorem listeningStack_listens : listeningStack.Listens 1 :=
  ⟨by decide, ⟨portBucket 80, by decide⟩, ⟨portBucket 80, by decide⟩⟩

/-- A sock of some host that talks to port 80. -/
def clientSock : TcpSock :=
  { zeroedSock with skSip := 2, skSport := 99, skDip := 1, skDport := 80 }

/-- A packet without payload from this host. -/
def clientPacket (flags : U8) : Memory U8 :=
  tcpSendControlPacketFrame (ipInitHdrWithId 7) clientSock flags fun _ => 0

theorem clientPacket_delivers (flags : U8) :
    Delivers (clientPacket flags) (clientSock.controlSegment flags) :=
  tcpSendControlPacketFrame_delivers (ipInitHdrWithId_fills 7) _ _ _

/-- The listener survives an ACK, which it answers. -/
theorem listener_survives_ack :
    (listeningStack.receive ⟨clientPacket tcpAck, packetToIpHdr, tcpPlace, 2⟩).Listens 1 := by
  obtain ⟨socks, tended⟩ := Run.tended listeningStack_run
  have spares : Arrival.Spares 1 listeningStack
      ⟨clientPacket tcpAck, packetToIpHdr, tcpPlace, 2⟩ := by
    rintro ⟨_, _, closes⟩
    rw [(clientPacket_delivers _).received] at closes
    exact absurd closes.2 (by decide)
  exact (listener_survives listeningStack socks tended.sound 1 listeningStack_listens _
    (.single ⟨_, by decide, by decide, spares, rfl⟩)).1.1

/-- **A bare RST takes down a listener**, and so does a bare FIN. -/
theorem listener_closed_by_packet :
    ∃ socks, listeningStack.Sound socks ∧ listeningStack.Listens 1 ∧
      ¬ (listeningStack.receive ⟨clientPacket tcpRst, packetToIpHdr, tcpPlace, 2⟩).Listens 1 ∧
      ¬ (listeningStack.receive ⟨clientPacket tcpFin, packetToIpHdr, tcpPlace, 2⟩).Listens 1 := by
  obtain ⟨socks, tended⟩ := Run.tended listeningStack_run
  have closes : ∀ flags, flags = tcpRst ∨ flags = tcpFin →
      ¬ (listeningStack.receive ⟨clientPacket flags, packetToIpHdr, tcpPlace, 2⟩).Listens 1 := by
    intro flags bare still
    have closing : ¬ Arrival.Spares 1 listeningStack
        ⟨clientPacket flags, packetToIpHdr, tcpPlace, 2⟩ := by
      refine not_not.mpr ⟨(clientPacket_delivers _).matching, ?_⟩
      dsimp only
      rw [(clientPacket_delivers _).received]
      rcases bare with rfl | rfl
      · exact ⟨rfl, by decide⟩
      · exact ⟨rfl, by decide⟩
    have closed := listener_taken_down listeningStack_listens tended.sound closing
    rw [still.state] at closed
    cases closed
  exact ⟨socks, tended.sound, listeningStack_listens, closes _ (.inl rfl), closes _ (.inr rfl)⟩

end TcpStack
