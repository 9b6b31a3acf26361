import TcpStack.Sock.Orderly
import TcpStack.Sock.Acknowledgement

/-!
# Released socks

A sock is released when its reference count falls to zero, and nothing keeps the
count equal to the number of links: a sock in a table has one reference for each
table, while every close takes one away and leaves the links. A run in which
closes, binds and hashes meet the conditions of `Event.Careful` never has a
released sock in a table or a queue (`run_linked_not_released`); the peer's FIN
and one close of the application are enough to have one otherwise.
-/

set_option autoImplicit false

namespace TcpStack

open Lib

/-! ## Careful runs -/

/-- Closing the sock now leaves no link to a released sock. -/
def Stack.Closable (s : Stack) (tsk : SockPtr) : Prop :=
  (s.sock tsk).state = .closed ∨
    (s.sock tsk).state = .listen ∧ ¬ s.Queued tsk ∨
    (s.sock tsk).state ≠ .listen ∧ (2 ≤ (s.sock tsk).refCnt ∨ ¬ s.Linked tsk)

/-- The event links no released sock, links no sock twice by the same node, and
closes only socks that can be closed. -/
def Event.Careful (s : Stack) : Event → Prop
  | .bind tsk _ => ¬ s.Released tsk ∧ ¬ s.InBind tsk
  | .listen tsk _ => ¬ s.Released tsk ∧ ¬ s.Hashed tsk
  | .connect tsk _ _ => ¬ s.Released tsk ∧ ¬ s.InBind tsk ∧ ¬ s.Hashed tsk
  | .close tsk => s.Closable tsk
  | .arrive packet ip tcp _ => checksumMatches packet ip tcp = true →
      ∀ tsk, tcpSockLookup s (tcpCbInit packet ip tcp) = .ok tsk →
        (tcpCbInit packet ip tcp).Closes (s.sock tsk) → s.Closable tsk
  | .alloc _ | .connectWoken _ | .accept _ | .acceptWoken _ => True

/-- What a run of careful events keeps true of one sock. -/
structure Stack.Accounted (s : Stack) (socks : Sequences) (tsk : SockPtr) : Prop where
  live : s.Released tsk → ∀ head, s.IsHead head → tsk ∉ socks head
  backed : s.Backed tsk
  ready : ¬ s.Released tsk → s.BindReady socks tsk
  hashed : (s.sock tsk).state = .listen → s.Hashed tsk

/-- What a run of careful events keeps true of the stack. -/
structure Stack.Tended (s : Stack) (socks : Sequences) : Prop where
  sound : s.Sound socks
  accounts : ∀ tsk ∈ s.allocated, s.Accounted socks tsk
  freed : ∀ tsk, s.Released tsk → tsk ∈ s.allocated

section Accounts

variable {s later : Stack} {socks : Sequences} {tsk : SockPtr} {event : Event}

/-- A sock in a table or in a queue is not released. -/
theorem Stack.Tended.not_released (tended : s.Tended socks) (linked : s.Linked tsk) :
    ¬ s.Released tsk := by
  obtain ⟨head, isHead, inside⟩ := tended.sound.shape.linked_iff.mp linked
  intro released
  exact (tended.accounts tsk (tended.sound.shape.allocated head tsk isHead inside)).live released
    head isHead inside

theorem Stack.Orderly.tended (orderly : s.Orderly socks)
    (live : ∀ tsk, s.Released tsk → ¬ s.Linked tsk) : s.Tended socks where
  sound := orderly.sound
  accounts := by
    intro tsk member
    have balanced := orderly.balances tsk member
    exact
      { live := fun released head isHead inside =>
          live tsk released (orderly.sound.shape.linked_iff.mpr ⟨head, isHead, inside⟩)
        backed := balanced.backed
        ready := balanced.ready
        hashed := balanced.hashed }
  freed := orderly.freed

theorem Event.Careful.orderly (careful : event.Careful s) : event.Orderly s := by
  cases event with
  | bind | listen | connect => exact careful
  | alloc | connectWoken | accept | acceptWoken | close | arrive => trivial

theorem Event.Careful.closable (careful : event.Careful s) (closes : event.Closes s tsk) :
    s.Closable tsk := by
  cases event with
  | close other =>
      cases closes
      exact careful
  | arrive => exact careful closes.1 tsk closes.2.1 closes.2.2
  | alloc | bind | listen | connect | connectWoken | accept | acceptWoken => exact closes.elim

theorem Event.Orderly.careful (orderly : event.Orderly s) (calm : ∀ tsk, ¬ event.Closes s tsk) :
    event.Careful s := by
  cases event with
  | close tsk => exact absurd rfl (calm tsk)
  | arrive =>
      intro matching tsk found closes
      exact absurd ⟨matching, found, closes⟩ (calm tsk)
  | bind | listen | connect => exact orderly
  | alloc | connectWoken | accept | acceptWoken => trivial

/-- Closing a sock that can be closed leaves no link to a released sock. -/
theorem Stack.Shuts.not_linked (shuts : s.Shuts later tsk) (closable : s.Closable tsk)
    (live : s.Released tsk → ¬ s.Linked tsk) (released : later.Released tsk) :
    ¬ later.Linked tsk := by
  rcases closable with closed | ⟨listening, alone⟩ | ⟨notListen, safe⟩
  · have notListen : (s.sock tsk).state ≠ .listen := by rw [closed]; decide
    rw [shuts.linked notListen]
    exact live (((shuts.released notListen).mp released).resolve_right fun more => more.1 closed)
  · rw [(shuts.listening listening).2]
    exact alone
  · rw [shuts.linked notListen]
    rcases (shuts.released notListen).mp released with before | ⟨_, last⟩
    · exact live before
    · exact safe.resolve_left (by omega)

end Accounts

/-- One careful event links no released sock. -/
theorem Step.live {s later : Stack} {socks : Sequences} (orderly : s.Orderly socks)
    (live : ∀ tsk, s.Released tsk → ¬ s.Linked tsk) (step : Step Event.Careful s later) :
    ∃ moved, later.Orderly moved ∧ ∀ tsk, later.Released tsk → ¬ later.Linked tsk := by
  obtain ⟨event, possible, careful, done⟩ := step
  obtain ⟨moved, inOrder, turns⟩ := event.turns orderly possible careful.orderly done
  refine ⟨moved, inOrder, fun tsk released linked => ?_⟩
  by_cases closes : event.Closes s tsk
  · exact ((turns tsk).1 closes).not_linked (careful.closable closes) (live tsk) released linked
  · rcases (turns tsk).2 closes with rests | opens
    · exact live tsk (rests.released.mp released) (rests.linked linked)
    · obtain ⟨before, wasLinked⟩ := opens.released released
      exact live tsk before wasLinked

theorem Run.tended {s : Stack} (run : Run Event.Careful initTcpStack s) :
    ∃ socks, s.Tended socks := by
  have kept : ∃ socks, s.Orderly socks ∧ ∀ tsk, s.Released tsk → ¬ s.Linked tsk := by
    induction run with
    | refl => exact ⟨_, initTcpStack_orderly, by simp [initTcpStack, Stack.Released]⟩
    | tail _ step ih =>
        obtain ⟨socks, orderly, live⟩ := ih
        exact step.live orderly live
  obtain ⟨socks, orderly, live⟩ := kept
  exact ⟨socks, orderly.tended live⟩

/-- **In a careful run no table and no queue refers to a released sock.** -/
theorem run_linked_not_released (s : Stack) (run : Run Event.Careful initTcpStack s)
    (tsk : SockPtr) (linked : s.Linked tsk) : ¬ s.Released tsk := by
  obtain ⟨socks, tended⟩ := Run.tended run
  exact tended.not_released linked

/-- The peer of the active open to port 80 of host 2. -/
def peerSock : TcpSock :=
  { zeroedSock with skSip := 2, skSport := 80, skDip := 1, skDport := htons portMin }

/-- A packet without payload from the peer. -/
def peerPacket (flags : U8) : Memory U8 :=
  tcpSendControlPacketFrame (ipInitHdrWithId 7) peerSock flags fun _ => 0

theorem peerPacket_delivers (flags : U8) :
    Delivers (peerPacket flags) (peerSock.controlSegment flags) :=
  tcpSendControlPacketFrame_delivers (ipInitHdrWithId_fills 7) _ _ _

/-- The stack after the peer's FIN. -/
def closingStack : Stack :=
  freeTcpSock (tcpSetState (tcpSendControlPacket connectedStack 1 tcpFin) 1 .finWait1) 1

theorem oneSock_not_linked : ¬ (allocTcpSock initTcpStack 1).Linked 1 := by
  intro linked
  obtain ⟨orderly, _⟩ := initTcpStack_orderly.alloc (show (1 : SockPtr) ≠ 0 by decide) (by decide)
  obtain ⟨head, isHead, inside⟩ := orderly.sound.shape.linked_iff.mp linked
  cases head <;> simp [Sequences.withSock] at inside

theorem connectingStack_reached {allowed : Stack → Event → Prop}
    (calm : ∀ s event, event.Orderly s → (∀ tsk, ¬ event.Closes s tsk) → allowed s event) :
    Run allowed initTcpStack connectingStack := by
  have made : Step allowed initTcpStack (allocTcpSock initTcpStack 1) :=
    ⟨.alloc 1, ⟨by decide, by decide⟩, calm _ _ trivial fun _ => id, rfl⟩
  have opened : Step allowed (allocTcpSock initTcpStack 1) connectingStack := by
    have unlinked := oneSock_not_linked
    refine ⟨.connect 1 ⟨htonl 2, htons 80⟩ 1, List.mem_cons_self,
      calm _ _ ⟨by decide, fun bound => ?_, fun hashed => ?_⟩ fun _ => id, rfl⟩
    · exact unlinked (.inr (.inr (.inl bound)))
    · exact unlinked (hashed.imp_right .inl)
  exact (Relation.ReflTransGen.single made).tail opened

theorem connectedStack_run : Run Event.Careful initTcpStack connectedStack := by
  have answered : Step Event.Careful connectingStack connectedStack := by
    refine ⟨.arrive (peerPacket (tcpSyn ||| tcpAck)) packetToIpHdr tcpPlace 2,
      ⟨by decide, by decide⟩, ?_, ?_⟩
    · intro _ tsk _ closes
      rw [(peerPacket_delivers _).received] at closes
      exact absurd closes.2 (by decide)
    · exact ((peerPacket_delivers _).handle rfl 2).trans
        (tcpProcess_synSent (by decide) (by decide) (by decide) (by decide) (by decide))
  exact (connectingStack_reached fun _ _ orderly calm => orderly.careful calm).tail answered

theorem closingStack_run : Run Event.Careful initTcpStack closingStack := by
  refine connectedStack_run.tail ⟨.arrive (peerPacket tcpFin) packetToIpHdr tcpPlace 2,
    ⟨by decide, by decide⟩, ?_, ?_⟩
  · intro _ tsk found _
    rw [(peerPacket_delivers _).received] at found
    have lookup : tcpSockLookup connectedStack (peerSock.controlSegment tcpFin).received = .ok 1 :=
      rfl
    rw [lookup] at found
    cases found
    exact .inr (.inr ⟨by decide, .inl (by decide)⟩)
  · exact ((peerPacket_delivers _).handle rfl 2).trans
      (tcpProcess_fin (by decide) (by decide) rfl)

/-- Processing segments and closing moved nothing. -/
theorem closingStack_entries : closingStack.entries = connectingStack.entries := by
  funext head
  simp [Stack.entries, Stack.fuel, closingStack, connectedStack, tcpProcessSynSent]

theorem closingStack_linked : closingStack.InEstablished 1 ∧ closingStack.InBind 1 := by
  rw [Stack.InEstablished, Stack.InBind, closingStack_entries]
  exact ⟨⟨tcpHashFunction 1 2 (htons portMin) 80, by decide⟩,
    ⟨portBucket (htons portMin), by decide⟩⟩

/-- A sock that its peer has finished with is linked, and not released. -/
theorem run_linked_not_released_peer_fin :
    closingStack.Linked 1 ∧ ¬ closingStack.Released 1 :=
  ⟨.inl closingStack_linked.1,
    run_linked_not_released _ closingStack_run 1 (.inl closingStack_linked.1)⟩

/-- **A FIN of the peer and one close release a sock that two tables refer
to.** -/
theorem closed_after_fin_released :
    ∃ s, Run (fun _ _ => True) initTcpStack s ∧ s.InEstablished 1 ∧ s.InBind 1 ∧ s.Released 1 := by
  have run : Run (fun _ _ => True) initTcpStack closingStack :=
    Relation.ReflTransGen.mono (fun _ _ step => by
      obtain ⟨event, possible, _, done⟩ := step
      exact ⟨event, possible, trivial, done⟩) _ _ closingStack_run
  have allocated : 1 ∈ closingStack.allocated := by decide
  have closes : tcpSockClose closingStack 1 = .ok (freeTcpSock closingStack 1) := by
    have state : (closingStack.sock 1).state = .finWait1 := by decide
    simp only [tcpSockClose, state, pure, Except.pure]
  have entries : (freeTcpSock closingStack 1).entries = closingStack.entries := by
    funext head
    simp [Stack.entries, Stack.fuel]
  refine ⟨freeTcpSock closingStack 1, run.tail ⟨.close 1, allocated, trivial, closes⟩, ?_, ?_, ?_⟩
  · rw [Stack.InEstablished, entries]
    exact closingStack_linked.1
  · rw [Stack.InBind, entries]
    exact closingStack_linked.2
  · decide

end TcpStack
