import Mathlib.Data.Fintype.EquivFin
import TcpStack.Sock.Standing

/-!
# One connection to each remote endpoint

No call and no packet takes a sock out of the established table, and every active
open leaves from the same port. So the first sock that opens a connection to a
remote endpoint holds it as long as no memory is used that was given back
(`established_stays`): a later open of another sock sends its SYN, but the sock is
never hashed, and whatever happens from then on it never gets to `ESTABLISHED`
(`connect_establishes_iff`).
-/

set_option autoImplicit false

namespace TcpStack

open Lib

/-! ## Socks that have sent their SYN -/

/-- The sock has sent its SYN, and has kept its endpoints and its place. -/
structure Stack.Abides (s later : Stack) (tsk : SockPtr) : Prop where
  member : tsk ∈ later.allocated
  sent : (later.sock tsk).sndNxt ≠ 0
  tuple : (later.sock tsk).tuple = (s.sock tsk).tuple
  inEstablished : later.InEstablished tsk ↔ s.InEstablished tsk

section Abides

variable {s middle later : Stack} {socks : Sequences} {tsk : SockPtr}

theorem Stack.Abides.trans (first : s.Abides middle tsk) (second : middle.Abides later tsk) :
    s.Abides later tsk :=
  ⟨second.member, second.sent, second.tuple.trans first.tuple,
    second.inEstablished.trans first.inEstablished⟩

theorem Stack.Stays.abides (stays : s.Stays later tsk) (member : tsk ∈ later.allocated)
    (sent : (s.sock tsk).sndNxt ≠ 0) : s.Abides later tsk :=
  ⟨member, stays.sndNxt ▸ sent, stays.tuple, stays.places.inEstablished⟩

theorem Stack.Closed.abides {before : List Segment} (closed : s.Closed tsk before later)
    (stands : s.Stands tsk) (shape : s.Shape socks) (member : tsk ∈ s.allocated)
    (sent : (s.sock tsk).sndNxt ≠ 0) : s.Abides later tsk := by
  refine ⟨closed.alters.allocated ▸ member, (closed.numbered stands).2.mpr sent, closed.tuple, ?_⟩
  by_cases listening : (s.sock tsk).state = .listen
  · have listed := stands.listening.mpr listening
    exact iff_of_false (closed.listening listening).2.2
      fun inside => shape.not_inListen_of_inEstablished inside listed
  · exact (closed.places listening).inEstablished

theorem SegmentEffect.abides {cb : TcpCb} {altered : SockPtr}
    (effect : SegmentEffect s altered cb later) (standing : s.Standing) (shape : s.Shape socks)
    (member : tsk ∈ s.allocated) (sent : (s.sock tsk).sndNxt ≠ 0) : s.Abides later tsk := by
  have others : ∀ {emitted : List Segment}, s.Alters altered emitted later → tsk ≠ altered →
      s.Abides later tsk := fun alters different =>
    (alters.others tsk different).abides (alters.allocated ▸ member) sent
  cases effect with
  | ignored same =>
      rw [same]
      exact ⟨member, sent, rfl, Iff.rfl⟩
  | answered _ _ _ same =>
      rw [same]
      exact (tcpSendReset_stays s cb tsk).abides member sent
  | establishes _ _ _ establishes =>
      by_cases same : tsk = altered
      · subst same
        exact ⟨establishes.alters.allocated ▸ member, establishes.sndNxt ▸ sent,
          establishes.tuple, establishes.places.inEstablished⟩
      · exact others establishes.alters same
  | finished _ closed | aborted _ closed =>
      by_cases same : tsk = altered
      · subst same
        exact closed.abides (standing.stands tsk member) shape member sent
      · exact others closed.alters same

/-- No event changes the endpoints of a sock that has sent its SYN, or moves it into
the established table or out of it. -/
theorem Effect.abides {event : Event} (effect : Effect s event later) (standing : s.Standing)
    (shape : s.Shape socks) (allowed : event.Orderly s) (member : tsk ∈ s.allocated)
    (sent : (s.sock tsk).sndNxt ≠ 0) : s.Abides later tsk := by
  have others : ∀ {altered : SockPtr} {emitted : List Segment},
      s.Alters altered emitted later → tsk ≠ altered → s.Abides later tsk :=
    fun alters different =>
      (alters.others tsk different).abides (alters.allocated ▸ member) sent
  have stands := standing.stands tsk member
  cases effect with
  | quiet quiet => exact (quiet.stays tsk).abides (quiet.allocated ▸ member) sent
  | makes makes =>
      refine (makes.others tsk fun same => makes.absent (same ▸ member)).abides ?_ sent
      rw [makes.allocated]
      exact List.mem_cons_of_mem _ member
  | names named =>
      refine others named.alters ?_
      rintro rfl
      exact sent (stands.sndNxt_eq_zero allowed.1 allowed.2)
  | @listens altered _ _ listens =>
      by_cases same : tsk = altered
      · subst same
        exact ⟨listens.alters.allocated ▸ member, listens.sndNxt ▸ sent, listens.tuple,
          iff_of_false listens.notInEstablished fun inside => allowed.2 (.inl inside)⟩
      · exact others listens.alters same
  | connects connects =>
      obtain ⟨_, _, _, alters⟩ := connects.alters
      refine others alters ?_
      rintro rfl
      exact sent (stands.sndNxt_eq_zero allowed.1 allowed.2.1)
  | @closes altered _ closed =>
      by_cases same : tsk = altered
      · subst same
        exact closed.abides stands shape member sent
      · exact others closed.alters same
  | arrives _ _ segment => exact segment.abides standing shape member sent

end Abides

/-- Nor does a run. -/
theorem Run.abides {s later : Stack} {tsk : SockPtr} (run : Run Event.Orderly s later)
    (reached : s.Reached) (member : tsk ∈ s.allocated) (sent : (s.sock tsk).sndNxt ≠ 0) :
    s.Abides later tsk := by
  induction run with
  | refl => exact ⟨member, sent, rfl, Iff.rfl⟩
  | tail before step ih =>
      have between := Run.reached before reached
      obtain ⟨_, orderly⟩ := between.inOrder
      obtain ⟨event, possible, allowed, done⟩ := step
      have effect := between.effect possible allowed done
      exact ih.trans (effect.abides between.standing orderly.sound.shape allowed ih.member ih.sent)

/-- **The established table only grows.** A sock that is in it after a sparing run is in it as
long as the run goes on sparingly and leaves the stack intact, with the same 4-tuple, and is
not released. -/
theorem established_stays (s later : Stack) (before : Run Event.Sparing initTcpStack s)
    (run : Run Event.Sparing s later) (intact : later.Intact) (tsk : SockPtr)
    (inside : s.InEstablished tsk) :
    later.InEstablished tsk ∧ (later.sock tsk).tuple = (s.sock tsk).tuple ∧
      ¬ later.Released tsk := by
  have reached := before.orderly_of_sparing.reached initTcpStack_reached
  obtain ⟨_, orderly⟩ := reached.inOrder
  have member := orderly.sound.shape.allocated_of_hashed (.inl inside)
  have abides := Run.abides run.orderly_of_sparing reached member
    ((reached.standing.stands tsk member).opened inside)
  have still := abides.inEstablished.mpr inside
  exact ⟨still, abides.tuple, intact.not_released (.inl still)⟩

/-- A connection is there after the peer has sent its FIN. -/
theorem established_stays_peer_fin :
    closingStack.InEstablished 1 ∧ ¬ closingStack.Released 1 := by
  have inside : connectedStack.InEstablished 1 :=
    ⟨tcpHashFunction 1 2 (htons portMin) 80, by decide⟩
  obtain ⟨still, _, unreleased⟩ := established_stays connectedStack closingStack
    connectedStack_sparing.1 (.single closingStack_sparing) (.of_freed (by decide)) 1 inside
  exact ⟨still, unreleased⟩

/-! ## Answers -/

/-- A sock that has received nothing accepts the first numbers. -/
theorem isTcpSeqValid_early {sk : TcpSock} {cb : TcpCb}
    (origin : sk.origin = (0, 0, tcpDefaultWindow)) (seq : cb.seq = 0 ∨ cb.seq = 1)
    (seqEnd : cb.seqEnd = cb.seq ∨ cb.seqEnd = cb.seq + 1) : isTcpSeqValid sk cb = true := by
  have rcvNxt : sk.rcvNxt = 0 := congrArg (fun fields => fields.2.1) origin
  have rcvWnd : sk.rcvWnd = tcpDefaultWindow := congrArg (fun fields => fields.2.2) origin
  rw [isTcpSeqValid, rcvNxt, rcvWnd]
  rcases seq with seq | seq <;> rw [seq] at seqEnd ⊢ <;> rcases seqEnd with seqEnd | seqEnd <;>
    rw [seqEnd] <;> rfl

/-- The numbers of a segment without payload. -/
theorem Segment.received_seqEnd {sent : Segment} (bare : sent.payload = []) :
    sent.received.seqEnd = sent.received.seq ∨ sent.received.seqEnd = sent.received.seq + 1 := by
  have zero : sent.seq + BitVec.ofNat 32 sent.payload.length = sent.seq := by
    rw [bare]
    exact BitVec.add_zero _
  rw [Segment.received, zero]
  dsimp only
  split
  · exact .inr rfl
  · exact .inl (BitVec.add_zero _)

/-- Memory is never used up. -/
theorem Stack.exists_fresh (s : Stack) : ∃ tmp : SockPtr, tmp ≠ 0 ∧ tmp ∉ s.allocated := by
  obtain ⟨tmp, fresh⟩ := Infinite.exists_notMem_finset (0 :: s.allocated).toFinset
  rw [List.mem_toFinset, List.mem_cons, not_or] at fresh
  exact ⟨tmp, fresh⟩

/-- A segment that a sock in `TCP_SYN_SENT` takes for the one it waits for. -/
theorem Stack.Reached.answer {s : Stack} {tsk tmp : SockPtr} {packet : Memory U8} {sent : Segment}
    (reached : s.Reached) (delivers : Delivers packet sent) (bare : sent.payload = [])
    (seq : sent.seq = 0 ∨ sent.seq = 1) (notRst : sent.flags ≠ tcpRst)
    (notFin : sent.flags ≠ tcpFin) (inside : s.InEstablished tsk)
    (state : (s.sock tsk).state = .synSent)
    (tuple : (s.sock tsk).tuple = sent.received.mirrored) :
    handleTcpPacket s packet packetToIpHdr tcpPlace tmp = .ok (tcpProcessSynSent s tsk) := by
  obtain ⟨_, orderly⟩ := reached.inOrder
  have shape := orderly.sound.shape
  have member := shape.allocated_of_hashed (.inl inside)
  have found := reached.standing.lookup_of_established shape inside tuple
  rw [delivers.handle found tmp]
  exact tcpProcess_synSent (shape.ne_null member)
    (isTcpSeqValid_early (reached.origins tsk member) seq (Segment.received_seqEnd bare))
    notRst notFin state

/-- The sock at the other end. -/
def TcpSock.peer (sk : TcpSock) : TcpSock :=
  { zeroedSock with skSip := sk.skDip, skSport := sk.skDport, skDip := sk.skSip,
                    skDport := sk.skSport }

/-- A SYN of the peer may come at any time. -/
theorem Stack.Reached.establish_arrives {s : Stack} {tsk : SockPtr} (reached : s.Reached)
    (inside : s.InEstablished tsk) (state : (s.sock tsk).state = .synSent) :
    ∃ packet tmp, tmp ≠ 0 ∧ tmp ∉ s.allocated ∧
      handleTcpPacket s packet packetToIpHdr tcpPlace tmp = .ok (tcpProcessSynSent s tsk) := by
  have delivers := tcpSendControlPacketFrame_delivers (ipInitHdrWithId_fills 7)
    (s.sock tsk).peer tcpSyn fun _ => 0
  have notRst : tcpSyn ≠ tcpRst := by decide
  have notFin : tcpSyn ≠ tcpFin := by decide
  obtain ⟨tmp, notNull, absent⟩ := s.exists_fresh
  exact ⟨_, tmp, notNull, absent,
    reached.answer delivers rfl (.inl rfl) notRst notFin inside state rfl⟩

theorem Stack.Reached.establish {s : Stack} {tsk : SockPtr} (reached : s.Reached)
    (inside : s.InEstablished tsk) (state : (s.sock tsk).state = .synSent) :
    Step Event.Orderly s (tcpProcessSynSent s tsk) := by
  obtain ⟨_, tmp, notNull, absent, done⟩ := reached.establish_arrives inside state
  exact ⟨.arrive _ packetToIpHdr tcpPlace tmp, ⟨notNull, absent⟩, trivial, done⟩

/-- It releases nothing. -/
theorem Stack.Reached.establish_sparing {s : Stack} {tsk : SockPtr} (reached : s.Reached)
    (inside : s.InEstablished tsk) (state : (s.sock tsk).state = .synSent) (intact : s.Intact) :
    Step Event.Sparing s (tcpProcessSynSent s tsk) ∧ (tcpProcessSynSent s tsk).Intact := by
  obtain ⟨_, tmp, notNull, absent, done⟩ := reached.establish_arrives inside state
  refine ⟨⟨.arrive _ packetToIpHdr tcpPlace tmp, ⟨notNull, absent⟩, ⟨trivial, intact, nofun⟩,
    done⟩, ?_⟩
  exact intact.congr (by simp [tcpProcessSynSent]) (by simp [tcpProcessSynSent])
    (by simp [tcpProcessSynSent])

/-! ## Opening twice -/

/-- A sock of the established table has the endpoints of an active open. -/
def Stack.Occupied (s : Stack) (skaddr : SockAddr) (cursorIp : U32) : Prop :=
  ∃ other, s.InEstablished other ∧ (s.sock other).skSip = cursorIp ∧
    (s.sock other).skDip = htonl skaddr.ip ∧ (s.sock other).skDport = htons skaddr.port

section Connect

variable {s later : Stack} {tsk : SockPtr} {skaddr : SockAddr} {cursorIp : U32}

/-- The sock is hashed unless another one has the endpoints. -/
theorem Stack.Connects.inEstablished_iff (connects : s.Connects tsk skaddr cursorIp later)
    (standing : s.Standing) {socks : Sequences} (shape : s.Shape socks) :
    later.InEstablished tsk ↔ ¬ s.Occupied skaddr cursorIp := by
  have ports : ∀ other, s.InEstablished other → (s.sock other).skSport = htons portMin := by
    intro other inside
    have stands := standing.stands other (shape.allocated_of_hashed (.inl inside))
    exact (stands.named (stands.opened inside)).2
  constructor
  · rintro ⟨bucket, placed⟩ ⟨other, inside, sip, dip, dport⟩
    obtain ⟨home, free⟩ := connects.placed bucket placed
    have same : (s.sock other).tuple = (later.sock tsk).tuple := by
      rw [connects.tuple, TcpSock.tuple, sip, dip, ports other inside, dport]
    obtain ⟨place, there⟩ := inside
    have stands := standing.stands other (shape.allocated_of_hashed (.inl ⟨place, there⟩))
    have here := stands.placed place there
    rw [TcpSock.bucket_of_tuple same, home] at here
    exact free other (here ▸ there) same
  · refine fun free => connects.hashed fun bucket other there same => ?_
    rw [connects.tuple, TcpSock.tuple, Prod.mk.injEq, Prod.mk.injEq, Prod.mk.injEq] at same
    exact free ⟨other, ⟨bucket, there⟩, same.1, same.2.1, same.2.2.2⟩

end Connect

/-- **There is one connection to each remote endpoint.** After any sparing run, a sock that
opens a connection can get to `ESTABLISHED` in a sparing run that leaves the stack intact if
and only if no sock of the established table, open or closed, has the same local address
and the same remote endpoint. -/
theorem connect_establishes_iff (s : Stack) (run : Run Event.Sparing initTcpStack s)
    (tsk : SockPtr) (skaddr : SockAddr) (cursorIp : U32) (member : tsk ∈ s.allocated)
    (allowed : (Event.connect tsk skaddr cursorIp).Sparing s) :
    ∃ later, (Event.connect tsk skaddr cursorIp).run s = .ok later ∧ later.Intact ∧
      ((∃ last, Run Event.Sparing later last ∧ last.Intact ∧
          (last.sock tsk).state = .established) ↔
        ¬ s.Occupied skaddr cursorIp) := by
  have reached := run.orderly_of_sparing.reached initTcpStack_reached
  obtain ⟨_, orderly⟩ := reached.inOrder
  obtain ⟨result, later, called, connects⟩ := orderly.connects reached.childless member
    allowed.orderly.2.1 allowed.orderly.2.2 skaddr cursorIp
  have done : (Event.connect tsk skaddr cursorIp).run s = .ok later :=
    Outcome.bind_eq_ok.mpr ⟨_, called, rfl⟩
  have possible : (Event.connect tsk skaddr cursorIp).Possible s := member
  have laterReached := reached.event possible allowed.orderly done
  have intact := allowed.intact_of_calm orderly reached.childless possible done fun _ => id
  refine ⟨later, done, intact, ?_⟩
  rw [← connects.inEstablished_iff reached.standing orderly.sound.shape]
  obtain ⟨_, _, _, alters⟩ := connects.alters
  have still : tsk ∈ later.allocated := alters.allocated ▸ member
  constructor
  · rintro ⟨last, more, _, state⟩
    have sent : (later.sock tsk).sndNxt ≠ 0 := by
      have numbered := (laterReached.standing.stands tsk still).numbered
      rw [connects.state] at numbered
      rw [List.mem_singleton.mp numbered]
      decide
    have abides := Run.abides more.orderly_of_sparing laterReached still sent
    have stands :=
      (Run.reached more.orderly_of_sparing laterReached).standing.stands tsk abides.member
    exact abides.inEstablished.mp (stands.connected (.inl state))
  · intro inside
    obtain ⟨answered, unharmed⟩ := laterReached.establish_sparing inside connects.state intact
    exact ⟨_, .single answered, unharmed, (tcpProcessSynSent_establishes later tsk).state⟩

/-- A second connection to port 80 of host 2, after the peer has finished the first one. -/
theorem connect_establishes_iff_twice :
    ∃ later, (Event.connect 2 ⟨htonl 2, htons 80⟩ 1).run (allocTcpSock closingStack 2) =
        .ok later ∧
      ∀ last, Run Event.Sparing later last → last.Intact →
        (last.sock 2).state ≠ .established := by
  have before : Run Event.Sparing initTcpStack closingStack :=
    connectedStack_sparing.1.tail closingStack_sparing
  have none : closingStack.freed = [] := by decide
  have alloc : (Event.alloc 2).Sparing closingStack := ⟨trivial, .of_freed none, nofun⟩
  have made : Run Event.Sparing initTcpStack (allocTcpSock closingStack 2) :=
    before.tail ⟨.alloc 2, ⟨by decide, by decide⟩, alloc, rfl⟩
  obtain ⟨_, orderly⟩ := (before.orderly_of_sparing.reached initTcpStack_reached).inOrder
  have makes := orderly.makes (show (2 : SockPtr) ≠ 0 by decide) (by decide)
  have occupied : (allocTcpSock closingStack 2).Occupied ⟨htonl 2, htons 80⟩ 1 := by
    have stays := makes.others 1 (by decide)
    exact ⟨1, stays.places.inEstablished.mpr closingStack_linked.1, by decide, by decide,
      by decide⟩
  have allowed : (Event.connect 2 ⟨htonl 2, htons 80⟩ 1).Orderly (allocTcpSock closingStack 2) :=
    ⟨makes.unreleased, fun bound => makes.unlinked (.inr (.inr (.inl bound))),
      fun hashed => makes.unlinked (hashed.imp_right .inl)⟩
  have sparing : (Event.connect 2 ⟨htonl 2, htons 80⟩ 1).Sparing (allocTcpSock closingStack 2) := by
    refine ⟨allowed, .of_freed ((allocTcpSock_freed _ _).trans none), fun tsk same => ?_⟩
    cases same
    exact makes.unreleased
  obtain ⟨later, done, _, never⟩ :=
    connect_establishes_iff _ made 2 ⟨htonl 2, htons 80⟩ 1 List.mem_cons_self sparing
  exact ⟨later, done, fun last run intact state => never.mp ⟨last, run, intact, state⟩ occupied⟩

end TcpStack
