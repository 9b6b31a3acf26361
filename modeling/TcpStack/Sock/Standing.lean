import TcpStack.Sock.Intact
import TcpStack.Sock.Listener
import TcpStack.Sock.Tables

/-!
# Where every sock stands

Along every run of orderly calls and arbitrary packets, a sock is in one of five
states, and the state says how many SYNs and FINs the sock has sent
(`run_stands`). A sock that sent a SYN sent it from the first port of the range,
and its endpoints never change after that. So the established table is a map from
the 4-tuples of these socks, and every packet for one of them is handed to it,
as long as no list leads to a released sock (`run_lookup_exact`).
-/

set_option autoImplicit false

namespace TcpStack

open Lib

/-! ## One sock -/

/-- How many SYNs and FINs a sock in this state may have sent. -/
def TcpState.numbers : TcpState → List U32
  | .closed | .listen => [0, 1]
  | .synSent | .established => [1]
  | .finWait1 => [2]
  | _ => []

/-- What a run keeps true of one sock. -/
structure Stack.Stands (s : Stack) (tsk : SockPtr) : Prop where
  listening : s.InListen tsk ↔ (s.sock tsk).state = .listen
  numbered : (s.sock tsk).sndNxt ∈ (s.sock tsk).state.numbers
  /-- A sock that has sent its SYN keeps its port until it is released. -/
  named : (s.sock tsk).sndNxt ≠ 0 →
    (s.InBind tsk ∨ s.Released tsk) ∧ (s.sock tsk).skSport = htons portMin
  opened : s.InEstablished tsk → (s.sock tsk).sndNxt ≠ 0
  connected : (s.sock tsk).state = .established ∨ (s.sock tsk).state = .finWait1 →
    s.InEstablished tsk
  placed : ∀ bucket, tsk ∈ s.entries (.establishedTable bucket) → (s.sock tsk).bucket = bucket

section Stands

variable {s later : Stack} {tsk : SockPtr}

/-- A sock that stays as it is stands where it stood. -/
theorem Stack.Stands.stays (stands : s.Stands tsk) (stays : s.Stays later tsk) :
    later.Stands tsk where
  listening := by rw [stays.places.inListen, stays.state]; exact stands.listening
  numbered := by rw [stays.sndNxt, stays.state]; exact stands.numbered
  named := by
    rw [stays.sndNxt, stays.places.inBind, stays.released, TcpSock.skSport_of_tuple stays.tuple]
    exact stands.named
  opened := by rw [stays.places.inEstablished, stays.sndNxt]; exact stands.opened
  connected := by rw [stays.places.inEstablished, stays.state]; exact stands.connected
  placed := by
    intro bucket inside
    rw [TcpSock.bucket_of_tuple stays.tuple]
    exact stands.placed bucket ((stays.places.established bucket).mp inside)

/-- A sock that has not sent its SYN is in no bucket of the established table. -/
theorem Stack.Stands.not_inEstablished (stands : s.Stands tsk) (none : (s.sock tsk).sndNxt = 0) :
    ¬ s.InEstablished tsk := fun inside => stands.opened inside none

/-- A sock that may still be bound has not sent its SYN. -/
theorem Stack.Stands.sndNxt_eq_zero (stands : s.Stands tsk) (unreleased : ¬ s.Released tsk)
    (unbound : ¬ s.InBind tsk) : (s.sock tsk).sndNxt = 0 := by
  by_contra sent
  exact (stands.named sent).1.elim unbound unreleased

theorem Stack.Makes.stands (makes : s.Makes tsk later) : later.Stands tsk := by
  have away : ¬ later.InEstablished tsk := fun inside => makes.unlinked (.inl inside)
  constructor
  · rw [makes.sock]
    exact iff_of_false (fun listed => makes.unlinked (.inr (.inl listed))) (by decide)
  · rw [makes.sock]
    decide
  · rw [makes.sock]
    exact fun sent => absurd rfl sent
  · exact fun inside => absurd inside away
  · rw [makes.sock]
    rintro (state | state)
    · cases state
    · cases state
  · exact fun bucket inside => absurd ⟨bucket, inside⟩ away

theorem Stack.Named.stands (named : s.Named tsk later) (stands : s.Stands tsk)
    (unreleased : ¬ s.Released tsk) (unbound : ¬ s.InBind tsk) : later.Stands tsk := by
  have none := stands.sndNxt_eq_zero unreleased unbound
  have away : ¬ later.InEstablished tsk :=
    fun inside => stands.not_inEstablished none (named.inEstablished.mp inside)
  constructor
  · rw [named.inListen, named.state]
    exact stands.listening
  · rw [named.sndNxt, named.state]
    exact stands.numbered
  · rw [named.sndNxt]
    exact fun sent => absurd none sent
  · exact fun inside => absurd inside away
  · rw [named.inEstablished, named.state]
    exact stands.connected
  · exact fun bucket inside => absurd ⟨bucket, inside⟩ away

theorem Stack.StartsListening.stands (listens : s.StartsListening tsk later)
    (stands : s.Stands tsk) (unhashed : ¬ s.Hashed tsk) (unreleased : ¬ s.Released tsk) :
    later.Stands tsk := by
  have few : (s.sock tsk).sndNxt ∈ TcpState.listen.numbers := by
    have numbered := stands.numbered
    have unconnected := fun state => unhashed (.inl (stands.connected state))
    cases state : (s.sock tsk).state <;> rw [state] at numbered unconnected
    case closed | listen => exact numbered
    case synSent => exact List.mem_cons_of_mem _ numbered
    case established => exact absurd (.inl rfl) unconnected
    case finWait1 => exact absurd (.inr rfl) unconnected
    all_goals cases numbered
  constructor
  · rw [listens.state]
    exact iff_of_true listens.inListen rfl
  · rw [listens.sndNxt, listens.state]
    exact few
  · rw [listens.sndNxt, listens.inBind, TcpSock.skSport_of_tuple listens.tuple]
    intro sent
    obtain ⟨bound, port⟩ := stands.named sent
    exact ⟨.inl (bound.resolve_right unreleased), port⟩
  · exact fun inside => absurd inside listens.notInEstablished
  · rw [listens.state]
    rintro (state | state)
    · cases state
    · cases state
  · exact fun bucket inside => absurd ⟨bucket, inside⟩ listens.notInEstablished

theorem Stack.Connects.stands {skaddr : SockAddr} {cursorIp : U32}
    (connects : s.Connects tsk skaddr cursorIp later) (stands : s.Stands tsk)
    (unreleased : ¬ s.Released tsk) (unbound : ¬ s.InBind tsk) :
    later.Stands tsk := by
  have one : (later.sock tsk).sndNxt = 1 := by
    rw [connects.sndNxt, stands.sndNxt_eq_zero unreleased unbound]
    rfl
  constructor
  · rw [connects.state]
    exact iff_of_false connects.notInListen (by decide)
  · rw [one, connects.state]
    exact List.mem_singleton_self 1
  · exact fun _ => ⟨.inl connects.inBind, congrArg (fun tuple => tuple.2.2.1) connects.tuple⟩
  · rw [one]
    exact fun _ => by decide
  · rw [connects.state]
    rintro (state | state)
    · cases state
    · cases state
  · exact fun bucket inside => (connects.placed bucket inside).1

/-- The FINs that a close sends are counted, and a sock that had sent nothing sends
none. -/
theorem Stack.Closed.numbered {before : List Segment} (closed : s.Closed tsk before later)
    (stands : s.Stands tsk) : (later.sock tsk).sndNxt ∈ (later.sock tsk).state.numbers ∧
      ((later.sock tsk).sndNxt ≠ 0 ↔ (s.sock tsk).sndNxt ≠ 0) := by
  have numbered := stands.numbered
  rw [closed.sndNxt, closed.state, TcpSock.closingFins]
  cases state : (s.sock tsk).state <;> rw [state] at numbered
  case closed | listen => simpa [TcpState.afterClose, TcpState.numbers] using numbered
  case synSent | established | finWait1 =>
    rw [List.mem_singleton.mp numbered]
    decide
  all_goals cases numbered

/-- A close brings no sock into the established table. -/
theorem Stack.Closed.inEstablished {before : List Segment} (closed : s.Closed tsk before later)
    (inside : later.InEstablished tsk) : s.InEstablished tsk := by
  by_cases listening : (s.sock tsk).state = .listen
  · exact absurd inside (closed.listening listening).2.2
  · exact (closed.places listening).inEstablished.mp inside

theorem Stack.Closed.stands {before : List Segment} (closed : s.Closed tsk before later)
    (stands : s.Stands tsk) : later.Stands tsk := by
  obtain ⟨numbered, sent⟩ := closed.numbered stands
  have notListen : (later.sock tsk).state ≠ .listen := by
    rw [closed.state]
    exact TcpState.afterClose_ne_listen _
  have connected : (later.sock tsk).state = .established ∨ (later.sock tsk).state = .finWait1 →
      (s.sock tsk).state = .established ∨ (s.sock tsk).state = .finWait1 := by
    rw [closed.state]
    cases (s.sock tsk).state <;> simp [TcpState.afterClose]
  by_cases listening : (s.sock tsk).state = .listen
  · obtain ⟨released, notListed, away⟩ := closed.listening listening
    constructor
    · exact iff_of_false notListed notListen
    · exact numbered
    · rw [sent, TcpSock.skSport_of_tuple closed.tuple]
      exact fun before => ⟨.inr released, (stands.named before).2⟩
    · exact fun inside => absurd inside away
    · rw [listening] at connected
      intro state
      rcases connected state with before | before
      · cases before
      · cases before
    · exact fun bucket inside => absurd ⟨bucket, inside⟩ away
  · have places := closed.places listening
    constructor
    · rw [places.inListen]
      exact iff_of_false (listening ∘ stands.listening.mp) notListen
    · exact numbered
    · rw [sent, places.inBind, TcpSock.skSport_of_tuple closed.tuple]
      exact fun before => (stands.named before).imp_left (Or.imp_right closed.alters.released)
    · rw [sent, places.inEstablished]
      exact stands.opened
    · rw [places.inEstablished]
      exact fun state => stands.connected (connected state)
    · intro bucket inside
      rw [TcpSock.bucket_of_tuple closed.tuple]
      exact stands.placed bucket ((places.established bucket).mp inside)

theorem Stack.Establishes.stands (establishes : s.Establishes tsk later) (stands : s.Stands tsk)
    (state : (s.sock tsk).state = .synSent) (hashed : s.Hashed tsk) : later.Stands tsk := by
  have notListed : ¬ s.InListen tsk := fun listed => by
    have listening := stands.listening.mp listed
    rw [state] at listening
    cases listening
  have inside : s.InEstablished tsk := hashed.resolve_right notListed
  have numbered := stands.numbered
  rw [state] at numbered
  constructor
  · rw [establishes.places.inListen, establishes.state]
    exact iff_of_false notListed (by decide)
  · rw [establishes.sndNxt, establishes.state]
    exact numbered
  · rw [establishes.sndNxt, establishes.places.inBind,
      TcpSock.skSport_of_tuple establishes.tuple]
    exact fun sent => (stands.named sent).imp_left (Or.imp_right establishes.alters.released)
  · rw [establishes.sndNxt]
    exact fun _ => stands.opened inside
  · exact fun _ => establishes.places.inEstablished.mpr inside
  · intro bucket placed
    rw [TcpSock.bucket_of_tuple establishes.tuple]
    exact stands.placed bucket ((establishes.places.established bucket).mp placed)

end Stands

/-! ## All socks -/

/-- What a run keeps true of all socks. -/
structure Stack.Standing (s : Stack) : Prop where
  stands : ∀ tsk ∈ s.allocated, s.Stands tsk
  distinct : ∀ first second, s.InEstablished first → s.InEstablished second →
    (s.sock first).tuple = (s.sock second).tuple → first = second

section Standing

variable {s later : Stack} {socks : Sequences} {tsk : SockPtr}

/-- One sock was made or altered, and if it is in the established table then nobody
else there has its 4-tuple. -/
theorem Stack.Standing.alter (standing : s.Standing)
    (others : ∀ other, other ≠ tsk → s.Stays later other)
    (grown : ∀ other ∈ later.allocated, other = tsk ∨ other ∈ s.allocated)
    (own : later.Stands tsk)
    (apart : later.InEstablished tsk → ∀ other, s.InEstablished other →
      (s.sock other).tuple = (later.sock tsk).tuple → other = tsk) :
    later.Standing where
  stands := by
    intro other member
    by_cases same : other = tsk
    · rw [same]
      exact own
    · have before := (grown other member).resolve_left same
      exact (standing.stands other before).stays (others other same)
  distinct := by
    have meets : ∀ other, other ≠ tsk → later.InEstablished other → later.InEstablished tsk →
        (later.sock other).tuple = (later.sock tsk).tuple → other = tsk := by
      intro other different inside here same
      have stays := others other different
      exact apart here other (stays.places.inEstablished.mp inside) (stays.tuple.symm.trans same)
    intro first second inFirst inSecond same
    by_cases one : first = tsk
    · by_cases two : second = tsk
      · rw [one, two]
      · rw [one] at inFirst same
        rw [one, meets second two inSecond inFirst same.symm]
    · by_cases two : second = tsk
      · rw [two] at inSecond same
        rw [two, meets first one inFirst inSecond same]
      · have staysOne := others first one
        have staysTwo := others second two
        refine standing.distinct first second (staysOne.places.inEstablished.mp inFirst)
          (staysTwo.places.inEstablished.mp inSecond) ?_
        rw [← staysOne.tuple, ← staysTwo.tuple, same]

/-- A sock that was in the established table before, with the same 4-tuple, is still
the only one there with it. -/
theorem Stack.Standing.kept (standing : s.Standing)
    (before : later.InEstablished tsk → s.InEstablished tsk)
    (tuple : (later.sock tsk).tuple = (s.sock tsk).tuple) (inside : later.InEstablished tsk)
    (other : SockPtr) (there : s.InEstablished other)
    (same : (s.sock other).tuple = (later.sock tsk).tuple) : other = tsk :=
  standing.distinct other tsk there (before inside) (same.trans tuple)

theorem Stack.Quiet.standing (quiet : s.Quiet later) (standing : s.Standing) : later.Standing where
  stands := by
    rw [quiet.allocated]
    exact fun tsk member => (standing.stands tsk member).stays (quiet.stays tsk)
  distinct := by
    intro first second
    rw [(quiet.stays first).places.inEstablished, (quiet.stays second).places.inEstablished,
      (quiet.stays first).tuple, (quiet.stays second).tuple]
    exact standing.distinct first second

theorem Stack.Alters.grown {emitted : List Segment} (alters : s.Alters tsk emitted later) :
    ∀ other ∈ later.allocated, other = tsk ∨ other ∈ s.allocated := by
  rw [alters.allocated]
  exact fun other => .inr

theorem Stack.Closed.standing {before : List Segment} (closed : s.Closed tsk before later)
    (standing : s.Standing) (member : tsk ∈ s.allocated) : later.Standing :=
  standing.alter closed.alters.others closed.alters.grown
    (closed.stands (standing.stands tsk member)) (standing.kept closed.inEstablished closed.tuple)

/-- What a segment does to the sock it is handed to. -/
theorem SegmentEffect.standing {cb : TcpCb} (effect : SegmentEffect s tsk cb later)
    (standing : s.Standing) (member : tsk ∈ s.allocated) (hashed : s.Hashed tsk) :
    later.Standing := by
  cases effect with
  | ignored same => rwa [same]
  | answered _ _ _ same =>
      have stays := tcpSendReset_stays s cb
      rw [same]
      exact standing.alter (fun other _ => stays other) (fun other => .inr)
        ((standing.stands tsk member).stays (stays tsk))
        (standing.kept (stays tsk).places.inEstablished.mp (stays tsk).tuple)
  | establishes _ _ state establishes =>
      exact standing.alter establishes.alters.others establishes.alters.grown
        (establishes.stands (standing.stands tsk member) state hashed)
        (standing.kept establishes.places.inEstablished.mp establishes.tuple)
  | finished _ closed | aborted _ closed => exact closed.standing standing member

/-- One event keeps all socks standing. -/
theorem Effect.standing {event : Event} (effect : Effect s event later)
    (orderly : s.Orderly socks) (standing : s.Standing) (possible : event.Possible s)
    (allowed : event.Orderly s) : later.Standing := by
  cases effect with
  | quiet quiet => exact quiet.standing standing
  | makes makes =>
      refine standing.alter makes.others (fun other member => ?_) makes.stands
        fun inside => absurd (.inl inside) makes.unlinked
      rw [makes.allocated] at member
      exact List.mem_cons.mp member
  | names named =>
      have stands := named.stands (standing.stands _ possible) allowed.1 allowed.2
      refine standing.alter named.alters.others named.alters.grown stands fun inside => ?_
      have none := (standing.stands _ possible).sndNxt_eq_zero allowed.1 allowed.2
      exact absurd (named.sndNxt.trans none) (stands.opened inside)
  | listens listens =>
      exact standing.alter listens.alters.others listens.alters.grown
        (listens.stands (standing.stands _ possible) allowed.2 allowed.1)
        fun inside => absurd inside listens.notInEstablished
  | connects connects =>
      obtain ⟨_, _, _, alters⟩ := connects.alters
      refine standing.alter alters.others alters.grown
        (connects.stands (standing.stands _ possible) allowed.1 allowed.2.1) ?_
      rintro ⟨bucket, inside⟩ other ⟨place, there⟩ same
      -- the other sock would be in the same bucket, where nobody has this 4-tuple
      obtain ⟨home, free⟩ := connects.placed bucket inside
      have member := orderly.sound.shape.allocated_of_hashed (.inl ⟨place, there⟩)
      have place_eq := (standing.stands other member).placed place there
      rw [TcpSock.bucket_of_tuple same, home] at place_eq
      exact absurd same (free other (place_eq ▸ there))
  | closes closed => exact closed.standing standing possible
  | arrives _ hashed segment =>
      exact segment.standing standing (orderly.sound.shape.allocated_of_hashed hashed) hashed

end Standing

theorem initTcpStack_standing : initTcpStack.Standing where
  stands := fun _ member => nomatch member
  distinct := by
    rintro first _ ⟨bucket, inside⟩
    rw [initTcpStack_shape.established_entries] at inside
    cases inside

/-! ## Runs -/

/-- What an orderly run keeps true. -/
structure Stack.Reached (s : Stack) : Prop where
  inOrder : ∃ socks, s.Orderly socks
  nodup : s.allocated.Nodup
  origins : ∀ tsk ∈ s.allocated, (s.sock tsk).origin = (0, 0, tcpDefaultWindow)
  standing : s.Standing

/-- No sock has a parent. -/
theorem Stack.Reached.childless {s : Stack} (reached : s.Reached) : s.Childless :=
  fun tsk member => congrArg Prod.fst (reached.origins tsk member)

/-- The event has one of the effects. -/
theorem Stack.Reached.effect {s later : Stack} {event : Event} (reached : s.Reached)
    (possible : event.Possible s) (allowed : event.Orderly s) (done : event.run s = .ok later) :
    Effect s event later := by
  obtain ⟨_, orderly⟩ := reached.inOrder
  exact event.effect orderly reached.childless possible allowed done

/-- One event. -/
theorem Stack.Reached.event {s later : Stack} {event : Event} (reached : s.Reached)
    (possible : event.Possible s) (allowed : event.Orderly s) (done : event.run s = .ok later) :
    later.Reached := by
  have effect := reached.effect possible allowed done
  obtain ⟨_, orderly⟩ := reached.inOrder
  obtain ⟨moved, inOrder, _⟩ := event.turns orderly possible allowed done
  refine ⟨⟨moved, inOrder⟩, ?_, fun tsk member => ?_,
    effect.standing orderly reached.standing possible allowed⟩
  · rcases effect.allocated with same | ⟨tsk, _, absent, grown, _⟩
    · rw [same]
      exact reached.nodup
    · rw [grown]
      exact List.nodup_cons.mpr ⟨absent, reached.nodup⟩
  · rcases effect.origin possible done member with ⟨before, same⟩ | zeroed
    · exact same.trans (reached.origins tsk before)
    · rw [zeroed]
      rfl

theorem initTcpStack_reached : initTcpStack.Reached where
  inOrder := ⟨_, initTcpStack_orderly⟩
  nodup := List.nodup_nil
  origins := fun _ member => nomatch member
  standing := initTcpStack_standing

theorem Run.reached {s later : Stack} (run : Run Event.Orderly s later) (reached : s.Reached) :
    later.Reached := by
  induction run with
  | refl => exact reached
  | tail _ step ih =>
      obtain ⟨event, possible, allowed, done⟩ := step
      exact ih.event possible allowed done

/-- A run that closes nothing is sparing, and releases nothing. -/
theorem Run.sparing_of_calm {s : Stack}
    (run : Run (fun s event => event.Orderly s ∧ ∀ tsk, ¬ event.Closes s tsk) initTcpStack s) :
    Run Event.Sparing initTcpStack s ∧ s.freed = [] := by
  induction run with
  | refl => exact ⟨.refl, rfl⟩
  | tail _ step ih =>
      obtain ⟨before, none⟩ := ih
      obtain ⟨event, possible, ⟨orderly, calm⟩, done⟩ := step
      have reached := before.orderly_of_sparing.reached initTcpStack_reached
      obtain ⟨_, inOrder⟩ := reached.inOrder
      have sparing : event.Sparing _ := ⟨orderly, .of_freed none, fun tsk _ released => by
        rw [Stack.Released, none] at released
        cases released⟩
      have same := Event.freed_of_calm inOrder reached.childless possible calm done
      exact ⟨before.tail ⟨event, possible, sparing, done⟩, same.trans none⟩

/-- **Where every sock stands.** After any orderly run a sock is in one of five
states, `SND.NXT` counts the SYN and the FIN it has sent, it sent its SYN from the
first port of the range, and it is in the listen table exactly while it listens. -/
theorem run_stands (s : Stack) (run : Run Event.Orderly initTcpStack s) (tsk : SockPtr)
    (member : tsk ∈ s.allocated) :
    (s.sock tsk).state ∈
        [TcpState.closed, .listen, .synSent, .established, .finWait1] ∧ s.Stands tsk := by
  have stands := (run.reached initTcpStack_reached).standing.stands tsk member
  refine ⟨?_, stands⟩
  have numbered := stands.numbered
  cases state : (s.sock tsk).state <;> rw [state] at numbered
  case closed | listen | synSent | established | finWait1 => simp
  all_goals cases numbered

theorem closingStack_inOrder : Run Event.Orderly initTcpStack closingStack :=
  Relation.ReflTransGen.mono (fun _ _ step => by
    obtain ⟨event, possible, careful, done⟩ := step
    exact ⟨event, possible, careful.orderly, done⟩) _ _ closingStack_run

/-- A connected sock that its peer has finished with. -/
theorem run_stands_peer_fin : closingStack.Stands 1 :=
  (run_stands closingStack closingStack_inOrder 1 (by decide)).2

/-! ## Demultiplexing -/

section Lookup

variable {s : Stack} {socks : Sequences} {tsk : SockPtr} {cb : TcpCb}

/-- The established table is searched first. -/
theorem Stack.Standing.lookup_of_established (standing : s.Standing) (shape : s.Shape socks)
    (inside : s.InEstablished tsk) (tuple : (s.sock tsk).tuple = cb.mirrored) :
    tcpSockLookup s cb = .ok tsk := by
  have member := shape.allocated_of_hashed (.inl inside)
  obtain ⟨bucket, here⟩ := inside
  have home := (standing.stands tsk member).placed bucket here
  rw [← home, shape.established_entries] at here
  have found : tcpSockLookupEstablished s cb.daddr cb.saddr cb.dport cb.sport = .ok tsk := by
    refine shape.lookupEstablished_of_unique tuple here fun other there same => ?_
    exact standing.distinct other tsk (shape.inEstablished_iff.mpr ⟨_, there⟩)
      (shape.inEstablished_iff.mpr ⟨_, here⟩) same
  simp only [tcpSockLookup, found, bind, Except.bind, shape.ne_null member, if_false, pure,
    Except.pure]

/-- Then one bucket of the listen table is. -/
theorem Stack.Shape.lookup_of_not_established (shape : s.Shape socks)
    (free : ∀ tsk, s.InEstablished tsk → (s.sock tsk).tuple ≠ cb.mirrored) :
    tcpSockLookup s cb = .ok (((s.entries (.listenTable (portBucket cb.dport))).find?
      fun tsk => (s.sock tsk).skSport == cb.dport).getD 0) := by
  have missing : (socks (.establishedTable
      (tcpHashFunction cb.daddr cb.saddr cb.dport cb.sport))).find?
        (fun tsk => (s.sock tsk).hasTuple cb.daddr cb.saddr cb.dport cb.sport) = none := by
    rw [List.find?_eq_none]
    intro other there taken
    exact free other (shape.inEstablished_iff.mpr ⟨_, there⟩)
      (((s.sock other).hasTuple_iff _ _ _ _).mp taken)
  simp only [tcpSockLookup, shape.lookupEstablished_eq, missing, Option.getD_none, bind,
    Except.bind, if_true, shape.lookupListen_eq, shape.listen_entries]

/-- A sock of the established table is found for its own packets only. -/
theorem Stack.Standing.tuple_of_lookup (standing : s.Standing) (shape : s.Shape socks)
    (found : tcpSockLookup s cb = .ok tsk) (inside : s.InEstablished tsk) :
    (s.sock tsk).tuple = cb.mirrored := by
  by_contra different
  by_cases present : ∃ other, s.InEstablished other ∧ (s.sock other).tuple = cb.mirrored
  · obtain ⟨other, there, same⟩ := present
    have reached := standing.lookup_of_established shape there same
    rw [found] at reached
    cases reached
    exact different same
  · push Not at present
    rw [shape.lookup_of_not_established present] at found
    cases search : (s.entries (.listenTable (portBucket cb.dport))).find?
        fun tsk => (s.sock tsk).skSport == cb.dport with
    | none =>
        rw [search] at found
        cases found
        exact shape.ne_null (shape.allocated_of_hashed (.inl inside)) rfl
    | some listener =>
        rw [search] at found
        cases found
        exact shape.not_inListen_of_inEstablished inside ⟨_, List.mem_of_find?_eq_some search⟩

end Lookup

/-- **Every packet goes where it belongs.** After any sparing run that leaves the stack intact, a
packet whose mirrored 4-tuple a sock of the established table has is handed to that sock.
Any other packet is handed to a listener with its destination port, and to nobody
exactly if the bucket of that port has no such listener. None of them was released. -/
theorem run_lookup_exact (s : Stack) (run : Run Event.Sparing initTcpStack s) (intact : s.Intact)
    (cb : TcpCb) :
    (∀ tsk, s.InEstablished tsk → (s.sock tsk).tuple = cb.mirrored →
      tcpSockLookup s cb = .ok tsk ∧ ¬ s.Released tsk) ∧
    ((∀ tsk, s.InEstablished tsk → (s.sock tsk).tuple ≠ cb.mirrored) →
      ∃ tsk, tcpSockLookup s cb = .ok tsk ∧
        (tsk = 0 ↔ ∀ other ∈ s.entries (.listenTable (portBucket cb.dport)),
          (s.sock other).skSport ≠ cb.dport) ∧
        (tsk ≠ 0 → (s.sock tsk).state = .listen ∧ (s.sock tsk).skSport = cb.dport ∧
          ¬ s.Released tsk)) := by
  obtain ⟨⟨socks, orderly⟩, _, _, standing⟩ :=
    run.orderly_of_sparing.reached initTcpStack_reached
  have shape := orderly.sound.shape
  refine ⟨fun tsk inside tuple => ⟨standing.lookup_of_established shape inside tuple,
    intact.not_released (.inl inside)⟩, fun free => ?_⟩
  refine ⟨_, shape.lookup_of_not_established free, ?_⟩
  cases found : (s.entries (.listenTable (portBucket cb.dport))).find?
      fun tsk => (s.sock tsk).skSport == cb.dport with
  | none =>
      refine ⟨iff_of_true rfl fun other there same => ?_, fun some => absurd rfl some⟩
      exact List.find?_eq_none.mp found other there (beq_iff_eq.mpr same)
  | some listener =>
      have there := List.mem_of_find?_eq_some found
      have port : (s.sock listener).skSport = cb.dport := by simpa using List.find?_some found
      have listed : s.InListen listener := ⟨_, there⟩
      have member := shape.allocated_of_hashed (.inr listed)
      have listening := (standing.stands listener member).listening.mp listed
      rw [Option.getD_some]
      exact ⟨iff_of_false (shape.ne_null member) fun none => none listener there port,
        fun _ => ⟨listening, port, intact.not_released (.inr (.inl listed))⟩⟩

/-- The connection of the active open. -/
theorem connectedStack_sparing :
    Run Event.Sparing initTcpStack connectedStack ∧ connectedStack.freed = [] := by
  refine Run.sparing_of_calm
    ((connectingStack_reached fun _ _ orderly calm => ⟨orderly, calm⟩).tail
      ⟨.arrive (peerPacket (tcpSyn ||| tcpAck)) packetToIpHdr tcpPlace 2, ⟨by decide, by decide⟩,
        ⟨trivial, ?_⟩, ((peerPacket_delivers _).handle rfl 2).trans
          (tcpProcess_synSent (by decide) (by decide) (by decide) (by decide) (by decide))⟩)
  rintro tsk ⟨_, _, closes⟩
  rw [(peerPacket_delivers _).received] at closes
  exact absurd closes.2 (by decide)

/-- The FIN of the peer closes the sock, and drops one of its two references. -/
theorem closingStack_sparing : Step Event.Sparing connectedStack closingStack :=
  ⟨.arrive (peerPacket tcpFin) packetToIpHdr tcpPlace 2, ⟨by decide, by decide⟩,
    ⟨trivial, .of_freed connectedStack_sparing.2, nofun⟩,
    ((peerPacket_delivers _).handle rfl 2).trans (tcpProcess_fin (by decide) (by decide) rfl)⟩

/-- A packet of a peer that has sent its FIN, and one for a listener. -/
theorem run_lookup_exact_peer :
    (tcpSockLookup closingStack (peerSock.controlSegment tcpAck).received = .ok 1 ∧
      ¬ closingStack.Released 1) ∧
      ∃ tsk, tcpSockLookup listeningStack (segmentWith tcpSyn 0) = .ok tsk ∧
        (tsk ≠ 0 → (listeningStack.sock tsk).state = .listen) := by
  obtain ⟨listening, none⟩ := Run.sparing_of_calm
    (listeningStack_reached fun _ _ orderly calm => ⟨orderly, calm⟩)
  refine ⟨(run_lookup_exact closingStack (connectedStack_sparing.1.tail closingStack_sparing)
    (.of_freed (by decide)) _).1 1 closingStack_linked.1 (by decide), ?_⟩
  have free : ∀ tsk, listeningStack.InEstablished tsk →
      (listeningStack.sock tsk).tuple ≠ (segmentWith tcpSyn 0).mirrored := by
    obtain ⟨_, orderly⟩ := (listening.orderly_of_sparing.reached initTcpStack_reached).inOrder
    have shape := orderly.sound.shape
    intro tsk inside
    have member := shape.allocated_of_hashed (.inl inside)
    obtain rfl : tsk = 1 := List.mem_singleton.mp member
    exact absurd listeningStack_listens.inListen (shape.not_inListen_of_inEstablished inside)
  obtain ⟨tsk, found, _, listener⟩ :=
    (run_lookup_exact listeningStack listening (.of_freed none) (segmentWith tcpSyn 0)).2 free
  exact ⟨tsk, found, fun some => (listener some).1⟩

end TcpStack
