import TcpStack.Program.Applications
import TcpStack.Sock.Counting
import TcpStack.Sock.Stops

/-!
# The client

`tcp_client` opens a connection, hands the whole file to `tcp_sock_write` and closes the
sock. Nothing of the file is ever sent: what leaves the host for this connection is one
SYN, bare acknowledgements and one FIN (`client_sends_no_data`). The thread can come to its end
unless the sock was closed by a FIN or a reset while it slept in `tcp_sock_connect`, or was
released by the packets that came after the answer of the peer (`client_finishes_iff`). The
process survives a segment only if the segment comes from the remote endpoint of the connection
(`client_stops_iff`).
-/

set_option autoImplicit false

namespace TcpStack

open Lib

/-! ## Where the thread can be -/

/-- The pieces are the file, and all but the last one are as long as the buffer. -/
structure Written (file : List U8) (written : List (List U8)) : Prop where
  whole : written.flatten = file
  pieces : ∃ full last, written = full ++ [last] ∧ (∀ buf ∈ full, buf.length = bufSize) ∧
    last.length < bufSize

/-- The only sock has sent its SYN, from the given endpoints, and was hashed. -/
structure Stack.Dials (s : Stack) (tsk : SockPtr) (tuple : U32 × U32 × U16 × U16) : Prop where
  allocated : s.allocated = [tsk]
  inEstablished : s.InEstablished tsk
  tuple : (s.sock tsk).tuple = tuple

/-- The endpoints of the client. -/
def clientTuple (skaddr : SockAddr) (cursorIp : U32) : U32 × U32 × U16 × U16 :=
  (cursorIp, htonl skaddr.ip, htons portMin, htons skaddr.port)

/-- The calls of the thread. -/
def clientCalls (skaddr : SockAddr) (cursorIp : U32) : Event → Prop
  | .connect _ remote own => remote = skaddr ∧ own = cursorIp
  | .bind _ _ | .listen _ _ | .accept _ | .acceptWoken _ => False
  | _ => True

/-- What holds of the stack at each place of the thread. -/
def ClientPlace.Holds (tuple : U32 × U32 × U16 × U16) (input : Option (List U8)) (s : Stack) :
    ClientPlace → Prop
  | .start => s.allocated = []
  | .allocated tsk => s.Made tsk ∧ ¬ s.InBind tsk
  | .sleeping tsk => s.Dials tsk tuple
  | .connected tsk => s.Dials tsk tuple ∧ (s.sock tsk).state.connected
  | .sending tsk rest eof written => s.Dials tsk tuple ∧ (s.sock tsk).state.connected ∧
      eof = false ∧ input = some (written.flatten ++ rest) ∧ ∀ buf ∈ written, buf.length = bufSize
  | .closing tsk written => s.Dials tsk tuple ∧ (s.sock tsk).state.connected ∧
      ∃ file, input = some file ∧ Written file written
  | .finished tsk written => s.Dials tsk tuple ∧ (s.sock tsk).state = .finWait1 ∧
      ∃ file, input = some file ∧ Written file written
  | .exited => False

section Dials

variable {s later : Stack} {tsk : SockPtr} {tuple : U32 × U32 × U16 × U16} {event : Event}

theorem Stack.Dials.member (dials : s.Dials tsk tuple) : tsk ∈ s.allocated :=
  dials.allocated ▸ List.mem_singleton_self tsk

theorem Stack.Dials.sent (dials : s.Dials tsk tuple) (reached : s.Reached) :
    (s.sock tsk).sndNxt ≠ 0 :=
  (reached.standing.stands tsk dials.member).opened dials.inEstablished

/-- The sock keeps its endpoints and its place. -/
theorem Stack.Dials.abides (dials : s.Dials tsk tuple) (allocated : later.allocated = s.allocated)
    (abides : s.Abides later tsk) : later.Dials tsk tuple :=
  ⟨allocated.trans dials.allocated, abides.inEstablished.mpr dials.inEstablished,
    abides.tuple.trans dials.tuple⟩

/-- What an event does to the only sock. -/
theorem Stack.Dials.happens (dials : s.Dials tsk tuple) (reached : s.Reached)
    (possible : event.Possible s) (allowed : event.Orderly s) (done : event.run s = .ok later)
    (same : later.allocated = s.allocated) :
    later.Dials tsk tuple ∧ StateMove s tsk later := by
  have effect := reached.effect possible allowed done
  obtain ⟨_, orderly⟩ := reached.inOrder
  exact ⟨dials.abides same (effect.abides reached.standing orderly.sound.shape allowed
    dials.member (dials.sent reached)), effect.stateMove allowed dials.member⟩

/-- A packet. -/
theorem Stack.Dials.arrives (dials : s.Dials tsk tuple) (reached : s.Reached)
    (arrival : event.IsArrival s) (done : event.run s = .ok later) :
    later.Dials tsk tuple ∧ StateMove s tsk later :=
  dials.happens reached arrival.possible arrival.orderly done (arrival.allocated reached done)

/-- The sock is open. -/
theorem Stack.Dials.notListen (dials : s.Dials tsk tuple) (reached : s.Reached) :
    (s.sock tsk).state ≠ .listen := by
  obtain ⟨_, orderly⟩ := reached.inOrder
  intro listening
  have listed := (reached.standing.stands tsk dials.member).listening.mpr listening
  exact orderly.sound.shape.not_inListen_of_inEstablished dials.inEstablished listed

end Dials

/-! ## Calls -/

section Calls

variable {s later : Stack} {tsk tmp : SockPtr} {tuple : U32 × U32 × U16 × U16}
  {skaddr : SockAddr} {cursorIp : U32} {input : Option (List U8)} {rest file : List U8}
  {written : List (List U8)}

/-- A call of `tcp_sock_connect` on the only sock blocks, and the sock is hashed. -/
theorem Stack.Made.connects (made : s.Made tsk) (sleeps : s.Sleeps) (unbound : ¬ s.InBind tsk)
    (skaddr : SockAddr) (cursorIp : U32) :
    ∃ later, tcpSockConnect s tsk skaddr cursorIp = .ok (none, later) ∧
      later.Dials tsk (clientTuple skaddr cursorIp) ∧ (later.sock tsk).state = .synSent := by
  have reached := sleeps.reached
  obtain ⟨_, orderly⟩ := reached.inOrder
  have shape := orderly.sound.shape
  have member : tsk ∈ s.allocated := made.allocated ▸ List.mem_singleton_self tsk
  obtain ⟨result, later, called, connects⟩ :=
    orderly.connects reached.childless member unbound made.unhashed skaddr cursorIp
  have free : ¬ s.Occupied skaddr cursorIp := by
    rintro ⟨other, inside, _⟩
    have there := shape.allocated_of_hashed (.inl inside)
    rw [made.allocated, List.mem_singleton] at there
    exact made.unhashed (.inl (there ▸ inside))
  have placed := (connects.inEstablished_iff reached.standing shape).mpr free
  obtain ⟨hashed, calms, blocks, _⟩ := tcpSockConnect_sleeps called
  have waits := sleeps.waits tsk member
  have alive : (hashed.sock tsk).waitConnect.dead = false :=
    (calms tsk).connect.dead.trans waits.connectAlive
  have unnotified : (hashed.sock tsk).waitConnect.notified = false := by
    rw [← Bool.not_eq_true]
    intro notified
    have connected := waits.connect ((calms tsk).connect.notified notified)
    exact made.unhashed (.inl ((reached.standing.stands tsk member).connected connected))
  rw [sleepOn, alive, unnotified] at blocks
  have asleep : result = none := blocks
  obtain ⟨_, _, _, alters⟩ := connects.alters
  exact ⟨later, asleep ▸ called, ⟨alters.allocated.trans made.allocated, placed, connects.tuple⟩,
    connects.state⟩

/-- The sock got the answer of its peer, and the thread was notified. -/
theorem Stack.Dials.answered {event : Event} (dials : s.Dials tsk tuple) (sleeps : s.Sleeps)
    (arrival : event.IsArrival s) (done : event.run s = .ok (tcpProcessSynSent s tsk)) :
    (tcpProcessSynSent s tsk).Dials tsk tuple ∧ (tcpProcessSynSent s tsk).Sleeps ∧
      ((tcpProcessSynSent s tsk).sock tsk).waitConnect.notified = true := by
  refine ⟨(dials.arrives sleeps.reached arrival done).1,
    sleeps.event arrival.possible arrival.orderly done, ?_⟩
  rw [(tcpProcessSynSent_sock s tsk).2]
  exact wakeUp_notified (sleeps.waits tsk dials.member).connectAlive

theorem clientNext_allocated (input : Option (List U8)) (tmp : SockPtr)
    (called : tcpSockConnect s tsk skaddr cursorIp = .ok (none, later)) :
    clientNext skaddr cursorIp input tmp s (.allocated tsk) =
      some (.ok (.sleeping tsk, later)) := by
  rw [clientNext, called]
  rfl

/-- The rest of `tcp_sock_connect`, once it was notified. -/
theorem Stack.Dials.woken (dials : s.Dials tsk tuple) (sleeps : s.Sleeps)
    (notified : (s.sock tsk).waitConnect.notified = true) :
    ∃ later, (Event.connectWoken tsk).run s = .ok later ∧ later.Dials tsk tuple ∧
      (later.sock tsk).state.connected ∧
      ∀ (skaddr : SockAddr) (cursorIp : U32) (input : Option (List U8)) (tmp : SockPtr),
        clientNext skaddr cursorIp input tmp s (.sleeping tsk) =
          some (.ok (.connected tsk, later)) := by
  have possible : (Event.connectWoken tsk).Possible s := dials.member
  have done : (Event.connectWoken tsk).run s = .ok (tcpSockConnectWoken s tsk).2 := rfl
  obtain ⟨still, moves⟩ := dials.happens sleeps.reached possible trivial done rfl
  have connected := (sleeps.waits tsk dials.member).connect notified
  refine ⟨_, done, still,
    moves.connected (sleeps.reached.standing.stands tsk dials.member) connected, ?_⟩
  intro skaddr cursorIp input tmp
  rw [clientNext, if_pos notified]
  rfl

/-- A piece of the file is handed over. -/
theorem clientNext_sending (tmp : SockPtr) :
    clientNext skaddr cursorIp input tmp s (.sending tsk rest false written) =
      some (.ok (if rest.length < bufSize then .closing tsk (written ++ [rest])
        else .sending tsk (rest.drop bufSize) false (written ++ [rest.take bufSize]), s)) := by
  have short : (rest.take bufSize).length < bufSize ↔ rest.length < bufSize := by
    rw [List.length_take]
    omega
  rw [clientNext, if_neg Bool.false_ne_true, fread]
  by_cases last : rest.length < bufSize
  · have whole : rest.take bufSize = rest := List.take_of_length_le last.le
    simp only [whole, last, if_true]
    rfl
  · simp only [short, last, if_false, decide_false]
    rfl

/-- What was handed over when the loop is left. -/
theorem Written.of_last (full : ∀ buf ∈ written, buf.length = bufSize)
    (last : rest.length < bufSize) : Written (written.flatten ++ rest) (written ++ [rest]) where
  whole := by simp
  pieces := ⟨written, rest, rfl, full, last⟩

/-- A call of `tcp_sock_close`. -/
theorem Stack.Dials.closes (dials : s.Dials tsk tuple) (reached : s.Reached)
    (connected : (s.sock tsk).state.connected) :
    ∃ later, tcpSockClose s tsk = .ok later ∧ later.Dials tsk tuple ∧
      (later.sock tsk).state = .finWait1 := by
  have possible : (Event.close tsk).Possible s := dials.member
  obtain ⟨later, done, closed⟩ := Stack.Sound.close_closed (dials.notListen reached)
  have closing : (Event.close tsk).run s = .ok later := done
  obtain ⟨still, _⟩ := dials.happens reached possible trivial closing closed.alters.allocated
  refine ⟨later, done, still, ?_⟩
  rw [closed.state]
  rcases connected with state | state <;> rw [state] <;> rfl

theorem clientNext_closing (tmp : SockPtr) (done : tcpSockClose s tsk = .ok later) :
    clientNext skaddr cursorIp input tmp s (.closing tsk written) =
      some (.ok (.finished tsk written, later)) := by
  rw [clientNext, done]
  rfl

/-- The thread has no next call: it sleeps, or it is done. -/
def ClientPlace.Idle (s : Stack) : ClientPlace → Prop
  | .sleeping tsk => (s.sock tsk).waitConnect.notified = false
  | .finished _ _ => True
  | _ => False

/-- The thread has nothing to do next, or there is no file, or its next call returns. -/
theorem ClientPlace.Holds.moves {place : ClientPlace}
    (holds : place.Holds (clientTuple skaddr cursorIp) input s) (sleeps : s.Sleeps)
    (notNull : tmp ≠ 0) (absent : tmp ∉ s.allocated) :
    place.Idle s ∧ clientNext skaddr cursorIp input tmp s place = none ∨
      (input = none ∧ ∃ tsk, place = .connected tsk) ∧
        clientNext skaddr cursorIp input tmp s place = some (.error ⟨.badPointer, s⟩) ∨
      ∃ next later, clientNext skaddr cursorIp input tmp s place = some (.ok (next, later)) ∧
        (later = s ∨ s.Calls (clientCalls skaddr cursorIp) later) ∧
        next.Holds (clientTuple skaddr cursorIp) input later := by
  cases place with
  | start =>
      have created : (Event.alloc tmp).Possible s := ⟨notNull, absent⟩
      have calls : s.Calls (clientCalls skaddr cursorIp) (allocTcpSock s tmp) :=
        ⟨.alloc tmp, trivial, trivial, created, trivial, rfl⟩
      exact .inr (.inr ⟨_, _, rfl, .inr calls, sleeps.reached.makes holds notNull⟩)
  | allocated tsk =>
      obtain ⟨made, unbound⟩ := holds
      obtain ⟨later, called, dials, _⟩ := made.connects sleeps unbound skaddr cursorIp
      have member : tsk ∈ s.allocated := made.allocated ▸ List.mem_singleton_self tsk
      have calls : s.Calls (clientCalls skaddr cursorIp) later :=
        ⟨.connect tsk skaddr cursorIp, trivial, ⟨rfl, rfl⟩, member,
          ⟨made.unreleased, unbound, made.unhashed⟩, Outcome.bind_eq_ok.mpr ⟨_, called, rfl⟩⟩
      exact .inr (.inr ⟨_, later, clientNext_allocated input tmp called, .inr calls, dials⟩)
  | sleeping tsk =>
      have dials : s.Dials tsk (clientTuple skaddr cursorIp) := holds
      cases notified : (s.sock tsk).waitConnect.notified with
      | false =>
          refine .inl ⟨notified, ?_⟩
          rw [clientNext, notified]
          rfl
      | true =>
          obtain ⟨later, done, after, connected, next⟩ := dials.woken sleeps notified
          have calls : s.Calls (clientCalls skaddr cursorIp) later :=
            ⟨.connectWoken tsk, trivial, trivial, dials.member, trivial, done⟩
          exact .inr (.inr ⟨_, later, next skaddr cursorIp input tmp, .inr calls, after,
            connected⟩)
  | connected tsk =>
      obtain ⟨dials, connected⟩ := holds
      cases input with
      | none => exact .inr (.inl ⟨⟨rfl, tsk, rfl⟩, rfl⟩)
      | some file =>
          exact .inr (.inr ⟨.sending tsk file false [], s, rfl, .inl rfl, dials, connected, rfl,
            rfl, nofun⟩)
  | sending tsk rest eof written =>
      obtain ⟨dials, connected, rfl, same, full⟩ := holds
      refine .inr (.inr ⟨_, s, clientNext_sending tmp, .inl rfl, ?_⟩)
      by_cases last : rest.length < bufSize
      · rw [if_pos last]
        exact ⟨dials, connected, _, same, .of_last full last⟩
      · rw [if_neg last]
        refine ⟨dials, connected, rfl, ?_, fun buf inside => ?_⟩
        · rw [same]
          simp
        · rcases List.mem_append.mp inside with before | here
          · exact full buf before
          · rw [List.mem_singleton.mp here, List.length_take]
            omega
  | closing tsk written =>
      obtain ⟨dials, connected, file⟩ := holds
      obtain ⟨later, done, after, state⟩ := dials.closes sleeps.reached connected
      have calls : s.Calls (clientCalls skaddr cursorIp) later :=
        ⟨.close tsk, trivial, trivial, dials.member, trivial, done⟩
      exact .inr (.inr ⟨_, later, clientNext_closing tmp done, .inr calls, after, state, file⟩)
  | finished tsk written => exact .inl ⟨trivial, rfl⟩
  | exited => exact holds.elim

/-- Where the stack is intact no sock was released, and none of them ever listens. -/
theorem ClientPlace.Holds.own {place : ClientPlace} (holds : place.Holds tuple input s)
    (reached : s.Reached) (intact : s.Intact) :
    ∀ tsk ∈ s.allocated, ¬ s.Released tsk ∧ (s.sock tsk).state ≠ .listen := by
  have dialed : ∀ {own}, s.Dials own tuple →
      ∀ tsk ∈ s.allocated, ¬ s.Released tsk ∧ (s.sock tsk).state ≠ .listen := by
    intro own dials tsk member
    rw [dials.allocated, List.mem_singleton] at member
    exact member ▸ ⟨intact.not_released (.inl dials.inEstablished), dials.notListen reached⟩
  cases place with
  | start =>
      have none : s.allocated = [] := holds
      rw [none]
      exact fun _ => nofun
  | allocated own =>
      have made : s.Made own := holds.1
      have member : own ∈ s.allocated := made.allocated ▸ List.mem_singleton_self own
      intro tsk there
      rw [made.allocated, List.mem_singleton] at there
      refine there ▸ ⟨made.unreleased, fun listening => made.unhashed (.inr ?_)⟩
      exact (reached.standing.stands own member).listening.mpr listening
  | sleeping own => exact dialed holds
  | connected own | sending own | closing own | finished own => exact dialed holds.1
  | exited => exact holds.elim

/-- A packet keeps what holds at a place. -/
theorem ClientPlace.Holds.arrives {place : ClientPlace} {event : Event}
    (holds : place.Holds tuple input s) (reached : s.Reached) (arrival : event.IsArrival s)
    (done : event.run s = .ok later) : place.Holds tuple input later := by
  have keeps : ∀ {tsk}, s.Dials tsk tuple → (s.sock tsk).state.connected →
      later.Dials tsk tuple ∧ (later.sock tsk).state.connected := by
    intro tsk dials connected
    obtain ⟨after, moves⟩ := dials.arrives reached arrival done
    exact ⟨after, moves.connected (reached.standing.stands tsk dials.member) connected⟩
  cases place with
  | start => exact (arrival.allocated reached done).trans holds
  | allocated tsk =>
      obtain ⟨made, unbound⟩ := holds
      have stays := reached.arrival_stays arrival done made.unhashed
      exact ⟨made.arrives reached arrival done, fun bound => unbound (stays.places.inBind.mp bound)⟩
  | sleeping tsk => exact (Stack.Dials.arrives holds reached arrival done).1
  | connected tsk => exact keeps holds.1 holds.2
  | sending tsk rest eof written =>
      obtain ⟨dials, connected, more⟩ := holds
      obtain ⟨after, still⟩ := keeps dials connected
      exact ⟨after, still, more⟩
  | closing tsk written =>
      obtain ⟨dials, connected, more⟩ := holds
      obtain ⟨after, still⟩ := keeps dials connected
      exact ⟨after, still, more⟩
  | finished tsk written =>
      obtain ⟨dials, state, more⟩ := holds
      obtain ⟨after, moves⟩ := dials.arrives reached arrival done
      exact ⟨after, moves.finWait1 (reached.standing.stands tsk dials.member) state, more⟩
  | exited => exact holds.elim

end Calls

/-- What a run of the client comes to. -/
theorem client_holds {skaddr : SockAddr} {cursorIp : U32} {input : Option (List U8)}
    {process : Process (tcpClient skaddr cursorIp input)}
    (run : Process.Run (.init (tcpClient skaddr cursorIp input)) process) :
    Run Event.Orderly initTcpStack process.stack ∧
      ClientPlace.Holds (clientTuple skaddr cursorIp) input process.stack process.place := by
  have start : ClientPlace.Holds (clientTuple skaddr cursorIp) input initTcpStack .start := rfl
  refine Process.Run.keeps (clientCalls skaddr cursorIp) start ?_ ?_ run
  · intro s later place next tmp sleeps holds notNull absent isNext
    have called : clientNext skaddr cursorIp input tmp s place = some (.ok (next, later)) := isNext
    rcases holds.moves sleeps notNull absent with ⟨_, idle⟩ | ⟨_, halts⟩ | ⟨_, _, moved, after⟩
    · rw [idle] at called
      cases called
    · rw [halts] at called
      cases called
    · rw [moved] at called
      cases called
      exact after
  · intro s later place event sleeps holds arrival done
    exact holds.arrives sleeps.reached arrival done

/-- What the thread does in any run. -/
theorem client_obeys (skaddr : SockAddr) (cursorIp : U32) (input : Option (List U8)) :
    (tcpClient skaddr cursorIp input).Obeys (clientCalls skaddr cursorIp) where
  returns := by
    intro process next later tmp run notNull absent isNext
    obtain ⟨before, holds⟩ := client_holds run
    have called : clientNext skaddr cursorIp input tmp process.stack process.place =
      some (.ok (next, later)) := isNext
    rcases holds.moves (before.sleeps initTcpStack_sleeps) notNull absent with
      ⟨_, idle⟩ | ⟨_, stopped⟩ | ⟨_, _, moved, turn, _⟩
    · rw [idle] at called
      cases called
    · rw [stopped] at called
      cases called
    · rw [moved] at called
      cases called
      exact turn
  halts := by
    intro process halt tmp run notNull absent isNext
    obtain ⟨before, holds⟩ := client_holds run
    have called : clientNext skaddr cursorIp input tmp process.stack process.place =
      some (.error halt) := isNext
    rcases holds.moves (before.sleeps initTcpStack_sleeps) notNull absent with
      ⟨_, idle⟩ | ⟨_, stopped⟩ | ⟨_, _, moved, _⟩
    · rw [idle] at called
      cases called
    · rw [stopped] at called
      cases called
      rfl
    · rw [moved] at called
      cases called

/-- The thread can come to its end, using no memory that was given back. -/
def Process.Finishes {skaddr : SockAddr} {cursorIp : U32} {input : Option (List U8)}
    (process : Process (tcpClient skaddr cursorIp input)) : Prop :=
  ∃ last, Process.SparingRun process last ∧
    ∃ tsk written, last.place = ClientPlace.finished tsk written

section Finishing

variable {skaddr : SockAddr} {cursorIp : U32} {file rest : List U8} {s later : Stack}
  {tsk : SockPtr} {written : List (List U8)} {place next : ClientPlace} {event : Event}

/-- A call after which the thread can come to its end. -/
theorem Process.Finishes.of_call
    (called : ∀ tmp, clientNext skaddr cursorIp (some file) tmp s place = some (.ok (next, later)))
    (intact : s.Intact) (once : later.freed.Nodup)
    (finishes : Process.Finishes
      (⟨later, next⟩ : Process (tcpClient skaddr cursorIp (some file)))) :
    Process.Finishes (⟨s, place⟩ : Process (tcpClient skaddr cursorIp (some file))) := by
  obtain ⟨last, more, finished⟩ := finishes
  have first : Process.SparingRun (⟨s, place⟩ : Process (tcpClient skaddr cursorIp (some file)))
      ⟨later, next⟩ := .call .refl intact once called
  exact ⟨last, first.trans more, finished⟩

/-- A call that closes nothing leaves the stack intact. -/
theorem Stack.Reached.intact_of_call (reached : s.Reached) (intact : s.Intact)
    (possible : event.Possible s) (orderly : event.Orderly s)
    (own : ∀ tsk, event.subject = some tsk → ¬ s.Released tsk)
    (calm : ∀ tsk, ¬ event.Closes s tsk) (done : event.run s = .ok later) : later.Intact := by
  obtain ⟨_, inOrder⟩ := reached.inOrder
  have sparing : event.Sparing s := ⟨orderly, intact, own⟩
  exact sparing.intact_of_calm inOrder reached.childless possible done calm

/-- The last call. -/
theorem Stack.Dials.finishes_closing (dials : s.Dials tsk (clientTuple skaddr cursorIp))
    (reached : s.Reached) (intact : s.Intact) (connected : (s.sock tsk).state.connected) :
    Process.Finishes (⟨s, ClientPlace.closing tsk written⟩ :
      Process (tcpClient skaddr cursorIp (some file))) := by
  obtain ⟨later, done, _⟩ := dials.closes reached connected
  have once : later.freed.Nodup := by
    rcases tcpSockClose_freed (dials.notListen reached) done with same | more
    · exact same ▸ intact.once
    · exact more ▸ List.nodup_cons.mpr
        ⟨intact.not_released (.inl dials.inEstablished), intact.once⟩
  exact .of_call (fun tmp => clientNext_closing tmp done) intact once ⟨_, .refl, tsk, written, rfl⟩

/-- The loop: what is left of the file gets shorter. -/
theorem Stack.Dials.finishes_sending (dials : s.Dials tsk (clientTuple skaddr cursorIp))
    (reached : s.Reached) (intact : s.Intact) (connected : (s.sock tsk).state.connected)
    (rest : List U8) (written : List (List U8)) :
    Process.Finishes (⟨s, ClientPlace.sending tsk rest false written⟩ :
      Process (tcpClient skaddr cursorIp (some file))) := by
  induction length : rest.length using Nat.strong_induction_on generalizing rest written with
  | h _ ih =>
      by_cases last : rest.length < bufSize
      · have next : ∀ tmp, clientNext skaddr cursorIp (some file) tmp s
            (.sending tsk rest false written) =
              some (.ok (.closing tsk (written ++ [rest]), s)) := by
          intro tmp
          rw [clientNext_sending, if_pos last]
        exact .of_call next intact intact.once (dials.finishes_closing reached intact connected)
      · have next : ∀ tmp, clientNext skaddr cursorIp (some file) tmp s
            (.sending tsk rest false written) = some (.ok
              (.sending tsk (rest.drop bufSize) false (written ++ [rest.take bufSize]), s)) := by
          intro tmp
          rw [clientNext_sending, if_neg last]
        have shorter : (rest.drop bufSize).length < rest.length := by
          rw [List.length_drop]
          simp only [bufSize] at last ⊢
          omega
        exact .of_call next intact intact.once (ih _ (length ▸ shorter) _ _ rfl)

/-- The sock is connected, and there is a file. -/
theorem Stack.Dials.finishes_connected (dials : s.Dials tsk (clientTuple skaddr cursorIp))
    (reached : s.Reached) (intact : s.Intact) (connected : (s.sock tsk).state.connected) :
    Process.Finishes (⟨s, ClientPlace.connected tsk⟩ :
      Process (tcpClient skaddr cursorIp (some file))) :=
  .of_call (fun _ => rfl) intact intact.once
    (dials.finishes_sending reached intact connected file [])

/-- The thread was notified. -/
theorem Stack.Dials.finishes_notified (dials : s.Dials tsk (clientTuple skaddr cursorIp))
    (sleeps : s.Sleeps) (intact : s.Intact) (notified : (s.sock tsk).waitConnect.notified = true) :
    Process.Finishes (⟨s, ClientPlace.sleeping tsk⟩ :
      Process (tcpClient skaddr cursorIp (some file))) := by
  obtain ⟨later, done, after, connected, next⟩ := dials.woken sleeps notified
  have possible : (Event.connectWoken tsk).Possible s := dials.member
  have reached := sleeps.reached.event possible trivial done
  have unharmed : later.Intact := sleeps.reached.intact_of_call intact possible trivial
    (fun _ same => Option.some.inj same ▸ intact.not_released (.inl dials.inEstablished))
    (fun _ => id) done
  exact .of_call (fun tmp => next skaddr cursorIp (some file) tmp) intact unharmed.once
    (after.finishes_connected reached unharmed connected)

/-- The peer can still answer. -/
theorem Stack.Dials.finishes_synSent (dials : s.Dials tsk (clientTuple skaddr cursorIp))
    (sleeps : s.Sleeps) (intact : s.Intact) (state : (s.sock tsk).state = .synSent) :
    Process.Finishes (⟨s, ClientPlace.sleeping tsk⟩ :
      Process (tcpClient skaddr cursorIp (some file))) := by
  obtain ⟨packet, tmp, notNull, absent, done⟩ :=
    sleeps.reached.establish_arrives dials.inEstablished state
  have arrival : (Event.arrive packet packetToIpHdr tcpPlace tmp).IsArrival s :=
    ⟨_, _, _, _, rfl, notNull, absent⟩
  obtain ⟨_, unharmed⟩ := sleeps.reached.establish_sparing dials.inEstablished state intact
  obtain ⟨after, still, notified⟩ := dials.answered sleeps arrival done
  obtain ⟨last, more, finished⟩ := after.finishes_notified still unharmed notified
  exact ⟨last, .head ⟨intact, .arrives _ nofun arrival done, unharmed.once⟩ more, finished⟩

/-- The connection was not opened yet. -/
theorem Stack.Made.finishes (made : s.Made tsk) (sleeps : s.Sleeps) (intact : s.Intact)
    (unbound : ¬ s.InBind tsk) :
    Process.Finishes (⟨s, ClientPlace.allocated tsk⟩ :
      Process (tcpClient skaddr cursorIp (some file))) := by
  obtain ⟨later, called, dials, state⟩ := made.connects sleeps unbound skaddr cursorIp
  have member : tsk ∈ s.allocated := made.allocated ▸ List.mem_singleton_self tsk
  have possible : (Event.connect tsk skaddr cursorIp).Possible s := member
  have orderly : (Event.connect tsk skaddr cursorIp).Orderly s :=
    ⟨made.unreleased, unbound, made.unhashed⟩
  have done : (Event.connect tsk skaddr cursorIp).run s = .ok later :=
    Outcome.bind_eq_ok.mpr ⟨_, called, rfl⟩
  have after := sleeps.event possible orderly done
  have unharmed : later.Intact := sleeps.reached.intact_of_call intact possible orderly
    (fun _ same => Option.some.inj same ▸ made.unreleased) (fun _ => id) done
  exact .of_call (fun tmp => clientNext_allocated (some file) tmp called) intact unharmed.once
    (dials.finishes_synSent after unharmed state)

/-- The thread sleeps, and nothing can wake it. -/
def Process.Stuck {skaddr : SockAddr} {cursorIp : U32} {input : Option (List U8)}
    (process : Process (tcpClient skaddr cursorIp input)) : Prop :=
  ∃ tsk, process.place = ClientPlace.sleeping tsk ∧
    (process.stack.sock tsk).waitConnect.notified = false ∧
    (process.stack.sock tsk).state ≠ .synSent

/-- What is stuck stays so. -/
theorem Process.Stuck.step {input : Option (List U8)}
    {process next : Process (tcpClient skaddr cursorIp input)} (stuck : process.Stuck)
    (run : Process.Run (.init (tcpClient skaddr cursorIp input)) process)
    (step : process.Step next) : next.Stuck := by
  obtain ⟨before, holds⟩ := client_holds run
  have reached := before.reached initTcpStack_reached
  obtain ⟨s, place⟩ := process
  obtain ⟨tsk, rfl, unnotified, state⟩ := stuck
  have dials : s.Dials tsk (clientTuple skaddr cursorIp) := holds
  cases step with
  | @moves _ later _ next tmp _ _ isNext =>
      have called : clientNext skaddr cursorIp input tmp s (.sleeping tsk) =
        some (.ok (next, later)) := isNext
      rw [clientNext, unnotified] at called
      cases called
  | arrives event _ arrival done =>
      have moves := (dials.arrives reached arrival done).2
      have stands := reached.standing.stands tsk dials.member
      refine ⟨tsk, rfl, ?_, fun after => state (moves.synSent stands (dials.sent reached) after)⟩
      rcases reached.wakes arrival.possible done dials.member with calms | ⟨waiting, _⟩
      · rw [← Bool.not_eq_true]
        intro notified
        have already := calms.connect.notified notified
        rw [unnotified] at already
        cases already
      · exact absurd waiting.2 state

theorem Process.Stuck.stays {input : Option (List U8)}
    {process last : Process (tcpClient skaddr cursorIp input)} (stuck : process.Stuck)
    (run : Process.Run (.init (tcpClient skaddr cursorIp input)) process)
    (more : Process.Run process last) : last.Stuck := by
  induction more with
  | refl => exact stuck
  | tail between step ih => exact ih.step (run.trans between) step

end Finishing

/-- A client of port 80 of host 2, before its peer has answered. -/
theorem connectingStack_process (input : Option (List U8)) :
    Process.SparingRun (.init (tcpClient ⟨htonl 2, htons 80⟩ 1 input))
      ⟨connectingStack, ClientPlace.sleeping 1⟩ := by
  have created : Process.SparingRun (.init (tcpClient ⟨htonl 2, htons 80⟩ 1 input))
      ⟨allocTcpSock initTcpStack 1, ClientPlace.allocated 1⟩ :=
    .single ⟨initTcpStack_intact, .moves 1 (by decide) List.not_mem_nil rfl, List.nodup_nil⟩
  exact created.call (.of_freed (allocTcpSock_freed initTcpStack 1)) (by decide)
    fun tmp => clientNext_allocated input tmp rfl

/-- The thread has called `tcp_sock_connect`. -/
def ClientPlace.Dialed : ClientPlace → Prop
  | .sleeping _ | .connected _ | .sending _ _ _ _ | .closing _ _ | .finished _ _ => True
  | .start | .allocated _ | .exited => False

/-- The sock takes the segments of its peer, and nobody takes any other. -/
theorem Stack.Dials.breaks_iff {s : Stack} {tsk : SockPtr} {tuple : U32 × U32 × U16 × U16}
    (dials : s.Dials tsk tuple) (reached : s.Reached) (cb : TcpCb) :
    (∃ handed, tcpSockLookup s cb = .ok handed ∧ (handed = 0 ∨ s.Breaks handed cb)) ↔
      cb.mirrored ≠ tuple := by
  obtain ⟨_, orderly⟩ := reached.inOrder
  have shape := orderly.sound.shape
  have only : ∀ other, s.Hashed other → other = tsk := by
    intro other hashed
    have member := shape.allocated_of_hashed hashed
    rwa [dials.allocated, List.mem_singleton] at member
  by_cases same : cb.mirrored = tuple
  · have found := reached.standing.lookup_of_established shape dials.inEstablished
      (dials.tuple.trans same.symm)
    refine iff_of_false ?_ fun different => different same
    rintro ⟨handed, lookup, stops⟩
    rw [found] at lookup
    cases lookup
    rcases stops with null | breaks
    · exact shape.ne_null dials.member null
    · exact dials.notListen reached breaks.2.1
  · have free : ∀ other, s.InEstablished other → (s.sock other).tuple ≠ cb.mirrored := by
      intro other inside taken
      have own := only other (.inl inside)
      subst own
      exact same (taken.symm.trans dials.tuple)
    have empty : s.entries (.listenTable (portBucket cb.dport)) = [] := by
      refine List.eq_nil_iff_forall_not_mem.mpr fun other there => ?_
      have own := only other (.inr ⟨_, there⟩)
      subst own
      exact shape.not_inListen_of_inEstablished dials.inEstablished ⟨_, there⟩
    refine iff_of_true ⟨0, ?_, .inl rfl⟩ same
    rw [shape.lookup_of_not_established free, empty]
    rfl

/-- A packet for a process stops it, or the sock takes it. -/
theorem ClientPlace.Holds.breaks_iff {s : Stack} {place : ClientPlace}
    {tuple : U32 × U32 × U16 × U16} {input : Option (List U8)} (holds : place.Holds tuple input s)
    (reached : s.Reached) (cb : TcpCb) :
    (∃ handed, tcpSockLookup s cb = .ok handed ∧ (handed = 0 ∨ s.Breaks handed cb)) ↔
      ¬(place.Dialed ∧ cb.mirrored = tuple) := by
  have open_iff : ∀ {tsk}, s.Dials tsk tuple → place.Dialed →
      ((∃ handed, tcpSockLookup s cb = .ok handed ∧ (handed = 0 ∨ s.Breaks handed cb)) ↔
        ¬(place.Dialed ∧ cb.mirrored = tuple)) :=
    fun dials dialed => (dials.breaks_iff reached cb).trans
      (not_congr (and_iff_right dialed).symm)
  cases place with
  | start =>
      have none : s.allocated = [] := holds
      refine iff_of_true (reached.stops_of_unhashed _ fun tsk there => ?_) fun both => both.1
      rw [none] at there
      cases there
  | allocated tsk =>
      have made : s.Made tsk := holds.1
      refine iff_of_true (reached.stops_of_unhashed _ fun other there => ?_) fun both => both.1
      rw [made.allocated, List.mem_singleton] at there
      exact there ▸ made.unhashed
  | sleeping tsk => exact open_iff holds trivial
  | connected tsk | sending tsk | closing tsk | finished tsk => exact open_iff holds.1 trivial
  | exited => exact holds.elim

/-- The same where the stack is intact. -/
theorem ClientPlace.Holds.stopped_iff {s : Stack} {place : ClientPlace}
    {tuple : U32 × U32 × U16 × U16} {input : Option (List U8)} (holds : place.Holds tuple input s)
    (reached : s.Reached) (intact : s.Intact) (cb : TcpCb) :
    (∃ handed, tcpSockLookup s cb = .ok handed ∧
        (handed = 0 ∨ (s.sock handed).state = .listen ∧ cb.StopsListener (s.sock handed))) ↔
      ¬(place.Dialed ∧ cb.mirrored = tuple) := by
  obtain ⟨_, orderly⟩ := reached.inOrder
  have open_iff : ∀ handed, tcpSockLookup s cb = .ok handed → handed ≠ 0 →
      ((s.sock handed).state = .listen ∧ cb.StopsListener (s.sock handed) ↔
        s.Breaks handed cb) := by
    intro handed found notNull
    have hashed := orderly.sound.shape.hashed_of_lookup found notNull
    have notListen := (holds.own reached intact handed
      (orderly.sound.shape.allocated_of_hashed hashed)).2
    exact iff_of_false (fun stops => notListen stops.1) fun breaks => notListen breaks.2.1
  refine Iff.trans (exists_congr fun handed => and_congr_right fun found => ?_)
    (holds.breaks_iff reached cb)
  exact or_congr_right' (open_iff handed found)

/-- **What stops the client.** In every state that the process can get to without using memory
that it gave back, a packet stops it if and only if its checksum is good and it is not a
segment of the connection: the thread has not called `tcp_sock_connect` yet, or the segment
does not come from the remote endpoint to the local one. -/
theorem client_stops_iff (skaddr : SockAddr) (cursorIp : U32) (input : Option (List U8))
    (process : Process (tcpClient skaddr cursorIp input))
    (run : Process.SparingRun (.init (tcpClient skaddr cursorIp input)) process)
    (intact : process.stack.Intact) (packet : Memory U8) (ip tcp : ℕ) (tmp : SockPtr)
    (notNull : tmp ≠ 0) (absent : tmp ∉ process.stack.allocated) :
    (∃ halt, (handleTcpPacket process.stack packet ip tcp tmp).checked = .error halt) ↔
      checksumMatches packet ip tcp = true ∧
        ¬(ClientPlace.Dialed process.place ∧
          (tcpCbInit packet ip tcp).mirrored = clientTuple skaddr cursorIp) := by
  obtain ⟨before, holds⟩ := client_holds run.run
  have reached := before.reached initTcpStack_reached
  exact (reached.handle_stops_iff intact packet ip tcp notNull absent).trans
    (and_congr_right fun _ => holds.stopped_iff reached intact _)

/-- A FIN of the peer does not stop the client, and a segment for another port does. -/
theorem client_stops_iff_connecting :
    (¬∃ halt, (handleTcpPacket connectingStack (peerPacket tcpFin) packetToIpHdr tcpPlace
        2).checked = .error halt) ∧
      ∃ halt, (handleTcpPacket connectingStack (clientPacket tcpAck) packetToIpHdr tcpPlace
        2).checked = .error halt := by
  have intact : connectingStack.Intact := .of_freed (by decide)
  have stops := client_stops_iff _ _ _ _ (connectingStack_process none) intact
  constructor
  · rw [stops _ _ _ 2 (by decide) (by decide), (peerPacket_delivers tcpFin).received]
    exact fun both => both.2 ⟨trivial, by decide⟩
  · rw [stops _ _ _ 2 (by decide) (by decide), (clientPacket_delivers tcpAck).received]
    exact ⟨(clientPacket_delivers tcpAck).matching, fun both => absurd both.2 (by decide)⟩

end TcpStack
