import TcpStack.Program.Input
import TcpStack.Sock.Network
import TcpStack.Sock.Reading

/-!
# The applications

`main` starts one thread for the application, `tcp_server` or `tcp_client`, and handles
packets itself. So a process is a stack and a place in the application: either the
thread makes its next call, or a packet arrives. A call that sleeps ends at its
sleep, and the rest of it is the next step of the thread once it is notified.

A thread follows a null pointer where its call does, and then the process is gone; it is
gone as well when the thread calls `exit`.
-/

set_option autoImplicit false

namespace TcpStack

open Lib

/-! ## Processes -/

/-- A thread: where it can stand, where it starts, and what it does next, for the address
that `malloc` returns. Nothing is next where it sleeps, or is done. -/
structure App where
  Place : Type
  start : Place
  next : SockPtr → Stack → Place → Option (Outcome (Place × Stack))
  exited : Place → Prop

/-- The sockets, and where the thread stands. -/
structure Process (app : App) where
  stack : Stack
  place : app.Place

namespace Process

variable {app : App}

/-- The thread moves, or a packet arrives. -/
inductive Step : Process app → Process app → Prop where
  | moves {s later : Stack} {place next : app.Place} (tmp : SockPtr) : tmp ≠ 0 →
      tmp ∉ s.allocated → app.next tmp s place = some (.ok (next, later)) →
      Step ⟨s, place⟩ ⟨later, next⟩
  | arrives {s later : Stack} {place : app.Place} (event : Event) : ¬ app.exited place →
      event.IsArrival s → event.run s = .ok later → Step ⟨s, place⟩ ⟨later, place⟩

/-- What a process can come to. -/
abbrev Run : Process app → Process app → Prop := Relation.ReflTransGen Step

/-- The process before the first call. -/
def init (app : App) : Process app := ⟨initTcpStack, app.start⟩

end Process

/-! ## The server -/

/-- Where the thread of `tcp_server` stands. -/
inductive ServerPlace where
  | start
  | allocated (tsk : SockPtr)
  | bound (tsk : SockPtr)
  | listening (tsk : SockPtr)
  | sleeping (tsk : SockPtr)
  | serving (csk : SockPtr) (rbuf : Memory U8) (file : List U8)
  | closing (csk : SockPtr) (file : List U8)
  | finished (file : List U8)
  | exited

/-- The sock that `tcp_sock_accept` returns. The head of a queue is not the node of a
sock. -/
def ServerPlace.accepted (rbuf : Memory U8) (s : Stack) : Node → Outcome (ServerPlace × Stack)
  | .list csk => .ok (.serving csk rbuf [], s)
  | _ => .error ⟨.badPointer, s⟩

/-- The next call of `tcp_server`. The port is in network byte order, and `rbuf` is what is
in memory where the buffer of the thread starts. -/
def serverNext (port : U16) (rbuf : Memory U8) (tmp : SockPtr) (s : Stack) :
    ServerPlace → Option (Outcome (ServerPlace × Stack))
  | .start => some (.ok (.allocated tmp, allocTcpSock s tmp))
  | .allocated tsk => some do
      let (err, s) ← tcpSockBind s tsk ⟨htonl 0, port⟩
      pure (if err < 0 then .exited else .bound tsk, s)
  | .bound tsk => some do
      let (err, s) ← tcpSockListen s tsk 3
      pure (if err < 0 then .exited else .listening tsk, s)
  | .listening tsk => some do
      let (popped, s) ← tcpSockAccept s tsk
      match popped with
      | none => pure (.sleeping tsk, s)
      | some node => ServerPlace.accepted rbuf s node
  | .sleeping tsk =>
      if (s.sock tsk).waitAccept.notified then some do
        let (popped, s) ← tcpSockAcceptWoken s tsk
        ServerPlace.accepted rbuf s popped
      else none
  | .serving csk rbuf file =>
      let now := Server.turn ⟨s.sock csk, rbuf, file, false⟩
      some (.ok (if now.finished then .closing csk now.file else .serving csk now.rbuf now.file,
        s.modify csk fun _ => now.csk))
  | .closing csk file => some do
      let s ← tcpSockClose s csk
      pure (.finished file, s)
  | .finished _ | .exited => none

/-- `tcp_server`. -/
def tcpServer (port : U16) (rbuf : Memory U8) : App where
  Place := ServerPlace
  start := .start
  next := serverNext port rbuf
  exited := fun place => place = .exited

/-! ## The client -/

/-- Where the thread of `tcp_client` stands; `written` is what it has handed to
`tcp_sock_write`, piece by piece. -/
inductive ClientPlace where
  | start
  | allocated (tsk : SockPtr)
  | sleeping (tsk : SockPtr)
  | connected (tsk : SockPtr)
  | sending (tsk : SockPtr) (rest : List U8) (eof : Bool) (written : List (List U8))
  | closing (tsk : SockPtr) (written : List (List U8))
  | finished (tsk : SockPtr) (written : List (List U8))
  | exited

/-- `fread`: the bytes read, the rest of the file, and whether its end was met. -/
def fread (size : ℕ) (file : List U8) : List U8 × List U8 × Bool :=
  (file.take size, file.drop size, decide (file.length < size))

/-- `tcp_sock_write`, whose body is empty. -/
def tcpSockWrite (s : Stack) (_tsk : SockPtr) (_buf : List U8) : Stack := s

/-- The next call of `tcp_client`; there may be no file to read. -/
def clientNext (skaddr : SockAddr) (cursorIp : U32) (input : Option (List U8)) (tmp : SockPtr)
    (s : Stack) : ClientPlace → Option (Outcome (ClientPlace × Stack))
  | .start => some (.ok (.allocated tmp, allocTcpSock s tmp))
  | .allocated tsk => some do
      let (result, s) ← tcpSockConnect s tsk skaddr cursorIp
      match result with
      | none => pure (.sleeping tsk, s)
      | some err => pure (if err < 0 then .exited else .connected tsk, s)
  | .sleeping tsk =>
      if (s.sock tsk).waitConnect.notified then
        let (err, s) := tcpSockConnectWoken s tsk
        some (.ok (if err < 0 then .exited else .connected tsk, s))
      else none
  | .connected tsk =>
      match input with
      -- `feof` of a file that could not be opened
      | none => some (.error ⟨.badPointer, s⟩)
      | some file => some (.ok (.sending tsk file false [], s))
  | .sending tsk rest eof written =>
      if eof then some (.ok (.closing tsk written, s))
      else
        let (buf, rest, eof) := fread bufSize rest
        let s := tcpSockWrite s tsk buf
        some (.ok (if buf.length < bufSize then .closing tsk (written ++ [buf])
          else .sending tsk rest eof (written ++ [buf]), s))
  | .closing tsk written => some do
      let s ← tcpSockClose s tsk
      pure (.finished tsk written, s)
  | .finished _ _ | .exited => none

/-- `tcp_client`; `cursorIp` is what `tcp_sock_connect` reads as the address of an
interface. -/
def tcpClient (skaddr : SockAddr) (cursorIp : U32) (input : Option (List U8)) : App where
  Place := ClientPlace
  start := .start
  next := clientNext skaddr cursorIp input
  exited := fun place => place = .exited

/-! ## The only sock -/

/-- The sock was made and nothing has been done with it, and there is no other one. -/
structure Stack.Made (s : Stack) (tsk : SockPtr) : Prop where
  allocated : s.allocated = [tsk]
  unreleased : ¬ s.Released tsk
  unhashed : ¬ s.Hashed tsk

section Arrivals

variable {s later : Stack} {tsk tmp : SockPtr} {event : Event}

/-- A packet is handed to a hashed sock, and no other sock changes. -/
theorem Stack.Reached.arrival_cases (reached : s.Reached) (arrival : event.IsArrival s)
    (done : event.run s = .ok later) :
    (∀ tsk, s.Stays later tsk) ∨
      ∃ cb handed, s.Hashed handed ∧ SegmentEffect s handed cb later := by
  have possible := arrival.possible
  obtain ⟨packet, ip, tcp, tmp, rfl, _⟩ := arrival
  cases reached.effect possible trivial done with
  | quiet quiet => exact .inl quiet.stays
  | arrives _ hashed segment => exact .inr ⟨_, _, hashed, segment⟩

/-- A packet leaves a sock that is not hashed as it is. -/
theorem Stack.Reached.arrival_stays (reached : s.Reached) (arrival : event.IsArrival s)
    (done : event.run s = .ok later) (unhashed : ¬ s.Hashed tsk) : s.Stays later tsk := by
  rcases reached.arrival_cases arrival done with stays | ⟨cb, handed, hashed, segment⟩
  · exact stays tsk
  · have different : tsk ≠ handed := fun same => unhashed (same ▸ hashed)
    cases segment with
    | ignored same => exact same ▸ .refl s tsk
    | answered _ _ _ same => exact same ▸ tcpSendReset_stays s cb tsk
    | establishes _ _ _ establishes => exact establishes.alters.others tsk different
    | finished _ closed | aborted _ closed => exact closed.alters.others tsk different

theorem Stack.Stays.hashed_iff (stays : s.Stays later tsk) : later.Hashed tsk ↔ s.Hashed tsk :=
  or_congr stays.places.inEstablished stays.places.inListen

theorem Stack.Made.arrives (made : s.Made tsk) (reached : s.Reached) (arrival : event.IsArrival s)
    (done : event.run s = .ok later) : later.Made tsk := by
  have stays := reached.arrival_stays arrival done made.unhashed
  exact ⟨(arrival.allocated reached done).trans made.allocated,
    fun released => made.unreleased (stays.released.mp released),
    fun hashed => made.unhashed (stays.hashed_iff.mp hashed)⟩

/-- The first call of a thread. -/
theorem Stack.Reached.makes (reached : s.Reached) (none : s.allocated = []) (notNull : tmp ≠ 0) :
    (allocTcpSock s tmp).Made tmp ∧ ¬ (allocTcpSock s tmp).InBind tmp := by
  obtain ⟨_, orderly⟩ := reached.inOrder
  have absent : tmp ∉ s.allocated := none ▸ List.not_mem_nil
  have makes := orderly.makes notNull absent
  refine ⟨⟨?_, makes.unreleased, ?_⟩, ?_⟩
  · rw [makes.allocated, none]
  · exact fun hashed => makes.unlinked (hashed.imp_right .inl)
  · exact fun bound => makes.unlinked (.inr (.inr (.inl bound)))

/-- A packet finds no sock where none is hashed. -/
theorem Stack.Reached.lookup_of_unhashed (reached : s.Reached) (cb : TcpCb)
    (unhashed : ∀ tsk ∈ s.allocated, ¬ s.Hashed tsk) : tcpSockLookup s cb = .ok 0 := by
  obtain ⟨_, orderly⟩ := reached.inOrder
  obtain ⟨tsk, found, rfl | hashed⟩ := orderly.sound.shape.lookup cb
  · exact found
  · exact absurd hashed (unhashed tsk (orderly.sound.shape.allocated_of_hashed hashed))

/-- A packet that is checked stops a program that has no hashed sock. -/
theorem Stack.Reached.stops_of_unhashed (reached : s.Reached) (cb : TcpCb)
    (unhashed : ∀ tsk ∈ s.allocated, ¬ s.Hashed tsk) :
    ∃ tsk, tcpSockLookup s cb = .ok tsk ∧ (tsk = 0 ∨ s.Breaks tsk cb) :=
  ⟨0, reached.lookup_of_unhashed cb unhashed, .inl rfl⟩

end Arrivals

/-! ## Runs of a process -/

/-- The stack after an orderly call, one of those allowed. -/
def Stack.Calls (allowed : Event → Prop) (s later : Stack) : Prop :=
  ∃ event : Event, event.IsCall ∧ allowed event ∧ event.Possible s ∧ event.Orderly s ∧
    event.run s = .ok later

/-- What a thread that makes orderly calls only does to the stack. -/
theorem Stack.Calls.run {allowed : Event → Prop} {s later : Stack}
    (turn : later = s ∨ s.Calls allowed later) : Run Event.Orderly s later := by
  rcases turn with rfl | ⟨event, _, _, possible, orderly, done⟩
  · exact .refl
  · exact .single ⟨event, possible, orderly, done⟩

/-- The thread makes orderly calls only, of those allowed, and a step of it that stops the
program leaves the stack as it is. -/
structure App.Obeys (app : App) (allowed : Event → Prop) : Prop where
  returns : ∀ {process : Process app} {next : app.Place} {later : Stack} {tmp : SockPtr},
    Process.Run (.init app) process → tmp ≠ 0 → tmp ∉ process.stack.allocated →
    app.next tmp process.stack process.place = some (.ok (next, later)) →
      later = process.stack ∨ process.stack.Calls allowed later
  halts : ∀ {process : Process app} {halt : Halt} {tmp : SockPtr},
    Process.Run (.init app) process → tmp ≠ 0 → tmp ∉ process.stack.allocated →
    app.next tmp process.stack process.place = some (.error halt) → halt.stack = process.stack

/-- **The rule for an application.** What holds of the place at the start, is kept by the calls
of the thread and by packets, holds in every run, if the thread makes orderly calls only. -/
theorem Process.Run.keeps {app : App} (allowed : Event → Prop)
    {Holds : Stack → app.Place → Prop} (start : Holds initTcpStack app.start)
    (moves : ∀ (s later : Stack) (place next : app.Place) (tmp : SockPtr), s.Sleeps →
      Holds s place → tmp ≠ 0 → tmp ∉ s.allocated →
      app.next tmp s place = some (.ok (next, later)) →
      (later = s ∨ s.Calls allowed later) ∧ Holds later next)
    (arrives : ∀ (s later : Stack) (place : app.Place) (event : Event), s.Sleeps →
      Holds s place → event.IsArrival s → event.run s = .ok later → Holds later place)
    {process : Process app} (run : Process.Run (.init app) process) :
    TcpStack.Run Event.Orderly initTcpStack process.stack ∧
      Holds process.stack process.place := by
  induction run with
  | refl => exact ⟨.refl, start⟩
  | tail _ step ih =>
      obtain ⟨before, holds⟩ := ih
      have sleeps := before.sleeps initTcpStack_sleeps
      cases step with
      | moves tmp notNull absent next =>
          obtain ⟨turn, after⟩ := moves _ _ _ _ tmp sleeps holds notNull absent next
          exact ⟨before.trans (Stack.Calls.run turn), after⟩
      | arrives event _ arrival done =>
          exact ⟨before.tail ⟨event, arrival.possible, arrival.orderly, done⟩,
            arrives _ _ _ event sleeps holds arrival done⟩

/-! ## Runs that use no memory that was given back -/

/-- A step from a stack that is intact, in which no sock is released a second time. -/
def Process.Spares {app : App} (process next : Process app) : Prop :=
  process.stack.Intact ∧ process.Step next ∧ next.stack.freed.Nodup

/-- What a process can come to by such steps. -/
abbrev Process.SparingRun {app : App} : Process app → Process app → Prop :=
  Relation.ReflTransGen Process.Spares

theorem Event.subject_allocated {s : Stack} {event : Event} {tsk : SockPtr}
    (possible : event.Possible s) (subject : event.subject = some tsk) : tsk ∈ s.allocated := by
  cases event with
  | alloc | arrive => cases subject
  | bind | listen | connect | connectWoken | accept | acceptWoken | close =>
      cases subject
      exact possible

section Sparing

variable {app : App} {start process : Process app} {allowed : Event → Prop} {s later : Stack}
  {tmp : SockPtr}

theorem Process.SparingRun.run (run : Process.SparingRun start process) :
    Process.Run start process :=
  Relation.ReflTransGen.mono (fun _ _ spares => spares.2.1) _ _ run

/-- Nothing was released twice. -/
theorem Process.SparingRun.once (run : Process.SparingRun (.init app) process) :
    process.stack.freed.Nodup := by
  cases run with
  | refl => exact List.nodup_nil
  | tail _ spares => exact spares.2.2

/-- An orderly event where no sock was released. -/
theorem Event.sparing_of_unreleased {event : Event} (possible : event.Possible s)
    (orderly : event.Orderly s) (intact : s.Intact)
    (own : ∀ tsk ∈ s.allocated, ¬ s.Released tsk) : event.Sparing s :=
  ⟨orderly, intact, fun tsk subject => own tsk (Event.subject_allocated possible subject)⟩

/-- **The rule for the stack of an application**: the run is a sparing one, if the thread makes
orderly calls only and, where the stack is intact, no sock of it was released. -/
theorem Process.SparingRun.sparing (obeys : app.Obeys allowed)
    (own : ∀ {process : Process app}, Process.Run (.init app) process → process.stack.Intact →
      ∀ tsk ∈ process.stack.allocated, ¬ process.stack.Released tsk)
    (run : Process.SparingRun (.init app) process) :
    TcpStack.Run Event.Sparing initTcpStack process.stack := by
  induction run with
  | refl => exact .refl
  | @tail between _ before spares ih =>
      obtain ⟨intact, step, _⟩ := spares
      have reached := Process.SparingRun.run before
      have unreleased := own reached intact
      cases step with
      | moves tmp notNull absent isNext =>
          rcases obeys.returns reached notNull absent isNext with same | ⟨event, _, _, calls⟩
          · exact same ▸ ih
          · obtain ⟨possible, orderly, done⟩ := calls
            exact ih.tail ⟨event, possible,
              Event.sparing_of_unreleased possible orderly intact unreleased, done⟩
      | arrives event _ arrival done =>
          exact ih.tail ⟨event, arrival.possible, arrival.sparing intact, done⟩

/-- A call releases nothing twice where no sock listens. -/
theorem Stack.Calls.once (turn : later = s ∨ s.Calls allowed later) (reached : s.Reached)
    (intact : s.Intact)
    (own : ∀ tsk ∈ s.allocated, ¬ s.Released tsk ∧ (s.sock tsk).state ≠ .listen) :
    later.freed.Nodup := by
  rcases turn with rfl | ⟨event, isCall, _, possible, orderly, done⟩
  · exact intact.once
  · obtain ⟨_, inOrder⟩ := reached.inOrder
    have sparing :=
      Event.sparing_of_unreleased possible orderly intact fun tsk member => (own tsk member).1
    have kept : ¬ event.EndsListener s := by
      rintro ⟨tsk, closes, listening⟩
      cases event with
      | close other =>
          cases closes
          exact (own tsk possible).2 listening
      | arrive => exact isCall
      | alloc | bind | listen | connect | connectWoken | accept | acceptWoken => exact closes
    have checked := (sparing.exec_eq_ok inOrder reached.childless possible).mpr ⟨done, kept⟩
    exact (Event.exec_eq_ok.mp checked).2

/-- What stops a program whose stack is intact. -/
theorem Stack.Reached.handle_stops_iff (reached : s.Reached) (intact : s.Intact)
    (packet : Memory U8) (ip tcp : ℕ) (notNull : tmp ≠ 0) (absent : tmp ∉ s.allocated) :
    (∃ halt, (handleTcpPacket s packet ip tcp tmp).checked = .error halt) ↔
      (Event.arrive packet ip tcp tmp).Stops s := by
  obtain ⟨_, orderly⟩ := reached.inOrder
  have arrival : (Event.arrive packet ip tcp tmp).IsArrival s := ⟨_, _, _, _, rfl, notNull, absent⟩
  exact (arrival.sparing intact).halts_iff orderly reached.childless arrival.possible

/-- A step of the thread from an intact stack, in memory that is never used up. -/
theorem Process.SparingRun.call {place next : app.Place}
    (run : Process.SparingRun start ⟨s, place⟩) (intact : s.Intact) (once : later.freed.Nodup)
    (called : ∀ tmp, app.next tmp s place = some (.ok (next, later))) :
    Process.SparingRun start ⟨later, next⟩ := by
  obtain ⟨tmp, notNull, absent⟩ := s.exists_fresh
  exact run.tail ⟨intact, .moves tmp notNull absent (called tmp), once⟩

end Sparing

/-- A call of the thread, in memory that is never used up. -/
theorem Process.Run.call {app : App} {start : Process app} {s later : Stack}
    {place next : app.Place} (run : Process.Run start ⟨s, place⟩)
    (called : ∀ tmp, app.next tmp s place = some (.ok (next, later))) :
    Process.Run start ⟨later, next⟩ := by
  obtain ⟨tmp, notNull, absent⟩ := s.exists_fresh
  exact run.tail (.moves tmp notNull absent (called tmp))

end TcpStack
