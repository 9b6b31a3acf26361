import TcpStack.Sock.Standing

/-!
# What is sent

Along every run of orderly calls and arbitrary packets, the SYNs that were sent are
as many as the socks that have sent one, and so are the FINs. Nothing that is sent
carries data (`segments_counted`).
-/

set_option autoImplicit false

namespace TcpStack

open Lib

/-! ## Counts -/

/-- How many socks have a `SND.NXT` with the property. -/
def Stack.countSocks (s : Stack) (test : U32 → Bool) : ℕ :=
  s.allocated.countP fun tsk => test (s.sock tsk).sndNxt

/-- How many segments have exactly these flags. -/
def countFlags (segments : List Segment) (flags : U8) : ℕ :=
  segments.countP fun sent => sent.flags == flags

/-- The socks that have sent a SYN. -/
def sentSyn (sndNxt : U32) : Bool := sndNxt != 0

/-- The socks that have sent a FIN, too. -/
def sentFin (sndNxt : U32) : Bool := sndNxt == 2

/-- A count in which one member changes. -/
theorem countP_update {α : Type} {list : List α} (before after : α → Bool)
    (nodup : list.Nodup) {member : α} (inside : member ∈ list)
    (same : ∀ other ∈ list, other ≠ member → after other = before other) :
    list.countP after + (before member).toNat = list.countP before + (after member).toNat := by
  induction list with
  | nil => cases inside
  | cons first rest ih =>
      obtain ⟨outside, nodup⟩ := List.nodup_cons.mp nodup
      rw [List.countP_cons, List.countP_cons]
      rcases List.mem_cons.mp inside with rfl | inside
      · have others : rest.countP after = rest.countP before := by
          refine List.countP_congr fun other there => ?_
          rw [same other (List.mem_cons_of_mem _ there) (ne_of_mem_of_not_mem there outside)]
        rw [others]
        cases before member <;> cases after member <;> simp
      · have head : after first = before first :=
          same first List.mem_cons_self (ne_of_mem_of_not_mem inside outside).symm
        have tail := ih nodup inside fun other there => same other (List.mem_cons_of_mem _ there)
        rw [head]
        omega

section Counts

variable {s later : Stack} {tsk : SockPtr}

/-- One sock was altered. -/
theorem Stack.Alters.countSocks {emitted : List Segment} (alters : s.Alters tsk emitted later)
    (nodup : s.allocated.Nodup) (member : tsk ∈ s.allocated) (test : U32 → Bool) :
    later.countSocks test + (test (s.sock tsk).sndNxt).toNat =
      s.countSocks test + (test (later.sock tsk).sndNxt).toNat := by
  rw [Stack.countSocks, Stack.countSocks, alters.allocated]
  refine countP_update (fun other => test (s.sock other).sndNxt)
    (fun other => test (later.sock other).sndNxt) nodup member fun other _ different => ?_
  rw [(alters.others other different).sndNxt]

/-- All socks stay as they are. -/
theorem Stack.countSocks_stays (allocated : later.allocated = s.allocated)
    (stays : ∀ tsk, s.Stays later tsk) (test : U32 → Bool) :
    later.countSocks test = s.countSocks test := by
  rw [Stack.countSocks, Stack.countSocks, allocated]
  exact List.countP_congr fun tsk _ => by rw [(stays tsk).sndNxt]

theorem countFlags_append (first second : List Segment) (flags : U8) :
    countFlags (first ++ second) flags = countFlags first flags + countFlags second flags :=
  List.countP_append

end Counts

/-! ## One event -/

/-- What an event emits: nothing with data, and the SYNs and FINs that the socks
count. -/
structure Stack.Emits (s : Stack) (emitted : List Segment) (later : Stack) : Prop where
  out : later.out = s.out ++ emitted
  bare : ∀ sent ∈ emitted, sent.payload = []
  known : ∀ sent ∈ emitted, sent.flags ∈ [tcpSyn, tcpAck, tcpFin, tcpRst ||| tcpAck]
  syns : later.countSocks sentSyn = s.countSocks sentSyn + countFlags emitted tcpSyn
  fins : later.countSocks sentFin = s.countSocks sentFin + countFlags emitted tcpFin

section Emits

variable {s later : Stack} {tsk : SockPtr}

/-- Nothing is sent, and every sock keeps its number. -/
theorem Stack.Emits.nothing (out : later.out = s.out)
    (counts : ∀ test, test 0 = false → later.countSocks test = s.countSocks test) :
    s.Emits [] later where
  out := by rw [out, List.append_nil]
  bare := nofun
  known := nofun
  syns := counts sentSyn rfl
  fins := counts sentFin rfl

/-- One sock was altered, and the change of its number says what it sent. -/
theorem Stack.Alters.emits {emitted : List Segment} (alters : s.Alters tsk emitted later)
    (nodup : s.allocated.Nodup) (member : tsk ∈ s.allocated)
    (bare : ∀ sent ∈ emitted, sent.payload = [])
    (known : ∀ sent ∈ emitted, sent.flags ∈ [tcpSyn, tcpAck, tcpFin, tcpRst ||| tcpAck])
    (syns : (sentSyn (later.sock tsk).sndNxt).toNat =
      (sentSyn (s.sock tsk).sndNxt).toNat + countFlags emitted tcpSyn)
    (fins : (sentFin (later.sock tsk).sndNxt).toNat =
      (sentFin (s.sock tsk).sndNxt).toNat + countFlags emitted tcpFin) :
    s.Emits emitted later where
  out := alters.out
  bare := bare
  known := known
  syns := by
    have counted := alters.countSocks nodup member sentSyn
    omega
  fins := by
    have counted := alters.countSocks nodup member sentFin
    omega

/-- One sock was altered that keeps its number, and at most an acknowledgement was
sent. -/
theorem Stack.Alters.emits_plain {emitted : List Segment} (alters : s.Alters tsk emitted later)
    (nodup : s.allocated.Nodup) (member : tsk ∈ s.allocated)
    (sndNxt : (later.sock tsk).sndNxt = (s.sock tsk).sndNxt)
    (plain : emitted = [] ∨ emitted = [(s.sock tsk).controlSegment tcpAck]) :
    s.Emits emitted later := by
  refine alters.emits nodup member ?_ ?_ ?_ ?_
  · rcases plain with rfl | rfl <;> simp [TcpSock.controlSegment]
  · rcases plain with rfl | rfl <;> simp [TcpSock.controlSegment]
  · rw [sndNxt]
    rcases plain with rfl | rfl <;> rfl
  · rw [sndNxt]
    rcases plain with rfl | rfl <;> rfl

theorem Stack.Closed.emits {before : List Segment} (closed : s.Closed tsk before later)
    (stands : s.Stands tsk) (nodup : s.allocated.Nodup) (member : tsk ∈ s.allocated)
    (plain : before = [] ∨ before = [(s.sock tsk).controlSegment tcpAck]) :
    s.Emits (before ++ (s.sock tsk).closingSegments) later := by
  have numbered := stands.numbered
  have alters := closed.alters
  have sndNxt := closed.sndNxt
  rw [TcpSock.closingFins] at sndNxt
  rw [TcpSock.closingSegments] at alters ⊢
  cases state : (s.sock tsk).state <;> rw [state] at numbered alters sndNxt
  case established =>
    have one := List.mem_singleton.mp numbered
    rw [one] at sndNxt
    refine alters.emits nodup member ?_ ?_ ?_ ?_
    · rcases plain with rfl | rfl <;> simp [TcpSock.controlSegment]
    · rcases plain with rfl | rfl <;> simp [TcpSock.controlSegment]
    · rw [sndNxt, one]
      rcases plain with rfl | rfl <;> rfl
    · rw [sndNxt, one]
      rcases plain with rfl | rfl <;> rfl
  case closeWait => cases numbered
  all_goals
    simp only [List.append_nil] at alters ⊢
    exact alters.emits_plain nodup member (sndNxt.trans (BitVec.add_zero _)) plain

theorem Effect.emits {event : Event} (effect : Effect s event later) (reached : s.Reached)
    (possible : event.Possible s) (allowed : event.Orderly s) :
    ∃ emitted, s.Emits emitted later := by
  have nodup := reached.nodup
  have standing := reached.standing
  cases effect with
  | quiet quiet =>
      exact ⟨[], .nothing quiet.out fun test _ =>
        Stack.countSocks_stays quiet.allocated quiet.stays test⟩
  | @makes tsk _ makes =>
      refine ⟨[], .nothing makes.out fun test zero => ?_⟩
      have fresh : test (later.sock tsk).sndNxt = false := by
        rw [makes.sock]
        exact zero
      rw [Stack.countSocks, Stack.countSocks, makes.allocated, List.countP_cons, fresh]
      refine List.countP_congr fun other member => ?_
      rw [(makes.others other (ne_of_mem_of_not_mem member makes.absent)).sndNxt]
  | names named => exact ⟨_, named.alters.emits_plain nodup possible named.sndNxt (.inl rfl)⟩
  | listens listens =>
      exact ⟨_, listens.alters.emits_plain nodup possible listens.sndNxt (.inl rfl)⟩
  | connects connects =>
      obtain ⟨sk, _, _, alters⟩ := connects.alters
      have none := (standing.stands _ possible).sndNxt_eq_zero allowed.1 allowed.2.1
      have one := connects.sndNxt
      rw [none] at one
      refine ⟨_, alters.emits nodup possible ?_ ?_ ?_ ?_⟩
      · simp [TcpSock.controlSegment]
      · simp [TcpSock.controlSegment]
      · rw [one, none]
        rfl
      · rw [one, none]
        rfl
  | closes closed =>
      exact ⟨_, closed.emits (standing.stands _ possible) nodup possible (.inl rfl)⟩
  | @arrives _ _ _ _ tsk _ _ hashed segment =>
      obtain ⟨_, orderly⟩ := reached.inOrder
      have member := orderly.sound.shape.allocated_of_hashed hashed
      have stands := standing.stands tsk member
      cases segment with
      | ignored same =>
          rw [same]
          exact ⟨[], .nothing rfl fun _ _ => rfl⟩
      | answered _ _ _ same =>
          rw [same]
          refine ⟨[_], rfl, ?_, ?_, rfl, rfl⟩
          · simp [TcpCb.resetSegment]
          · simp [TcpCb.resetSegment]
      | establishes _ _ _ establishes =>
          exact ⟨_, establishes.alters.emits_plain nodup member establishes.sndNxt (.inr rfl)⟩
      | finished _ closed => exact ⟨_, closed.emits stands nodup member (.inl rfl)⟩
      | aborted _ closed => exact ⟨_, closed.emits stands nodup member (.inr rfl)⟩

end Emits

/-! ## Runs -/

/-- What a run has emitted. -/
structure Stack.Counted (s : Stack) : Prop where
  bare : ∀ sent ∈ s.out, sent.payload = []
  known : ∀ sent ∈ s.out, sent.flags ∈ [tcpSyn, tcpAck, tcpFin, tcpRst ||| tcpAck]
  syns : countFlags s.out tcpSyn = s.countSocks sentSyn
  fins : countFlags s.out tcpFin = s.countSocks sentFin

theorem Stack.Emits.counted {s later : Stack} {emitted : List Segment}
    (emits : s.Emits emitted later) (counted : s.Counted) : later.Counted := by
  constructor
  · rw [emits.out]
    intro sent member
    exact (List.mem_append.mp member).elim (counted.bare sent) (emits.bare sent)
  · rw [emits.out]
    intro sent member
    exact (List.mem_append.mp member).elim (counted.known sent) (emits.known sent)
  · rw [emits.out, countFlags_append, counted.syns, emits.syns]
  · rw [emits.out, countFlags_append, counted.fins, emits.fins]

theorem initTcpStack_counted : initTcpStack.Counted := ⟨nofun, nofun, rfl, rfl⟩

theorem Run.counted {s : Stack} (run : Run Event.Orderly initTcpStack s) : s.Counted := by
  induction run with
  | refl => exact initTcpStack_counted
  | tail before step ih =>
      have reached := Run.reached before initTcpStack_reached
      obtain ⟨event, possible, allowed, done⟩ := step
      obtain ⟨emitted, emits⟩ :=
        (reached.effect possible allowed done).emits reached possible allowed
      exact emits.counted ih

/-- **What is sent, exactly.** After any orderly run, whatever packets came, no segment that
was sent carries data, and all are bare SYNs, ACKs and FINs, or answers with RST and
ACK. The SYNs are as many as the socks that have sent one, and the FINs as many as
the socks that have sent one: no sock ever sends its SYN or its FIN again. -/
theorem segments_counted (s : Stack) (run : Run Event.Orderly initTcpStack s) : s.Counted :=
  run.counted

/-- A connection that the peer has finished: one SYN and one FIN. -/
theorem segments_counted_closing :
    countFlags closingStack.out tcpSyn = closingStack.countSocks sentSyn ∧
      countFlags closingStack.out tcpFin = closingStack.countSocks sentFin :=
  ⟨(segments_counted closingStack closingStack_inOrder).syns,
    (segments_counted closingStack closingStack_inOrder).fins⟩

end TcpStack
