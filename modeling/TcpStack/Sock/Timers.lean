import TcpStack.Sock.Process
import TcpStack.Sock.TableOps

/-!
# The timers

`tcp_timer.c`: the list of timers, setting and unsetting them, and the scan that
releases the socks in `TCP_TIME_WAIT`.

A time-wait timer is set with its whole timeout, and a scan takes a timer to be due
when its timeout is at least that. Nothing counts it down, and nothing takes a
timer off the list. So a sock is released by the first scan after its timer was
set and again by every later one, and the timers last as long as they should only
while no scan comes after a timer was set (`timewait_lasts_iff`).

The removal of a retransmission timer looks for the 4-tuple of its sock, taking
every timer for a time-wait timer. For a retransmission timer that gives a sock
32 bytes late, whose 4-tuple is read from the pointers of `hash_list`. The list
has the timers that are set as long as no timer is set twice and that search
happens to meet the right timer first (`timer_list_kept_iff`).
-/

set_option autoImplicit false

namespace TcpStack

open Lib

/-! ## Data -/

/-- In microseconds. -/
def tcpTimerScanInterval : ℤ := 100000
def tcpMsl : ℤ := 1000000
def tcpTimewaitTimeout : ℤ := 2 * tcpMsl

/-- The address of a list node of a timer: `timer_list` itself, or the member `list`
of one of the two timers of a sock. -/
inductive TimerNode where
  | timerList
  | timewait (tsk : SockPtr)
  | retransTimer (tsk : SockPtr)
  deriving DecidableEq, Repr

/-- A node may be dereferenced unless it is a field of the null sock. -/
def TimerNode.valid : TimerNode → Bool
  | .timerList => true
  | .timewait tsk | .retransTimer tsk => tsk != 0

/-- `struct tcp_timer`, without its list node. -/
structure TcpTimer where
  type : ℤ
  timeout : ℤ
  enable : ℤ
  deriving DecidableEq, Repr

/-- The stack with its timers, each under the address of its list node. -/
structure Timers where
  stack : Stack
  links : Heap TimerNode
  timer : TimerNode → TcpTimer

/-- More nodes than the list of timers can have: a sock has two. -/
def Timers.fuel (t : Timers) : ℕ := 2 * t.stack.allocated.length + 1

/-- The timers on the list, from the front. -/
def Timers.entries (t : Timers) : List TimerNode := t.links.listNodes .timerList t.fuel

/-- `tcp_timer_thread` before its loop. -/
def tcpTimerThreadStarted (t : Timers) : Timers :=
  { t with links := t.links.initListHead .timerList }

/-! ## Setting a timer -/

/-- What `tcp_set_timewait_timer` and `tcp_set_retrans_timer` do with their timer. -/
def tcpSetTimer (t : Timers) (type : ℤ) (node : TimerNode) : Except Fault Timers := do
  let links ← t.links.listAddTail TimerNode.valid node .timerList
  pure { t with
    links := links
    timer := Function.update t.timer node
      { type := type, timeout := tcpTimewaitTimeout, enable := 1 } }

def tcpSetTimewaitTimer (t : Timers) (tsk : SockPtr) : Except Fault Timers :=
  tcpSetTimer t 0 (.timewait tsk)

def tcpSetRetransTimer (t : Timers) (tsk : SockPtr) : Except Fault Timers :=
  tcpSetTimer t 1 (.retransTimer tsk)

/-! ## The scan -/

/-- `timewait_to_tcp_sock`, where the result is used as a sock. -/
def timewaitToTcpSock : TimerNode → Except Fault SockPtr
  | .timewait tsk => .ok tsk
  | _ => .error .badPointer

/-- The release of a sock whose timer is due. -/
def releaseTimewait (s : Stack) (tsk : SockPtr) : Stack :=
  freeTcpSock (tcpSetState s tsk .closed) tsk

/-- What the scan does at a timer. -/
def visitDue (timer : TimerNode → TcpTimer) (s : Stack) (node : TimerNode) :
    Except Fault Stack :=
  if tcpTimewaitTimeout ≤ (timer node).timeout then do
    let tsk ← timewaitToTcpSock node
    pure (releaseTimewait s tsk)
  else pure s

def tcpScanTimerList (t : Timers) : Except Fault Timers := do
  let stack ← t.links.listForEach TimerNode.valid .timerList t.fuel (visitDue t.timer) t.stack
  pure { t with stack := stack }

/-! ## Unsetting a timer -/

/-- The 4-tuple read from a sock that is taken to start at two pointers. -/
def tupleAt (next prev : ℕ) : U32 × U32 × U16 × U16 :=
  (BitVec.ofNat 32 next,
    BitVec.ofNat 32 (next / 281474976710656 % 65536 + prev % 65536 * 65536),
    BitVec.ofNat 16 (next / 4294967296),
    BitVec.ofNat 16 (prev / 65536))

/-- The 4-tuple read through `timewait_to_tcp_sock`, given where the list nodes of
the tables lie. A `retrans_timer` comes 32 bytes after the `timewait` of its sock,
as `hash_list` comes 32 bytes after the start of the sock. -/
def TimerNode.tupleSeen (address : Node → ℕ) (s : Stack) :
    TimerNode → Except Fault (U32 × U32 × U16 × U16)
  | .timerList => .error .badPointer
  | .timewait tsk => .ok (s.sock tsk).tuple
  | .retransTimer tsk =>
      .ok (tupleAt (address (s.links (.hashList tsk)).next)
        (address (s.links (.hashList tsk)).prev))

/-- What the search does at a timer. -/
def visitTuple (address : Node → ℕ) (s : Stack) (tsk : SockPtr) (node : TimerNode) :
    Except Fault (Option TimerNode) := do
  let seen ← node.tupleSeen address s
  pure (if seen = (s.sock tsk).tuple then some node else none)

def tcpUnsetRetransTimer (address : Node → ℕ) (t : Timers) (tsk : SockPtr) :
    Except Fault Timers := do
  match ← t.links.listFind TimerNode.valid .timerList t.fuel (visitTuple address t.stack tsk) with
  | some node =>
      let links ← t.links.listDeleteEntry TimerNode.valid node
      pure { t with
        links := links
        timer := Function.update t.timer (.retransTimer tsk)
          { t.timer (.retransTimer tsk) with enable := 0 } }
  | none => pure t

/-! ## The list in order -/

/-- The list has the given timers, which are those of socks that exist. -/
structure Timers.Lists (t : Timers) (members : List TimerNode) : Prop where
  denotes : Denotes TimerNode.valid t.links .timerList members
  owned : ∀ node ∈ members, ∃ tsk ∈ t.stack.allocated,
    node = .timewait tsk ∨ node = .retransTimer tsk

/-- The thread starts with an empty list. -/
theorem tcpTimerThreadStarted_lists (t : Timers) : (tcpTimerThreadStarted t).Lists [] where
  denotes := .initListHead rfl
  owned := fun _ inside => absurd inside List.not_mem_nil

/-- The timers after one was set. -/
def Timers.withSet (t : Timers) (type : ℤ) (node : TimerNode) : Timers :=
  { t with
    links := t.links.linked node (t.links .timerList).prev .timerList
    timer := Function.update t.timer node
      { type := type, timeout := tcpTimewaitTimeout, enable := 1 } }

namespace Timers.Lists

variable {t : Timers} {members : List TimerNode} (lists : t.Lists members)
include lists

theorem nodup : members.Nodup := (List.nodup_cons.mp lists.denotes.nodup).2

/-- The traversal bound is not reached. -/
theorem length_lt_fuel : members.length < t.fuel := by
  have subset : members ⊆
      t.stack.allocated.flatMap fun tsk => [.timewait tsk, .retransTimer tsk] := by
    intro node member
    obtain ⟨tsk, allocated, isTimer⟩ := lists.owned node member
    exact List.mem_flatMap.mpr ⟨tsk, allocated, by simpa using isTimer⟩
  have bound := (List.subperm_of_subset lists.nodup subset).length_le
  have two : ∀ socks : List SockPtr, (socks.flatMap fun tsk =>
      [TimerNode.timewait tsk, TimerNode.retransTimer tsk]).length = 2 * socks.length := by
    intro socks
    induction socks with
    | nil => rfl
    | cons tsk socks ih =>
        rw [List.flatMap_cons, List.length_append, ih, List.length_cons]
        simp only [List.length_cons, List.length_nil]
        omega
  rw [two] at bound
  exact Nat.lt_succ_of_le bound

theorem entries_eq : t.entries = members := lists.denotes.listNodes_eq lists.length_lt_fuel

/-- The list does not depend on the rest of the stack, as long as no sock goes away. -/
theorem elsewhere {stack : Stack} (kept : t.stack.allocated ⊆ stack.allocated) :
    ({ t with stack := stack } : Timers).Lists members where
  denotes := lists.denotes
  owned := by
    intro node member
    obtain ⟨tsk, allocated, isTimer⟩ := lists.owned node member
    exact ⟨tsk, kept allocated, isTimer⟩

/-- Setting a timer writes the same, whether the timer is on the list or not. -/
theorem tcpSetTimer_eq (type : ℤ) {node : TimerNode} (ok : node.valid) :
    tcpSetTimer t type node = .ok (t.withSet type node) := by
  rw [tcpSetTimer, lists.denotes.listAddTail_eq ok]
  rfl

/-- A timer that is not on the list is put at its end. -/
theorem withSet (type : ℤ) {node : TimerNode} {tsk : SockPtr} (ok : node.valid)
    (allocated : tsk ∈ t.stack.allocated)
    (isTimer : node = .timewait tsk ∨ node = .retransTimer tsk) (fresh : node ∉ members) :
    (t.withSet type node).Lists (members ++ [node]) where
  denotes := by
    have notHead : node ≠ .timerList := by
      rcases isTimer with rfl | rfl <;> exact fun same => by cases same
    exact (lists.denotes.addTail ok (List.not_mem_cons_of_ne_of_not_mem notHead fresh)).2
  owned := by
    intro other member
    rcases List.mem_append.mp member with inside | atEnd
    · exact lists.owned other inside
    · rw [List.mem_singleton.mp atEnd]
      exact ⟨tsk, allocated, isTimer⟩

end Timers.Lists

/-! ## What a scan releases -/

section Scan

/-- Releasing distinct socks closes each and drops one reference of each. -/
theorem releaseTimewait_foldl_sock (tsks : List SockPtr) (distinct : tsks.Nodup) (s : Stack)
    (other : SockPtr) : (tsks.foldl releaseTimewait s).sock other =
      if other ∈ tsks then
        { s.sock other with state := .closed, refCnt := (s.sock other).refCnt - 1 }
      else s.sock other := by
  induction tsks generalizing s with
  | nil => rfl
  | cons tsk tsks ih =>
      obtain ⟨apart, distinct⟩ := List.nodup_cons.mp distinct
      rw [List.foldl_cons, ih distinct, releaseTimewait, freeTcpSock_sock]
      by_cases same : other = tsk
      · subst same
        simp [apart, tcpSetState_sock]
      · simp [same, tcpSetState_sock]

/-- **A scan releases the socks of all timers with the whole timeout**, and leaves
the timers where they are. -/
theorem Timers.Lists.tcpScanTimerList_eq {t : Timers} {tsks : List SockPtr}
    (lists : t.Lists (tsks.map .timewait))
    (whole : ∀ tsk ∈ tsks, (t.timer (.timewait tsk)).timeout = tcpTimewaitTimeout) :
    tcpScanTimerList t = .ok { t with stack := tsks.foldl releaseTimewait t.stack } := by
  have visits : ∀ node ∈ tsks.map TimerNode.timewait, ∀ s, visitDue t.timer s node =
      .ok (match node with
        | .timewait tsk => releaseTimewait s tsk
        | _ => s) := by
    intro node member s
    obtain ⟨tsk, inside, rfl⟩ := List.mem_map.mp member
    rw [visitDue, if_pos (whole tsk inside).ge]
    rfl
  rw [tcpScanTimerList, lists.denotes.forEach lists.length_lt_fuel visits t.stack, List.foldl_map]
  rfl

end Scan

/-! ## How long a sock waits -/

/-- What happens to the timers: one is set, the list is scanned, or the rest of the
stack goes on. -/
inductive TimewaitEvent where
  | set (tsk : SockPtr)
  | scan
  | elsewhere (stack : Stack)

/-- A timer is set on a sock that exists, and not a second time; no sock goes away. -/
def Admits : List SockPtr → List TimewaitEvent → Prop
  | _, [] => True
  | allocated, .set tsk :: events =>
      tsk ≠ 0 ∧ tsk ∈ allocated ∧ .set tsk ∉ events ∧ Admits allocated events
  | allocated, .scan :: events => Admits allocated events
  | allocated, .elsewhere stack :: events =>
      allocated ⊆ stack.allocated ∧ Admits stack.allocated events

/-- The microseconds from a timer that was set after the first `before` scans to the
given scan. -/
def elapsed (before scan : ℕ) : ℤ := ((scan : ℤ) - before) * tcpTimerScanInterval

/-- The scan is the first by which the timeout has passed. -/
def Due (before scan : ℕ) : Prop :=
  tcpTimewaitTimeout ≤ elapsed before scan ∧
    ∀ earlier < scan, elapsed before earlier < tcpTimewaitTimeout

/-- A scan closes the socks that are due, passes each once to `free_tcp_sock`, which
drops one reference, and does nothing to the others; the timers left on the list
are those of the socks whose time has not passed. -/
structure Timers.ReleasesDue (t later : Timers) (set : List (SockPtr × ℕ)) (scan : ℕ) :
    Prop where
  released : ∀ tsk before, (tsk, before) ∈ set → Due before scan →
    later.stack.sock tsk =
      { t.stack.sock tsk with state := .closed, refCnt := (t.stack.sock tsk).refCnt - 1 }
  others : ∀ tsk, (∀ before, (tsk, before) ∈ set → ¬ Due before scan) →
    later.stack.sock tsk = t.stack.sock tsk
  remain : ∀ tsk before, (tsk, before) ∈ set →
    (.timewait tsk ∈ later.entries ↔ elapsed before scan < tcpTimewaitTimeout)

/-- Along a sequence of events every scan releases what is due. The timers set so far
come with the number of scans before them. -/
def KeepsTime : Timers → List (SockPtr × ℕ) → ℕ → List TimewaitEvent → Prop
  | _, _, _, [] => True
  | t, set, scans, .set tsk :: events => ∃ later, tcpSetTimewaitTimer t tsk = .ok later ∧
      KeepsTime later (set ++ [(tsk, scans)]) scans events
  | t, set, scans, .scan :: events => ∃ later, tcpScanTimerList t = .ok later ∧
      t.ReleasesDue later set (scans + 1) ∧ KeepsTime later set (scans + 1) events
  | t, set, scans, .elsewhere stack :: events =>
      KeepsTime { t with stack := stack } set scans events

/-- The time-wait timers of the given socks are on the list, each with its whole
timeout. -/
structure Timers.Pending (t : Timers) (tsks : List SockPtr) : Prop where
  lists : t.Lists (tsks.map .timewait)
  whole : ∀ tsk ∈ tsks, (t.timer (.timewait tsk)).timeout = tcpTimewaitTimeout

namespace Timers.Pending

variable {t : Timers} {tsks : List SockPtr} {events : List TimewaitEvent}

theorem set (pending : t.Pending tsks) {tsk : SockPtr} (notNull : tsk ≠ 0)
    (allocated : tsk ∈ t.stack.allocated) (fresh : tsk ∉ tsks) :
    ∃ later, tcpSetTimewaitTimer t tsk = .ok later ∧ later.Pending (tsks ++ [tsk]) ∧
      later.stack = t.stack := by
  have ok : (TimerNode.timewait tsk).valid := by simpa [TimerNode.valid] using notNull
  have absent : TimerNode.timewait tsk ∉ tsks.map .timewait := by simpa using fresh
  refine ⟨_, pending.lists.tcpSetTimer_eq 0 ok, ⟨?_, ?_⟩, rfl⟩
  · rw [List.map_append, List.map_singleton]
    exact pending.lists.withSet 0 ok allocated (.inl rfl) absent
  · intro other member
    by_cases same : other = tsk
    · simp [Timers.withSet, same]
    · have before := (List.mem_append.mp member).resolve_right (by simpa using same)
      simpa [Timers.withSet, same] using pending.whole other before

/-- The next scan releases a sock at once. -/
theorem not_releasesDue (pending : t.Pending tsks) (scans : ℕ) {tsk : SockPtr}
    (member : tsk ∈ tsks) {later : Timers} (scanned : tcpScanTimerList t = .ok later) :
    ¬ t.ReleasesDue later (tsks.map fun other => (other, scans)) (scans + 1) := by
  intro releases
  cases scanned.symm.trans (pending.lists.tcpScanTimerList_eq pending.whole)
  have early : ¬ Due scans (scans + 1) := by
    rintro ⟨passed, _⟩
    simp [elapsed, tcpTimewaitTimeout, tcpMsl, tcpTimerScanInterval] at passed
  have kept := releases.others tsk fun before inside due => by
    obtain ⟨_, _, same⟩ := List.mem_map.mp inside
    cases same
    exact early due
  have count : (t.stack.sock tsk).refCnt - 1 = (t.stack.sock tsk).refCnt := by
    have closed := releaseTimewait_foldl_sock tsks pending.lists.nodup.of_map t.stack tsk
    rw [if_pos member] at closed
    exact congrArg TcpSock.refCnt (closed.symm.trans kept)
  omega

/-- Once a timer is set, every scan is a scan too early. -/
theorem keepsTime_iff (pending : t.Pending tsks) (scans : ℕ) (some : tsks ≠ [])
    (admits : Admits t.stack.allocated events) (fresh : ∀ tsk ∈ tsks, .set tsk ∉ events) :
    KeepsTime t (tsks.map fun tsk => (tsk, scans)) scans events ↔ .scan ∉ events := by
  induction events generalizing t tsks with
  | nil => exact iff_of_true trivial List.not_mem_nil
  | cons event events ih =>
      have later : ∀ tsk ∈ tsks, .set tsk ∉ events := fun tsk member inside =>
        fresh tsk member (List.mem_cons_of_mem _ inside)
      cases event with
      | set tsk =>
          obtain ⟨notNull, allocated, once, admits⟩ := admits
          have apart : tsk ∉ tsks := fun member => fresh tsk member List.mem_cons_self
          obtain ⟨next, done, grown, same⟩ := pending.set notNull allocated apart
          have onward := ih grown (by simp) (by rwa [same]) (by
            intro other member
            rcases List.mem_append.mp member with before | atEnd
            · exact later other before
            · exact List.mem_singleton.mp atEnd ▸ once)
          rw [List.map_append, List.map_singleton] at onward
          simp only [KeepsTime, done, Except.ok.injEq, exists_eq_left', onward, List.mem_cons,
            reduceCtorEq, false_or]
      | scan =>
          obtain ⟨tsk, member⟩ := List.exists_mem_of_ne_nil tsks some
          refine iff_of_false ?_ fun absent => absent List.mem_cons_self
          rintro ⟨next, scanned, releases, _⟩
          exact pending.not_releasesDue scans member scanned releases
      | elsewhere stack =>
          have moved : ({ t with stack := stack } : Timers).Pending tsks :=
            ⟨pending.lists.elsewhere admits.1, pending.whole⟩
          have onward := ih (t := { t with stack := stack }) moved some admits.2 later
          simp only [KeepsTime, onward, List.mem_cons, reduceCtorEq, false_or]

end Timers.Pending

/-- No scan comes after a timer was set. -/
def ScansComeFirst (events : List TimewaitEvent) : Prop :=
  events.Pairwise fun first second => (∃ tsk, first = .set tsk) → second ≠ .scan

/-- A scan of an empty list changes nothing. -/
theorem Timers.Lists.tcpScanTimerList_nil {t : Timers} (empty : t.Lists []) :
    tcpScanTimerList t = .ok t := by
  have none : t.Lists (([] : List SockPtr).map .timewait) := empty
  exact none.tcpScanTimerList_eq fun _ inside => absurd inside List.not_mem_nil

/-- **How long the timers last.** From an empty list, whatever timers are set and however
often the list is scanned, every scan releases exactly the socks whose timeout has
passed since the scan before it, and leaves the timers of the others on the list, if
and only if no scan comes after a timer was set. -/
theorem timewait_lasts_iff (t : Timers) (empty : t.Lists []) (scans : ℕ)
    (events : List TimewaitEvent) (admits : Admits t.stack.allocated events) :
    KeepsTime t [] scans events ↔ ScansComeFirst events := by
  induction events generalizing t scans with
  | nil => exact iff_of_true trivial List.Pairwise.nil
  | cons event events ih =>
      rw [ScansComeFirst, List.pairwise_cons]
      cases event with
      | set tsk =>
          obtain ⟨notNull, allocated, once, admits⟩ := admits
          have none : t.Pending [] := ⟨empty, by simp⟩
          obtain ⟨next, done, pending, same⟩ := none.set notNull allocated List.not_mem_nil
          have onward : KeepsTime next ([] ++ [(tsk, scans)]) scans events ↔ .scan ∉ events :=
            pending.keepsTime_iff scans (List.cons_ne_nil _ _) (by rwa [same])
              (by simpa using once)
          have keeps : KeepsTime t [] scans (.set tsk :: events) ↔ .scan ∉ events := by
            simp only [KeepsTime, done, Except.ok.injEq, exists_eq_left', onward]
          rw [keeps]
          constructor
          · intro absent
            have notScan : ∀ second ∈ events, second ≠ .scan :=
              fun second inside same => absent (same ▸ inside)
            refine ⟨fun second inside _ => notScan second inside, ?_⟩
            exact List.pairwise_of_forall_mem_list fun _ _ second inside _ =>
              notScan second inside
          · rintro ⟨first, _⟩ inside
            exact first .scan inside ⟨tsk, rfl⟩ rfl
      | scan =>
          have releases : t.ReleasesDue t [] (scans + 1) :=
            ⟨by simp, fun _ _ => rfl, by simp⟩
          simp only [KeepsTime, empty.tcpScanTimerList_nil, Except.ok.injEq, exists_eq_left',
            releases, true_and, ih t empty (scans + 1) admits, reduceCtorEq, exists_false,
            false_implies, implies_true]
          rfl
      | elsewhere stack =>
          have onward := ih { t with stack := stack } (empty.elsewhere admits.1) scans admits.2
          simp only [KeepsTime, onward, reduceCtorEq, exists_false, false_implies, implies_true,
            true_and]
          rfl

/-- A sock in `TCP_TIME_WAIT` with one reference, and no timer set. -/
def waitingTimers : Timers :=
  tcpTimerThreadStarted
    { stack := (allocTcpSock initTcpStack 1).modify 1 fun sk =>
        { sk with state := .timeWait, refCnt := 1 }
      links := fun node => ⟨node, node⟩
      timer := fun _ => ⟨0, 0, 0⟩ }

theorem waitingTimers_lists : waitingTimers.Lists [] := tcpTimerThreadStarted_lists _

/-- A scan and then a timer. -/
theorem timewait_lasts_iff_unscanned : KeepsTime waitingTimers [] 0 [.scan, .set 1] := by
  have admits : Admits waitingTimers.stack.allocated [.scan, .set 1] :=
    ⟨Nat.one_ne_zero, List.mem_cons_self, List.not_mem_nil, trivial⟩
  exact (timewait_lasts_iff waitingTimers waitingTimers_lists 0 _ admits).mpr
    (by simp [ScansComeFirst])

/-- **A sock is released by the first scan** after its timer was set, and once more by
the second. -/
theorem timewait_released_twice :
    waitingTimers.Lists [] ∧
      (∃ first second third, tcpSetTimewaitTimer waitingTimers 1 = .ok first ∧
        tcpScanTimerList first = .ok second ∧ tcpScanTimerList second = .ok third ∧
        ¬ Due 0 1 ∧ (second.stack.sock 1).state = .closed ∧ second.stack.freed = [1] ∧
        second.entries = [.timewait 1] ∧ third.stack.freed = [1, 1]) ∧
      ¬ KeepsTime waitingTimers [] 0 [.set 1, .scan] := by
  have none : waitingTimers.Pending [] := ⟨waitingTimers_lists, by simp⟩
  obtain ⟨first, done, pending, same⟩ :=
    none.set Nat.one_ne_zero List.mem_cons_self List.not_mem_nil
  have early : ¬ Due 0 1 := by
    rintro ⟨passed, _⟩
    simp [elapsed, tcpTimewaitTimeout, tcpMsl, tcpTimerScanInterval] at passed
  refine ⟨waitingTimers_lists, ⟨_, _, _, rfl, rfl, rfl, early, rfl, rfl, rfl, rfl⟩, ?_⟩
  rintro ⟨_, _, later, scanned, releases, _⟩
  cases done.symm.trans ‹_›
  exact pending.not_releasesDue 0 List.mem_cons_self scanned releases

/-! ## The timers that are set -/

/-- The search for the timer of a sock takes a node for it. -/
def TimerNode.LooksLike (address : Node → ℕ) (s : Stack) (tsk : SockPtr) (node : TimerNode) :
    Prop :=
  node.tupleSeen address s = .ok (s.sock tsk).tuple

instance (address : Node → ℕ) (s : Stack) (tsk : SockPtr) (node : TimerNode) :
    Decidable (node.LooksLike address s tsk) :=
  inferInstanceAs (Decidable (_ = _))

/-- The timers after one was taken off the list for a sock. -/
def Timers.withUnset (t : Timers) (tsk : SockPtr) (node : TimerNode) : Timers :=
  { t with
    links := t.links.unlinked node
    timer := Function.update t.timer (.retransTimer tsk)
      { t.timer (.retransTimer tsk) with enable := 0 } }

/-- The timers after the retransmission timer of a sock was unset: the first that
looks like it is taken off. -/
def Timers.afterUnset (address : Node → ℕ) (t : Timers) (tsk : SockPtr) : Timers :=
  match t.entries.find? fun node => node.LooksLike address t.stack tsk with
  | some node => t.withUnset tsk node
  | none => t

namespace Timers.Lists

variable {t : Timers} {members : List TimerNode} (lists : t.Lists members)
include lists

theorem withUnset (tsk : SockPtr) {node : TimerNode} (member : node ∈ members) :
    (t.withUnset tsk node).Lists (members.erase node) where
  denotes := (lists.denotes.deleteEntry member).2
  owned := fun other inside => lists.owned other (List.mem_of_mem_erase inside)

theorem tcpUnsetRetransTimer_eq (address : Node → ℕ) (tsk : SockPtr) :
    tcpUnsetRetransTimer address t tsk = .ok (t.afterUnset address tsk) := by
  have visits : ∀ node ∈ members, visitTuple address t.stack tsk node =
      .ok (if node.LooksLike address t.stack tsk then some node else none) := by
    intro node member
    obtain ⟨other, _, rfl | rfl⟩ := lists.owned node member
    · simp [visitTuple, TimerNode.LooksLike, TimerNode.tupleSeen, bind, Except.bind, pure,
        Except.pure]
    · simp [visitTuple, TimerNode.LooksLike, TimerNode.tupleSeen, bind, Except.bind, pure,
        Except.pure]
  have search := lists.denotes.find lists.length_lt_fuel visits
  have guarded : members.findSome? (fun node =>
      if node.LooksLike address t.stack tsk then some node else none) =
        members.find? fun node => node.LooksLike address t.stack tsk := by
    rw [List.find?_eq_findSome?_guard]
    refine congrArg (List.findSome? · members) (funext fun node => ?_)
    simp [Option.guard]
  rw [guarded] at search
  rw [tcpUnsetRetransTimer, search, Timers.afterUnset, lists.entries_eq]
  cases found : members.find? fun node => node.LooksLike address t.stack tsk with
  | none => rfl
  | some node =>
      have deleted := (lists.denotes.deleteEntry (List.mem_of_find?_eq_some found)).1
      simp only [bind, Except.bind, deleted]
      rfl

end Timers.Lists

/-- The list has exactly the timers that are set. -/
structure Timers.InStep (t : Timers) (members : List TimerNode) : Prop where
  lists : t.Lists members
  enabled : ∀ node, node ≠ .timerList → (node ∈ members ↔ (t.timer node).enable ≠ 0)

/-- The retransmission timer of a sock is set, and is the first on the list that looks
like it, or it is not set, and none looks like it. -/
def Timers.FindsOwn (address : Node → ℕ) (t : Timers) (tsk : SockPtr) : Prop :=
  (t.timer (.retransTimer tsk)).enable = 0 ∧
      (∀ node ∈ t.entries, ¬ node.LooksLike address t.stack tsk) ∨
    (t.timer (.retransTimer tsk)).enable ≠ 0 ∧
      (TimerNode.retransTimer tsk).LooksLike address t.stack tsk ∧
      ∃ before after, t.entries = before ++ .retransTimer tsk :: after ∧
        ∀ node ∈ before, ¬ node.LooksLike address t.stack tsk

namespace Timers.InStep

variable {t : Timers} {members : List TimerNode} (inStep : t.InStep members)
include inStep

theorem ne_timerList {node : TimerNode} (member : node ∈ members) : node ≠ .timerList :=
  fun same => inStep.lists.denotes.not_mem (same ▸ member)

/-- The list does not depend on the rest of the stack. -/
theorem elsewhere {stack : Stack} (kept : t.stack.allocated ⊆ stack.allocated) :
    ({ t with stack := stack } : Timers).InStep members :=
  ⟨inStep.lists.elsewhere kept, inStep.enabled⟩

/-- Setting a timer keeps the list in step exactly if it was not set. -/
theorem set_iff (type : ℤ) {node : TimerNode} {tsk : SockPtr} (ok : node.valid)
    (allocated : tsk ∈ t.stack.allocated)
    (isTimer : node = .timewait tsk ∨ node = .retransTimer tsk) :
    (∃ moved, (t.withSet type node).InStep moved) ↔ (t.timer node).enable = 0 := by
  have others : ∀ other, other ≠ node → (t.withSet type node).timer other = t.timer other :=
    fun other different => Function.update_of_ne different _ _
  have self : ((t.withSet type node).timer node).enable = 1 := by simp [Timers.withSet]
  have notHead : node ≠ .timerList := by
    rcases isTimer with rfl | rfl <;> exact fun same => by cases same
  constructor
  · rintro ⟨moved, later⟩
    by_contra isSet
    have member := (inStep.enabled node notHead).mpr isSet
    refine inStep.lists.denotes.not_denotes_linked member ?_ later.lists.denotes
    intro other inside different
    have apart := inStep.ne_timerList inside
    rw [later.enabled other apart, others other different]
    exact (inStep.enabled other apart).mp inside
  · intro unset
    have fresh : node ∉ members := fun member =>
      (inStep.enabled node notHead).mp member unset
    refine ⟨members ++ [node], inStep.lists.withSet type ok allocated isTimer fresh, ?_⟩
    intro other apart
    rw [List.mem_append, List.mem_singleton]
    by_cases same : other = node
    · rw [same, self]
      simp
    · rw [others other same, or_iff_left same]
      exact inStep.enabled other apart

/-- When nothing looks like a timer, it is not found, and the list is right if it was
not set. -/
theorem unset_iff_of_none {address : Node → ℕ} {tsk : SockPtr}
    (unlike : ∀ node ∈ members, ¬ node.LooksLike address t.stack tsk) :
    t.InStep (members.erase (.retransTimer tsk)) ↔ t.FindsOwn address tsk := by
  have enabled := inStep.enabled (.retransTimer tsk) (fun same => by cases same)
  have absent : TimerNode.retransTimer tsk ∉ members.erase (.retransTimer tsk) :=
    inStep.lists.nodup.not_mem_erase
  rw [Timers.FindsOwn, inStep.lists.entries_eq]
  constructor
  · intro later
    have still := later.enabled (.retransTimer tsk) (fun same => by cases same)
    exact .inl ⟨not_not.mp fun isSet => absent (still.mpr isSet), unlike⟩
  · rintro (⟨unset, _⟩ | ⟨isSet, looks, _⟩)
    · rw [List.erase_of_not_mem fun member => enabled.mp member unset]
      exact inStep
    · exact absurd looks (unlike _ (enabled.mpr isSet))

/-- When a timer is found, the list is right if it is the one looked for. -/
theorem unset_iff_of_found {address : Node → ℕ} {tsk : SockPtr} {node : TimerNode}
    (found : members.find? (fun node => node.LooksLike address t.stack tsk) = some node) :
    (t.withUnset tsk node).InStep (members.erase (.retransTimer tsk)) ↔
      t.FindsOwn address tsk := by
  have absent : TimerNode.retransTimer tsk ∉ members.erase (.retransTimer tsk) :=
    inStep.lists.nodup.not_mem_erase
  have member := List.mem_of_find?_eq_some found
  have after := inStep.lists.withUnset tsk member
  rw [Timers.FindsOwn, inStep.lists.entries_eq]
  constructor
  · intro later
    have same : node = .retransTimer tsk := by
      by_contra different
      have stays := (List.mem_erase_of_ne different).mpr member
      rw [← later.lists.entries_eq, after.entries_eq] at stays
      exact inStep.lists.nodup.not_mem_erase stays
    subst same
    have isSet := (inStep.enabled _ (inStep.ne_timerList member)).mp member
    obtain ⟨looks, before, behind, split, first⟩ := List.find?_eq_some_iff_append.mp found
    refine .inr ⟨isSet, of_decide_eq_true looks, before, behind, split, ?_⟩
    intro other inside
    simpa using first other inside
  · rintro (⟨_, unlike⟩ | ⟨_, looks, before, behind, split, first⟩)
    · have looks := List.find?_some found
      exact absurd (of_decide_eq_true looks) (unlike node member)
    · have met : members.find? (fun node => node.LooksLike address t.stack tsk) =
          some (.retransTimer tsk) :=
        List.find?_eq_some_iff_append.mpr
          ⟨decide_eq_true looks, before, behind, split, by simpa using first⟩
      cases found.symm.trans met
      refine ⟨after, fun other apart => ?_⟩
      by_cases same : other = .retransTimer tsk
      · subst same
        simp [absent, Timers.withUnset]
      · have kept : (t.withUnset tsk (.retransTimer tsk)).timer other = t.timer other :=
          Function.update_of_ne same _ _
        rw [List.mem_erase_of_ne same, inStep.enabled other apart, kept]

/-- Unsetting a timer takes it off the list exactly if the search meets it first. -/
theorem unset_iff (address : Node → ℕ) (tsk : SockPtr) :
    (t.afterUnset address tsk).InStep (members.erase (.retransTimer tsk)) ↔
      t.FindsOwn address tsk := by
  rw [Timers.afterUnset, inStep.lists.entries_eq]
  cases found : members.find? fun node => node.LooksLike address t.stack tsk with
  | none => exact inStep.unset_iff_of_none (by simpa using found)
  | some node => exact inStep.unset_iff_of_found found

end Timers.InStep

/-! ## Every sequence of calls -/

/-- A call of the three functions, or the rest of the stack going on. -/
inductive TimerCall where
  | setTimewait (tsk : SockPtr)
  | setRetrans (tsk : SockPtr)
  | unsetRetrans (tsk : SockPtr)
  | elsewhere (stack : Stack)

namespace TimerCall

def run (address : Node → ℕ) (t : Timers) : TimerCall → Except Fault Timers
  | .setTimewait tsk => tcpSetTimewaitTimer t tsk
  | .setRetrans tsk => tcpSetRetransTimer t tsk
  | .unsetRetrans tsk => tcpUnsetRetransTimer address t tsk
  | .elsewhere stack => .ok { t with stack := stack }

/-- The call is about a sock that exists; no sock goes away. -/
def Admitted (s : Stack) : TimerCall → Prop
  | .setTimewait tsk | .setRetrans tsk | .unsetRetrans tsk => tsk ≠ 0 ∧ tsk ∈ s.allocated
  | .elsewhere stack => s.allocated ⊆ stack.allocated

/-- The stack after a call. -/
def stackAfter (s : Stack) : TimerCall → Stack
  | .elsewhere stack => stack
  | _ => s

/-- A call that sets a timer finds it not set, and one that unsets a timer finds it
first, if it is set, or nothing that looks like it. -/
def Apt (address : Node → ℕ) (t : Timers) : TimerCall → Prop
  | .setTimewait tsk => (t.timer (.timewait tsk)).enable = 0
  | .setRetrans tsk => (t.timer (.retransTimer tsk)).enable = 0
  | .unsetRetrans tsk => t.FindsOwn address tsk
  | .elsewhere _ => True

/-- What unsetting a timer leaves on the list: everything else, in order. -/
def Leaves (members moved : List TimerNode) : TimerCall → Prop
  | .unsetRetrans tsk => moved = members.erase (.retransTimer tsk)
  | _ => True

end TimerCall

/-- All calls are about socks that exist. -/
def AdmitsCalls : Stack → List TimerCall → Prop
  | _, [] => True
  | s, call :: calls => call.Admitted s ∧ AdmitsCalls (call.stackAfter s) calls

/-- Every call finds the timers as it should, in the state it is made in. -/
def AllApt (address : Node → ℕ) : Timers → List TimerCall → Prop
  | _, [] => True
  | t, call :: calls => call.Apt address t ∧
      ∀ later, call.run address t = .ok later → AllApt address later calls

/-- Along a sequence of calls the list has exactly the timers that are set, and
unsetting a timer takes that timer off and nothing else. -/
def KeepsTimerList (address : Node → ℕ) : Timers → List TimerNode → List TimerCall → Prop
  | t, members, [] => t.InStep members
  | t, members, call :: calls => t.InStep members ∧
      ∃ later moved, call.run address t = .ok later ∧ call.Leaves members moved ∧
        KeepsTimerList address later moved calls

section Calls

variable {t : Timers} {members : List TimerNode}

theorem KeepsTimerList.inStep {address : Node → ℕ} {calls : List TimerCall}
    (keeps : KeepsTimerList address t members calls) : t.InStep members := by
  cases calls with
  | nil => exact keeps
  | cons call calls => exact keeps.1

/-- **One call** returns, and leaves the list as it should exactly if it is apt. -/
theorem Timers.InStep.call_iff (inStep : t.InStep members) (address : Node → ℕ)
    {call : TimerCall} (admitted : call.Admitted t.stack) :
    ∃ later, call.run address t = .ok later ∧ later.stack = call.stackAfter t.stack ∧
      ((∃ moved, call.Leaves members moved ∧ later.InStep moved) ↔ call.Apt address t) := by
  have ok : ∀ tsk : SockPtr, tsk ≠ 0 →
      (TimerNode.timewait tsk).valid ∧ (TimerNode.retransTimer tsk).valid := by
    intro tsk notNull
    simpa [TimerNode.valid] using notNull
  cases call with
  | setTimewait tsk =>
      obtain ⟨notNull, allocated⟩ := admitted
      refine ⟨_, inStep.lists.tcpSetTimer_eq 0 (ok tsk notNull).1, rfl, ?_⟩
      simpa [TimerCall.Leaves, TimerCall.Apt] using
        inStep.set_iff 0 (ok tsk notNull).1 allocated (.inl rfl)
  | setRetrans tsk =>
      obtain ⟨notNull, allocated⟩ := admitted
      refine ⟨_, inStep.lists.tcpSetTimer_eq 1 (ok tsk notNull).2, rfl, ?_⟩
      simpa [TimerCall.Leaves, TimerCall.Apt] using
        inStep.set_iff 1 (ok tsk notNull).2 allocated (.inr rfl)
  | unsetRetrans tsk =>
      refine ⟨_, inStep.lists.tcpUnsetRetransTimer_eq address tsk, ?_, ?_⟩
      · simp only [Timers.afterUnset]
        split <;> rfl
      · simpa [TimerCall.Leaves, TimerCall.Apt] using inStep.unset_iff address tsk
  | elsewhere stack =>
      exact ⟨_, rfl, rfl, iff_of_true ⟨members, trivial, inStep.elsewhere admitted⟩ trivial⟩

end Calls

/-- **When the list of timers is right.** Along every sequence of calls on any socks, the
list is well formed and has exactly the timers that are set, and unsetting a timer
takes it off and leaves the others in order, if and only if every timer that is set
was not set before, and every timer that is unset is the first that looks like it, or
nothing looks like it. -/
theorem timer_list_kept_iff (address : Node → ℕ) (t : Timers) (members : List TimerNode)
    (inStep : t.InStep members) (calls : List TimerCall) (admits : AdmitsCalls t.stack calls) :
    KeepsTimerList address t members calls ↔ AllApt address t calls := by
  induction calls generalizing t members with
  | nil => exact iff_of_true inStep trivial
  | cons call calls ih =>
      obtain ⟨later, ran, stack, step⟩ := inStep.call_iff address admits.1
      have onward : AdmitsCalls later.stack calls := stack ▸ admits.2
      constructor
      · rintro ⟨_, last, moved, done, leaves, keeps⟩
        cases ran.symm.trans done
        refine ⟨step.mp ⟨moved, leaves, keeps.inStep⟩, fun other again => ?_⟩
        cases ran.symm.trans again
        exact (ih later moved keeps.inStep onward).mp keeps
      · rintro ⟨apt, rest⟩
        obtain ⟨moved, leaves, kept⟩ := step.mpr apt
        exact ⟨inStep, later, moved, ran, leaves, (ih later moved kept onward).mpr (rest later ran)⟩

/-- Addresses as a program might have them. -/
def sampleAddress : Node → ℕ
  | .null => 0
  | .establishedTable bucket => 0x404000 + 16 * bucket.toNat
  | .listenTable bucket => 0x405000 + 16 * bucket.toNat
  | .bindTable bucket => 0x406000 + 16 * bucket.toNat
  | .hashList tsk => tsk + 32
  | .bindHashList tsk => tsk + 48
  | .listenQueue tsk => tsk + 64
  | .acceptQueue tsk => tsk + 80
  | .list tsk => tsk + 104

theorem waitingTimers_inStep : waitingTimers.InStep [] where
  lists := waitingTimers_lists
  enabled := by simp [waitingTimers, tcpTimerThreadStarted]

/-- The retransmission timer of a sock that is not hashed, set and unset. -/
theorem timer_list_kept_iff_unhashed :
    KeepsTimerList sampleAddress waitingTimers [] [.setRetrans 1, .unsetRetrans 1] := by
  have isSock : (1 : SockPtr) ≠ 0 ∧ 1 ∈ waitingTimers.stack.allocated :=
    ⟨Nat.one_ne_zero, List.mem_cons_self⟩
  have admits : AdmitsCalls waitingTimers.stack [.setRetrans 1, .unsetRetrans 1] :=
    ⟨isSock, isSock, trivial⟩
  refine (timer_list_kept_iff sampleAddress waitingTimers [] waitingTimers_inStep _ admits).mpr
    ⟨rfl, fun later ran => ?_⟩
  cases ran
  refine ⟨.inr ⟨one_ne_zero, rfl, [], [], rfl, ?_⟩, fun _ _ => trivial⟩
  exact fun _ inside => absurd inside List.not_mem_nil

/-- **Unsetting a timer that is not set takes the time-wait timer off the list**, which
stays set. -/
theorem timewait_timer_removed :
    waitingTimers.InStep [] ∧
      (∃ first second, tcpSetTimewaitTimer waitingTimers 1 = .ok first ∧
        tcpUnsetRetransTimer sampleAddress first 1 = .ok second ∧
        first.entries = [.timewait 1] ∧ (first.timer (.retransTimer 1)).enable = 0 ∧
        second.entries = [] ∧ (second.timer (.timewait 1)).enable = 1) ∧
      ¬ KeepsTimerList sampleAddress waitingTimers [] [.setTimewait 1, .unsetRetrans 1] := by
  refine ⟨waitingTimers_inStep, ⟨_, _, rfl, rfl, rfl, rfl, rfl, rfl⟩, ?_⟩
  rintro ⟨_, first, members, setting, _, inStep, second, moved, unsetting, _, later⟩
  cases setting
  cases unsetting
  have gone : moved = [] := by
    rw [← later.lists.entries_eq]
    rfl
  have isSet := (later.enabled (.timewait 1) (fun same => by cases same)).mpr (by decide)
  rw [gone] at isSet
  exact absurd isSet List.not_mem_nil

end TcpStack
