import TcpStack.Sock.SequenceSpace
import TcpStack.Lib.Trace

/-!
# Reading from a sock

`tcp_sock_read` takes bytes out of the receive buffer and widens the receive
window by as many. It keeps the window equal to the free space of the buffer
(`window_is_free`), but it returns the window, not the number of bytes. So a
caller learns how many bytes it got only if the window was closed before the read
(`read_reports_iff`).

The caller that matters is the loop of `tcp_server`, which uses the result both
as the number of bytes to write to its file and as the sign to stop. Its buffer
is the start of a memory: what lies behind the buffer is whatever is there. The
other threads may change the sock between two reads in any way.
-/

set_option autoImplicit false

namespace TcpStack

open Lib

/-! ## One read -/

/-- `tcp_sock_read`: the result, the bytes copied to the caller, and the sock
afterwards. -/
def tcpSockRead (tsk : TcpSock) (size : ℤ) : ℤ × List U8 × TcpSock :=
  let (len, copied, rcvBuf) := readRingBuffer tsk.rcvBuf size
  let tsk := { tsk with rcvBuf := rcvBuf, rcvWnd := tsk.rcvWnd + BitVec.ofInt 16 len }
  (tsk.rcvWnd.toNat, copied, tsk)

/-- The number of bytes that a read of the given size finds. -/
def TcpSock.available (tsk : TcpSock) (size : ℤ) : ℤ := min (ringBufferUsed tsk.rcvBuf) size

/-- The result is the number of bytes copied, at most the size asked for, and
zero only if nothing was copied. -/
structure TcpSock.ReportsCopied (tsk : TcpSock) (size : ℤ) : Prop where
  length : (tcpSockRead tsk size).1 = (tcpSockRead tsk size).2.1.length
  bounded : (tcpSockRead tsk size).1 ≤ size
  zero : (tcpSockRead tsk size).1 = 0 ↔ (tcpSockRead tsk size).2.1 = []

section Read

variable {tsk : TcpSock} {size : ℤ} (wellFormed : tsk.rcvBuf.WellFormed) (nonneg : 0 ≤ size)
include wellFormed nonneg

theorem TcpSock.available_nonneg : 0 ≤ tsk.available size :=
  le_min wellFormed.used_nonneg nonneg

/-- What is copied is what is available. -/
theorem tcpSockRead_length : ((tcpSockRead tsk size).2.1.length : ℤ) = tsk.available size := by
  have stored := wellFormed.length_stored
  have available := TcpSock.available_nonneg wellFormed nonneg
  obtain ⟨_, copied, _⟩ := readRingBuffer_stored wellFormed nonneg
  show ((readRingBuffer tsk.rcvBuf size).2.1.length : ℤ) = _
  rw [copied, List.length_take]
  rw [TcpSock.available] at available ⊢
  omega

/-- The result is the receive window after the read, which is kept in 16
bits. -/
theorem tcpSockRead_result :
    (tcpSockRead tsk size).1 = (tsk.rcvWnd.toNat + tsk.available size) % 65536 := by
  obtain ⟨returned, _, _⟩ := readRingBuffer_stored wellFormed nonneg
  have available := TcpSock.available_nonneg wellFormed nonneg
  show ((tsk.rcvWnd + BitVec.ofInt 16 (readRingBuffer tsk.rcvBuf size).1).toNat : ℤ) = _
  rw [returned, ← TcpSock.available]
  obtain ⟨len, same⟩ := Int.eq_ofNat_of_zero_le available
  rw [same, BitVec.ofInt_natCast, BitVec.toNat_add, BitVec.toNat_ofNat]
  omega

/-- A read tells what it copied exactly when the receive window was closed. -/
theorem TcpSock.reportsCopied_iff :
    tsk.ReportsCopied size ↔ tsk.rcvWnd = 0 ∧ tsk.available size < 65536 := by
  have length := tcpSockRead_length wellFormed nonneg
  have result := tcpSockRead_result wellFormed nonneg
  have available := TcpSock.available_nonneg wellFormed nonneg
  have range := tsk.rcvWnd.isLt
  have closed : tsk.rcvWnd = 0 ↔ tsk.rcvWnd.toNat = 0 := by
    constructor <;> intro same <;> bv_omega
  rw [closed]
  constructor
  · intro reports
    have same := reports.length
    omega
  · rintro ⟨none, small⟩
    have atMost : tsk.available size ≤ size := min_le_right _ _
    have empty : (tcpSockRead tsk size).2.1 = [] ↔ (tcpSockRead tsk size).2.1.length = 0 :=
      List.length_eq_zero_iff.symm
    exact ⟨by omega, by omega, by rw [empty]; omega⟩

end Read

/-! ## The loop of the server -/

/-- `BUF_SIZE` of `tcp_apps.c`. -/
def bufSize : ℕ := 1000

/-- The sock that `tcp_server` reads from, the memory that starts at its buffer,
what it has written to its file, and whether it has left the loop. -/
structure Server where
  csk : TcpSock
  rbuf : Memory U8
  file : List U8
  finished : Bool

/-- The body of the loop, once the read has returned. -/
def Server.handle (now : Server) (rlen : ℤ) (copied : List U8) (csk : TcpSock) : Server :=
  let rbuf := now.rbuf.blit 0 copied
  if rlen = 0 then
    { now with csk := csk, rbuf := rbuf, finished := true }
  else if 0 < rlen then
    { now with csk := csk, rbuf := rbuf, file := now.file ++ rbuf.slice 0 rlen.toNat }
  else
    { now with csk := csk, rbuf := rbuf }

/-- One turn of the loop. -/
def Server.turn (now : Server) : Server :=
  let (rlen, copied, csk) := tcpSockRead now.csk bufSize
  now.handle rlen copied csk

/-- Who takes a step: the server, or another thread. -/
inductive ServerLabel where
  | turn
  | other
  deriving DecidableEq, Repr

/-- The server takes a turn until it leaves the loop; another thread may leave
anything behind in the sock. -/
inductive ServerStep : Server → ServerLabel → Server → Prop where
  | turn {now : Server} : now.finished = false → ServerStep now .turn now.turn
  | other {now : Server} (csk : TcpSock) : ServerStep now .other { now with csk := csk }

/-- The bytes a step takes out of the receive buffer. -/
def taken (visit : Visit Server ServerLabel) : List U8 :=
  match visit.label with
  | .turn => (tcpSockRead visit.before.csk bufSize).2.1
  | .other => []

/-- The file got the bytes taken out of the receive buffer, at most `BUF_SIZE` in
a turn, and the loop ended with the first turn that took none. -/
structure ServesExactly (start : Server) (visits : List (Visit Server ServerLabel))
    (last : Server) : Prop where
  file : last.file = start.file ++ visits.flatMap taken
  bounded : ∀ visit ∈ visits, visit.after.file.length ≤ visit.before.file.length + bufSize
  stops : ∀ visit ∈ visits, visit.label = .turn → (visit.after.finished = true ↔ taken visit = [])

/-- The read of a step finds a buffer that is well formed and a closed window. -/
def FindsClosed (visit : Visit Server ServerLabel) : Prop :=
  visit.label = .turn →
    visit.before.csk.rcvBuf.WellFormed ∧ visit.before.csk.rcvWnd = 0

theorem Server.handle_of_pos (now : Server) {rlen : ℤ} (copied : List U8) (csk : TcpSock)
    (positive : 0 < rlen) : now.handle rlen copied csk =
      { now with
        csk := csk
        rbuf := now.rbuf.blit 0 copied
        file := now.file ++ (now.rbuf.blit 0 copied).slice 0 rlen.toNat } := by
  rw [handle, if_neg positive.ne', if_pos positive]

/-- A read that tells what it copied is handled as it should be. -/
theorem Server.handle_exact (now : Server) {rlen : ℤ} {copied : List U8} (csk : TcpSock)
    (length : rlen = copied.length) :
    (now.handle rlen copied csk).file = now.file ++ copied ∧
      ((now.handle rlen copied csk).finished = true ↔ now.finished = true ∨ copied = []) := by
  cases copied with
  | nil =>
      have none : rlen = 0 := length
      rw [handle, if_pos none]
      exact ⟨(List.append_nil _).symm, iff_of_true rfl (.inr rfl)⟩
  | cons byte copied =>
      have positive : 0 < rlen := by
        rw [length, List.length_cons]
        omega
      rw [now.handle_of_pos _ _ positive]
      refine ⟨?_, by simp⟩
      rw [length, Int.toNat_natCast, Memory.slice_blit]

/-- A turn on a closed window writes what it took. -/
theorem Server.turn_closed {now : Server} (wellFormed : now.csk.rcvBuf.WellFormed)
    (closed : now.csk.rcvWnd = 0) (running : now.finished = false) :
    now.turn.file = now.file ++ (tcpSockRead now.csk bufSize).2.1 ∧
      (tcpSockRead now.csk bufSize).2.1.length ≤ bufSize ∧
      (now.turn.finished = true ↔ (tcpSockRead now.csk bufSize).2.1 = []) := by
  have size : (0 : ℤ) ≤ bufSize := by decide
  have small : now.csk.available bufSize < 65536 :=
    lt_of_le_of_lt (min_le_right _ _) (by decide)
  obtain ⟨length, bounded, _⟩ :=
    (TcpSock.reportsCopied_iff wellFormed size).mpr ⟨closed, small⟩
  obtain ⟨file, finished⟩ := now.handle_exact (tcpSockRead now.csk bufSize).2.2 length
  rw [running, or_iff_right Bool.false_ne_true] at finished
  exact ⟨file, by omega, finished⟩

/-- A step on a closed window writes what it took. -/
theorem ServerStep.exact {now later : Server} {label : ServerLabel}
    (step : ServerStep now label later) (closed : FindsClosed ⟨now, label, later⟩) :
    later.file = now.file ++ taken ⟨now, label, later⟩ ∧
      (taken ⟨now, label, later⟩).length ≤ bufSize ∧
      (label = .turn → (later.finished = true ↔ taken ⟨now, label, later⟩ = [])) := by
  cases step with
  | turn running =>
      obtain ⟨wellFormed, none⟩ := closed rfl
      obtain ⟨file, bounded, stops⟩ := Server.turn_closed wellFormed none running
      exact ⟨file, bounded, fun _ => stops⟩
  | other csk => exact ⟨(List.append_nil _).symm, Nat.zero_le _, fun isTurn => by cases isTurn⟩

/-- The run serves exactly as long as its reads find a closed window. -/
theorem servesExactly_of_closed {start last : Server} {visits : List (Visit Server ServerLabel)}
    (run : Trace ServerStep start visits last) (closed : ∀ visit ∈ visits, FindsClosed visit) :
    ServesExactly start visits last := by
  induction run with
  | start => exact ⟨by simp, by simp, by simp⟩
  | step _ step ih =>
      rw [List.forall_mem_append, List.forall_mem_singleton] at closed
      obtain ⟨file, bounded, stops⟩ := ih closed.1
      obtain ⟨writes, small, ends⟩ := step.exact closed.2
      refine ⟨?_, ?_, ?_⟩
      · rw [writes, file, List.flatMap_append, List.append_assoc, List.flatMap_singleton]
      · rw [List.forall_mem_append, List.forall_mem_singleton]
        refine ⟨bounded, ?_⟩
        rw [writes, List.length_append]
        exact Nat.add_le_add_left small _
      · rw [List.forall_mem_append, List.forall_mem_singleton]
        exact ⟨stops, ends⟩

/-- **When a read tells what it copied.** A read of any size from any well-formed buffer
returns the number of bytes it copied if and only if the receive window was zero
before it and fewer than 65536 bytes were copied; and in every run of the server, with
anything happening to the sock between the reads, in which every read finds the
window zero, the file gets exactly the bytes taken. -/
theorem read_reports_iff (tsk : TcpSock) (size : ℤ) (wellFormed : tsk.rcvBuf.WellFormed)
    (nonneg : 0 ≤ size) (start last : Server) (visits : List (Visit Server ServerLabel))
    (run : Trace ServerStep start visits last) :
    (tsk.ReportsCopied size ↔ tsk.rcvWnd = 0 ∧ min (ringBufferUsed tsk.rcvBuf) size < 65536) ∧
      ((∀ visit ∈ visits, FindsClosed visit) → ServesExactly start visits last) :=
  ⟨TcpSock.reportsCopied_iff wellFormed nonneg, servesExactly_of_closed run⟩

/-- Three bytes received, and a receive window of zero. -/
def closedSock : TcpSock :=
  { zeroedSock with rcvWnd := 0, rcvBuf := { zeroedSock.rcvBuf with tail := 3 } }

theorem zeroedSock_rcvBuf_size : zeroedSock.rcvBuf.size = 65536 := by decide

theorem zeroedSock_rcvBuf_wellFormed : zeroedSock.rcvBuf.WellFormed :=
  allocRingBuffer_wellFormed (by decide) (by decide)

theorem closedSock_wellFormed : closedSock.rcvBuf.WellFormed := by
  constructor <;> decide

/-- A server about to read from a sock with a closed window. -/
def closedServer : Server := ⟨closedSock, fun _ => 0xaa, [], false⟩

/-- The first read of the server. -/
theorem read_reports_iff_closed :
    closedSock.ReportsCopied 1000 ∧
      ServesExactly closedServer [⟨closedServer, .turn, closedServer.turn⟩] closedServer.turn := by
  have run : Trace ServerStep closedServer [⟨closedServer, .turn, closedServer.turn⟩]
      closedServer.turn := .step .start (.turn rfl)
  obtain ⟨reads, runs⟩ :=
    read_reports_iff closedSock 1000 closedSock_wellFormed (by decide) _ _ _ run
  refine ⟨reads.mpr ⟨rfl, ?_⟩, runs ?_⟩
  · exact lt_of_le_of_lt (min_le_right _ _) (by decide)
  · rw [List.forall_mem_singleton]
    exact fun _ => ⟨closedSock_wellFormed, rfl⟩

/-- **The first read from a fresh sock copies nothing and returns 65535**, and the server
writes 65535 bytes from behind its buffer and goes on. -/
theorem read_returns_window :
    (tcpSockRead zeroedSock 1000).2.1 = [] ∧ (tcpSockRead zeroedSock 1000).1 = 65535 ∧
      (Server.turn ⟨zeroedSock, fun _ => 0xaa, [], false⟩).file.length = 65535 ∧
      (Server.turn ⟨zeroedSock, fun _ => 0xaa, [], false⟩).finished = false := by
  have none : ringBufferUsed zeroedSock.rcvBuf = 0 := by decide
  have available : zeroedSock.available 1000 = 0 := by
    rw [TcpSock.available, none]
    rfl
  have result : (tcpSockRead zeroedSock 1000).1 = 65535 := by
    rw [tcpSockRead_result zeroedSock_rcvBuf_wellFormed (by decide), available]
    rfl
  have copied : (tcpSockRead zeroedSock 1000).2.1 = [] := by
    have length := tcpSockRead_length zeroedSock_rcvBuf_wellFormed (show (0 : ℤ) ≤ 1000 by decide)
    rw [available, Nat.cast_eq_zero, List.length_eq_zero_iff] at length
    exact length
  have turn : ∀ now : Server, now.csk = zeroedSock →
      now.turn = now.handle 65535 [] (tcpSockRead zeroedSock 1000).2.2 := by
    intro now fresh
    rw [← result, ← copied, ← fresh]
    rfl
  rw [turn _ rfl, Server.handle_of_pos _ _ _ (by decide), List.length_append, Memory.length_slice]
  exact ⟨copied, result, rfl, rfl⟩

/-! ## The receive window -/

/-- The receive window is the free space of a receive buffer of the default
capacity. -/
structure TcpSock.WindowIsFree (tsk : TcpSock) : Prop where
  wellFormed : tsk.rcvBuf.WellFormed
  capacity : tsk.rcvBuf.size = tcpDefaultWindow.toNat + 1
  window : (tsk.rcvWnd.toNat : ℤ) = ringBufferFree tsk.rcvBuf

/-- The sock after reads of the given sizes. -/
def readAll (tsk : TcpSock) (sizes : List ℤ) : TcpSock :=
  sizes.foldl (fun tsk size => (tcpSockRead tsk size).2.2) tsk

theorem zeroedSock_windowIsFree : zeroedSock.WindowIsFree where
  wellFormed := zeroedSock_rcvBuf_wellFormed
  capacity := zeroedSock_rcvBuf_size
  window := by decide

namespace TcpSock.WindowIsFree

variable {tsk : TcpSock} {size : ℤ}

/-- What a read adds to the window fits in its 16 bits. -/
theorem no_wrap (free : tsk.WindowIsFree) (nonneg : 0 ≤ size) :
    tsk.rcvWnd.toNat + (readRingBuffer tsk.rcvBuf size).1 < 65536 := by
  have room := free.wellFormed.free_eq
  have window := free.window
  have capacity : tsk.rcvBuf.size = 65536 := free.capacity
  have atMost := min_le_left (ringBufferUsed tsk.rcvBuf) size
  rw [(readRingBuffer_stored free.wellFormed nonneg).1]
  omega

/-- **A read keeps the window equal to the free space.** -/
theorem read (free : tsk.WindowIsFree) (nonneg : 0 ≤ size) :
    (tcpSockRead tsk size).2.2.WindowIsFree := by
  obtain ⟨keeps, sameSize⟩ := readRingBuffer_wellFormed free.wellFormed size
  have returned := (readRingBuffer_stored free.wellFormed nonneg).1
  have used := readRingBuffer_used free.wellFormed nonneg
  have before := free.wellFormed.free_eq
  have after := keeps.free_eq
  have window := free.window
  have result := tcpSockRead_result free.wellFormed nonneg
  have fits := free.no_wrap nonneg
  have available := TcpSock.available_nonneg free.wellFormed nonneg
  rw [returned] at fits
  rw [TcpSock.available] at result available
  refine ⟨keeps, sameSize.trans free.capacity, ?_⟩
  show (tcpSockRead tsk size).1 = ringBufferFree (readRingBuffer tsk.rcvBuf size).2.2
  omega

theorem readAll (free : tsk.WindowIsFree) {sizes : List ℤ} (nonneg : ∀ size ∈ sizes, 0 ≤ size) :
    (TcpStack.readAll tsk sizes).WindowIsFree := by
  induction sizes generalizing tsk with
  | nil => exact free
  | cons size sizes ih =>
      rw [List.forall_mem_cons] at nonneg
      exact ih (free.read nonneg.1) nonneg.2

end TcpSock.WindowIsFree

/-- **The window a sock advertises is the free space of its buffer.** It is when the sock is
allocated, and after any sequence of reads; no read makes the 16 bits of the
window wrap around, and no segment sent afterwards promises more room than there
is. -/
theorem window_is_free (s : Stack) (ptr : SockPtr) (tsk : TcpSock) (free : tsk.WindowIsFree)
    (sizes : List ℤ) (nonneg : ∀ size ∈ sizes, 0 ≤ size) :
    ((allocTcpSock s ptr).sock ptr).WindowIsFree ∧
      (readAll tsk sizes).WindowIsFree ∧
      (∀ size, 0 ≤ size → (readAll tsk sizes).rcvWnd.toNat +
        (readRingBuffer (readAll tsk sizes).rcvBuf size).1 < 65536) ∧
      ∀ call : SendCall, ((call.segment (readAll tsk sizes)).rwnd.toNat : ℤ) ≤
        ringBufferFree (readAll tsk sizes).rcvBuf := by
  have after := free.readAll nonneg
  refine ⟨?_, after, fun size => after.no_wrap, fun call => ?_⟩
  · rw [show (allocTcpSock s ptr).sock ptr = zeroedSock from Function.update_self _ _ _]
    exact zeroedSock_windowIsFree
  · cases call with
    | packet buffer len => exact after.window.le
    | control flags buffer => exact after.window.le

/-- A sock with four bytes in its buffer, the last two of them at the beginning of the array. -/
def storedSock : TcpSock :=
  { zeroedSock with
    rcvWnd := 65531
    rcvBuf := ⟨65536, 65534, 2, (Memory.blit (fun _ => 0) 65534 [1, 2]).blit 0 [3, 4]⟩ }

theorem storedSock_windowIsFree : storedSock.WindowIsFree where
  wellFormed := by constructor <;> decide
  capacity := rfl
  window := by decide

/-- Two reads, the first one of three of the bytes. -/
theorem window_is_free_stored : (readAll storedSock [3, 1000]).WindowIsFree ∧
    (tcpSockRead storedSock 3).2.1 = [1, 2, 3] ∧ (readAll storedSock [3]).rcvWnd = 65534 ∧
      (readAll storedSock [3, 1000]).rcvWnd = 65535 := by
  have free := (window_is_free initTcpStack 1 storedSock storedSock_windowIsFree [3, 1000]
    (by decide)).2.1
  exact ⟨free, by decide, by decide, by decide⟩

end TcpStack
