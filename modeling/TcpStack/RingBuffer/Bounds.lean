import TcpStack.RingBuffer
import TcpStack.Lib.Logged

/-!
# The bounds of the ring buffer

The functions of `ring_buffer.h` once more, now with everything in them that C
leaves undefined when it goes wrong: the value of every `int` expression, the
divisor of every remainder and the places and the length of every `memcpy`. They
work on the array and on the memory of the caller, and they compute what the
functions without a log compute (`readRingBufferSteps_runsTo`,
`writeRingBufferSteps_runsTo`).

From every state of a buffer with a capacity below `2^30`, whatever sizes it was
read with, all of it stays in bounds (`ring_accesses_in_bounds`): a block ends at
the end of the array or before it, and the block behind the wrap is what is left
of the length.
-/

set_option autoImplicit false

namespace TcpStack

open Lib

/-! ## Steps -/

/-- What a call does that has to stay in bounds. A `memcpy` is given by the
index in the array, the index in the memory of the caller and its length. -/
inductive RingEvent where
  | expression (value : ℤ)
  | remainder (divisor : ℤ)
  | malloc (total : ℤ)
  | memcpy (place offset length : ℤ)

/-- The buffer, and the memory of the caller at the pointer `buf`. -/
structure RingMemory where
  rbuf : RingBuffer
  buf : Memory U8

/-- A call with its events; it stops when an assertion fails. -/
abbrev RingCall := Logged RingEvent RingMemory Unit

/-- The value of an `int` expression. -/
def intExpression (value : ℤ) : RingCall ℤ := do
  Logged.event (.expression value)
  pure (int32 value)

def intRemainder (value divisor : ℤ) : RingCall ℤ := do
  Logged.event (.remainder divisor)
  pure (Int.tmod value divisor)

/-- `memcpy` from the array to the caller. -/
def copyOut (place offset length : ℤ) : RingCall Unit := do
  Logged.event (.memcpy place offset length)
  let s ← Logged.get
  Logged.set { s with
    buf := s.buf.blit offset.toNat (s.rbuf.buf.slice place.toNat length.toNat) }

/-- `memcpy` from the caller to the array. -/
def copyIn (place offset length : ℤ) : RingCall Unit := do
  Logged.event (.memcpy place offset length)
  let s ← Logged.get
  Logged.set { s with rbuf := { s.rbuf with
    buf := s.rbuf.buf.blit place.toNat (s.buf.slice offset.toNat length.toNat) } }

/-- `sizeof(struct ring_buffer)`: three `int` fields. -/
def sizeofRingBuffer : ℤ := 12

/-- `alloc_ring_buffer`. -/
def allocRingBufferSteps (size : ℤ) : RingCall Unit := do
  let totSize ← intExpression (sizeofRingBuffer + size + 1)
  Logged.event (.malloc totSize)
  let size ← intExpression (size + 1)
  let s ← Logged.get
  Logged.set { s with rbuf := { size := size, head := 0, tail := 0, buf := fun _ => 0 } }

/-- `ring_buffer_used`. -/
def ringBufferUsedSteps : RingCall ℤ := do
  let s ← Logged.get
  let distance ← intExpression (s.rbuf.tail - s.rbuf.head)
  let sum ← intExpression (distance + s.rbuf.size)
  intRemainder sum s.rbuf.size

/-- `ring_buffer_free`. -/
def ringBufferFreeSteps : RingCall ℤ := do
  let s ← Logged.get
  let used ← ringBufferUsedSteps
  let rest ← intExpression (s.rbuf.size - used)
  intExpression (rest - 1)

/-- The copying of `read_ring_buffer`. -/
def readCopySteps (len : ℤ) : RingCall Unit := do
  let s ← Logged.get
  let stop ← intExpression (s.rbuf.head + len)
  if s.rbuf.size < stop then do
    let right ← intExpression (s.rbuf.size - s.rbuf.head)
    let left ← intExpression (len - right)
    copyOut s.rbuf.head 0 right
    copyOut 0 right left
  else
    copyOut s.rbuf.head 0 len

/-- The length of `read_ring_buffer`: the macro `min` evaluates its first argument
a second time when that is the smaller one. -/
def readLengthSteps (size : ℤ) : RingCall ℤ := do
  let used ← ringBufferUsedSteps
  if used < size then ringBufferUsedSteps else pure size

/-- `read_ring_buffer`. -/
def readRingBufferSteps (size : ℤ) : RingCall ℤ := do
  let len ← readLengthSteps size
  if 0 < len then do
    readCopySteps len
    let s ← Logged.get
    let sum ← intExpression (s.rbuf.head + len)
    let head ← intRemainder sum s.rbuf.size
    Logged.set { s with rbuf := { s.rbuf with head := head } }
    pure len
  else
    pure len

/-- The assertion of `write_ring_buffer`. -/
def writeAssertSteps (size : ℤ) : RingCall Bool := do
  if 0 < size then do
    let free ← ringBufferFreeSteps
    pure (decide (size ≤ free))
  else
    pure false

/-- The copying of `write_ring_buffer`. -/
def writeCopySteps (len : ℤ) : RingCall Unit := do
  let s ← Logged.get
  let stop ← intExpression (s.rbuf.tail + len)
  if s.rbuf.size < stop then do
    let right ← intExpression (s.rbuf.size - s.rbuf.tail)
    let left ← intExpression (len - right)
    copyIn s.rbuf.tail 0 right
    copyIn 0 right left
  else
    copyIn s.rbuf.tail 0 len

/-- `write_ring_buffer`. -/
def writeRingBufferSteps (size : ℤ) : RingCall Unit := do
  let passed ← writeAssertSteps size
  if passed = true then do
    let len := size
    if 0 < len then do
      writeCopySteps len
      let s ← Logged.get
      let sum ← intExpression (s.rbuf.tail + len)
      let tail ← intRemainder sum s.rbuf.size
      Logged.set { s with rbuf := { s.rbuf with tail := tail } }
    else
      pure ()
  else
    Logged.lift (.error ())

/-! ## Bounds -/

/-- The event stays in bounds, for an array of `size` bytes and a caller's
buffer of `room` bytes: every value is an `int`, no divisor is zero, the memory
allocated holds the array, and every `memcpy` has a length and stays in both. -/
def RingEvent.InBounds (size room : ℤ) : RingEvent → Prop
  | .expression value => -2147483648 ≤ value ∧ value ≤ 2147483647
  | .remainder divisor => divisor ≠ 0
  | .malloc total => total = sizeofRingBuffer + size
  | .memcpy place offset length =>
      0 ≤ length ∧ 0 ≤ place ∧ place + length ≤ size ∧ 0 ≤ offset ∧ offset + length ≤ room

section Steps

variable {allowed : RingEvent → Prop} {s : RingMemory}

theorem intExpression_runsTo {value : ℤ} (fine : allowed (.expression value)) :
    Logged.RunsTo (intExpression value) allowed s (int32 value) s :=
  (Logged.RunsTo.event fine).bind (.pure _)

theorem intRemainder_runsTo {value divisor : ℤ} (fine : allowed (.remainder divisor)) :
    Logged.RunsTo (intRemainder value divisor) allowed s (Int.tmod value divisor) s :=
  (Logged.RunsTo.event fine).bind (.pure _)

theorem copyOut_runsTo {place offset length : ℤ} (fine : allowed (.memcpy place offset length)) :
    Logged.RunsTo (copyOut place offset length) allowed s ()
      { s with buf := s.buf.blit offset.toNat (s.rbuf.buf.slice place.toNat length.toNat) } :=
  (Logged.RunsTo.event fine).bind (Logged.RunsTo.get.bind (.set _))

theorem copyIn_runsTo {place offset length : ℤ} (fine : allowed (.memcpy place offset length)) :
    Logged.RunsTo (copyIn place offset length) allowed s ()
      { s with rbuf := { s.rbuf with
        buf := s.rbuf.buf.blit place.toNat (s.buf.slice offset.toNat length.toNat) } } :=
  (Logged.RunsTo.event fine).bind (Logged.RunsTo.get.bind (.set _))

end Steps

/-- Allocating a capacity below `2^30`. -/
theorem allocRingBufferSteps_runsTo {capacity : ℤ} (nonneg : 0 ≤ capacity)
    (small : capacity < 1073741824) (room : ℤ) (s : RingMemory) :
    Logged.RunsTo (allocRingBufferSteps capacity) (RingEvent.InBounds (capacity + 1) room) s ()
      { s with rbuf := allocRingBuffer capacity } := by
  have header : sizeofRingBuffer = 12 := rfl
  have total : int32 (sizeofRingBuffer + capacity + 1) = sizeofRingBuffer + capacity + 1 :=
    int32_eq_self (by omega) (by omega)
  refine (intExpression_runsTo ⟨by omega, by omega⟩).bind (.bind (.event ?_) ?_)
  · rw [total]
    exact Int.add_assoc _ _ _
  · exact (intExpression_runsTo ⟨by omega, by omega⟩).bind (Logged.RunsTo.get.bind (.set _))

section Calls

variable {s : RingMemory} (wellFormed : s.rbuf.WellFormed) (room : ℤ)
include wellFormed

theorem ringBufferUsedSteps_runsTo :
    Logged.RunsTo ringBufferUsedSteps (RingEvent.InBounds s.rbuf.size room) s
      (ringBufferUsed s.rbuf) s := by
  obtain ⟨positive, bound, _, _, _, _⟩ := wellFormed
  have distance : int32 (s.rbuf.tail - s.rbuf.head) = s.rbuf.tail - s.rbuf.head :=
    int32_eq_self (by omega) (by omega)
  refine Logged.RunsTo.get.bind ((intExpression_runsTo ⟨by omega, by omega⟩).bind ?_)
  refine (intExpression_runsTo ?_).bind (intRemainder_runsTo (Int.ne_of_gt positive))
  rw [distance]
  exact ⟨by omega, by omega⟩

theorem ringBufferFreeSteps_runsTo :
    Logged.RunsTo ringBufferFreeSteps (RingEvent.InBounds s.rbuf.size room) s
      (ringBufferFree s.rbuf) s := by
  have used := ringBufferUsedSteps_runsTo wellFormed room
  have lower := wellFormed.used_nonneg
  have upper := wellFormed.used_lt
  obtain ⟨_, bound, _, _, _, _⟩ := wellFormed
  have rest : int32 (s.rbuf.size - ringBufferUsed s.rbuf) =
      s.rbuf.size - ringBufferUsed s.rbuf := int32_eq_self (by omega) (by omega)
  refine Logged.RunsTo.get.bind (used.bind ((intExpression_runsTo ⟨by omega, by omega⟩).bind ?_))
  refine intExpression_runsTo ?_
  rw [rest]
  exact ⟨by omega, by omega⟩

/-- The expressions that a copy of two blocks needs, from an index of the
array on. -/
theorem wrap_in_bounds {start len : ℤ} (nonneg : 0 ≤ start) (inside : start < s.rbuf.size)
    (positive : 0 < len) (below : len < s.rbuf.size) :
    int32 (start + len) = start + len ∧ int32 (s.rbuf.size - start) = s.rbuf.size - start ∧
      int32 (len - (s.rbuf.size - start)) = len - (s.rbuf.size - start) := by
  have bound := wellFormed.size_le
  refine ⟨?_, ?_, ?_⟩
  · exact int32_eq_self (by omega) (by omega)
  · exact int32_eq_self (by omega) (by omega)
  · exact int32_eq_self (by omega) (by omega)

/-- Copying out a window of the array that the caller has room for. -/
theorem readCopySteps_runsTo {len : ℤ} (positive : 0 < len) (below : len < s.rbuf.size)
    (fits : len ≤ room) :
    Logged.RunsTo (readCopySteps len) (RingEvent.InBounds s.rbuf.size room) s ()
      { s with
        buf := s.buf.blit 0
          (s.rbuf.buf.window s.rbuf.size.toNat s.rbuf.head.toNat len.toNat) } := by
  rw [← readCopy_eq_window wellFormed positive below]
  obtain ⟨stop, right, left⟩ :=
    wrap_in_bounds wellFormed wellFormed.head_nonneg wellFormed.head_lt positive below
  have bound := wellFormed.size_le
  have lower := wellFormed.head_nonneg
  have upper := wellFormed.head_lt
  refine Logged.RunsTo.get.bind ((intExpression_runsTo ⟨by omega, by omega⟩).bind ?_)
  rw [stop, right, left]
  by_cases wraps : s.rbuf.size < s.rbuf.head + len
  · have behind : (s.rbuf.size - s.rbuf.head).toNat =
        0 + (s.rbuf.buf.slice s.rbuf.head.toNat (s.rbuf.size - s.rbuf.head).toNat).length := by
      rw [Memory.length_slice, Nat.zero_add]
    rw [if_pos wraps, if_pos wraps, ← Memory.blit_blit_append s.buf _ _ behind]
    refine (intExpression_runsTo ⟨by omega, by omega⟩).bind ?_
    rw [right]
    refine (intExpression_runsTo ⟨by omega, by omega⟩).bind ?_
    rw [left]
    have front : RingEvent.InBounds s.rbuf.size room
        (.memcpy s.rbuf.head 0 (s.rbuf.size - s.rbuf.head)) :=
      ⟨by omega, by omega, by omega, by omega, by omega⟩
    have rest : RingEvent.InBounds s.rbuf.size room
        (.memcpy 0 (s.rbuf.size - s.rbuf.head) (len - (s.rbuf.size - s.rbuf.head))) :=
      ⟨by omega, by omega, by omega, by omega, by omega⟩
    exact (copyOut_runsTo front).bind (copyOut_runsTo rest)
  · rw [if_neg wraps, if_neg wraps]
    exact copyOut_runsTo ⟨by omega, by omega, by omega, by omega, by omega⟩

theorem readLengthSteps_runsTo (size : ℤ) :
    Logged.RunsTo (readLengthSteps size) (RingEvent.InBounds s.rbuf.size room) s
      (min (ringBufferUsed s.rbuf) size) s := by
  have used := ringBufferUsedSteps_runsTo wellFormed room
  refine used.bind ?_
  by_cases fewer : ringBufferUsed s.rbuf < size
  · rw [if_pos fewer, min_eq_left (Int.le_of_lt fewer)]
    exact used
  · rw [if_neg fewer, min_eq_right (Int.not_lt.mp fewer)]
    exact .pure _

/-- **A read stays in bounds**, and its result is that of `readRingBuffer`. -/
theorem readRingBufferSteps_runsTo (size : ℤ) :
    Logged.RunsTo (readRingBufferSteps size) (RingEvent.InBounds s.rbuf.size size) s
      (readRingBuffer s.rbuf size).1
      { rbuf := (readRingBuffer s.rbuf size).2.2
        buf := s.buf.blit 0 (readRingBuffer s.rbuf size).2.1 } := by
  refine (readLengthSteps_runsTo wellFormed size size).bind ?_
  have below := wellFormed.used_lt
  by_cases positive : 0 < min (ringBufferUsed s.rbuf) size
  · have fits : min (ringBufferUsed s.rbuf) size ≤ size := min_le_right _ _
    have short : min (ringBufferUsed s.rbuf) size < s.rbuf.size := by omega
    have copied := readCopySteps_runsTo wellFormed size positive short fits
    rw [if_pos positive, readRingBuffer_of_pos wellFormed positive]
    obtain ⟨sizePositive, bound, lower, upper, _, _⟩ := wellFormed
    have past : RingEvent.InBounds s.rbuf.size size
        (.expression (s.rbuf.head + min (ringBufferUsed s.rbuf) size)) := ⟨by omega, by omega⟩
    refine copied.bind (Logged.RunsTo.get.bind ((intExpression_runsTo past).bind ?_))
    refine (intRemainder_runsTo (Int.ne_of_gt sizePositive)).bind ?_
    exact (Logged.RunsTo.set _).bind (.pure _)
  · rw [if_neg positive]
    simp only [readRingBuffer, if_neg positive, Memory.blit_nil]
    exact .pure _

theorem writeAssertSteps_runsTo (size : ℤ) :
    Logged.RunsTo (writeAssertSteps size) (RingEvent.InBounds s.rbuf.size room) s
      (decide (0 < size ∧ size ≤ ringBufferFree s.rbuf)) s := by
  by_cases positive : 0 < size
  · rw [writeAssertSteps, if_pos positive, decide_eq_decide.mpr (and_iff_right positive)]
    exact (ringBufferFreeSteps_runsTo wellFormed room).bind (.pure _)
  · rw [writeAssertSteps, if_neg positive, decide_eq_false fun passed => positive passed.1]
    exact .pure _

/-- Copying a block of the caller into a window of the array. -/
theorem writeCopySteps_runsTo {len : ℤ} (positive : 0 < len) (below : len < s.rbuf.size)
    (fits : len ≤ room) :
    Logged.RunsTo (writeCopySteps len) (RingEvent.InBounds s.rbuf.size room) s ()
      { s with rbuf := { s.rbuf with
        buf := s.rbuf.buf.wrapBlit s.rbuf.size.toNat s.rbuf.tail.toNat
          (s.buf.slice 0 len.toNat) } } := by
  obtain ⟨stop, right, left⟩ :=
    wrap_in_bounds wellFormed wellFormed.tail_nonneg wellFormed.tail_lt positive below
  have bound := wellFormed.size_le
  have lower := wellFormed.tail_nonneg
  have upper := wellFormed.tail_lt
  have length := Memory.length_slice s.buf 0 len.toNat
  refine Logged.RunsTo.get.bind ((intExpression_runsTo ⟨by omega, by omega⟩).bind ?_)
  rw [stop]
  by_cases wraps : s.rbuf.size < s.rbuf.tail + len
  · have gap : s.rbuf.size.toNat - s.rbuf.tail.toNat = (s.rbuf.size - s.rbuf.tail).toNat := by
      omega
    have parts : len.toNat =
        (s.rbuf.size - s.rbuf.tail).toNat + (len - (s.rbuf.size - s.rbuf.tail)).toNat := by omega
    have frontLength :=
      Memory.length_slice s.buf 0 (s.rbuf.size - s.rbuf.tail).toNat
    rw [if_pos wraps, Memory.wrapBlit_of_lt _ (by omega), gap, parts, Memory.slice_add,
      List.take_left' frontLength, List.drop_left' frontLength, Nat.zero_add]
    refine (intExpression_runsTo ⟨by omega, by omega⟩).bind ?_
    rw [right]
    refine (intExpression_runsTo ⟨by omega, by omega⟩).bind ?_
    rw [left]
    have front : RingEvent.InBounds s.rbuf.size room
        (.memcpy s.rbuf.tail 0 (s.rbuf.size - s.rbuf.tail)) :=
      ⟨by omega, by omega, by omega, by omega, by omega⟩
    have rest : RingEvent.InBounds s.rbuf.size room
        (.memcpy 0 (s.rbuf.size - s.rbuf.tail) (len - (s.rbuf.size - s.rbuf.tail))) :=
      ⟨by omega, by omega, by omega, by omega, by omega⟩
    exact (copyIn_runsTo front).bind (copyIn_runsTo rest)
  · rw [if_neg wraps, Memory.wrapBlit_of_le _ (by omega)]
    exact copyIn_runsTo ⟨by omega, by omega, by omega, by omega, by omega⟩

/-- **A write that passes the assertion stays in bounds**, and its result is that
of `writeRingBuffer`. -/
theorem writeRingBufferSteps_runsTo {size : ℤ} (positive : 0 < size)
    (fits : size ≤ ringBufferFree s.rbuf) :
    ∃ after, writeRingBuffer s.rbuf (s.buf.slice 0 size.toNat) = some after ∧
      Logged.RunsTo (writeRingBufferSteps size) (RingEvent.InBounds s.rbuf.size size) s ()
        { s with rbuf := after } := by
  have free := wellFormed.free_eq
  have nonneg := wellFormed.used_nonneg
  have length : ((s.buf.slice 0 size.toNat).length : ℤ) = size := by
    rw [Memory.length_slice]
    omega
  have below : size < s.rbuf.size := by omega
  have copied := writeCopySteps_runsTo wellFormed size positive below (Int.le_refl size)
  have written := writeRingBuffer_of_fits wellFormed
    (show 0 < (s.buf.slice 0 size.toNat).length by omega) (by omega)
  rw [length] at written
  refine ⟨_, written, ?_⟩
  refine (writeAssertSteps_runsTo wellFormed size size).bind ?_
  rw [if_pos (decide_eq_true ⟨positive, fits⟩), if_pos positive]
  obtain ⟨sizePositive, bound, _, _, lower, upper⟩ := wellFormed
  have past : RingEvent.InBounds s.rbuf.size size (.expression (s.rbuf.tail + size)) :=
    ⟨by omega, by omega⟩
  refine copied.bind (Logged.RunsTo.get.bind ((intExpression_runsTo past).bind ?_))
  exact (intRemainder_runsTo (Int.ne_of_gt sizePositive)).bind (.set _)

end Calls

/-! ## What a call changes -/

/-- A byte that `ring_buffer_free` counts: one of those from the write index
on. -/
def RingBuffer.FreeByte (rbuf : RingBuffer) (index : ℕ) : Prop :=
  ∃ offset : ℕ, (offset : ℤ) < ringBufferFree rbuf ∧
    index = (rbuf.tail.toNat + offset) % rbuf.size.toNat

section Changes

variable {rbuf : RingBuffer} (wellFormed : rbuf.WellFormed)
include wellFormed

/-- A free byte is not one of the stored ones. -/
theorem RingBuffer.FreeByte.not_stored {index : ℕ} (free : rbuf.FreeByte index) {place : ℕ}
    (stored : (place : ℤ) < ringBufferUsed rbuf) :
    index ≠ (rbuf.head.toNat + place) % rbuf.size.toNat := by
  obtain ⟨offset, counted, rfl⟩ := free
  have room := wellFormed.free_eq
  have lower := wellFormed.used_nonneg
  rw [wellFormed.tail_eq, Nat.mod_add_mod]
  intro same
  -- the two places are less than one turn apart
  have order :
      rbuf.head.toNat + place ≤ rbuf.head.toNat + (ringBufferUsed rbuf).toNat + offset := by
    omega
  have turns := (Nat.modEq_iff_dvd' order).mp same.symm
  have short := Nat.le_of_dvd (by omega) turns
  omega

omit wellFormed in
/-- A read changes the read index and nothing else. -/
theorem readRingBuffer_changes (size : ℤ) :
    (readRingBuffer rbuf size).2.2 =
      { rbuf with head := (readRingBuffer rbuf size).2.2.head } := by
  by_cases positive : 0 < min (ringBufferUsed rbuf) size
  · simp only [readRingBuffer, if_pos positive]
  · simp only [readRingBuffer, if_neg positive]

/-- A write changes the write index and free bytes. -/
theorem writeRingBuffer_changes {data : List U8} {after : RingBuffer}
    (written : writeRingBuffer rbuf data = some after) :
    after = { rbuf with tail := after.tail, buf := after.buf } ∧
      ∀ index, after.buf index ≠ rbuf.buf index → rbuf.FreeByte index := by
  obtain ⟨positive, fits⟩ := fits_of_writeRingBuffer written
  have free := wellFormed.free_eq
  have nonneg := wellFormed.used_nonneg
  have inside := wellFormed.tail_lt
  rw [writeRingBuffer_of_fits wellFormed positive fits, Option.some.injEq] at written
  subst written
  refine ⟨rfl, fun index changed => ?_⟩
  by_contra untouched
  refine changed (Memory.wrapBlit_of_not_mem _ (by omega) (by omega) fun offset within same => ?_)
  exact untouched ⟨offset, by omega, same⟩

end Changes

/-! ## Every state of a buffer -/

/-- The states a buffer of the given capacity can be in: writes pass the
assertion, and reads are made with any size. -/
inductive RingReached (capacity : ℤ) : RingBuffer → Prop where
  | alloc : RingReached capacity (allocRingBuffer capacity)
  | write {rbuf after : RingBuffer} {data : List U8} :
      RingReached capacity rbuf → writeRingBuffer rbuf data = some after →
        RingReached capacity after
  | read {rbuf : RingBuffer} (size : ℤ) :
      RingReached capacity rbuf → RingReached capacity (readRingBuffer rbuf size).2.2

/-- Every state of a buffer is well formed. -/
theorem RingReached.wellFormed {capacity : ℤ} (nonneg : 0 ≤ capacity)
    (small : capacity < 1073741824) {rbuf : RingBuffer} (reached : RingReached capacity rbuf) :
    rbuf.WellFormed ∧ rbuf.size = capacity + 1 := by
  induction reached with
  | alloc =>
      exact ⟨allocRingBuffer_wellFormed nonneg small, int32_eq_self (by omega) (by omega)⟩
  | write _ written ih =>
      obtain ⟨keeps, sameSize, _, _⟩ := writeRingBuffer_stored ih.1 written
      exact ⟨keeps, sameSize.trans ih.2⟩
  | read size _ ih =>
      obtain ⟨keeps, sameSize⟩ := readRingBuffer_wellFormed ih.1 size
      exact ⟨keeps, sameSize.trans ih.2⟩

/-- **The ring buffer stays in bounds.** For every capacity below `2^30`,
allocation stays in the range of `int`; and from every state the buffer can be
in, a read of any size and a write that passes the assertion have their values in
the range of `int`, divide by no zero, copy blocks of the array and of the
caller's buffer only, and leave alone what is not theirs. -/
theorem ring_accesses_in_bounds {capacity : ℤ} (nonneg : 0 ≤ capacity)
    (small : capacity < 1073741824) :
    (∀ (room : ℤ) (s : RingMemory), Logged.RunsTo (allocRingBufferSteps capacity)
      (RingEvent.InBounds (capacity + 1) room) s () { s with rbuf := allocRingBuffer capacity }) ∧
    ∀ rbuf, RingReached capacity rbuf →
      (rbuf.size = capacity + 1 ∧ 0 ≤ rbuf.head ∧ rbuf.head < rbuf.size ∧ 0 ≤ rbuf.tail ∧
        rbuf.tail < rbuf.size) ∧
      (∀ (buf : Memory U8) (size : ℤ), -2147483648 ≤ size → size ≤ 2147483647 →
        Logged.RunsTo (readRingBufferSteps size) (RingEvent.InBounds rbuf.size size) ⟨rbuf, buf⟩
          (readRingBuffer rbuf size).1
          ⟨(readRingBuffer rbuf size).2.2, buf.blit 0 (readRingBuffer rbuf size).2.1⟩ ∧
        (readRingBuffer rbuf size).2.2 =
          { rbuf with head := (readRingBuffer rbuf size).2.2.head }) ∧
      ∀ (buf : Memory U8) (size : ℤ), 0 < size → size ≤ ringBufferFree rbuf →
        ∃ after, writeRingBuffer rbuf (buf.slice 0 size.toNat) = some after ∧
          Logged.RunsTo (writeRingBufferSteps size) (RingEvent.InBounds rbuf.size size)
            ⟨rbuf, buf⟩ () ⟨after, buf⟩ ∧
          after = { rbuf with tail := after.tail, buf := after.buf } ∧
          ∀ index, after.buf index ≠ rbuf.buf index → rbuf.FreeByte index := by
  refine ⟨allocRingBufferSteps_runsTo nonneg small, fun rbuf reached => ?_⟩
  obtain ⟨wellFormed, size⟩ := reached.wellFormed nonneg small
  refine ⟨⟨size, wellFormed.head_nonneg, wellFormed.head_lt, wellFormed.tail_nonneg,
    wellFormed.tail_lt⟩, ?_, ?_⟩
  · intro buf size _ _
    have memory : (⟨rbuf, buf⟩ : RingMemory).rbuf.WellFormed := wellFormed
    exact ⟨readRingBufferSteps_runsTo memory size, readRingBuffer_changes size⟩
  · intro buf size positive fits
    have memory : (⟨rbuf, buf⟩ : RingMemory).rbuf.WellFormed := wellFormed
    obtain ⟨after, written, run⟩ := writeRingBufferSteps_runsTo memory positive fits
    exact ⟨after, written, run, writeRingBuffer_changes wellFormed written⟩

/-- A buffer of capacity three that was filled and read, with both indices at the last byte of
the array. -/
def turnedBuffer : RingBuffer where
  size := 4
  head := 3
  tail := 3
  buf := Memory.blit (fun _ => 0) 0 [1, 2, 3]

/-- The same buffer with two bytes, the second of them at the beginning of the array. -/
def wrappedBuffer : RingBuffer where
  size := 4
  head := 3
  tail := 1
  buf := (turnedBuffer.buf.blit 3 [4]).blit 0 [5]

theorem turnedBuffer_reached : RingReached 3 turnedBuffer := by
  have filled : writeRingBuffer (allocRingBuffer 3) [1, 2, 3] =
      some ⟨4, 0, 3, Memory.blit (fun _ => 0) 0 [1, 2, 3]⟩ := rfl
  exact (RingReached.alloc.write filled).read 3

theorem wrappedBuffer_written : writeRingBuffer turnedBuffer [4, 5] = some wrappedBuffer := rfl

/-- A read with a negative size from a buffer of no capacity at all, and a write and a read that
both copy two blocks. -/
theorem ring_accesses_in_bounds_wrapped :
    Logged.RunsTo (readRingBufferSteps (-1)) (RingEvent.InBounds 1 (-1))
        ⟨allocRingBuffer 0, fun _ => 0⟩ (-1) ⟨allocRingBuffer 0, fun _ => 0⟩ ∧
      Logged.RunsTo (writeRingBufferSteps 2) (RingEvent.InBounds 4 2)
        ⟨turnedBuffer, Memory.blit (fun _ => 0) 0 [4, 5]⟩ ()
        ⟨wrappedBuffer, Memory.blit (fun _ => 0) 0 [4, 5]⟩ ∧
      Logged.RunsTo (readRingBufferSteps 2) (RingEvent.InBounds 4 2)
        ⟨wrappedBuffer, fun _ => 0⟩ 2
        ⟨{ wrappedBuffer with head := 1 }, Memory.blit (fun _ => 0) 0 [4, 5]⟩ := by
  have empty := (ring_accesses_in_bounds (Int.le_refl 0) (by norm_num)).2 _ .alloc
  have bounds := fun rbuf reached => (ring_accesses_in_bounds (show (0 : ℤ) ≤ 3 by norm_num)
    (by norm_num)).2 rbuf reached
  refine ⟨?_, ?_, ?_⟩
  · have read := (empty.2.1 (fun _ => 0) (-1) (by norm_num) (by norm_num)).1
    rwa [show Memory.blit (fun _ => 0) 0 (readRingBuffer (allocRingBuffer 0) (-1)).2.1 =
      (fun _ => 0 : Memory U8) from Memory.blit_nil _ _] at read
  · obtain ⟨after, written, run, _⟩ := (bounds _ turnedBuffer_reached).2.2
      (Memory.blit (fun _ => 0) 0 [4, 5]) 2 (by norm_num) (by decide)
    have same : some wrappedBuffer = some after := wrappedBuffer_written.symm.trans written
    exact Option.some.inj same ▸ run
  · exact ((bounds _ (turnedBuffer_reached.write wrappedBuffer_written)).2.1 (fun _ => 0) 2
      (by norm_num) (by norm_num)).1

end TcpStack
