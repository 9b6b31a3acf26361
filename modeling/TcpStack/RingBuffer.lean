import TcpStack.Lib.Memory
import TcpStack.Lib.MachineInt
import Mathlib.Tactic.NormNum

/-!
# The receive ring buffer

`ring_buffer.h`: an array of `size` bytes with a read index and a write index.
One byte is never used, so that an empty buffer and a full one can be told
apart by the indices alone. Reads and writes copy in one block, or in two when
they pass the end of the array.

Seen from outside the buffer is a bounded first-in first-out queue: a write
appends to the bytes stored (`writeRingBuffer_stored`), a read removes a prefix
of them (`readRingBuffer_stored`), and over every history of both the bytes read
followed by the bytes stored are the bytes written (`RingRun.bounded_queue`).
How the bytes are split into calls makes no difference to the buffer, nor does
the order of a read and a write that do not depend on each other
(`ring_operations_compose`).

Indices and sizes are of type `int`. The expression `tail - head + size` can
reach twice the size of the array, so it leaves the range of `int` when the
capacity is `2^30` or more; the results are about smaller capacities.
-/

set_option autoImplicit false

namespace TcpStack

open Lib

/-- `struct ring_buffer`; the array is the memory at `buf`. -/
structure RingBuffer where
  size : ℤ
  head : ℤ
  tail : ℤ
  buf : Memory U8

/-- A zeroed buffer with one byte more than the capacity asked for. -/
def allocRingBuffer (size : ℤ) : RingBuffer where
  size := int32 (size + 1)
  head := 0
  tail := 0
  buf := fun _ => 0

def ringBufferUsed (rbuf : RingBuffer) : ℤ :=
  Int.tmod (int32 (int32 (rbuf.tail - rbuf.head) + rbuf.size)) rbuf.size

def ringBufferFree (rbuf : RingBuffer) : ℤ :=
  int32 (int32 (rbuf.size - ringBufferUsed rbuf) - 1)

def ringBufferEmpty (rbuf : RingBuffer) : Bool := ringBufferUsed rbuf == 0

def ringBufferFull (rbuf : RingBuffer) : Bool := ringBufferFree rbuf == 0

/-- The length returned, the bytes copied to the caller and the buffer after
the read. -/
def readRingBuffer (rbuf : RingBuffer) (size : ℤ) : ℤ × List U8 × RingBuffer :=
  let len := min (ringBufferUsed rbuf) size
  if 0 < len then
    let copied :=
      if rbuf.size < int32 (rbuf.head + len) then
        let right := int32 (rbuf.size - rbuf.head)
        let left := int32 (len - right)
        rbuf.buf.slice rbuf.head.toNat right.toNat ++ rbuf.buf.slice 0 left.toNat
      else
        rbuf.buf.slice rbuf.head.toNat len.toNat
    (len, copied, { rbuf with head := Int.tmod (int32 (rbuf.head + len)) rbuf.size })
  else
    (len, [], rbuf)

/-- Write the bytes of `data`; nothing when the assertion at the entry fails. -/
def writeRingBuffer (rbuf : RingBuffer) (data : List U8) : Option RingBuffer :=
  let size : ℤ := data.length
  if 0 < size ∧ size ≤ ringBufferFree rbuf then
    let len := size
    if 0 < len then
      let filled :=
        if rbuf.size < int32 (rbuf.tail + len) then
          let right := int32 (rbuf.size - rbuf.tail)
          let left := int32 (len - right)
          (rbuf.buf.blit rbuf.tail.toNat (data.take right.toNat)).blit 0
            ((data.drop right.toNat).take left.toNat)
        else
          rbuf.buf.blit rbuf.tail.toNat data
      some { rbuf with
        buf := filled
        tail := Int.tmod (int32 (rbuf.tail + len)) rbuf.size }
    else
      some rbuf
  else
    none

/-! ## Well-formed buffers -/

/-- The indices lie in the array, and sums of two sizes are in the range of
`int`. -/
structure RingBuffer.WellFormed (rbuf : RingBuffer) : Prop where
  size_pos : 0 < rbuf.size
  size_le : rbuf.size ≤ 2 ^ 30
  head_nonneg : 0 ≤ rbuf.head
  head_lt : rbuf.head < rbuf.size
  tail_nonneg : 0 ≤ rbuf.tail
  tail_lt : rbuf.tail < rbuf.size

/-- The bytes between the read index and the write index. -/
def RingBuffer.stored (rbuf : RingBuffer) : List U8 :=
  rbuf.buf.window rbuf.size.toNat rbuf.head.toNat (ringBufferUsed rbuf).toNat

theorem allocRingBuffer_wellFormed {capacity : ℤ} (nonneg : 0 ≤ capacity)
    (small : capacity < 2 ^ 30) : (allocRingBuffer capacity).WellFormed := by
  have size : int32 (capacity + 1) = capacity + 1 := int32_eq_self (by omega) (by omega)
  constructor <;> simp only [allocRingBuffer, size] <;> omega

namespace RingBuffer.WellFormed

variable {rbuf : RingBuffer} (wellFormed : rbuf.WellFormed)
include wellFormed

/-- The number of stored bytes in terms of the two indices. -/
theorem used_eq : ringBufferUsed rbuf =
    if rbuf.head ≤ rbuf.tail then rbuf.tail - rbuf.head
    else rbuf.tail - rbuf.head + rbuf.size := by
  obtain ⟨_, _, _, _, _, _⟩ := wellFormed
  have distance : int32 (rbuf.tail - rbuf.head) = rbuf.tail - rbuf.head :=
    int32_eq_self (by omega) (by omega)
  rw [ringBufferUsed, distance, int32_eq_self (by omega) (by omega),
    tmod_of_lt_two_mul (by omega) (by omega)]
  split <;> split <;> omega

theorem used_nonneg : 0 ≤ ringBufferUsed rbuf := by
  have used := wellFormed.used_eq
  obtain ⟨_, _, _, _, _, _⟩ := wellFormed
  split at used <;> omega

theorem used_lt : ringBufferUsed rbuf < rbuf.size := by
  have used := wellFormed.used_eq
  obtain ⟨_, _, _, _, _, _⟩ := wellFormed
  split at used <;> omega

theorem free_eq : ringBufferFree rbuf = rbuf.size - 1 - ringBufferUsed rbuf := by
  have nonneg := wellFormed.used_nonneg
  have below := wellFormed.used_lt
  obtain ⟨_, _, _, _, _, _⟩ := wellFormed
  have rest : int32 (rbuf.size - ringBufferUsed rbuf) = rbuf.size - ringBufferUsed rbuf :=
    int32_eq_self (by omega) (by omega)
  rw [ringBufferFree, rest, int32_eq_self (by omega) (by omega)]
  omega

/-- Advancing an index of the array goes round its end at most once. -/
theorem advance_eq {start len : ℤ} (nonneg : 0 ≤ start) (inside : start < rbuf.size)
    (lower : 0 ≤ len) (upper : len < rbuf.size) :
    Int.tmod (int32 (start + len)) rbuf.size =
      if start + len < rbuf.size then start + len else start + len - rbuf.size := by
  have bound := wellFormed.size_le
  rw [int32_eq_self (by omega) (by omega), tmod_of_lt_two_mul (by omega) (by omega)]

/-- Advancing an index of the array stays in it and is addition modulo its
size. -/
theorem advance {start len : ℤ} (nonneg : 0 ≤ start) (inside : start < rbuf.size)
    (lower : 0 ≤ len) (upper : len < rbuf.size) :
    0 ≤ Int.tmod (int32 (start + len)) rbuf.size ∧
      Int.tmod (int32 (start + len)) rbuf.size < rbuf.size ∧
      (Int.tmod (int32 (start + len)) rbuf.size).toNat =
        (start.toNat + len.toNat) % rbuf.size.toNat := by
  rw [wellFormed.advance_eq nonneg inside lower upper]
  split
  · rw [Nat.mod_eq_of_lt (by omega)]
    omega
  · rw [Nat.mod_eq_sub_mod (by omega), Nat.mod_eq_of_lt (by omega)]
    omega

/-- Advancing an index twice is advancing it once by the sum. -/
theorem advance_add {start first second : ℤ} (nonneg : 0 ≤ start) (inside : start < rbuf.size)
    (firstNonneg : 0 ≤ first) (secondNonneg : 0 ≤ second) (upper : first + second < rbuf.size) :
    Int.tmod (int32 (Int.tmod (int32 (start + first)) rbuf.size + second)) rbuf.size =
      Int.tmod (int32 (start + (first + second))) rbuf.size := by
  obtain ⟨lower, within, _⟩ := wellFormed.advance nonneg inside firstNonneg (by omega)
  rw [wellFormed.advance_eq lower within secondNonneg (by omega),
    wellFormed.advance_eq nonneg inside firstNonneg (by omega),
    wellFormed.advance_eq nonneg inside (Int.add_nonneg firstNonneg secondNonneg) upper]
  split <;> split <;> split <;> omega

/-- The write index is the read index advanced by the number of stored
bytes. -/
theorem tail_eq :
    rbuf.tail.toNat = (rbuf.head.toNat + (ringBufferUsed rbuf).toNat) % rbuf.size.toNat := by
  have used := wellFormed.used_eq
  obtain ⟨_, _, _, _, _, _⟩ := wellFormed
  split at used
  · rw [Nat.mod_eq_of_lt (by omega)]
    omega
  · rw [Nat.mod_eq_sub_mod (by omega), Nat.mod_eq_of_lt (by omega)]
    omega

theorem length_stored : (rbuf.stored.length : ℤ) = ringBufferUsed rbuf := by
  have nonneg := wellFormed.used_nonneg
  simp [stored, nonneg]

end RingBuffer.WellFormed

/-! ## Reading -/

section Read

variable {rbuf : RingBuffer} (wellFormed : rbuf.WellFormed)
include wellFormed

/-- The two ways to copy bytes out give the same window of the array. -/
theorem readCopy_eq_window {len : ℤ} (positive : 0 < len) (below : len < rbuf.size) :
    (if rbuf.size < int32 (rbuf.head + len) then
        rbuf.buf.slice rbuf.head.toNat (int32 (rbuf.size - rbuf.head)).toNat ++
          rbuf.buf.slice 0 (int32 (len - int32 (rbuf.size - rbuf.head))).toNat
      else rbuf.buf.slice rbuf.head.toNat len.toNat) =
      rbuf.buf.window rbuf.size.toNat rbuf.head.toNat len.toNat := by
  obtain ⟨_, _, _, _, _, _⟩ := wellFormed
  have right : int32 (rbuf.size - rbuf.head) = rbuf.size - rbuf.head :=
    int32_eq_self (by omega) (by omega)
  have left : int32 (len - (rbuf.size - rbuf.head)) = len - (rbuf.size - rbuf.head) :=
    int32_eq_self (by omega) (by omega)
  rw [right, left, int32_eq_self (by omega) (by omega)]
  split
  · next wraps =>
      rw [Memory.window_eq_slice_append _ (by omega) (by omega) (by omega)]
      congr 2 <;> omega
  · next straight => rw [Memory.window_eq_slice _ (by omega)]

/-- A read of a positive length copies the window at the read index and
advances the index past it. -/
theorem readRingBuffer_of_pos {size : ℤ} (positive : 0 < min (ringBufferUsed rbuf) size) :
    readRingBuffer rbuf size =
      (min (ringBufferUsed rbuf) size,
        rbuf.buf.window rbuf.size.toNat rbuf.head.toNat (min (ringBufferUsed rbuf) size).toNat,
        { rbuf with
          head := Int.tmod (int32 (rbuf.head + min (ringBufferUsed rbuf) size)) rbuf.size }) := by
  have below := wellFormed.used_lt
  simp only [readRingBuffer, if_pos positive]
  rw [readCopy_eq_window wellFormed positive (by omega)]

/-- A read copies the window at the read index and advances the index past it,
also when there is nothing to read. -/
theorem readRingBuffer_eq {size : ℤ} (nonneg : 0 ≤ size) :
    readRingBuffer rbuf size =
      (min (ringBufferUsed rbuf) size,
        rbuf.buf.window rbuf.size.toNat rbuf.head.toNat (min (ringBufferUsed rbuf) size).toNat,
        { rbuf with
          head := Int.tmod (int32 (rbuf.head + min (ringBufferUsed rbuf) size)) rbuf.size }) := by
  by_cases positive : 0 < min (ringBufferUsed rbuf) size
  · exact readRingBuffer_of_pos wellFormed positive
  · have lower := wellFormed.used_nonneg
    have none : min (ringBufferUsed rbuf) size = 0 := by omega
    have stays := wellFormed.advance_eq wellFormed.head_nonneg wellFormed.head_lt
      (Int.le_refl 0) wellFormed.size_pos
    rw [Int.add_zero, if_pos wellFormed.head_lt] at stays
    simp only [readRingBuffer, none, Int.lt_irrefl, if_false, Int.toNat_zero, Memory.window_zero,
      Int.add_zero, stays]

/-- A read keeps the buffer well formed and its size. -/
theorem readRingBuffer_wellFormed (size : ℤ) :
    (readRingBuffer rbuf size).2.2.WellFormed ∧
      (readRingBuffer rbuf size).2.2.size = rbuf.size := by
  by_cases positive : 0 < min (ringBufferUsed rbuf) size
  · have below := wellFormed.used_lt
    obtain ⟨lower, upper, _⟩ := wellFormed.advance wellFormed.head_nonneg wellFormed.head_lt
      (show 0 ≤ min (ringBufferUsed rbuf) size by omega) (by omega)
    rw [readRingBuffer_of_pos wellFormed positive]
    exact ⟨{ wellFormed with head_nonneg := lower, head_lt := upper }, rfl⟩
  · simp only [readRingBuffer, if_neg positive]
    exact ⟨wellFormed, trivial⟩

/-- A read lowers the number of stored bytes by the length it returns. -/
theorem readRingBuffer_used {size : ℤ} (nonneg : 0 ≤ size) :
    ringBufferUsed (readRingBuffer rbuf size).2.2 =
      ringBufferUsed rbuf - min (ringBufferUsed rbuf) size := by
  have used := wellFormed.used_eq
  have lower := wellFormed.used_nonneg
  by_cases positive : 0 < min (ringBufferUsed rbuf) size
  · have after := (readRingBuffer_wellFormed wellFormed size).1.used_eq
    have below := wellFormed.used_lt
    obtain ⟨_, _, _, _, _, _⟩ := wellFormed
    rw [after, readRingBuffer_of_pos ⟨‹_›, ‹_›, ‹_›, ‹_›, ‹_›, ‹_›⟩ positive]
    simp only
    rw [int32_eq_self (by omega) (by omega), tmod_of_lt_two_mul (by omega) (by omega)]
    split at used <;> split <;> split <;> omega
  · simp only [readRingBuffer, if_neg positive]
    omega

/-- **A read delivers the oldest stored bytes**, as many as asked for and
available, and removes them. -/
theorem readRingBuffer_stored {size : ℤ} (nonneg : 0 ≤ size) :
    (readRingBuffer rbuf size).1 = min (ringBufferUsed rbuf) size ∧
      (readRingBuffer rbuf size).2.1 =
        rbuf.stored.take (min (ringBufferUsed rbuf) size).toNat ∧
      (readRingBuffer rbuf size).2.2.stored =
        rbuf.stored.drop (min (ringBufferUsed rbuf) size).toNat := by
  have lower := wellFormed.used_nonneg
  have below := wellFormed.used_lt
  by_cases positive : 0 < min (ringBufferUsed rbuf) size
  · have after := readRingBuffer_used wellFormed nonneg
    have split : (ringBufferUsed rbuf).toNat = (min (ringBufferUsed rbuf) size).toNat +
        (ringBufferUsed rbuf - min (ringBufferUsed rbuf) size).toNat := by omega
    have parts : rbuf.stored =
        rbuf.buf.window rbuf.size.toNat rbuf.head.toNat
            (min (ringBufferUsed rbuf) size).toNat ++
          rbuf.buf.window rbuf.size.toNat
            (rbuf.head.toNat + (min (ringBufferUsed rbuf) size).toNat)
            (ringBufferUsed rbuf - min (ringBufferUsed rbuf) size).toNat := by
      rw [RingBuffer.stored, split, Memory.window_add]
    obtain ⟨_, _, moved⟩ := wellFormed.advance wellFormed.head_nonneg wellFormed.head_lt
      (show 0 ≤ min (ringBufferUsed rbuf) size by omega) (by omega)
    have remaining : (readRingBuffer rbuf size).2.2.stored =
        rbuf.buf.window rbuf.size.toNat
          (rbuf.head.toNat + (min (ringBufferUsed rbuf) size).toNat)
          (ringBufferUsed rbuf - min (ringBufferUsed rbuf) size).toNat := by
      rw [RingBuffer.stored, after, readRingBuffer_of_pos wellFormed positive]
      simp only [moved, Memory.window_mod]
    rw [remaining, parts, List.take_left' (by simp), List.drop_left' (by simp),
      readRingBuffer_of_pos wellFormed positive]
    exact ⟨rfl, rfl, rfl⟩
  · have none : min (ringBufferUsed rbuf) size = 0 := by omega
    simp [readRingBuffer, none]

end Read

/-! ## Writing -/

section Write

variable {rbuf : RingBuffer} (wellFormed : rbuf.WellFormed)
include wellFormed

/-- The two ways to copy bytes in are one circular write. -/
theorem writeCopy_eq_wrapBlit {data : List U8} (fits : (data.length : ℤ) < rbuf.size) :
    (if rbuf.size < int32 (rbuf.tail + data.length) then
        (rbuf.buf.blit rbuf.tail.toNat (data.take (int32 (rbuf.size - rbuf.tail)).toNat)).blit 0
          ((data.drop (int32 (rbuf.size - rbuf.tail)).toNat).take
            (int32 (data.length - int32 (rbuf.size - rbuf.tail))).toNat)
      else rbuf.buf.blit rbuf.tail.toNat data) =
      rbuf.buf.wrapBlit rbuf.size.toNat rbuf.tail.toNat data := by
  obtain ⟨_, _, _, _, _, _⟩ := wellFormed
  have right : int32 (rbuf.size - rbuf.tail) = rbuf.size - rbuf.tail :=
    int32_eq_self (by omega) (by omega)
  have left : int32 (data.length - (rbuf.size - rbuf.tail)) =
      data.length - (rbuf.size - rbuf.tail) := int32_eq_self (by omega) (by omega)
  have gap : (rbuf.size - rbuf.tail).toNat = rbuf.size.toNat - rbuf.tail.toNat := by omega
  rw [right, left, int32_eq_self (by omega) (by omega), Memory.wrapBlit, gap]
  by_cases wraps : rbuf.size < rbuf.tail + data.length
  · have rest : (data.drop (rbuf.size.toNat - rbuf.tail.toNat)).length ≤
        ((data.length : ℤ) - (rbuf.size - rbuf.tail)).toNat := by
      rw [List.length_drop]
      omega
    rw [if_pos wraps, if_pos (by omega), List.take_of_length_le rest]
  · rw [if_neg wraps, if_neg (by omega)]

/-- A write that passes the assertion fills the window at the write index and
advances the index past it. -/
theorem writeRingBuffer_of_fits {data : List U8} (positive : 0 < data.length)
    (fits : (data.length : ℤ) ≤ ringBufferFree rbuf) :
    writeRingBuffer rbuf data = some { rbuf with
      buf := rbuf.buf.wrapBlit rbuf.size.toNat rbuf.tail.toNat data
      tail := Int.tmod (int32 (rbuf.tail + data.length)) rbuf.size } := by
  have free := wellFormed.free_eq
  have nonneg := wellFormed.used_nonneg
  have positive : 0 < (data.length : ℤ) := by omega
  simp only [writeRingBuffer, if_pos positive, if_pos (And.intro positive fits)]
  rw [writeCopy_eq_wrapBlit wellFormed (by omega)]

omit wellFormed in
/-- A write that succeeds passed the assertion. -/
theorem fits_of_writeRingBuffer {data : List U8} {after : RingBuffer}
    (written : writeRingBuffer rbuf data = some after) :
    0 < data.length ∧ (data.length : ℤ) ≤ ringBufferFree rbuf := by
  simp only [writeRingBuffer] at written
  split at written
  · next passed => exact ⟨by omega, passed.2⟩
  · exact absurd written (by simp)

/-- **A write appends to the stored bytes.** It keeps the buffer well formed
and its size. -/
theorem writeRingBuffer_stored {data : List U8} {after : RingBuffer}
    (written : writeRingBuffer rbuf data = some after) :
    after.WellFormed ∧ after.size = rbuf.size ∧
      ringBufferUsed after = ringBufferUsed rbuf + data.length ∧
      after.stored = rbuf.stored ++ data := by
  obtain ⟨positive, fits⟩ := fits_of_writeRingBuffer written
  have free := wellFormed.free_eq
  have nonneg := wellFormed.used_nonneg
  have used := wellFormed.used_eq
  have tail := wellFormed.tail_eq
  obtain ⟨lower, upper, _⟩ := wellFormed.advance wellFormed.tail_nonneg wellFormed.tail_lt
    (show 0 ≤ (data.length : ℤ) by omega) (by omega)
  rw [writeRingBuffer_of_fits wellFormed positive fits, Option.some.injEq] at written
  have keeps : after.WellFormed := by
    rw [← written]
    exact { wellFormed with tail_nonneg := lower, tail_lt := upper }
  have grown : ringBufferUsed after = ringBufferUsed rbuf + data.length := by
    have later := keeps.used_eq
    obtain ⟨_, _, _, _, _, _⟩ := wellFormed
    rw [later, ← written]
    simp only
    rw [int32_eq_self (by omega) (by omega), tmod_of_lt_two_mul (by omega) (by omega)]
    split at used <;> split <;> split <;> omega
  refine ⟨keeps, by rw [← written], grown, ?_⟩
  have positiveSize := wellFormed.size_pos
  have total : (ringBufferUsed after).toNat = (ringBufferUsed rbuf).toNat + data.length := by
    omega
  rw [RingBuffer.stored, total, Memory.window_add, ← written]
  simp only
  rw [← Memory.window_mod _ _ (rbuf.head.toNat + _), ← tail,
    Memory.window_wrapBlit _ (by have := wellFormed.tail_lt; omega) (by omega), tail,
    Memory.window_wrapBlit_before _ (by omega) (by omega), RingBuffer.stored]

end Write

/-! ## Chunks and the order of operations -/

section Chunks

variable {rbuf : RingBuffer} (wellFormed : rbuf.WellFormed)
include wellFormed

/-- Two writes that fit together are one write of the concatenation. -/
theorem writeRingBuffer_append {first second : List U8} (firstNonempty : first ≠ [])
    (secondNonempty : second ≠ [])
    (fits : ((first.length + second.length : ℕ) : ℤ) ≤ ringBufferFree rbuf) :
    ∃ between after, writeRingBuffer rbuf first = some between ∧
      writeRingBuffer between second = some after ∧
      writeRingBuffer rbuf (first ++ second) = some after := by
  have firstPositive := List.length_pos_iff.mpr firstNonempty
  have secondPositive := List.length_pos_iff.mpr secondNonempty
  have total : (first ++ second).length = first.length + second.length := List.length_append
  have free := wellFormed.free_eq
  have nonneg := wellFormed.used_nonneg
  have written := writeRingBuffer_of_fits wellFormed firstPositive (by omega)
  obtain ⟨keeps, sameSize, used, _⟩ := writeRingBuffer_stored wellFormed written
  have writtenOn := writeRingBuffer_of_fits keeps secondPositive (by
    rw [keeps.free_eq, used, sameSize]
    omega)
  have writtenAtOnce := writeRingBuffer_of_fits wellFormed
    (show 0 < (first ++ second).length by omega) (by rw [total]; exact fits)
  obtain ⟨_, _, place⟩ := wellFormed.advance wellFormed.tail_nonneg wellFormed.tail_lt
    (show 0 ≤ (first.length : ℤ) by omega) (by omega)
  have inside := wellFormed.tail_lt
  have bytes := Memory.wrapBlit_append rbuf.buf (show rbuf.tail.toNat < rbuf.size.toNat by omega)
    (show first.length + second.length ≤ rbuf.size.toNat by omega) secondPositive
  have tail := wellFormed.advance_add wellFormed.tail_nonneg inside
    (show 0 ≤ (first.length : ℤ) by omega) (show 0 ≤ (second.length : ℤ) by omega) (by omega)
  refine ⟨_, _, written, writtenOn, ?_⟩
  rw [writtenAtOnce, total, Nat.cast_add]
  simp only [place, Int.toNat_natCast, bytes, tail]

/-- Two reads are one read of the sum of their sizes. -/
theorem readRingBuffer_add {first second : ℤ} (firstNonneg : 0 ≤ first)
    (secondNonneg : 0 ≤ second) :
    readRingBuffer rbuf (first + second) =
      ((readRingBuffer rbuf first).1 + (readRingBuffer (readRingBuffer rbuf first).2.2 second).1,
        (readRingBuffer rbuf first).2.1 ++
          (readRingBuffer (readRingBuffer rbuf first).2.2 second).2.1,
        (readRingBuffer (readRingBuffer rbuf first).2.2 second).2.2) := by
  have keeps := (readRingBuffer_wellFormed wellFormed first).1
  have used := readRingBuffer_used wellFormed firstNonneg
  have lower := wellFormed.used_nonneg
  have below := wellFormed.used_lt
  rw [readRingBuffer_eq keeps secondNonneg, used, readRingBuffer_eq wellFormed firstNonneg,
    readRingBuffer_eq wellFormed (Int.add_nonneg firstNonneg secondNonneg)]
  simp only
  generalize ringBufferUsed rbuf = stored at *
  have split : min stored (first + second) =
      min stored first + min (stored - min stored first) second := by omega
  have firstLen : 0 ≤ min stored first := by omega
  have secondLen : 0 ≤ min (stored - min stored first) second := by omega
  obtain ⟨_, _, place⟩ := wellFormed.advance wellFormed.head_nonneg wellFormed.head_lt
    firstLen (by omega)
  have head := wellFormed.advance_add wellFormed.head_nonneg wellFormed.head_lt firstLen
    secondLen (by omega)
  rw [split, head, place, Int.toNat_add firstLen secondLen, Memory.window_add,
    Memory.window_mod]

/-- A read of stored bytes and a write into free space do not depend on their
order. -/
theorem read_write_comm {size : ℤ} {data : List U8} (stored : size ≤ ringBufferUsed rbuf)
    (nonempty : data ≠ []) (fits : (data.length : ℤ) ≤ ringBufferFree rbuf) :
    ∃ written later, writeRingBuffer rbuf data = some written ∧
      writeRingBuffer (readRingBuffer rbuf size).2.2 data = some later ∧
      readRingBuffer written size =
        ((readRingBuffer rbuf size).1, (readRingBuffer rbuf size).2.1, later) := by
  have positive := List.length_pos_iff.mpr nonempty
  have free := wellFormed.free_eq
  have lower := wellFormed.used_nonneg
  have first := writeRingBuffer_of_fits wellFormed positive fits
  obtain ⟨keeps, sameSize, grown, appended⟩ := writeRingBuffer_stored wellFormed first
  by_cases nonneg : 0 ≤ size
  · obtain ⟨readKeeps, readSize⟩ := readRingBuffer_wellFormed wellFormed size
    have readUsed := readRingBuffer_used wellFormed nonneg
    have second := writeRingBuffer_of_fits readKeeps positive (by
      rw [readKeeps.free_eq, readSize, readUsed]
      omega)
    refine ⟨_, _, first, second, ?_⟩
    have bytes := (readRingBuffer_stored keeps nonneg).2.1
    have delivered := (readRingBuffer_stored wellFormed nonneg).2.1
    have whole : min (ringBufferUsed rbuf) size = size := by omega
    have length := wellFormed.length_stored
    rw [appended, grown, List.take_append_of_le_length (by omega)] at bytes
    rw [whole] at delivered
    have wholeLater : min (ringBufferUsed rbuf + data.length) size = size := by omega
    rw [wholeLater, ← delivered] at bytes
    refine Prod.ext ?_ (Prod.ext bytes ?_)
    · rw [readRingBuffer_eq keeps nonneg, readRingBuffer_eq wellFormed nonneg, grown]
      simp only [whole, wholeLater]
    · rw [readRingBuffer_eq keeps nonneg, readRingBuffer_eq wellFormed nonneg, grown]
      simp only [whole, wholeLater]
  · -- a read of a negative size does nothing, before the write and after it
    have idle : ∀ other : RingBuffer, 0 ≤ ringBufferUsed other →
        readRingBuffer other size = (size, [], other) := by
      intro other otherLower
      have less : min (ringBufferUsed other) size = size := by omega
      simp only [readRingBuffer, less]
      rw [if_neg (by omega)]
    rw [idle rbuf lower]
    exact ⟨_, _, first, first, idle _ (by omega)⟩

end Chunks

/-- **Chunks and the order of operations make no difference.** In every well-formed
buffer, writing in two calls is writing in one, reading in two calls is reading
in one, and a read of at most the stored bytes and a write into the free space
give the same bytes and the same buffer in either order. -/
theorem ring_operations_compose (rbuf : RingBuffer) (wellFormed : rbuf.WellFormed) :
    (∀ first second : List U8, first ≠ [] → second ≠ [] →
      ((first.length + second.length : ℕ) : ℤ) ≤ ringBufferFree rbuf →
        ∃ between after, writeRingBuffer rbuf first = some between ∧
          writeRingBuffer between second = some after ∧
          writeRingBuffer rbuf (first ++ second) = some after) ∧
      (∀ first second : ℤ, 0 ≤ first → 0 ≤ second →
        readRingBuffer rbuf (first + second) =
          ((readRingBuffer rbuf first).1 +
              (readRingBuffer (readRingBuffer rbuf first).2.2 second).1,
            (readRingBuffer rbuf first).2.1 ++
              (readRingBuffer (readRingBuffer rbuf first).2.2 second).2.1,
            (readRingBuffer (readRingBuffer rbuf first).2.2 second).2.2)) ∧
      ∀ (size : ℤ) (data : List U8), size ≤ ringBufferUsed rbuf → data ≠ [] →
        (data.length : ℤ) ≤ ringBufferFree rbuf →
          ∃ written later, writeRingBuffer rbuf data = some written ∧
            writeRingBuffer (readRingBuffer rbuf size).2.2 data = some later ∧
            readRingBuffer written size =
              ((readRingBuffer rbuf size).1, (readRingBuffer rbuf size).2.1, later) :=
  ⟨fun _ _ firstNonempty secondNonempty fits =>
      writeRingBuffer_append wellFormed firstNonempty secondNonempty fits,
    fun _ _ firstNonneg secondNonneg => readRingBuffer_add wellFormed firstNonneg secondNonneg,
    fun _ _ stored nonempty fits => read_write_comm wellFormed stored nonempty fits⟩

/-- Two bytes written one by one to a new buffer of capacity two. -/
theorem ring_operations_compose_two_bytes :
    ∃ between after, writeRingBuffer (allocRingBuffer 2) [1] = some between ∧
      writeRingBuffer between [2] = some after ∧
      writeRingBuffer (allocRingBuffer 2) [1, 2] = some after :=
  (ring_operations_compose _ (allocRingBuffer_wellFormed (by norm_num) (by norm_num))).1
    [1] [2] (List.cons_ne_nil _ _) (List.cons_ne_nil _ _) (by decide)

/-! ## Histories -/

/-- The states a buffer of the given capacity goes through, with everything
written to it and everything read from it so far. -/
inductive RingRun (capacity : ℤ) : RingBuffer → List U8 → List U8 → Prop where
  | alloc : RingRun capacity (allocRingBuffer capacity) [] []
  | write {rbuf after : RingBuffer} {written taken data : List U8} :
      RingRun capacity rbuf written taken → writeRingBuffer rbuf data = some after →
        RingRun capacity after (written ++ data) taken
  | read {rbuf : RingBuffer} {written taken : List U8} {size : ℤ} :
      RingRun capacity rbuf written taken → 0 ≤ size →
        RingRun capacity (readRingBuffer rbuf size).2.2 written
          (taken ++ (readRingBuffer rbuf size).2.1)

/-- Along every history the buffer is well formed, has the size it was
allocated with, and stores what was written and not yet read. -/
theorem RingRun.stored_eq {capacity : ℤ} (nonneg : 0 ≤ capacity) (small : capacity < 2 ^ 30)
    {rbuf : RingBuffer} {written taken : List U8} (run : RingRun capacity rbuf written taken) :
    rbuf.WellFormed ∧ rbuf.size = capacity + 1 ∧ taken ++ rbuf.stored = written := by
  induction run with
  | alloc =>
      have size : int32 (capacity + 1) = capacity + 1 := int32_eq_self (by omega) (by omega)
      have wellFormed := allocRingBuffer_wellFormed nonneg small
      have used := wellFormed.used_eq
      have empty : ringBufferUsed (allocRingBuffer capacity) = 0 := by
        simpa [allocRingBuffer] using used
      refine ⟨wellFormed, size, ?_⟩
      simp [RingBuffer.stored, empty]
  | write _ written ih =>
      obtain ⟨wellFormed, size, queue⟩ := ih
      obtain ⟨keeps, sameSize, _, stored⟩ := writeRingBuffer_stored wellFormed written
      exact ⟨keeps, sameSize.trans size, by rw [stored, ← List.append_assoc, queue]⟩
  | read _ sizeNonneg ih =>
      obtain ⟨wellFormed, size, queue⟩ := ih
      obtain ⟨keeps, sameSize⟩ := readRingBuffer_wellFormed wellFormed _
      obtain ⟨_, delivered, stored⟩ := readRingBuffer_stored wellFormed sizeNonneg
      refine ⟨keeps, sameSize.trans size, ?_⟩
      rw [delivered, stored, List.append_assoc, List.take_append_drop, queue]

/-- **The ring buffer is a bounded first-in first-out queue.** After any history
of writes that pass the assertion and of reads, the next read delivers the
oldest bytes not yet read, the counts are those of the queue, every write that
fits succeeds, and emptiness and fullness are read off correctly. -/
theorem RingRun.bounded_queue {capacity : ℤ} (nonneg : 0 ≤ capacity) (small : capacity < 2 ^ 30)
    {rbuf : RingBuffer} {written taken : List U8} (run : RingRun capacity rbuf written taken) :
    (∀ size, 0 ≤ size →
      (readRingBuffer rbuf size).1 = min (ringBufferUsed rbuf) size ∧
        (readRingBuffer rbuf size).2.1 =
          (written.drop taken.length).take (min (ringBufferUsed rbuf) size).toNat) ∧
      ringBufferUsed rbuf = written.length - taken.length ∧
      ringBufferFree rbuf = capacity - (written.length - taken.length) ∧
      taken ++ rbuf.stored = written ∧
      (∀ data : List U8, 0 < data.length → data.length ≤ ringBufferFree rbuf →
        ∃ after, writeRingBuffer rbuf data = some after) ∧
      (ringBufferEmpty rbuf = true ↔ written = taken) ∧
      (ringBufferFull rbuf = true ↔ (written.length : ℤ) - taken.length = capacity) := by
  obtain ⟨wellFormed, size, queue⟩ := run.stored_eq nonneg small
  have length := wellFormed.length_stored
  have free := wellFormed.free_eq
  have total : written.length = taken.length + rbuf.stored.length := by
    rw [← queue, List.length_append]
  have pending : written.drop taken.length = rbuf.stored := by
    rw [← queue, List.drop_left]
  refine ⟨?_, by omega, by omega, queue, ?_, ?_, ?_⟩
  · intro size sizeNonneg
    obtain ⟨returned, delivered, _⟩ := readRingBuffer_stored wellFormed sizeNonneg
    exact ⟨returned, by rw [delivered, pending]⟩
  · intro data positive fits
    exact ⟨_, writeRingBuffer_of_fits wellFormed positive fits⟩
  · rw [ringBufferEmpty, beq_iff_eq, ← length, Nat.cast_eq_zero, List.length_eq_zero_iff,
      ← queue]
    exact ⟨fun none => by rw [none, List.append_nil], fun same => by simpa using same⟩
  · rw [ringBufferFull, beq_iff_eq]
    omega

/-- A full buffer of capacity three: the read index is in the middle of the array, and the last
write went on at its beginning. -/
theorem RingRun.bounded_queue_wrapped :
    ∃ rbuf, RingRun 3 rbuf [1, 2, 3, 4, 5] [1, 2] ∧ ringBufferUsed rbuf = 3 ∧
      ringBufferFull rbuf = true ∧ (readRingBuffer rbuf 9).2.1 = [3, 4, 5] := by
  have nonneg : (0 : ℤ) ≤ 3 := by norm_num
  have small : (3 : ℤ) < 2 ^ 30 := by norm_num
  have filled : RingRun 3 _ ([] ++ [1, 2, 3]) [] :=
    .write .alloc (writeRingBuffer_of_fits (allocRingBuffer_wellFormed nonneg small) (by decide)
      (by decide))
  obtain ⟨reads, used, _⟩ := RingRun.bounded_queue nonneg small filled
  have two := filled.read (show (0 : ℤ) ≤ 2 by norm_num)
  rw [(reads 2 (by norm_num)).2, used] at two
  obtain ⟨_, _, free, _, writes, _⟩ := RingRun.bounded_queue nonneg small two
  obtain ⟨rbuf, written⟩ := writes [4, 5] (by decide) (by rw [free]; decide)
  have full : RingRun 3 rbuf [1, 2, 3, 4, 5] [1, 2] := two.write written
  obtain ⟨delivers, used, _, _, _, _, isFull⟩ := RingRun.bounded_queue nonneg small full
  refine ⟨rbuf, full, used, isFull.mpr (by decide), ?_⟩
  rw [(delivers 9 (by norm_num)).2, used]
  rfl

/-- Filling a buffer of capacity `2^30` makes `tail - head + size` leave the
range of `int`. -/
theorem used_of_full_large {data : List U8} (length : data.length = 2 ^ 30) :
    ∃ after, writeRingBuffer (allocRingBuffer (2 ^ 30)) data = some after ∧
      ringBufferUsed after = 2 - 2 ^ 30 := by
  have size : int32 (2 ^ 30 + 1) = 2 ^ 30 + 1 := int32_eq_self (by norm_num) (by norm_num)
  have free : ringBufferFree (allocRingBuffer (2 ^ 30)) = 2 ^ 30 := by decide
  have lengthInt : (data.length : ℤ) = 2 ^ 30 := by rw [length]; norm_num
  have wrapped : Int.tmod (int32 (int32 (2 ^ 30 - 0) + (2 ^ 30 + 1))) (2 ^ 30 + 1) =
      2 - 2 ^ 30 := by decide
  refine ⟨⟨2 ^ 30 + 1, 0, 2 ^ 30, Memory.blit (fun _ => 0) 0 data⟩, ?_, wrapped⟩
  have straight : ¬ ((2 : ℤ) ^ 30 + 1 < int32 (0 + 2 ^ 30)) := by decide
  have tail : Int.tmod (int32 (0 + 2 ^ 30)) (2 ^ 30 + 1) = 2 ^ 30 := by decide
  simp only [writeRingBuffer, lengthInt, free]
  rw [if_pos (by norm_num), if_pos (by norm_num)]
  simp only [allocRingBuffer, size, straight, tail, if_false, Int.toNat_zero]

/-- **At capacity `2^30` the counts are wrong**: after `2^30` bytes were written
and none was read, the number of bytes in use is reported as negative. -/
theorem RingRun.used_wrong_at_large_capacity :
    ∃ rbuf, RingRun (2 ^ 30) rbuf (List.replicate (2 ^ 30) 0) [] ∧
      ringBufferUsed rbuf ≠
        ((List.replicate (2 ^ 30) (0 : U8)).length : ℤ) - (([] : List U8).length : ℤ) := by
  have length : (List.replicate (2 ^ 30) (0 : U8)).length = 2 ^ 30 := List.length_replicate
  obtain ⟨after, written, used⟩ := used_of_full_large length
  refine ⟨after, .write .alloc written, ?_⟩
  rw [used, length]
  norm_num

end TcpStack
