import Mathlib.Data.List.Basic
import Mathlib.Data.List.GetD
import Mathlib.Data.Nat.ModEq

/-!
# Flat memory and circular windows

A memory is a function from offsets to cells. Two operations on it are enough
for programs that copy blocks: reading a block of consecutive cells as a list
(`slice`) and overwriting a block with a list (`blit`).

A circular window reads consecutive cells of an array whose last cell is
followed by its first one (`window`). A window that does not reach the end of
the array is a block, a window that does is two blocks
(`window_eq_slice`, `window_eq_slice_append`), and windows concatenate
(`window_add`). Circular writes (`wrapBlit`) do so as well (`wrapBlit_append`).
-/

set_option autoImplicit false

namespace TcpStack.Lib

variable {α : Type*}

/-- A flat memory: the cell at every offset. -/
abbrev Memory (α : Type*) := ℕ → α

namespace Memory

/-- The `length` cells from `start` on. -/
def slice (memory : Memory α) (start length : ℕ) : List α :=
  (List.range length).map fun index => memory (start + index)

/-- Overwrite the cells from `start` on with the given cells. -/
def blit (memory : Memory α) (start : ℕ) (cells : List α) : Memory α := fun index =>
  if start ≤ index then (cells[index - start]?).getD (memory index) else memory index

/-! ## Blocks -/

@[simp] theorem length_slice (memory : Memory α) (start length : ℕ) :
    (memory.slice start length).length = length := by
  simp [slice]

@[simp] theorem slice_zero (memory : Memory α) (start : ℕ) : memory.slice start 0 = [] := rfl

/-- A block is its first cell and the block behind it. -/
theorem slice_succ (memory : Memory α) (start length : ℕ) :
    memory.slice start (length + 1) = memory start :: memory.slice (start + 1) length := by
  simp only [slice, List.range_succ_eq_map, List.map_cons, List.map_map, Nat.add_zero]
  congr 1
  apply List.map_congr_left
  intro index _
  rw [Function.comp_apply, Nat.succ_eq_add_one, Nat.add_assoc, Nat.add_comm 1 index]

/-- Adjacent blocks make one block. -/
theorem slice_add (memory : Memory α) (start first second : ℕ) :
    memory.slice start (first + second) =
      memory.slice start first ++ memory.slice (start + first) second := by
  simp [slice, List.range_add, Function.comp_def, Nat.add_assoc]

theorem getElem_slice (memory : Memory α) {start length index : ℕ}
    (within : index < (memory.slice start length).length) :
    (memory.slice start length)[index] = memory (start + index) := by
  simp [slice]

/-- Two memories that agree on a block have the same slice there. -/
theorem slice_congr {first second : Memory α} {start length : ℕ}
    (agree : ∀ index < length, first (start + index) = second (start + index)) :
    first.slice start length = second.slice start length := by
  apply List.map_congr_left
  intro index member
  exact agree index (List.mem_range.mp member)

theorem blit_of_lt (memory : Memory α) {start index : ℕ} (cells : List α)
    (before : index < start) : memory.blit start cells index = memory index := by
  simp [blit, Nat.not_le.mpr before]

theorem blit_of_ge (memory : Memory α) {start index : ℕ} (cells : List α)
    (after : start + cells.length ≤ index) : memory.blit start cells index = memory index := by
  have outside : cells.length ≤ index - start := by omega
  simp [blit, List.getElem?_eq_none outside]

@[simp] theorem blit_nil (memory : Memory α) (start : ℕ) : memory.blit start [] = memory := by
  funext index
  simp [blit]

theorem blit_of_mem (memory : Memory α) {start index : ℕ} (cells : List α)
    (lower : start ≤ index) (upper : index - start < cells.length) :
    memory.blit start cells index = cells[index - start] := by
  simp [blit, lower, List.getElem?_eq_getElem upper]

/-- What a cell holds after a write depends on what it held before and on no other cell. -/
theorem blit_congr {first second : Memory α} {start index : ℕ} {cells : List α}
    (same : first index = second index) :
    first.blit start cells index = second.blit start cells index := by
  simp only [blit, same]

/-- A block written behind another one makes one block with it. -/
theorem blit_blit_append (memory : Memory α) {start place : ℕ} (first second : List α)
    (behind : place = start + first.length) :
    (memory.blit start first).blit place second = memory.blit start (first ++ second) := by
  subst behind
  funext index
  simp only [blit]
  by_cases lower : start + first.length ≤ index
  · have outside : first.length ≤ index - start := by omega
    have inside : start ≤ index := by omega
    rw [if_pos lower, if_pos inside, if_pos inside, List.getElem?_append_right outside,
      List.getElem?_eq_none outside, Option.getD_none, Nat.sub_sub]
  · rw [if_neg lower]
    by_cases inside : start ≤ index
    · rw [if_pos inside, if_pos inside, List.getElem?_append_left (by omega)]
    · rw [if_neg inside, if_neg inside]

/-- A block written over the front of another one. -/
theorem blit_blit_over (memory : Memory α) (start : ℕ) (first second : List α) :
    (memory.blit start first).blit start second =
      memory.blit start (second ++ first.drop second.length) := by
  funext index
  simp only [blit]
  by_cases inside : start ≤ index
  · simp only [if_pos inside]
    by_cases within : index - start < second.length
    · rw [List.getElem?_append_left within, List.getElem?_eq_getElem within, Option.getD_some,
        Option.getD_some]
    · have outside : second.length ≤ index - start := by omega
      rw [List.getElem?_append_right outside, List.getElem?_eq_none outside, Option.getD_none,
        List.getElem?_drop, Nat.add_sub_cancel' outside]
  · simp only [if_neg inside]

/-- Blocks that do not overlap are written in either order. -/
theorem blit_comm (memory : Memory α) {start place : ℕ} (first second : List α)
    (apart : start + first.length ≤ place ∨ place + second.length ≤ start) :
    (memory.blit start first).blit place second = (memory.blit place second).blit start first := by
  funext index
  by_cases inside : start ≤ index ∧ index < start + first.length
  · have outside : index < place ∨ place + second.length ≤ index := by omega
    rw [blit_of_mem _ first inside.1 (by omega)]
    rcases outside with before | after
    · rw [blit_of_lt _ second before, blit_of_mem _ first inside.1 (by omega)]
    · rw [blit_of_ge _ second after, blit_of_mem _ first inside.1 (by omega)]
  · have outside : ∀ other : Memory α, other.blit start first index = other index := by
      intro other
      rcases Nat.lt_or_ge index start with before | after
      · exact blit_of_lt other first before
      · exact blit_of_ge other first (by omega)
    rw [outside]
    exact blit_congr (outside memory)

/-- A block just written reads back as what was written. -/
theorem slice_blit (memory : Memory α) (start : ℕ) (cells : List α) :
    (memory.blit start cells).slice start cells.length = cells := by
  apply List.ext_getElem
  · simp
  · intro index _ within
    rw [getElem_slice, blit_of_mem memory cells (Nat.le_add_right _ _) (by omega)]
    simp

/-- A block disjoint from the one written is not affected. -/
theorem slice_blit_of_disjoint (memory : Memory α) {start length target : ℕ} (cells : List α)
    (disjoint : start + length ≤ target ∨ target + cells.length ≤ start) :
    (memory.blit target cells).slice start length = memory.slice start length := by
  apply slice_congr
  intro index within
  rcases disjoint with before | after
  · exact blit_of_lt memory cells (by omega)
  · exact blit_of_ge memory cells (by omega)

/-! ## Circular windows -/

/-- The `length` cells from `start` on, in an array of `size` cells whose last
cell is followed by its first one. -/
def window (memory : Memory α) (size start length : ℕ) : List α :=
  (List.range length).map fun index => memory ((start + index) % size)

@[simp] theorem length_window (memory : Memory α) (size start length : ℕ) :
    (memory.window size start length).length = length := by
  simp [window]

@[simp] theorem window_zero (memory : Memory α) (size start : ℕ) :
    memory.window size start 0 = [] := rfl

/-- A window starting one or more turns later is the same window. -/
@[simp] theorem window_mod (memory : Memory α) (size start length : ℕ) :
    memory.window size (start % size) length = memory.window size start length := by
  simp [window, Nat.mod_add_mod]

/-- Adjacent windows concatenate. -/
theorem window_add (memory : Memory α) (size start first second : ℕ) :
    memory.window size start (first + second) =
      memory.window size start first ++ memory.window size (start + first) second := by
  simp [window, List.range_add, Function.comp_def, Nat.add_assoc]

/-- Two memories that agree on the cells of a window have the same window. -/
theorem window_congr {first second : Memory α} {size start length : ℕ}
    (agree : ∀ index < length,
      first ((start + index) % size) = second ((start + index) % size)) :
    first.window size start length = second.window size start length := by
  apply List.map_congr_left
  intro index member
  exact agree index (List.mem_range.mp member)

/-- A window that stays before the end of the array is a block. -/
theorem window_eq_slice (memory : Memory α) {size start length : ℕ}
    (within : start + length ≤ size) :
    memory.window size start length = memory.slice start length := by
  apply List.map_congr_left
  intro index member
  rw [Nat.mod_eq_of_lt (by have := List.mem_range.mp member; omega)]

/-- A window that reaches the end of the array is the block up to the end
followed by a block from the start. -/
theorem window_eq_slice_append (memory : Memory α) {size start length : ℕ}
    (inside : start ≤ size) (reaches : size ≤ start + length)
    (once : start + length ≤ size + size) :
    memory.window size start length =
      memory.slice start (size - start) ++ memory.slice 0 (start + length - size) := by
  have split : length = (size - start) + (start + length - size) := by omega
  have turn : start + (size - start) = size := by omega
  conv_lhs => rw [split]
  rw [window_add, turn, ← window_mod memory size size, Nat.mod_self,
    window_eq_slice memory (by omega), window_eq_slice memory (by omega)]

/-- Overwrite cells from `start` on, continuing at the first cell of the array
when its end is reached. -/
def wrapBlit (memory : Memory α) (size start : ℕ) (cells : List α) : Memory α :=
  if size < start + cells.length then
    (memory.blit start (cells.take (size - start))).blit 0 (cells.drop (size - start))
  else
    memory.blit start cells

/-- A circular write that stays before the end of the array is one block. -/
theorem wrapBlit_of_le (memory : Memory α) {size start : ℕ} {cells : List α}
    (straight : start + cells.length ≤ size) :
    memory.wrapBlit size start cells = memory.blit start cells := by
  rw [wrapBlit, if_neg (Nat.not_lt.mpr straight)]

/-- A circular write that passes the end of the array is two blocks. -/
theorem wrapBlit_of_lt (memory : Memory α) {size start : ℕ} {cells : List α}
    (wraps : size < start + cells.length) :
    memory.wrapBlit size start cells =
      (memory.blit start (cells.take (size - start))).blit 0 (cells.drop (size - start)) := by
  rw [wrapBlit, if_pos wraps]

/-- Two circular writes, one behind the other, are one circular write. -/
theorem wrapBlit_append (memory : Memory α) {size start : ℕ} {first second : List α}
    (inside : start < size) (fits : first.length + second.length ≤ size)
    (nonempty : 0 < second.length) :
    (memory.wrapBlit size start first).wrapBlit size ((start + first.length) % size) second =
      memory.wrapBlit size start (first ++ second) := by
  have total : (first ++ second).length = first.length + second.length := List.length_append
  rcases Nat.lt_or_ge (start + first.length) size with before | reaches
  · have place : (start + first.length) % size = start + first.length := Nat.mod_eq_of_lt before
    rw [place, wrapBlit_of_le memory (Nat.le_of_lt before)]
    by_cases wraps : size < start + first.length + second.length
    · have front : (first ++ second).take (size - start) =
          first ++ second.take (size - (start + first.length)) := by
        rw [List.take_append, List.take_of_length_le (by omega), Nat.sub_sub]
      have back : (first ++ second).drop (size - start) =
          second.drop (size - (start + first.length)) := by
        rw [List.drop_append, List.drop_eq_nil_of_le (by omega), Nat.sub_sub, List.nil_append]
      rw [wrapBlit_of_lt _ wraps, wrapBlit_of_lt memory (by omega), front, back,
        blit_blit_append memory _ _ rfl]
    · rw [wrapBlit_of_le _ (by omega), wrapBlit_of_le memory (by omega),
        blit_blit_append memory _ _ rfl]
  · have place : (start + first.length) % size = start + first.length - size := by
      rw [Nat.mod_eq_sub_mod reaches, Nat.mod_eq_of_lt (by omega)]
    have front : (first ++ second).take (size - start) = first.take (size - start) :=
      List.take_append_of_le_length (by omega)
    have back : (first ++ second).drop (size - start) = first.drop (size - start) ++ second :=
      List.drop_append_of_le_length (by omega)
    have whole : size < start + (first ++ second).length := by omega
    rw [place, wrapBlit_of_le _ (by omega), wrapBlit_of_lt memory whole, front, back]
    by_cases wraps : size < start + first.length
    · have behind : start + first.length - size = 0 + (first.drop (size - start)).length := by
        rw [List.length_drop]
        omega
      rw [wrapBlit_of_lt memory wraps, blit_blit_append _ _ _ behind]
    · -- the first write ends exactly at the end of the array
      have exact : size - start = first.length := by omega
      rw [wrapBlit_of_le memory (by omega), exact, List.take_length, List.drop_length,
        List.nil_append, show start + first.length - size = 0 by omega]

/-- The cell `offset` places after the start of a circular write holds the
written cell of that number, or what it held before. -/
theorem wrapBlit_apply (memory : Memory α) {size start offset : ℕ} {cells : List α}
    (inside : start < size) (fits : cells.length ≤ size) (turn : offset < size) :
    memory.wrapBlit size start cells ((start + offset) % size) =
      (cells[offset]?).getD (memory ((start + offset) % size)) := by
  unfold wrapBlit
  by_cases high : start + offset < size
  · rw [Nat.mod_eq_of_lt high]
    split
    · next wraps =>
        rw [blit_of_ge _ _ (by simp; omega), blit_of_mem _ _ (by omega) (by simp; omega)]
        simp [List.getElem?_eq_getElem (show offset < cells.length by omega)]
    · simp [blit]
  · have position : (start + offset) % size = start + offset - size := by
      rw [Nat.mod_eq_sub_mod (by omega), Nat.mod_eq_of_lt (by omega)]
    rw [position]
    split
    · next wraps =>
        have drop : size - start + (start + offset - size) = offset := by omega
        by_cases written : offset < cells.length
        · rw [blit_of_mem _ _ (by omega) (by simp; omega)]
          simp [drop, List.getElem?_eq_getElem written]
        · rw [blit_of_ge _ _ (by simp; omega), blit_of_lt _ _ (by omega)]
          simp [List.getElem?_eq_none (Nat.le_of_not_lt written)]
    · next straight =>
        rw [blit_of_lt _ _ (by omega), List.getElem?_eq_none (by omega), Option.getD_none]

/-- A circular write changes no cell but those it goes over. -/
theorem wrapBlit_of_not_mem (memory : Memory α) {size start index : ℕ} {cells : List α}
    (inside : start < size) (fits : cells.length ≤ size)
    (outside : ∀ offset < cells.length, index ≠ (start + offset) % size) :
    memory.wrapBlit size start cells index = memory index := by
  rcases Nat.lt_or_ge index size with within | beyond
  · have place : index = (start + (index + (size - start)) % size) % size := by
      rw [Nat.add_mod_mod, show start + (index + (size - start)) = index + size by omega,
        Nat.add_mod_right, Nat.mod_eq_of_lt within]
    have turn : (index + (size - start)) % size < size := Nat.mod_lt _ (by omega)
    have unwritten : cells.length ≤ (index + (size - start)) % size :=
      Nat.not_lt.mp fun written => outside _ written place
    rw [place, wrapBlit_apply memory inside fits turn, List.getElem?_eq_none unwritten,
      Option.getD_none]
  · unfold wrapBlit
    split
    · rw [blit_of_ge _ _ (by rw [List.length_drop]; omega),
        blit_of_ge _ _ (by rw [List.length_take]; omega)]
    · rw [blit_of_ge _ _ (by omega)]

/-- A circular write reads back as what was written. -/
theorem window_wrapBlit (memory : Memory α) {size start : ℕ} {cells : List α}
    (inside : start < size) (fits : cells.length ≤ size) :
    (memory.wrapBlit size start cells).window size start cells.length = cells := by
  apply List.ext_getElem
  · simp
  · intro index _ within
    simp only [window, List.getElem_map, List.getElem_range]
    rw [wrapBlit_apply memory inside fits (by omega), List.getElem?_eq_getElem within,
      Option.getD_some]

/-- The cells before a circular write keep what they held, as long as the write
does not reach them after a full turn. -/
theorem window_wrapBlit_before (memory : Memory α) {size first length : ℕ} {cells : List α}
    (positive : 0 < size) (room : length + cells.length ≤ size) :
    (memory.wrapBlit size ((first + length) % size) cells).window size first length =
      memory.window size first length := by
  apply window_congr
  intro index within
  have place : (first + index) % size =
      ((first + length) % size + (size - length + index)) % size := by
    rw [Nat.mod_add_mod, show first + length + (size - length + index) =
      first + index + size by omega, Nat.add_mod_right]
  rw [place, wrapBlit_apply memory (Nat.mod_lt _ positive) (by omega) (by omega),
    List.getElem?_eq_none (by omega), Option.getD_none]

end Memory

end TcpStack.Lib
