import TcpStack.Lib.Memory
import TcpStack.Lib.MachineInt
import Mathlib.Tactic.IntervalCases

/-!
# Integers in memory

Loads and stores of 16-bit and 32-bit integers in a byte memory on a
little-endian host, and the exchange of byte order between host and network. A
load returns what was stored (`load16_store16`), a store elsewhere does not
matter, and exchanging the bytes twice changes nothing.
-/

set_option autoImplicit false

namespace TcpStack.Lib

/-- The bytes of a 16-bit integer, the least significant one first. -/
def bytes16 (value : U16) : List U8 := [value.extractLsb' 0 8, value.extractLsb' 8 8]

/-- The bytes of a 32-bit integer, the least significant one first. -/
def bytes32 (value : U32) : List U8 :=
  [value.extractLsb' 0 8, value.extractLsb' 8 8, value.extractLsb' 16 8, value.extractLsb' 24 8]

/-- Exchange of byte order of a 16-bit integer. -/
def htons (value : U16) : U16 := value.extractLsb' 0 8 ++ value.extractLsb' 8 8

/-- Exchange of byte order of a 32-bit integer. -/
def htonl (value : U32) : U32 :=
  value.extractLsb' 0 8 ++ value.extractLsb' 8 8 ++ value.extractLsb' 16 8 ++
    value.extractLsb' 24 8

/-- The exchange from network to host order is the same operation. -/
abbrev ntohs (value : U16) : U16 := htons value

/-- The exchange from network to host order is the same operation. -/
abbrev ntohl (value : U32) : U32 := htonl value

@[simp] theorem htons_htons (value : U16) : htons (htons value) = value := by
  apply BitVec.eq_of_getLsbD_eq
  intro index within
  simp only [htons, BitVec.getLsbD_append, BitVec.getLsbD_extractLsb']
  interval_cases index <;> simp

@[simp] theorem htonl_htonl (value : U32) : htonl (htonl value) = value := by
  apply BitVec.eq_of_getLsbD_eq
  intro index within
  simp only [htonl, BitVec.getLsbD_append, BitVec.getLsbD_extractLsb']
  interval_cases index <;> simp

/-- An integer is put together from its bytes. -/
theorem append_bytes16 (value : U16) :
    value.extractLsb' 8 8 ++ value.extractLsb' 0 8 = value := by
  apply BitVec.eq_of_getLsbD_eq
  intro index within
  simp only [BitVec.getLsbD_append, BitVec.getLsbD_extractLsb']
  interval_cases index <;> simp

/-- An integer is put together from its bytes. -/
theorem append_bytes32 (value : U32) :
    value.extractLsb' 24 8 ++ value.extractLsb' 16 8 ++ value.extractLsb' 8 8 ++
      value.extractLsb' 0 8 = value := by
  apply BitVec.eq_of_getLsbD_eq
  intro index within
  simp only [BitVec.getLsbD_append, BitVec.getLsbD_extractLsb']
  interval_cases index <;> simp

/-- The value of two bytes put together. -/
theorem toNat_append8 {width : ℕ} (upper : BitVec width) (lower : U8) :
    (upper ++ lower).toNat = 256 * upper.toNat + lower.toNat := by
  rw [BitVec.toNat_append, ← Nat.shiftLeft_add_eq_or_of_lt lower.isLt, Nat.shiftLeft_eq,
    Nat.mul_comm]

/-- The bytes of an integer are its digits to the base 256. -/
theorem bytes16_eq (value : U16) :
    bytes16 value = [BitVec.ofNat 8 (value.toNat % 256), BitVec.ofNat 8 (value.toNat / 256)] := by
  have low : value.extractLsb' 0 8 = BitVec.ofNat 8 (value.toNat % 256) := by
    apply BitVec.eq_of_toNat_eq
    rw [BitVec.extractLsb'_toNat, Nat.shiftRight_zero, BitVec.toNat_ofNat, Nat.mod_mod]
  have high : value.extractLsb' 8 8 = BitVec.ofNat 8 (value.toNat / 256) := by
    apply BitVec.eq_of_toNat_eq
    rw [BitVec.extractLsb'_toNat, Nat.shiftRight_eq_div_pow, BitVec.toNat_ofNat]
  rw [bytes16, low, high]

/-- The value of an integer whose bytes are exchanged. -/
theorem toNat_htons (value : U16) :
    (htons value).toNat = 256 * (value.toNat % 256) + value.toNat / 256 := by
  have bound := value.isLt
  rw [htons, toNat_append8, BitVec.extractLsb'_toNat, BitVec.extractLsb'_toNat,
    Nat.shiftRight_zero, Nat.shiftRight_eq_div_pow]
  omega

namespace Memory

variable (memory : Memory U8)

/-- The 16-bit integer at an offset. -/
def load16 (start : ℕ) : U16 := memory (start + 1) ++ memory start

/-- The 32-bit integer at an offset. -/
def load32 (start : ℕ) : U32 :=
  memory (start + 3) ++ memory (start + 2) ++ memory (start + 1) ++ memory start

/-- Store a 16-bit integer. -/
def store16 (start : ℕ) (value : U16) : Memory U8 := memory.blit start (bytes16 value)

/-- Store a 32-bit integer. -/
def store32 (start : ℕ) (value : U32) : Memory U8 := memory.blit start (bytes32 value)

theorem toNat_load16 (start : ℕ) :
    (memory.load16 start).toNat = 256 * (memory (start + 1)).toNat + (memory start).toNat :=
  toNat_append8 _ _

/-- A 32-bit integer is read as two 16-bit ones, the lower one first. -/
theorem toNat_load32 (start : ℕ) : (memory.load32 start).toNat =
    65536 * (memory.load16 (start + 2)).toNat + (memory.load16 start).toNat := by
  rw [load32, toNat_append8, toNat_append8, toNat_append8, toNat_load16, toNat_load16,
    Nat.add_assoc start 2 1]
  omega

theorem load16_congr {memory other : Memory U8} {start : ℕ} (low : memory start = other start)
    (high : memory (start + 1) = other (start + 1)) : memory.load16 start = other.load16 start := by
  rw [load16, load16, low, high]

theorem load32_congr {memory other : Memory U8} {start : ℕ}
    (same : ∀ index < 4, memory (start + index) = other (start + index)) :
    memory.load32 start = other.load32 start := by
  have first := same 0 (by decide)
  rw [Nat.add_zero] at first
  rw [load32, load32, first, same 1 (by decide), same 2 (by decide), same 3 (by decide)]

/-- A byte outside the integer stored is not affected. -/
theorem store16_of_ne {start index : ℕ} (value : U16)
    (outside : index < start ∨ start + 2 ≤ index) :
    memory.store16 start value index = memory index := by
  rcases outside with before | after
  · exact blit_of_lt _ _ before
  · exact blit_of_ge _ _ (by simpa [bytes16] using after)

/-- A later store to the same place replaces an earlier one. -/
theorem store16_store16 (start : ℕ) (first second : U16) :
    (memory.store16 start first).store16 start second = memory.store16 start second := by
  funext index
  by_cases inside : start ≤ index ∧ index < start + 2
  · have short : index - start < 2 := by omega
    simp only [store16, bytes16, blit, inside.1, if_true]
    rw [List.getElem?_eq_getElem (by simpa using short), Option.getD_some, Option.getD_some]
  · rw [store16_of_ne _ _ (by omega), store16_of_ne _ _ (by omega), store16_of_ne _ _ (by omega)]

/-- Two adjacent bytes that hold the bytes of an integer. -/
theorem load16_eq {start : ℕ} {value : U16} (low : memory start = value.extractLsb' 0 8)
    (high : memory (start + 1) = value.extractLsb' 8 8) : memory.load16 start = value := by
  rw [load16, low, high]
  exact append_bytes16 value

/-- Four adjacent bytes that hold the bytes of an integer. -/
theorem load32_eq {start : ℕ} {value : U32} (first : memory start = value.extractLsb' 0 8)
    (second : memory (start + 1) = value.extractLsb' 8 8)
    (third : memory (start + 2) = value.extractLsb' 16 8)
    (fourth : memory (start + 3) = value.extractLsb' 24 8) : memory.load32 start = value := by
  rw [load32, first, second, third, fourth]
  exact append_bytes32 value

@[simp] theorem load16_store16 (start : ℕ) (value : U16) :
    (memory.store16 start value).load16 start = value := by
  apply load16_eq <;> simp [store16, bytes16, blit]

/-- Storing what is there changes nothing. -/
theorem store16_load16 (start : ℕ) : memory.store16 start (memory.load16 start) = memory := by
  have low : (memory.load16 start).extractLsb' 0 8 = memory start := by
    apply BitVec.eq_of_getLsbD_eq
    intro index within
    simp only [BitVec.getLsbD_extractLsb', load16, BitVec.getLsbD_append]
    simp [within]
  have high : (memory.load16 start).extractLsb' 8 8 = memory (start + 1) := by
    apply BitVec.eq_of_getLsbD_eq
    intro index within
    simp only [BitVec.getLsbD_extractLsb', load16, BitVec.getLsbD_append]
    simp [within]
  funext index
  rw [store16, bytes16, low, high]
  by_cases first : index = start
  · simp [blit, first]
  · by_cases second : index = start + 1
    · simp [blit, second]
    · by_cases before : index < start
      · exact blit_of_lt _ _ before
      · exact blit_of_ge _ _ (by simp; omega)

end Memory

end TcpStack.Lib
