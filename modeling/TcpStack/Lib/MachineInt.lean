import Mathlib.Algebra.Ring.Nat
import Mathlib.Algebra.Ring.Int.Defs

/-!
# Machine integers

Unsigned machine integers are bit vectors. A signed 32-bit `int` is an integer
reduced to the range `[-2^31, 2^31)` after every operation; the reduction is
`int32`, and it changes nothing in range (`int32_eq_self`). The remainder of
two such integers rounds towards zero, as `Int.tmod` does.
-/

set_option autoImplicit false

namespace TcpStack.Lib

/-- An unsigned byte. -/
abbrev U8 := BitVec 8

/-- An unsigned 16-bit integer. -/
abbrev U16 := BitVec 16

/-- An unsigned 32-bit integer. -/
abbrev U32 := BitVec 32

/-- The value of an `int` operation whose mathematical result is `value`. -/
def int32 (value : ℤ) : ℤ := Int.bmod value (2 ^ 32)

/-- A result in range is kept. -/
theorem int32_eq_self {value : ℤ} (lower : -2 ^ 31 ≤ value) (upper : value < 2 ^ 31) :
    int32 value = value := by
  apply Int.bmod_eq_of_le
  · omega
  · omega

/-- The remainder of a non-negative number below twice the divisor. -/
theorem tmod_of_lt_two_mul {value divisor : ℤ} (lower : 0 ≤ value)
    (upper : value < divisor + divisor) :
    Int.tmod value divisor = if value < divisor then value else value - divisor := by
  rw [Int.tmod_eq_emod_of_nonneg lower]
  split
  · next small => exact Int.emod_eq_of_lt lower small
  · next large =>
      rw [← Int.sub_emod_right, Int.emod_eq_of_lt (by omega) (by omega)]

end TcpStack.Lib
