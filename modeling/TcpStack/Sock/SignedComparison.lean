import TcpStack.Sock.Window
import TcpStack.Lib.Logged

/-!
# The subtractions of the sequence test

The comparisons of `tcp.h` cast both sequence numbers to `int32_t` and subtract
then. `is_tcp_seq_valid` once more, with a log of these differences before they
are brought into the range of `int32_t`: the second one is formed only if the first
comparison holds.

C gives the comparison no meaning when a difference is out of that range. For a
segment at the receive window this depends on where the window lies: each
difference fits as long as `2^31` does not lie between its operands
(`seq_differences_fit_iff`), whatever happens at the wrap from `2^32 - 1` to
zero.
-/

set_option autoImplicit false

namespace TcpStack

open Lib

/-! ## Steps -/

/-- A comparison, with the differences it forms. -/
abbrev Comparing := Logged ℤ Unit Empty

/-- `(int32_t)(a) - (int32_t)(b)`. -/
def int32Difference (a b : U32) : Comparing ℤ := do
  Logged.event (a.toInt - b.toInt)
  pure (int32 (a.toInt - b.toInt))

/-- `less_or_equal_32b`. -/
def lessOrEqual32bSteps (a b : U32) : Comparing Bool := do
  let difference ← int32Difference a b
  pure (decide (difference ≤ 0))

/-- `less_than_32b`. -/
def lessThan32bSteps (a b : U32) : Comparing Bool := do
  let difference ← int32Difference a b
  pure (decide (difference < 0))

/-- The end of the receive window. -/
def TcpSock.rcvEnd (tsk : TcpSock) : U32 :=
  tsk.rcvNxt + (if tsk.rcvWnd > 1 then tsk.rcvWnd.setWidth 32 else 1)

/-- `is_tcp_seq_valid`. -/
def isTcpSeqValidSteps (tsk : TcpSock) (cb : TcpCb) : Comparing Bool := do
  let before ← lessThan32bSteps cb.seq tsk.rcvEnd
  if before = true then lessOrEqual32bSteps tsk.rcvNxt cb.seqEnd else pure false

/-- The difference brought into range is the signed value of the difference of
the words. -/
theorem int32_toInt_sub (a b : U32) : int32 (a.toInt - b.toInt) = (a - b).toInt :=
  BitVec.toInt_sub.symm

/-- **The steps are those of `is_tcp_seq_valid`.** -/
theorem isTcpSeqValidSteps_run (tsk : TcpSock) (cb : TcpCb) :
    isTcpSeqValidSteps tsk cb () =
      ((cb.seq.toInt - tsk.rcvEnd.toInt) ::
          (if lessThan32b cb.seq tsk.rcvEnd = true then [tsk.rcvNxt.toInt - cb.seqEnd.toInt]
            else []),
        .ok (isTcpSeqValid tsk cb, ())) := by
  have first : lessThan32bSteps cb.seq tsk.rcvEnd () =
      ([cb.seq.toInt - tsk.rcvEnd.toInt], .ok (lessThan32b cb.seq tsk.rcvEnd, ())) := by
    rw [lessThan32b, ← int32_toInt_sub]
    rfl
  have second : lessOrEqual32bSteps tsk.rcvNxt cb.seqEnd () =
      ([tsk.rcvNxt.toInt - cb.seqEnd.toInt], .ok (lessOrEqual32b tsk.rcvNxt cb.seqEnd, ())) := by
    rw [lessOrEqual32b, ← int32_toInt_sub]
    rfl
  rw [isTcpSeqValidSteps, Logged.bind_of_ok first]
  have valid : isTcpSeqValid tsk cb =
      (lessThan32b cb.seq tsk.rcvEnd && lessOrEqual32b tsk.rcvNxt cb.seqEnd) := rfl
  rw [valid]
  cases lessThan32b cb.seq tsk.rcvEnd with
  | true => rw [if_pos rfl, if_pos rfl, second, Bool.true_and]; rfl
  | false => rw [if_neg Bool.false_ne_true, if_neg Bool.false_ne_true, Bool.false_and]; rfl

/-! ## When the differences fit -/

/-- The value is one of type `int32_t`. -/
def FitsInt32 (value : ℤ) : Prop := -2147483648 ≤ value ∧ value ≤ 2147483647

instance (value : ℤ) : Decidable (FitsInt32 value) := inferInstanceAs (Decidable (_ ∧ _))

/-- `2^31` lies between the two numbers, on the shorter way round the circle. -/
def SignBetween (a b : U32) : Prop := Straddles a b ∨ Straddles b a

instance (a b : U32) : Decidable (SignBetween a b) := inferInstanceAs (Decidable (_ ∨ _))

/-- Numbers less than half a circle apart. -/
theorem fitsInt32_iff {a b : U32} (apart : (b - a).toNat ≠ 2147483648) :
    FitsInt32 (a.toInt - b.toInt) ↔ ¬ SignBetween a b := by
  have fits := toInt_sub_toInt_fits_iff (w := 31) apart
  rw [SignBetween, not_or, ← fits, FitsInt32]
  constructor
  · rintro ⟨lower, upper⟩
    exact ⟨lower, Int.lt_of_le_sub_one upper⟩
  · rintro ⟨lower, upper⟩
    exact ⟨lower, Int.le_sub_one_of_lt upper⟩

/-- The segment overlaps the receive window as far as a segment of this stack can:
it starts at most 65536 numbers before the window and not behind its end, and
has at most 65536 numbers. -/
structure TcpCb.AtWindow (cb : TcpCb) (tsk : TcpSock) : Prop where
  near : (cb.seq - (tsk.rcvNxt - 65536)).toNat ≤ 65536 + tsk.rcvWnd.toNat
  short : (cb.seqEnd - cb.seq).toNat ≤ 65536

section AtWindow

variable {tsk : TcpSock} {cb : TcpCb} (atWindow : cb.AtWindow tsk)
include atWindow

/-- The start of the segment is shortly before the end of the window, or at it. -/
theorem toNat_rcvEnd_sub_seq : (tsk.rcvEnd - cb.seq).toNat =
    65536 + tsk.window - (cb.seq - (tsk.rcvNxt - 65536)).toNat := by
  have near := atWindow.near
  have width := tsk.toNat_window
  have bound := tsk.window_lt
  have wide : tsk.rcvWnd.toNat ≤ tsk.window := Nat.le_max_left _ _
  rw [TcpSock.rcvEnd]
  generalize (if tsk.rcvWnd > 1 then tsk.rcvWnd.setWidth 32 else (1 : U32)) = window at width ⊢
  have turned : tsk.rcvNxt + window - cb.seq =
      (65536 + window) - (cb.seq - (tsk.rcvNxt - 65536)) := by grind
  have length : ((65536 : U32) + window).toNat = 65536 + tsk.window := by
    have constant : (65536 : U32).toNat = 65536 := rfl
    rw [BitVec.toNat_add_of_lt (by omega), width, constant]
  rw [turned, BitVec.toNat_sub_of_le (BitVec.le_def.mpr (by omega)), length]

/-- The end of the segment is not half a circle away from the start of the
window. -/
theorem seqEnd_sub_rcvNxt_ne_half : (cb.seqEnd - tsk.rcvNxt).toNat ≠ 2147483648 := by
  obtain ⟨near, short⟩ := atWindow
  have bound := tsk.rcvWnd.isLt
  bv_omega

/-- The first comparison holds unless the segment starts at the end of the
window. -/
theorem lessThan32b_rcvEnd_iff : lessThan32b cb.seq tsk.rcvEnd = true ↔ cb.seq ≠ tsk.rcvEnd := by
  have distance := toNat_rcvEnd_sub_seq atWindow
  have bound := tsk.window_lt
  rw [lessThan32b, decide_eq_true_iff, sub_toInt_neg_iff, ne_comm, Ne, ← toNat_sub_eq_zero_iff]
  constructor
  · rintro ⟨positive, _⟩
    exact Nat.ne_of_gt positive
  · intro different
    exact ⟨Nat.pos_of_ne_zero different, by omega⟩

end AtWindow

/-- **Each subtraction of the sequence test fits exactly when `2^31` does not lie
between its operands.** For every segment at the receive window: the first
difference is that of the start of the segment and the end of the window, and
the second one, formed unless these are equal, that of the start of the window
and the end of the segment. -/
theorem seq_differences_fit_iff (tsk : TcpSock) (cb : TcpCb) (atWindow : cb.AtWindow tsk) :
    (∀ difference ∈ (isTcpSeqValidSteps tsk cb).log (), FitsInt32 difference) ↔
      ¬ SignBetween cb.seq tsk.rcvEnd ∧
        (cb.seq ≠ tsk.rcvEnd → ¬ SignBetween tsk.rcvNxt cb.seqEnd) := by
  have bound := tsk.window_lt
  have firstApart : (tsk.rcvEnd - cb.seq).toNat ≠ 2147483648 := by
    rw [toNat_rcvEnd_sub_seq atWindow]
    omega
  have log : (isTcpSeqValidSteps tsk cb).log () =
      (cb.seq.toInt - tsk.rcvEnd.toInt) ::
        (if lessThan32b cb.seq tsk.rcvEnd = true then [tsk.rcvNxt.toInt - cb.seqEnd.toInt]
          else []) := congrArg Prod.fst (isTcpSeqValidSteps_run tsk cb)
  rw [log, List.forall_mem_cons, fitsInt32_iff firstApart,
    ← fitsInt32_iff (seqEnd_sub_rcvNxt_ne_half atWindow)]
  refine and_congr_right fun _ => ?_
  by_cases ahead : cb.seq ≠ tsk.rcvEnd
  · rw [if_pos ((lessThan32b_rcvEnd_iff atWindow).mpr ahead), List.forall_mem_singleton,
      imp_iff_right ahead]
  · rw [if_neg fun less => ahead ((lessThan32b_rcvEnd_iff atWindow).mp less)]
    exact ⟨fun _ different => absurd different ahead, fun _ => by simp⟩

/-- A window at zero: the segment starts before `2^32` and ends behind zero, and
both differences fit. -/
theorem seq_differences_fit_wrapping :
    ({ segmentWith tcpAck 0xfffffff0 with seqEnd := 1 } : TcpCb).AtWindow zeroedSock ∧
      ∀ difference ∈ (isTcpSeqValidSteps zeroedSock
        { segmentWith tcpAck 0xfffffff0 with seqEnd := 1 }).log (), FitsInt32 difference := by
  have atWindow :
      ({ segmentWith tcpAck 0xfffffff0 with seqEnd := 1 } : TcpCb).AtWindow zeroedSock :=
    ⟨by decide, by decide⟩
  exact ⟨atWindow, (seq_differences_fit_iff _ _ atWindow).mpr ⟨by decide, fun _ => by decide⟩⟩

/-- **A difference overflows at `2^31`**: the next segment in order, with a window
that starts 16 numbers before `2^31`. -/
theorem seq_difference_overflows :
    ¬ ∀ (tsk : TcpSock) (cb : TcpCb), cb.AtWindow tsk →
      ∀ difference ∈ (isTcpSeqValidSteps tsk cb).log (), FitsInt32 difference := by
  intro fits
  have first := fits { zeroedSock with rcvNxt := 0x7ffffff0 } (segmentWith tcpAck 0x7ffffff0)
    ⟨by decide, by decide⟩ _ (by rw [Logged.log, isTcpSeqValidSteps_run]; exact List.mem_cons_self)
  exact absurd first (by decide)

end TcpStack
