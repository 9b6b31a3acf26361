import TcpStack.Packet.Header
import TcpStack.Lib.OnesComplement
import Mathlib.Algebra.BigOperators.Group.Finset.Basic
import Mathlib.Algebra.Order.Ring.Nat

/-!
# The Internet checksum

RFC 1071 sums the big-endian words of a block with end-around carries, an odd
last byte being padded with zero, and takes the complement. `checksum` sums the
words as a little-endian host reads them, in 32 bits, folds the sum twice and
then adds the odd byte.

What `checksum` returns is given for every block and every initial sum by
`checksum_toNat`. As long as the accumulator does not wrap around, the order of
the bytes makes no difference. The odd byte does: it is added after the folds,
so a carry out of that addition is lost, and this is the only way in which
`checksum` misses the Internet checksum (`checksum_eq_rfc1071_iff`). Headers
have an even length, and a header sealed with `ip_checksum` verifies
(`ipChecksum_seals`).
-/

set_option autoImplicit false

namespace TcpStack

open Lib

/-! ## RFC 1071 -/

/-- The big-endian words of a block of bytes, an odd last byte padded with zero. -/
def networkWords : List U8 → List ℕ
  | [] => []
  | [last] => [last.toNat * 256]
  | high :: low :: rest => (high.toNat * 256 + low.toNat) :: networkWords rest

/-- The sum of a block with end-around carries. -/
def rfc1071Sum (bytes : List U8) : ℕ := endAroundSum 65536 (networkWords bytes)

/-- The two bytes of a 16-bit number in network byte order. -/
def networkBytes (value : ℕ) : List U8 :=
  [BitVec.ofNat 8 (value / 256), BitVec.ofNat 8 (value % 256)]

/-- The checksum of a block as it stands in a packet. -/
def rfc1071Checksum (bytes : List U8) : List U8 := networkBytes (65535 - rfc1071Sum bytes)

theorem networkWords_le (bytes : List U8) : ∀ word ∈ networkWords bytes, word ≤ 65536 - 1 := by
  induction bytes using networkWords.induct with
  | case1 => simp [networkWords]
  | case2 last =>
      intro word member
      rw [networkWords, List.mem_singleton] at member
      have := last.isLt
      omega
  | case3 high low rest ih =>
      intro word member
      rw [networkWords, List.mem_cons] at member
      rcases member with rfl | later
      · have := high.isLt
        have := low.isLt
        omega
      · exact ih word later

theorem rfc1071Sum_eq (bytes : List U8) :
    rfc1071Sum bytes = representative 65535 (networkWords bytes).sum :=
  endAroundSum_eq (by decide) (networkWords_le bytes)

/-! ## Byte order -/

/-- The words of a block of bytes as a little-endian host reads them. -/
def hostWords : List U8 → List ℕ
  | [] => []
  | [last] => [last.toNat]
  | low :: high :: rest => (256 * high.toNat + low.toNat) :: hostWords rest

/-- Read in the other byte order, the sum of a block is multiplied by 256, up to
multiples of 65535. -/
theorem networkWords_hostWords (bytes : List U8) :
    ∃ turns ≤ (networkWords bytes).sum,
      256 * (hostWords bytes).sum = (networkWords bytes).sum + 65535 * turns := by
  induction bytes using networkWords.induct with
  | case1 => exact ⟨0, by simp [networkWords, hostWords]⟩
  | case2 last => exact ⟨0, by simp [networkWords, hostWords, Nat.mul_comm]⟩
  | case3 high low rest ih =>
      obtain ⟨turns, bound, scaled⟩ := ih
      rw [networkWords, hostWords, List.sum_cons, List.sum_cons]
      exact ⟨low.toNat + turns, by omega, by omega⟩

/-- **The sum of RFC 1071 is the sum over the words as the host reads them, its
bytes exchanged.** -/
theorem rfc1071Sum_eq_swap (bytes : List U8) :
    rfc1071Sum bytes = swapHalves 256 (representative 65535 (hostWords bytes).sum) := by
  obtain ⟨turns, bound, scaled⟩ := networkWords_hostWords bytes
  have same : representative 65535 (networkWords bytes).sum =
      representative 65535 (256 * (hostWords bytes).sum) := by
    apply representative_eq_iff.mpr
    rw [scaled]
    refine ⟨?_, by omega⟩
    rw [Nat.ModEq, Nat.add_mul_mod_self_left]
  rw [rfc1071Sum_eq, same, ← representative_mul_right]
  exact representative_swap 256 (by decide) (representative_le (by decide) _)

/-- The bytes of a value as the host stores it are the network bytes of the
value with its halves exchanged. -/
theorem bytes16_eq_networkBytes {value : U16} {number : ℕ} (small : number ≤ 65535) :
    bytes16 value = networkBytes (65535 - swapHalves 256 number) ↔
      value.toNat = 65535 - number := by
  have bound : 65535 - number < 256 * 256 := by omega
  have complement : swapHalves 256 (65535 - number) = 65535 - swapHalves 256 number :=
    swapHalves_complement 256 (by decide) small
  rw [← complement, bytes16_eq, networkBytes, swapHalves_div 256 bound, swapHalves_mod 256 bound]
  constructor
  · intro same
    rw [List.cons.injEq, List.cons.injEq] at same
    have first := congrArg BitVec.toNat same.1
    have second := congrArg BitVec.toNat same.2.1
    rw [BitVec.toNat_ofNat, BitVec.toNat_ofNat] at first second
    have := value.isLt
    omega
  · intro same
    rw [same]

/-! ## What the program sums -/

section Sums

variable (packet : Memory U8) (buf : ℕ)

/-- The sum of the first words at `buf`, as the host reads them. -/
def wordSum (count : ℕ) : ℕ :=
  ∑ index ∈ Finset.range count, (packet.load16 (buf + 2 * index)).toNat

/-- The last byte of a block of odd length. -/
def oddByte (nbytes : ℕ) : ℕ :=
  if nbytes % 2 ≠ 0 then (packet (buf + (nbytes - 1))).toNat else 0

theorem oddByte_lt (nbytes : ℕ) : oddByte packet buf nbytes < 256 := by
  unfold oddByte
  split
  · exact (packet (buf + (nbytes - 1))).isLt
  · decide

@[simp] theorem wordSum_zero : wordSum packet buf 0 = 0 := rfl

theorem wordSum_succ (count : ℕ) : wordSum packet buf (count + 1) =
    wordSum packet buf count + (packet.load16 (buf + 2 * count)).toNat :=
  Finset.sum_range_succ _ _

theorem wordSum_le (count : ℕ) : wordSum packet buf count ≤ count * 65535 := by
  induction count with
  | zero => simp
  | succ count ih =>
      have word := (packet.load16 (buf + 2 * count)).isLt
      rw [wordSum_succ]
      omega

/-- The loop of `checksum` adds the words, in 32 bits. -/
theorem accumulate_toNat (count : ℕ) (sum : U32) :
    ((List.range count).foldl
      (fun sum i => sum + (packet.load16 (buf + 2 * i)).setWidth 32) sum).toNat =
        (sum.toNat + wordSum packet buf count) % 4294967296 := by
  induction count with
  | zero =>
      rw [List.range_zero, List.foldl_nil, wordSum_zero, Nat.add_zero]
      exact (Nat.mod_eq_of_lt sum.isLt).symm
  | succ count ih =>
      have word : (packet.load16 (buf + 2 * count)).toNat < 2 ^ 32 := by
        have := (packet.load16 (buf + 2 * count)).isLt
        omega
      rw [List.range_succ, List.foldl_append, List.foldl_cons, List.foldl_nil, BitVec.toNat_add, ih,
        BitVec.toNat_setWidth, Nat.mod_eq_of_lt word, wordSum_succ]
      omega

/-- The folds bring the accumulator down to the representative of its value. -/
theorem folds_toNat (sum : U32) {folded : U32} (fold : folded = (sum >>> 16) + (sum &&& 0xffff)) :
    (folded + (folded >>> 16)).toNat % 65536 = representative 65535 sum.toNat := by
  have bound := sum.isLt
  have lower : (sum &&& 0xffff).toNat = sum.toNat % 65536 := by
    rw [BitVec.toNat_and]
    exact Nat.and_two_pow_sub_one_eq_mod sum.toNat 16
  have upper : (sum >>> 16).toNat = sum.toNat / 65536 := by
    rw [BitVec.toNat_ushiftRight, Nat.shiftRight_eq_div_pow]
  have value : folded.toNat = sum.toNat / 65536 + sum.toNat % 65536 := by
    rw [fold, BitVec.toNat_add, lower, upper, Nat.mod_eq_of_lt (by omega)]
  have carry : (folded >>> 16).toNat = folded.toNat / 65536 := by
    rw [BitVec.toNat_ushiftRight, Nat.shiftRight_eq_div_pow]
  have fits : folded.toNat + folded.toNat / 65536 < 2 ^ 32 := by omega
  rw [BitVec.toNat_add, carry, Nat.mod_eq_of_lt fits, value]
  exact twoFold_mod (by decide) bound

/-- The complement, cut to the lower half. -/
theorem complement_toNat (sum : U32) :
    ((~~~sum).setWidth 16).toNat = 65535 - sum.toNat % 65536 := by
  have bound := sum.isLt
  rw [BitVec.toNat_setWidth, BitVec.toNat_not]
  omega

/-- Adding a byte, seen in the lower half. -/
theorem addByte_toNat (sum : U32) (last : U8) :
    (sum + last.setWidth 32).toNat % 65536 = (sum.toNat % 65536 + last.toNat) % 65536 := by
  have bound := last.isLt
  rw [BitVec.toNat_add, BitVec.toNat_setWidth]
  omega

/-- **What `checksum` returns: the complement of the representative of the
accumulated sum, to which the odd byte is added without a carry.** -/
theorem checksum_toNat (nbytes : ℕ) (sum : U32) : (checksum packet buf nbytes sum).toNat =
    65535 - (representative 65535 ((sum.toNat + wordSum packet buf (nbytes / 2)) % 4294967296) +
      oddByte packet buf nbytes) % 65536 := by
  have folds := folds_toNat ((List.range (nbytes / 2)).foldl
    (fun sum i => sum + (packet.load16 (buf + 2 * i)).setWidth 32) sum) rfl
  rw [accumulate_toNat] at folds
  rw [← folds, checksum, oddByte]
  split
  · rw [complement_toNat, addByte_toNat]
  · rw [complement_toNat, Nat.add_zero, Nat.mod_mod]

/-- A block of even length has no odd byte to add. -/
theorem checksum_toNat_of_even {nbytes : ℕ} (even : nbytes % 2 = 0) (sum : U32) :
    (checksum packet buf nbytes sum).toNat = 65535 -
      representative 65535 ((sum.toNat + wordSum packet buf (nbytes / 2)) % 4294967296) := by
  have folded := representative_le (m := 65535) (by decide)
    ((sum.toNat + wordSum packet buf (nbytes / 2)) % 4294967296)
  rw [checksum_toNat, oddByte, if_neg (by omega), Nat.add_zero, Nat.mod_eq_of_lt (by omega)]

end Sums

section HostSums

variable (packet : Memory U8)

/-- The words and the odd byte of a block, as the host reads them. -/
def hostSum (buf nbytes : ℕ) : ℕ := wordSum packet buf (nbytes / 2) + oddByte packet buf nbytes

theorem wordSum_succ_left (buf count : ℕ) : wordSum packet buf (count + 1) =
    (packet.load16 buf).toNat + wordSum packet (buf + 2) count := by
  rw [wordSum, Finset.sum_range_succ', Nat.add_comm, wordSum, Nat.mul_zero, Nat.add_zero]
  congr 1
  apply Finset.sum_congr rfl
  intro index _
  rw [Nat.mul_add, Nat.mul_one, Nat.add_comm (2 * index), Nat.add_assoc]

theorem oddByte_add_two (buf nbytes : ℕ) :
    oddByte packet buf (nbytes + 2) = oddByte packet (buf + 2) nbytes := by
  unfold oddByte
  rw [Nat.add_mod_right]
  split
  · rw [show buf + (nbytes + 2 - 1) = buf + 2 + (nbytes - 1) by omega]
  · rfl

theorem hostSum_add_two (buf nbytes : ℕ) :
    hostSum packet buf (nbytes + 2) =
      256 * (packet (buf + 1)).toNat + (packet buf).toNat + hostSum packet (buf + 2) nbytes := by
  rw [hostSum, hostSum, oddByte_add_two, Nat.add_div_right _ (by decide), wordSum_succ_left,
    Memory.toNat_load16, Nat.add_assoc]

/-- The sum the host computes is over the words of the block as it reads them. -/
theorem hostWords_slice (nbytes buf : ℕ) :
    (hostWords (packet.slice buf nbytes)).sum = hostSum packet buf nbytes := by
  induction nbytes using Nat.twoStepInduction generalizing buf with
  | zero => simp [hostWords, hostSum, oddByte]
  | one => simp [hostWords, hostSum, oddByte, Memory.slice_succ]
  | more nbytes ih _ =>
      rw [Memory.slice_succ, Memory.slice_succ, hostWords, List.sum_cons, hostSum_add_two,
        show buf + 1 + 1 = buf + 2 from rfl, ih]

/-- The sum of RFC 1071 over a block is the sum the host computes, its bytes
exchanged. -/
theorem rfc1071Sum_slice (buf nbytes : ℕ) : rfc1071Sum (packet.slice buf nbytes) =
    swapHalves 256 (representative 65535 (hostSum packet buf nbytes)) := by
  rw [rfc1071Sum_eq_swap, hostWords_slice]

end HostSums

/-! ## The checksum of a block -/

section Blocks

variable (packet : Memory U8) (buf : ℕ)

/-- The last byte of a block of odd length makes a carry when it is added to the
sum of the words before it. In network byte order it belongs to the upper half
of a word, and the carry leaves the word when the lower half of the sum is full. -/
def LosesCarry (nbytes : ℕ) : Prop :=
  nbytes % 2 = 1 ∧ rfc1071Sum (packet.slice buf (nbytes - 1)) % 256 = 255 ∧
    255 < rfc1071Sum (packet.slice buf (nbytes - 1)) / 256 + (packet (buf + (nbytes - 1))).toNat

instance (nbytes : ℕ) : Decidable (LosesCarry packet buf nbytes) :=
  inferInstanceAs (Decidable (_ ∧ _ ∧ _))

/-- The carry is lost when the folded sum and the odd byte do not fit a word. -/
theorem losesCarry_iff (nbytes : ℕ) : LosesCarry packet buf nbytes ↔
    65535 < representative 65535 (wordSum packet buf (nbytes / 2)) +
      oddByte packet buf nbytes := by
  have folded := representative_le (m := 65535) (by decide) (wordSum packet buf (nbytes / 2))
  unfold LosesCarry oddByte
  by_cases odd : nbytes % 2 = 1
  · have before : hostSum packet buf (nbytes - 1) = wordSum packet buf (nbytes / 2) := by
      rw [hostSum, oddByte, if_neg (by omega), Nat.add_zero,
        show (nbytes - 1) / 2 = nbytes / 2 by omega]
    have last := (packet (buf + (nbytes - 1))).isLt
    rw [rfc1071Sum_slice, before, swapHalves_div 256 (by omega), swapHalves_mod 256 (by omega),
      if_pos (by omega)]
    omega
  · rw [if_neg (by omega)]
    omega

/-- Cutting off a carry gives the representative only if there is none. -/
theorem mod_eq_representative_iff {sum : ℕ} (small : sum < 65536 + 65535) :
    sum % 65536 = representative 65535 sum ↔ sum ≤ 65535 := by
  by_cases fits : sum ≤ 65535
  · rw [representative_of_le fits]
    omega
  · rw [representative_of_pos (by omega)]
    omega

/-- **`checksum` is the Internet checksum, except where the odd byte makes a
carry: there the carry is lost.** -/
theorem checksum_eq_rfc1071_iff {nbytes : ℕ} (short : nbytes ≤ 65535) :
    bytes16 (checksum packet buf nbytes 0) = rfc1071Checksum (packet.slice buf nbytes) ↔
      ¬LosesCarry packet buf nbytes := by
  have folded := representative_le (m := 65535) (by decide) (wordSum packet buf (nbytes / 2))
  have last := oddByte_lt packet buf nbytes
  have total := representative_le (m := 65535) (by decide)
    (wordSum packet buf (nbytes / 2) + oddByte packet buf nbytes)
  have fits : wordSum packet buf (nbytes / 2) < 4294967296 := by
    have := wordSum_le packet buf (nbytes / 2)
    omega
  have value := checksum_toNat packet buf nbytes 0
  rw [show (0 : U32).toNat = 0 from rfl, Nat.zero_add, Nat.mod_eq_of_lt fits] at value
  rw [rfc1071Checksum, rfc1071Sum_slice, hostSum, bytes16_eq_networkBytes total, value,
    losesCarry_iff, Nat.not_lt, ← representative_add_left, ← mod_eq_representative_iff (by omega)]
  rw [← representative_add_left] at total
  have cut := Nat.mod_lt (representative 65535 (wordSum packet buf (nbytes / 2)) +
    oddByte packet buf nbytes) (show 0 < 65536 by decide)
  omega

end Blocks

/-- Two bytes `0xff` and a last byte `0x01`. -/
def fullWordAndByte : Memory U8 := fun index => if index < 2 then 0xff else 0x01

/-- The three bytes from the second one on, whose odd byte makes no carry. -/
theorem checksum_eq_rfc1071_odd :
    bytes16 (checksum fullWordAndByte 1 3 0) = rfc1071Checksum (fullWordAndByte.slice 1 3) :=
  (checksum_eq_rfc1071_iff fullWordAndByte 1 (by decide)).mpr (by decide)

/-- The words of the block add up to `0x100ff`, so its checksum is `0xfeff`. The
program returns `0xffff`. -/
theorem checksum_ne_rfc1071 : ¬∀ (packet : Memory U8) (buf nbytes : ℕ), nbytes ≤ 65535 →
    bytes16 (checksum packet buf nbytes 0) = rfc1071Checksum (packet.slice buf nbytes) :=
  fun always => absurd (always fullWordAndByte 0 3 (by decide)) (by decide)

/-! ## Sealed headers -/

section Sealing

variable (packet : Memory U8)

/-- One word of a block replaced: the sum of the others and the new word. -/
theorem wordSum_store16 (buf : ℕ) {index count : ℕ} (within : index < count) :
    ∃ rest, ∀ value : U16, wordSum (packet.store16 (buf + 2 * index) value) buf count =
      rest + value.toNat := by
  refine ⟨∑ other ∈ (Finset.range count).erase index,
    (packet.load16 (buf + 2 * other)).toNat, fun value => ?_⟩
  have others : ∀ other ∈ (Finset.range count).erase index,
      ((packet.store16 (buf + 2 * index) value).load16 (buf + 2 * other)).toNat =
        (packet.load16 (buf + 2 * other)).toNat := by
    intro other elsewhere
    have ne := Finset.ne_of_mem_erase elsewhere
    rw [Memory.load16_congr (packet.store16_of_ne value (by omega))
      (packet.store16_of_ne value (by omega))]
  rw [wordSum, ← Finset.sum_erase_add _ _ (Finset.mem_range.mpr within),
    Memory.load16_store16, Finset.sum_congr rfl others]

/-- The header with the result of `ip_checksum` in its checksum field. -/
def sealIpHdr (ip : ℕ) : Memory U8 := packet.store16 (ip + 10) (ipChecksum packet ip).1

theorem size_store16 (ip : ℕ) (value : U16) :
    IpHdr.size (packet.store16 (ip + 10) value) ip = IpHdr.size packet ip := by
  rw [IpHdr.size, IpHdr.ihl, packet.store16_of_ne value (by omega)]
  rfl

/-- The sum of the words of a header does not count the checksum field when it is zero. -/
theorem wordSum_checksum {ip count : ℕ} (inside : 5 < count) (value : U16) :
    wordSum (packet.store16 (ip + 10) value) ip count =
      wordSum (packet.store16 (ip + 10) 0) ip count + value.toNat := by
  obtain ⟨rest, sums⟩ := wordSum_store16 packet ip inside
  rw [sums value, show wordSum (packet.store16 (ip + 10) 0) ip count = rest + 0 from sums 0,
    Nat.add_zero]

/-- The words of the sealed header: those of the header without its checksum,
and the complement of their representative. -/
theorem hostSum_sealIpHdr {ip : ℕ} (header : 5 ≤ (IpHdr.ihl packet ip).toNat) :
    ∃ sum, hostSum (sealIpHdr packet ip) ip (IpHdr.size packet ip) =
      sum + (65535 - representative 65535 sum) := by
  have even : IpHdr.size packet ip % 2 = 0 := by
    rw [IpHdr.size]
    omega
  have words : 5 < IpHdr.size packet ip / 2 := by
    rw [IpHdr.size]
    omega
  have short : IpHdr.size packet ip / 2 ≤ 512 := by
    have := (IpHdr.ihl packet ip).isLt
    rw [IpHdr.size]
    omega
  refine ⟨wordSum (packet.store16 (ip + 10) 0) ip (IpHdr.size packet ip / 2), ?_⟩
  have fits : wordSum (packet.store16 (ip + 10) 0) ip (IpHdr.size packet ip / 2) < 4294967296 := by
    have := wordSum_le (packet.store16 (ip + 10) 0) ip (IpHdr.size packet ip / 2)
    omega
  rw [hostSum, oddByte, if_neg (by omega), Nat.add_zero, sealIpHdr,
    wordSum_checksum packet words, ipChecksum]
  dsimp only
  rw [size_store16, checksum_toNat_of_even _ _ even, show (0 : U32).toNat = 0 from rfl,
    Nat.zero_add, Nat.mod_eq_of_lt fits]

/-- **A header sealed with `ip_checksum` verifies, and sealing it again changes
nothing.** `ip_checksum` itself leaves the header as it was. -/
theorem ipChecksum_seals (ip : ℕ) (header : 5 ≤ (IpHdr.ihl packet ip).toNat) :
    rfc1071Sum ((sealIpHdr packet ip).slice ip (IpHdr.size (sealIpHdr packet ip) ip)) = 65535 ∧
      (ipChecksum (sealIpHdr packet ip) ip).1 = (ipChecksum packet ip).1 ∧
      (ipChecksum packet ip).2 = packet := by
  refine ⟨?_, ?_, ?_⟩
  · obtain ⟨sum, words⟩ := hostSum_sealIpHdr packet header
    rw [rfc1071Sum_slice, show IpHdr.size (sealIpHdr packet ip) ip = IpHdr.size packet ip from
      size_store16 packet ip _, words, representative_complement (by decide)]
    rfl
  · simp only [sealIpHdr, ipChecksum, Memory.store16_store16]
  · simp only [ipChecksum, IpHdr.checksum]
    rw [Memory.store16_store16, Memory.store16_load16]

end Sealing

/-- A header of five words of which only the first byte is set. -/
def bareIpHdr : Memory U8 := fun index => if index = 0 then 0x45 else 0

theorem ipChecksum_seals_bareIpHdr : 5 ≤ (IpHdr.ihl bareIpHdr 0).toNat ∧
    rfc1071Sum ((sealIpHdr bareIpHdr 0).slice 0 (IpHdr.size (sealIpHdr bareIpHdr 0) 0)) = 65535 :=
  ⟨by decide, (ipChecksum_seals bareIpHdr 0 (by decide)).1⟩

end TcpStack
