import TcpStack.Packet.TcpChecksum
import TcpStack.Sock.Isolation

/-!
# Corrupted segments

A packet with a correct checksum of which one aligned word of the segment, or
the trailing byte of a segment of odd length, is replaced. The receiver drops
it (`handleTcpPacket_corrupted`), whatever the addresses and the length are and
whether or not the accumulator wraps around.

Replacing one word changes the accumulated sum by less than 65535, and by one
less than that if the accumulator wraps around on the way. The sums can then be
congruent only if the words differ by one and the accumulator steps from its
largest value to zero, and zero is the only sum whose representative is zero
(`representative_word_ne`). Exchanging `0x0000` and `0xffff` is the one change
that the sum does not show.
-/

set_option autoImplicit false

namespace TcpStack

open Lib

/-! ## Changes the sum shows -/

/-- Two words that the ones' complement sum tells apart. -/
def Distinguished (first second : U16) : Prop :=
  first ≠ second ∧ ¬(first = 0 ∧ second = 0xffff) ∧ ¬(first = 0xffff ∧ second = 0)

/-- A step of less than 65535 in an accumulator of 32 bits changes the
representative of its value. -/
theorem representative_step_ne {sum step : ℕ} (range : sum < 4294967296) (positive : 0 < step)
    (small : step < 65535) :
    representative 65535 sum ≠ representative 65535 ((sum + step) % 4294967296) := by
  intro same
  obtain ⟨congruent, zeros⟩ := representative_eq_iff.mp same
  rw [Nat.ModEq] at congruent
  by_cases fits : sum + step < 4294967296
  · rw [Nat.mod_eq_of_lt fits] at congruent
    omega
  · -- the wrap takes one from the step, which leaves a multiple of 65535 only if
    -- the step was one; the new sum is zero then and the old one was not
    have wrapped : (sum + step) % 4294967296 = sum + step - 4294967296 := by omega
    rw [wrapped] at congruent zeros
    omega

/-- Two different words, not the two zeros, added to the same sum in 32 bits
give different representatives. -/
theorem representative_word_ne {rest first second : ℕ} (bound : second < 65536)
    (less : first < second) (notZeros : ¬(first = 0 ∧ second = 65535)) :
    representative 65535 ((rest + first) % 4294967296) ≠
      representative 65535 ((rest + second) % 4294967296) := by
  have step := representative_step_ne (Nat.mod_lt (rest + first) (show 0 < 4294967296 by decide))
    (show 0 < second - first by omega) (by omega)
  rwa [Nat.mod_add_mod, Nat.add_assoc, Nat.add_sub_cancel' (Nat.le_of_lt less)] at step

/-- Cutting off a carry does not hide a difference. -/
theorem complement_inj {first second last : ℕ} (left : first ≤ 65535) (right : second ≤ 65535)
    (same : 65535 - (first + last) % 65536 = 65535 - (second + last) % 65536) :
    first = second := by
  omega

section Sums

variable {memory : Memory U8} {buf nbytes : ℕ}

/-- Replacing one word of a block changes its checksum. -/
theorem checksum_store16_ne {index : ℕ} {value : U16} (within : index < nbytes / 2)
    (shows : Distinguished (memory.load16 (buf + 2 * index)) value) (sum : U32) :
    checksum (memory.store16 (buf + 2 * index) value) buf nbytes sum ≠
      checksum memory buf nbytes sum := by
  intro same
  obtain ⟨differ, notUp, notDown⟩ := shows
  obtain ⟨rest, sums⟩ := wordSum_store16 memory buf within
  have original := sums (memory.load16 (buf + 2 * index))
  rw [memory.store16_load16] at original
  have last : oddByte (memory.store16 (buf + 2 * index) value) buf nbytes =
      oddByte memory buf nbytes := by
    unfold oddByte
    split
    · rw [memory.store16_of_ne value (by omega)]
    · rfl
  have values := congrArg BitVec.toNat same
  rw [checksum_toNat, checksum_toNat, last, sums, original, ← Nat.add_assoc, ← Nat.add_assoc]
    at values
  have folded := complement_inj (representative_le (by decide) _) (representative_le (by decide) _)
    values
  have numbers : (memory.load16 (buf + 2 * index)).toNat ≠ value.toNat :=
    fun equal => differ (BitVec.eq_of_toNat_eq equal)
  rcases Nat.lt_or_gt_of_ne numbers with less | greater
  · exact representative_word_ne value.isLt less
      (fun zeros => notUp ⟨BitVec.eq_of_toNat_eq zeros.1, BitVec.eq_of_toNat_eq zeros.2⟩)
      folded.symm
  · exact representative_word_ne (memory.load16 _).isLt greater
      (fun zeros => notDown ⟨BitVec.eq_of_toNat_eq zeros.2, BitVec.eq_of_toNat_eq zeros.1⟩) folded

/-- Replacing the trailing byte of a block of odd length changes its checksum. -/
theorem checksum_blit_ne {byte : U8} (odd : nbytes % 2 = 1)
    (differs : byte ≠ memory (buf + (nbytes - 1))) (sum : U32) :
    checksum (memory.blit (buf + (nbytes - 1)) [byte]) buf nbytes sum ≠
      checksum memory buf nbytes sum := by
  intro same
  have words : wordSum (memory.blit (buf + (nbytes - 1)) [byte]) buf (nbytes / 2) =
      wordSum memory buf (nbytes / 2) := by
    apply Finset.sum_congr rfl
    intro index member
    have within := Finset.mem_range.mp member
    rw [Memory.load16_congr (memory.blit_of_lt _ (by omega)) (memory.blit_of_lt _ (by omega))]
  have last : oddByte (memory.blit (buf + (nbytes - 1)) [byte]) buf nbytes = byte.toNat := by
    rw [oddByte, if_pos (by omega), memory.blit_of_mem _ (Nat.le_refl _) (by simp)]
    simp
  have before : oddByte memory buf nbytes = (memory (buf + (nbytes - 1))).toNat :=
    if_pos (by omega)
  have values := congrArg BitVec.toNat same
  rw [checksum_toNat, checksum_toNat, words, last, before, Nat.add_comm,
    Nat.add_comm _ (memory (buf + (nbytes - 1))).toNat] at values
  exact differs (BitVec.eq_of_toNat_eq (complement_inj (by omega) (by omega) values))

end Sums

/-! ## Changes to a segment -/

/-- One aligned word of the segment replaced by another one, or the trailing byte
of a segment of odd length. -/
inductive Corrupted (packet : Memory U8) (ip tcp : ℕ) : Memory U8 → Prop
  | word (index : ℕ) (value : U16) (within : index < (segmentLength packet ip).toNat / 2)
      (shows : Distinguished (packet.load16 (tcp + 2 * index)) value) :
      Corrupted packet ip tcp (packet.store16 (tcp + 2 * index) value)
  | trailing (byte : U8) (odd : (segmentLength packet ip).toNat % 2 = 1)
      (differs : byte ≠ packet (tcp + ((segmentLength packet ip).toNat - 1))) :
      Corrupted packet ip tcp (packet.blit (tcp + ((segmentLength packet ip).toNat - 1)) [byte])

section Detection

variable {packet altered : Memory U8} {ip tcp : ℕ}

/-- A write behind the header leaves what the header contributes to the sum. -/
theorem pseudoSum_blit (packet : Memory U8) {place : ℕ} (behind : ip + ipBaseHdrSize ≤ place)
    (cells : List U8) :
    segmentLength (packet.blit place cells) ip = segmentLength packet ip ∧
      pseudoSum (packet.blit place cells) ip = pseudoSum packet ip :=
  pseudoSum_congr fun _ _ inside => packet.blit_of_lt cells (by omega)

/-- A change inside the checksum field does not change what is computed, so the
field no longer agrees with it. -/
theorem mismatch_of_field (correct : checksumMatches packet ip tcp = true)
    (elsewhere : altered.store16 (tcp + 16) 0 = packet.store16 (tcp + 16) 0)
    (differs : TcpHdr.checksum altered tcp ≠ TcpHdr.checksum packet tcp) :
    checksumMatches altered ip tcp = false := by
  have computed : (tcpChecksum altered ip tcp).1 = (tcpChecksum packet ip tcp).1 := by
    rw [tcpChecksum_value, tcpChecksum_value, elsewhere]
  rw [checksumMatches, beq_iff_eq] at correct
  rw [checksumMatches, beq_eq_false_iff_ne, computed, correct]
  exact differs.symm

/-- A change outside the checksum field leaves the field, and what is computed
no longer agrees with it. -/
theorem mismatch_of_sum {place : ℕ} {cells : List U8}
    (correct : checksumMatches packet ip tcp = true) (behind : ip + ipBaseHdrSize ≤ tcp)
    (inside : tcp ≤ place) (apart : place + cells.length ≤ tcp + 16 ∨ tcp + 18 ≤ place)
    (shows : ∀ sum, checksum ((packet.store16 (tcp + 16) 0).blit place cells) tcp
      (segmentLength packet ip).toNat sum ≠
        checksum (packet.store16 (tcp + 16) 0) tcp (segmentLength packet ip).toNat sum) :
    checksumMatches (packet.blit place cells) ip tcp = false := by
  have field : TcpHdr.checksum (packet.blit place cells) tcp = TcpHdr.checksum packet tcp := by
    rcases apart with before | after
    · exact Memory.load16_congr (packet.blit_of_ge cells (by omega))
        (packet.blit_of_ge cells (by omega))
    · exact Memory.load16_congr (packet.blit_of_lt cells (by omega))
        (packet.blit_of_lt cells (by omega))
  have zeroed : (packet.blit place cells).store16 (tcp + 16) 0 =
      (packet.store16 (tcp + 16) 0).blit place cells :=
    packet.blit_comm cells (bytes16 0) (by simpa [bytes16] using apart)
  obtain ⟨length, fields⟩ := pseudoSum_blit (packet.store16 (tcp + 16) 0)
    (show ip + ipBaseHdrSize ≤ place by omega) cells
  have whole : segmentLength (packet.store16 (tcp + 16) 0) ip = segmentLength packet ip :=
    (pseudoSum_blit packet (show ip + ipBaseHdrSize ≤ tcp + 16 by omega) (bytes16 0)).1
  rw [checksumMatches, beq_iff_eq, tcpChecksum_value, whole] at correct
  rw [checksumMatches, beq_eq_false_iff_ne, field, ← correct, tcpChecksum_value, zeroed, length,
    fields, whole]
  exact shows _

/-- A corrupted packet has a wrong checksum. -/
theorem Corrupted.mismatch (correct : checksumMatches packet ip tcp = true)
    (behind : ip + ipBaseHdrSize ≤ tcp) (change : Corrupted packet ip tcp altered) :
    checksumMatches altered ip tcp = false := by
  cases change with
  | word index value within shows =>
      by_cases field : index = 8
      · subst field
        apply mismatch_of_field correct (packet.store16_store16 (tcp + 16) value 0)
        rw [TcpHdr.checksum, packet.load16_store16]
        exact shows.1.symm
      · apply mismatch_of_sum correct behind (by omega) (by simp [bytes16]; omega)
        intro sum
        apply checksum_store16_ne within
        rwa [Memory.load16_congr (packet.store16_of_ne 0 (by omega))
          (packet.store16_of_ne 0 (by omega))]
  | trailing byte odd differs =>
      by_cases field : (segmentLength packet ip).toNat = 17
      · -- the trailing byte is the lower byte of the checksum field
        rw [field] at differs ⊢
        apply mismatch_of_field correct (packet.blit_blit_over (tcp + 16) [byte] (bytes16 0))
        intro same
        have values := congrArg BitVec.toNat same
        rw [TcpHdr.checksum, TcpHdr.checksum, Memory.toNat_load16, Memory.toNat_load16,
          packet.blit_of_mem [byte] (Nat.le_refl _) (by simp),
          packet.blit_of_ge [byte] (by simp)] at values
        exact differs (BitVec.eq_of_toNat_eq (by simpa using values))
      · apply mismatch_of_sum correct behind (by omega) (by simp; omega)
        intro sum
        apply checksum_blit_ne odd
        rwa [packet.store16_of_ne 0 (by omega)]

/-- **A corrupted packet is dropped.** One word of the segment, or the trailing
byte of a segment of odd length, is not what it was when the checksum was
correct: every sock and table stays as it was, and nothing is sent. -/
theorem handleTcpPacket_corrupted (correct : checksumMatches packet ip tcp = true)
    (behind : ip + ipBaseHdrSize ≤ tcp) (change : Corrupted packet ip tcp altered) (s : Stack)
    (tmp : SockPtr) : handleTcpPacket s altered ip tcp tmp = .ok s :=
  handleTcpPacket_mismatch (change.mismatch correct behind)

end Detection

/-- A packet between the hosts 1 and 2 with its checksum filled in. -/
def checkedPacket : Memory U8 :=
  (emptyPacket 1 2).store16 36 (tcpChecksum (emptyPacket 1 2) 0 20).1

/-- A sequence number other than the one sent. -/
theorem handleTcpPacket_corrupted_seq : checksumMatches checkedPacket 0 20 = true ∧
    ∀ s tmp, handleTcpPacket s (checkedPacket.store16 (20 + 2 * 2) 1) 0 20 tmp = .ok s :=
  ⟨by decide, fun s tmp => handleTcpPacket_corrupted (by decide) (by decide)
    (.word 2 1 (by decide) ⟨by decide, by decide, by decide⟩) s tmp⟩

end TcpStack
