import TcpStack.Packet.InternetChecksum

/-!
# The checksum of a segment

RFC 793 takes the Internet checksum of a pseudo-header (the two addresses, the
protocol and the length of the segment) followed by the segment, whose checksum
field counts as zero. `tcp_checksum` adds the addresses as two 32-bit integers,
then the other fields of the pseudo-header, and lets `checksum` add the words of
the segment to that, all in 32 bits.

A carry out of 32 bits is lost. Every lost carry is one in the ones' complement
sum, and there can be two at most, so the result is the checksum of RFC 793
exactly when the sum does not leave 32 bits (`tcpChecksum_eq_rfc793_iff`). The
most significant byte of an address, as the host reads it, is its last octet:
two hosts whose last octets add up to 256 or more never agree with the program
on a checksum.
-/

set_option autoImplicit false

namespace TcpStack

open Lib

/-! ## RFC 793 -/

section Specification

variable (packet : Memory U8) (ip len : ℕ)

/-- The pseudo-header of a segment of the given length. -/
def pseudoHeader : List U8 :=
  packet.slice (ip + 12) 4 ++ packet.slice (ip + 16) 4 ++ [0, packet (ip + 9)] ++ networkBytes len

/-- The checksum of the segment behind an IP header without options, as it
stands in a packet. -/
def rfc793Checksum : List U8 :=
  rfc1071Checksum (pseudoHeader packet ip len ++
    (packet.store16 (ip + ipBaseHdrSize + 16) 0).slice (ip + ipBaseHdrSize) len)

/-- An IP header without options in front of a TCP segment of the given length. -/
structure PlainIpHdr : Prop where
  ihl : IpHdr.ihl packet ip = 5
  protocol : IpHdr.protocol packet ip = ipprotoTcp
  totLen : (ntohs (IpHdr.totLen packet ip)).toNat = ipBaseHdrSize + len

instance : Decidable (PlainIpHdr packet ip len) :=
  decidable_of_iff (IpHdr.ihl packet ip = 5 ∧ IpHdr.protocol packet ip = ipprotoTcp ∧
      (ntohs (IpHdr.totLen packet ip)).toNat = ipBaseHdrSize + len)
    ⟨fun ⟨ihl, protocol, totLen⟩ => ⟨ihl, protocol, totLen⟩,
      fun header => ⟨header.ihl, header.protocol, header.totLen⟩⟩

end Specification

/-! ## What the program adds up -/

section Totals

variable (packet : Memory U8) (ip : ℕ)

/-- The length of the segment as `tcp_checksum` computes it. -/
def segmentLength : U16 := ntohs (IpHdr.totLen packet ip) - BitVec.ofNat 16 (IpHdr.size packet ip)

/-- The part of the sum that `tcp_checksum` adds up before the segment. -/
def pseudoSum : U32 :=
  IpHdr.saddr packet ip + IpHdr.daddr packet ip +
    (htons ((IpHdr.protocol packet ip).setWidth 16)).setWidth 32 +
    (htons (segmentLength packet ip)).setWidth 32

theorem tcpChecksum_value (tcp : ℕ) : (tcpChecksum packet ip tcp).1 =
    checksum (packet.store16 (tcp + 16) 0) tcp
      (segmentLength (packet.store16 (tcp + 16) 0) ip).toNat
      (pseudoSum (packet.store16 (tcp + 16) 0) ip) := rfl

/-- The integers that `tcp_checksum` adds up for a segment of the given length,
added without a bound. -/
def checksumTotal (len : ℕ) : ℕ :=
  (IpHdr.saddr packet ip).toNat + (IpHdr.daddr packet ip).toNat +
    (htons (ipprotoTcp.setWidth 16)).toNat + (htons (BitVec.ofNat 16 len)).toNat +
    wordSum (packet.store16 (ip + ipBaseHdrSize + 16) 0) (ip + ipBaseHdrSize) (len / 2)

end Totals

/-- The header fields read the first bytes of the header and no others. -/
theorem pseudoSum_congr {first second : Memory U8} {ip : ℕ}
    (same : ∀ place, ip ≤ place → place < ip + ipBaseHdrSize → first place = second place) :
    segmentLength first ip = segmentLength second ip ∧
      pseudoSum first ip = pseudoSum second ip := by
  unfold ipBaseHdrSize at same
  have size : IpHdr.size first ip = IpHdr.size second ip := by
    rw [IpHdr.size, IpHdr.size, IpHdr.ihl, IpHdr.ihl, same ip (by omega) (by omega)]
  have totLen : IpHdr.totLen first ip = IpHdr.totLen second ip :=
    Memory.load16_congr (same _ (by omega) (by omega)) (same _ (by omega) (by omega))
  have protocol : IpHdr.protocol first ip = IpHdr.protocol second ip :=
    same _ (by omega) (by omega)
  have saddr : IpHdr.saddr first ip = IpHdr.saddr second ip :=
    Memory.load32_congr fun index within => same _ (by omega) (by omega)
  have daddr : IpHdr.daddr first ip = IpHdr.daddr second ip :=
    Memory.load32_congr fun index within => same _ (by omega) (by omega)
  have length : segmentLength first ip = segmentLength second ip := by
    rw [segmentLength, segmentLength, totLen, size]
  refine ⟨length, ?_⟩
  rw [pseudoSum, pseudoSum, saddr, daddr, protocol, length]

/-! ## The two sums compared -/

section Comparison

variable {packet : Memory U8} {ip len : ℕ}

theorem segmentLength_eq (header : PlainIpHdr packet ip len) :
    segmentLength packet ip = BitVec.ofNat 16 len := by
  have size : IpHdr.size packet ip = ipBaseHdrSize := by
    rw [IpHdr.size, header.ihl]
    rfl
  have totLen := header.totLen
  apply BitVec.eq_of_toNat_eq
  rw [segmentLength, size, BitVec.toNat_sub, totLen]
  simp only [BitVec.toNat_ofNat, ipBaseHdrSize]
  omega

/-- The accumulator ends up with the total, cut to 32 bits. -/
theorem accumulated_eq (header : PlainIpHdr packet ip len) :
    ((pseudoSum packet ip).toNat +
      wordSum (packet.store16 (ip + ipBaseHdrSize + 16) 0) (ip + ipBaseHdrSize) (len / 2)) %
        4294967296 = checksumTotal packet ip len % 4294967296 := by
  rw [pseudoSum, checksumTotal, header.protocol, segmentLength_eq header]
  simp only [BitVec.toNat_add, BitVec.toNat_setWidth]
  omega

/-- The words of the pseudo-header, as the host reads them. -/
theorem hostWords_pseudoHeader (packet : Memory U8) (ip len : ℕ) (rest : List U8) :
    hostWords (pseudoHeader packet ip len ++ rest) =
      (packet.load16 (ip + 12)).toNat :: (packet.load16 (ip + 14)).toNat ::
        (packet.load16 (ip + 16)).toNat :: (packet.load16 (ip + 18)).toNat ::
        256 * (packet (ip + 9)).toNat ::
        (256 * (len % 256) + len / 256 % 256) :: hostWords rest := by
  simp only [pseudoHeader, Memory.slice_succ, Memory.slice_zero, networkBytes, List.cons_append,
    List.nil_append, hostWords, Memory.toNat_load16, BitVec.toNat_ofNat, Nat.reducePow,
    Nat.mod_mod]
  rfl

/-- What the program adds up is what RFC 793 adds up, but for the upper halves
of the addresses, which count 65536 times there. -/
theorem checksumTotal_eq (header : PlainIpHdr packet ip len) (even : len % 2 = 0)
    (short : len ≤ 65514) : checksumTotal packet ip len =
      (hostWords (pseudoHeader packet ip len ++
        (packet.store16 (ip + ipBaseHdrSize + 16) 0).slice (ip + ipBaseHdrSize) len)).sum +
          65535 * ((packet.load16 (ip + 14)).toNat + (packet.load16 (ip + 18)).toNat) := by
  have protocol : packet (ip + 9) = ipprotoTcp := header.protocol
  have six : (htons (ipprotoTcp.setWidth 16)).toNat = 256 * ipprotoTcp.toNat := rfl
  have saddr : (IpHdr.saddr packet ip).toNat =
      65536 * (packet.load16 (ip + 14)).toNat + (packet.load16 (ip + 12)).toNat :=
    packet.toNat_load32 (ip + 12)
  have daddr : (IpHdr.daddr packet ip).toNat =
      65536 * (packet.load16 (ip + 18)).toNat + (packet.load16 (ip + 16)).toNat :=
    packet.toNat_load32 (ip + 16)
  have length : (BitVec.ofNat 16 len).toNat = len := Nat.mod_eq_of_lt (by omega)
  rw [hostWords_pseudoHeader, checksumTotal, saddr, daddr, six, toNat_htons, length, protocol,
    Nat.mod_eq_of_lt (show len / 256 < 256 by omega)]
  simp only [List.sum_cons, hostWords_slice, hostSum, oddByte, if_neg (show ¬len % 2 ≠ 0 by omega)]
  omega

/-- The total stays below three times the range of the accumulator. -/
theorem checksumTotal_lt (short : len ≤ 65514) :
    checksumTotal packet ip len < 3 * 4294967296 := by
  have words := wordSum_le (packet.store16 (ip + ipBaseHdrSize + 16) 0) (ip + ipBaseHdrSize)
    (len / 2)
  have saddr := (IpHdr.saddr packet ip).isLt
  have daddr := (IpHdr.daddr packet ip).isLt
  have protocol := (htons (ipprotoTcp.setWidth 16)).isLt
  have length := (htons (BitVec.ofNat 16 len)).isLt
  rw [checksumTotal]
  omega

/-- Cutting a total to 32 bits changes its representative, as soon as there is
something to cut. -/
theorem representative_cut_iff {total : ℕ} (small : total < 3 * 4294967296) :
    representative 65535 (total % 4294967296) = representative 65535 total ↔
      total < 4294967296 := by
  constructor
  · intro same
    obtain ⟨congruent, _⟩ := representative_eq_iff.mp same
    rw [Nat.ModEq] at congruent
    omega
  · intro fits
    rw [Nat.mod_eq_of_lt fits]

/-- **`tcp_checksum` is the checksum of RFC 793 exactly when the sum does not
leave 32 bits.** The packet is left as it was in any case. -/
theorem tcpChecksum_eq_rfc793_iff (header : PlainIpHdr packet ip len) (even : len % 2 = 0)
    (short : len ≤ 65514) :
    (bytes16 (tcpChecksum packet ip (ip + ipBaseHdrSize)).1 = rfc793Checksum packet ip len ∧
        (tcpChecksum packet ip (ip + ipBaseHdrSize)).2 = packet) ↔
      checksumTotal packet ip len < 4294967296 := by
  have frame : ∀ place, ip ≤ place → place < ip + ipBaseHdrSize →
      packet.store16 (ip + ipBaseHdrSize + 16) 0 place = packet place :=
    fun place _ inside => packet.store16_of_ne 0 (.inl (by omega))
  obtain ⟨length, fields⟩ := pseudoSum_congr frame
  have value : (tcpChecksum packet ip (ip + ipBaseHdrSize)).1.toNat =
      65535 - representative 65535 (checksumTotal packet ip len % 4294967296) := by
    rw [tcpChecksum_value, length, fields, segmentLength_eq header, BitVec.toNat_ofNat,
      Nat.mod_eq_of_lt (by omega), checksum_toNat_of_even _ _ even, accumulated_eq header]
  have total : representative 65535 (hostWords (pseudoHeader packet ip len ++
      (packet.store16 (ip + ipBaseHdrSize + 16) 0).slice (ip + ipBaseHdrSize) len)).sum =
        representative 65535 (checksumTotal packet ip len) := by
    apply representative_eq_iff.mpr
    rw [checksumTotal_eq header even short]
    constructor
    · rw [Nat.ModEq, Nat.add_mul_mod_self_left]
    · -- the protocol alone keeps both sums from being zero
      have protocol : packet (ip + 9) = ipprotoTcp := header.protocol
      rw [hostWords_pseudoHeader, protocol]
      simp only [List.sum_cons, show ipprotoTcp.toNat = 6 from rfl]
      omega
  rw [and_iff_left (tcpChecksum_packet packet ip _), rfc793Checksum, rfc1071Checksum,
    rfc1071Sum_eq_swap, total, bytes16_eq_networkBytes (representative_le (by decide) _), value,
    ← representative_cut_iff (checksumTotal_lt short)]
  have cut := representative_le (m := 65535) (by decide) (checksumTotal packet ip len % 4294967296)
  have whole := representative_le (m := 65535) (by decide) (checksumTotal packet ip len)
  omega

end Comparison

/-- A packet from `10.0.0.source` to `10.0.0.destination` with a segment of 20
bytes, all zero. -/
def emptyPacket (source destination : U8) : Memory U8 := fun index =>
  [0x45, 0, 0, 40, 0, 0, 0, 0, 64, ipprotoTcp, 0, 0, 10, 0, 0, source, 10, 0, 0, destination].getD
    index 0

/-- Between the hosts 1 and 2 of the network the checksums are right. -/
theorem tcpChecksum_eq_rfc793_hosts :
    bytes16 (tcpChecksum (emptyPacket 1 2) 0 20).1 = rfc793Checksum (emptyPacket 1 2) 0 20 ∧
      (tcpChecksum (emptyPacket 1 2) 0 20).2 = emptyPacket 1 2 :=
  (tcpChecksum_eq_rfc793_iff (by decide : PlainIpHdr (emptyPacket 1 2) 0 20)
    (by decide) (by decide)).mpr (by decide)

/-- Between the hosts 200 and 100 they are not. -/
theorem tcpChecksum_ne_rfc793 : ¬∀ (packet : Memory U8) (ip len : ℕ), PlainIpHdr packet ip len →
    len % 2 = 0 → len ≤ 65514 →
      bytes16 (tcpChecksum packet ip (ip + ipBaseHdrSize)).1 = rfc793Checksum packet ip len ∧
        (tcpChecksum packet ip (ip + ipBaseHdrSize)).2 = packet := by
  intro always
  have equal := always (emptyPacket 200 100) 0 20 (by decide) (by decide) (by decide)
  exact absurd equal.1 (by decide)

end TcpStack
