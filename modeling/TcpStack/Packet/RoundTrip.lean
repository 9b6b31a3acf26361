import TcpStack.Packet.Header

/-!
# Decoding undoes encoding

A packet carries a segment when its header fields and its payload hold the
values of the segment. Each of the three builders of `tcp_out.c` makes a packet
that carries the segment sent, the two checksum fields being the only bytes
written after that. The checksum is computed with its own field zeroed, so the
comparison of the receiver passes, and the decoder reads the values sent
(`encode_decode`).
-/

set_option autoImplicit false

namespace TcpStack

open Lib

/-! ## The TCP header as a block of bytes -/

/-- The bytes that `tcp_init_hdr` writes. -/
def tcpHdrBytes (sport dport : U16) (seq ack : U32) (flags : U8) (rwnd : U16) : List U8 :=
  bytes16 (htons sport) ++ bytes16 (htons dport) ++ bytes32 (htonl seq) ++ bytes32 (htonl ack) ++
    [tcpHdrOffset <<< 4, flags] ++ bytes16 (htons rwnd) ++ [0, 0, 0, 0]

/-- The fields filled in one after the other are one block. -/
theorem tcpInitHdr_eq_blit (packet : Memory U8) (tcp : ℕ) (sport dport : U16) (seq ack : U32)
    (flags : U8) (rwnd : U16) : tcpInitHdr packet tcp sport dport seq ack flags rwnd =
      packet.blit tcp (tcpHdrBytes sport dport seq ack flags rwnd) := by
  have half : ∀ value : U16, (bytes16 value).length = 2 := fun _ => rfl
  have word : ∀ value : U32, (bytes32 value).length = 4 := fun _ => rfl
  -- the byte of the header length is read back as it was cleared
  have cleared : (((((packet.blit tcp (List.replicate tcpBaseHdrSize 0)).store16 tcp
      (htons sport)).store16 (tcp + 2) (htons dport)).store32 (tcp + 4) (htonl seq)).store32
        (tcp + 8) (htonl ack)) (tcp + 12) = 0 := by
    simp only [Memory.store16, Memory.store32]
    rw [Memory.blit_of_ge, Memory.blit_of_ge, Memory.blit_of_ge, Memory.blit_of_ge,
      Memory.blit_of_mem _ _ (by omega) (by simp [tcpBaseHdrSize])]
    · simp
    all_goals simp only [half, word]; omega
  have fields : tcpInitHdr packet tcp sport dport seq ack flags rwnd =
      (packet.blit tcp (List.replicate tcpBaseHdrSize 0)).blit tcp
        (bytes16 (htons sport) ++ bytes16 (htons dport) ++ bytes32 (htonl seq) ++
          bytes32 (htonl ack) ++ [0 &&& 0x0f ||| tcpHdrOffset <<< 4] ++ [flags] ++
          bytes16 (htons rwnd)) := by
    simp only [tcpInitHdr, cleared]
    simp only [Memory.store16, Memory.store32]
    iterate 6 rw [Memory.blit_blit_append]
    all_goals simp [half, word]
  rw [fields, Memory.blit_blit_over]
  rfl

/-! ## Packets that carry a segment -/

/-- Where the builders put the TCP header. -/
def tcpPlace : ℕ := packetToIpHdr + ipBaseHdrSize

/-- The IP header says where the segment goes and how long it is. -/
structure CarriesIp (packet : Memory U8) (sent : Segment) : Prop where
  ihl : IpHdr.ihl packet packetToIpHdr = 5
  totLen : IpHdr.totLen packet packetToIpHdr = htons (BitVec.ofNat 16 (40 + sent.payload.length))
  protocol : IpHdr.protocol packet packetToIpHdr = ipprotoTcp
  saddr : IpHdr.saddr packet packetToIpHdr = htonl sent.saddr
  daddr : IpHdr.daddr packet packetToIpHdr = htonl sent.daddr

/-- The TCP header and what follows it hold the values of the segment. -/
structure CarriesTcp (packet : Memory U8) (sent : Segment) : Prop where
  sport : TcpHdr.sport packet tcpPlace = htons sent.sport
  dport : TcpHdr.dport packet tcpPlace = htons sent.dport
  seq : TcpHdr.seq packet tcpPlace = htonl sent.seq
  ack : TcpHdr.ack packet tcpPlace = htonl sent.ack
  off : TcpHdr.off packet tcpPlace = tcpHdrOffset
  flags : TcpHdr.flags packet tcpPlace = sent.flags
  rwnd : TcpHdr.rwnd packet tcpPlace = htons sent.rwnd
  payload : packet.slice (tcpPlace + tcpBaseHdrSize) sent.payload.length = sent.payload

/-- The IP header is read from the bytes before the TCP header, without its
checksum. -/
theorem CarriesIp.congr {packet other : Memory U8} {sent : Segment}
    (carries : CarriesIp packet sent)
    (same : ∀ index, packetToIpHdr ≤ index → index < tcpPlace → index ≠ packetToIpHdr + 10 →
      index ≠ packetToIpHdr + 11 → other index = packet index) : CarriesIp other sent := by
  have byte : ∀ place < 20, place ≠ 10 → place ≠ 11 →
      other (packetToIpHdr + place) = packet (packetToIpHdr + place) := by
    intro place within notLow notHigh
    exact same _ (by omega) (by simp [tcpPlace, ipBaseHdrSize]; omega) (by omega) (by omega)
  have word : ∀ place, (place + 4 ≤ 10 ∨ 12 ≤ place) → place + 4 ≤ 20 →
      other.load32 (packetToIpHdr + place) = packet.load32 (packetToIpHdr + place) := by
    intro place outside within
    apply Memory.load32_congr
    intro index small
    rw [Nat.add_assoc]
    exact byte _ (by omega) (by omega) (by omega)
  have first := byte 0 (by decide) (by decide) (by decide)
  rw [Nat.add_zero] at first
  constructor
  · rw [← carries.ihl, IpHdr.ihl, IpHdr.ihl, first]
  · rw [← carries.totLen]
    exact Memory.load16_congr (byte 2 (by decide) (by decide) (by decide))
      (byte 3 (by decide) (by decide) (by decide))
  · rw [← carries.protocol]
    exact byte 9 (by decide) (by decide) (by decide)
  · rw [← carries.saddr]
    exact word 12 (by decide) (by decide)
  · rw [← carries.daddr]
    exact word 16 (by decide) (by decide)

/-- The TCP header is read from its own bytes, without its checksum, and the
payload from the bytes after it. -/
theorem CarriesTcp.congr {packet other : Memory U8} {sent : Segment}
    (carries : CarriesTcp packet sent)
    (same : ∀ index, tcpPlace ≤ index → index ≠ tcpPlace + 16 → index ≠ tcpPlace + 17 →
      other index = packet index) : CarriesTcp other sent := by
  have byte : ∀ place, place ≠ 16 → place ≠ 17 →
      other (tcpPlace + place) = packet (tcpPlace + place) := by
    intro place notLow notHigh
    exact same _ (by omega) (by omega) (by omega)
  have first := byte 0 (by decide) (by decide)
  rw [Nat.add_zero] at first
  have half : ∀ place, place + 2 ≤ 16 →
      other.load16 (tcpPlace + place) = packet.load16 (tcpPlace + place) := by
    intro place within
    exact Memory.load16_congr (byte place (by omega) (by omega))
      (byte (place + 1) (by omega) (by omega))
  have word : ∀ place, place + 4 ≤ 16 →
      other.load32 (tcpPlace + place) = packet.load32 (tcpPlace + place) := by
    intro place within
    apply Memory.load32_congr
    intro index small
    rw [Nat.add_assoc]
    exact byte _ (by omega) (by omega)
  constructor
  · rw [← carries.sport]
    exact half 0 (by decide)
  · rw [← carries.dport]
    exact half 2 (by decide)
  · rw [← carries.seq]
    exact word 4 (by decide)
  · rw [← carries.ack]
    exact word 8 (by decide)
  · rw [← carries.off, TcpHdr.off, TcpHdr.off, byte 12 (by decide) (by decide)]
  · rw [← carries.flags]
    exact byte 13 (by decide) (by decide)
  · rw [← carries.rwnd]
    exact half 14 (by decide)
  · refine Eq.trans ?_ carries.payload
    apply Memory.slice_congr
    intro index _
    rw [Nat.add_assoc]
    exact byte _ (by simp [tcpBaseHdrSize]; omega) (by simp [tcpBaseHdrSize]; omega)

/-- A header just filled in carries its values, in front of any payload. -/
theorem carriesTcp_tcpInitHdr (packet : Memory U8) (sent : Segment)
    (payload : packet.slice (tcpPlace + tcpBaseHdrSize) sent.payload.length = sent.payload) :
    CarriesTcp (tcpInitHdr packet tcpPlace sent.sport sent.dport sent.seq sent.ack sent.flags
      sent.rwnd) sent := by
  rw [tcpInitHdr_eq_blit]
  constructor
  · apply Memory.load16_eq <;> simp [Memory.blit, tcpHdrBytes, bytes16, bytes32]
  · apply Memory.load16_eq <;> simp [Memory.blit, tcpHdrBytes, bytes16, bytes32, Nat.add_assoc]
  · apply Memory.load32_eq <;> simp [Memory.blit, tcpHdrBytes, bytes16, bytes32, Nat.add_assoc]
  · apply Memory.load32_eq <;> simp [Memory.blit, tcpHdrBytes, bytes16, bytes32, Nat.add_assoc]
  · simp [TcpHdr.off, Memory.blit, tcpHdrBytes, bytes16, bytes32, tcpHdrOffset]
  · simp [TcpHdr.flags, Memory.blit, tcpHdrBytes, bytes16, bytes32]
  · apply Memory.load16_eq <;> simp [Memory.blit, tcpHdrBytes, bytes16, bytes32, Nat.add_assoc]
  · refine Eq.trans (Memory.slice_blit_of_disjoint _ _ (Or.inr ?_)) payload
    simp [tcpHdrBytes, bytes16, bytes32, tcpBaseHdrSize]

/-- Filling in the TCP header leaves the rest of the packet alone. -/
theorem tcpInitHdr_of_lt (packet : Memory U8) {tcp index : ℕ} (sport dport : U16) (seq ack : U32)
    (flags : U8) (rwnd : U16) (before : index < tcp) :
    tcpInitHdr packet tcp sport dport seq ack flags rwnd index = packet index := by
  rw [tcpInitHdr_eq_blit]
  exact Memory.blit_of_lt _ _ before

/-- The library function fills in the IP header of the segment. -/
theorem carriesIp_ipInitHdr {ipInitHdr : IpInitHdr} (fills : ipInitHdr.Fills)
    (packet : Memory U8) {sent : Segment} {len : U16}
    (length : len = BitVec.ofNat 16 (40 + sent.payload.length)) :
    CarriesIp (ipInitHdr packet packetToIpHdr sent.saddr sent.daddr len ipprotoTcp) sent := by
  constructor
  · rw [fills.ihl]
  · rw [fills.totLen, length]
  · rw [fills.protocol]
  · rw [fills.saddr]
  · rw [fills.daddr]

/-! ## The checksum of a packet on its way -/

/-- The TCP checksum does not depend on the checksum of the IP header. -/
theorem tcpChecksum_store_ip (packet : Memory U8) {ip tcp : ℕ} (after : ip + 12 ≤ tcp)
    (value : U16) :
    (tcpChecksum (packet.store16 (ip + 10) value) ip tcp).1 = (tcpChecksum packet ip tcp).1 := by
  have zeroed : ∀ index, index ≠ ip + 10 → index ≠ ip + 11 →
      (packet.store16 (ip + 10) value).store16 (tcp + 16) 0 index =
        packet.store16 (tcp + 16) 0 index := by
    intro index notLow notHigh
    have same := packet.store16_of_ne value (show index < ip + 10 ∨ ip + 10 + 2 ≤ index by omega)
    simp only [Memory.store16, Memory.blit] at same ⊢
    simp only [same]
  have ihl : IpHdr.size ((packet.store16 (ip + 10) value).store16 (tcp + 16) 0) ip =
      IpHdr.size (packet.store16 (tcp + 16) 0) ip := by
    rw [IpHdr.size, IpHdr.size, IpHdr.ihl, IpHdr.ihl, zeroed ip (by omega) (by omega)]
  have totLen : IpHdr.totLen ((packet.store16 (ip + 10) value).store16 (tcp + 16) 0) ip =
      IpHdr.totLen (packet.store16 (tcp + 16) 0) ip :=
    Memory.load16_congr (zeroed _ (by omega) (by omega)) (zeroed _ (by omega) (by omega))
  have protocol : IpHdr.protocol ((packet.store16 (ip + 10) value).store16 (tcp + 16) 0) ip =
      IpHdr.protocol (packet.store16 (tcp + 16) 0) ip := zeroed _ (by omega) (by omega)
  have saddr : IpHdr.saddr ((packet.store16 (ip + 10) value).store16 (tcp + 16) 0) ip =
      IpHdr.saddr (packet.store16 (tcp + 16) 0) ip :=
    Memory.load32_congr fun index _ => zeroed _ (by omega) (by omega)
  have daddr : IpHdr.daddr ((packet.store16 (ip + 10) value).store16 (tcp + 16) 0) ip =
      IpHdr.daddr (packet.store16 (tcp + 16) 0) ip :=
    Memory.load32_congr fun index _ => zeroed _ (by omega) (by omega)
  simp only [tcpChecksum, ihl, totLen, protocol, saddr, daddr]
  exact checksum_congr (fun index _ => zeroed _ (by omega) (by omega)) _

/-- The receiver's comparison passes once the checksum was filled in. -/
theorem checksumMatches_store (packet : Memory U8) (ip tcp : ℕ) :
    checksumMatches (packet.store16 (tcp + 16) (tcpChecksum packet ip tcp).1) ip tcp = true := by
  rw [checksumMatches, tcpChecksum_store, beq_iff_eq]
  exact (Memory.load16_store16 packet (tcp + 16) _).symm

/-- The receiver's comparison does not depend on the checksum of the IP
header. -/
theorem checksumMatches_store_ip (packet : Memory U8) {ip tcp : ℕ} (after : ip + 12 ≤ tcp)
    (value : U16) :
    checksumMatches (packet.store16 (ip + 10) value) ip tcp = checksumMatches packet ip tcp := by
  have field : TcpHdr.checksum (packet.store16 (ip + 10) value) tcp = TcpHdr.checksum packet tcp :=
    Memory.load16_congr (packet.store16_of_ne value (by omega))
      (packet.store16_of_ne value (by omega))
  rw [checksumMatches, checksumMatches, tcpChecksum_store_ip packet after, field]

/-! ## What the receiver makes of a packet -/

/-- What `tcp_cb_init` makes of a segment that arrives unmodified. -/
def Segment.received (sent : Segment) : TcpCb where
  saddr := sent.saddr
  daddr := sent.daddr
  sport := sent.sport
  dport := sent.dport
  seq := sent.seq
  seqEnd := sent.seq + BitVec.ofNat 32 sent.payload.length +
    (if sent.flags &&& (tcpSyn ||| tcpFin) ≠ 0 then 1 else 0)
  ack := sent.ack
  rwnd := sent.rwnd.setWidth 32
  flags := sent.flags
  payload := tcpPlace + tcpBaseHdrSize
  plLen := sent.payload.length

/-- The packet is one that the receiver takes for the segment. -/
structure Delivers (packet : Memory U8) (sent : Segment) : Prop where
  place : ipData packet packetToIpHdr = tcpPlace
  matching : checksumMatches packet packetToIpHdr tcpPlace = true
  received : tcpCbInit packet packetToIpHdr tcpPlace = sent.received
  payload : packet.slice (tcpPlace + tcpBaseHdrSize) sent.payload.length = sent.payload

/-- A packet that carries a segment and has a matching checksum delivers the
segment. -/
theorem delivers_of_carries {packet : Memory U8} {sent : Segment}
    (ip : CarriesIp packet sent) (tcp : CarriesTcp packet sent)
    (fits : 40 + sent.payload.length < 2 ^ 16)
    (matching : checksumMatches packet packetToIpHdr tcpPlace = true) :
    Delivers packet sent := by
  have ipSize : IpHdr.size packet packetToIpHdr = 20 := by
    rw [IpHdr.size, ip.ihl]
    rfl
  have tcpSize : TcpHdr.size packet tcpPlace = 20 := by
    rw [TcpHdr.size, tcp.off]
    rfl
  have total : (ntohs (IpHdr.totLen packet packetToIpHdr)).toNat = 40 + sent.payload.length := by
    rw [ip.totLen, ntohs, htons_htons, BitVec.toNat_ofNat, Nat.mod_eq_of_lt fits]
  have length : ((40 + sent.payload.length : ℕ) : ℤ) - (20 : ℕ) - (20 : ℕ) =
      sent.payload.length := by omega
  refine ⟨?_, matching, ?_, tcp.payload⟩
  · rw [ipData, ipSize]
    rfl
  · simp only [tcpCbInit, Segment.received, total, ipSize, tcpSize, length, ip.saddr, ip.daddr,
      tcp.sport, tcp.dport, tcp.seq, tcp.ack, tcp.flags, tcp.rwnd, htonl_htonl, htons_htons,
      BitVec.ofInt_natCast, tcpBaseHdrSize]

/-- Filling in the checksum of a packet that carries a segment finishes it. -/
theorem delivers_store {packet : Memory U8} {sent : Segment} (ip : CarriesIp packet sent)
    (tcp : CarriesTcp packet sent) (fits : 40 + sent.payload.length < 2 ^ 16) :
    Delivers (packet.store16 (tcpPlace + 16) (tcpChecksum packet packetToIpHdr tcpPlace).1)
      sent := by
  apply delivers_of_carries _ _ fits (checksumMatches_store _ _ _)
  · exact ip.congr fun index _ before _ _ => packet.store16_of_ne _ (by omega)
  · exact tcp.congr fun index _ notLow notHigh => packet.store16_of_ne _ (by omega)

/-- The same when the checksum of the IP header is filled in afterwards. -/
theorem delivers_store_ip {packet : Memory U8} {sent : Segment} (ip : CarriesIp packet sent)
    (tcp : CarriesTcp packet sent) (fits : 40 + sent.payload.length < 2 ^ 16) (value : U16) :
    Delivers ((packet.store16 (tcpPlace + 16)
      (tcpChecksum packet packetToIpHdr tcpPlace).1).store16 (packetToIpHdr + 10) value) sent := by
  have place : packetToIpHdr + 20 = tcpPlace := rfl
  have stored : checksumMatches (packet.store16 (tcpPlace + 16)
      (tcpChecksum packet packetToIpHdr tcpPlace).1) packetToIpHdr tcpPlace = true :=
    checksumMatches_store _ _ _
  rw [← checksumMatches_store_ip _ (by omega) value] at stored
  apply delivers_of_carries _ _ fits stored
  · apply ip.congr
    intro index _ before notLow notHigh
    rw [Memory.store16_of_ne _ _ (by omega), Memory.store16_of_ne _ _ (by omega)]
  · apply tcp.congr
    intro index after notLow notHigh
    rw [Memory.store16_of_ne _ _ (by omega), Memory.store16_of_ne _ _ (by omega)]

/-! ## The three builders -/

section Builders

variable {ipInitHdr : IpInitHdr} (fills : ipInitHdr.Fills)
include fills

/-- Packets without payload: IP header first, TCP header after it. -/
theorem delivers_of_headers (buffer packet : Memory U8) (sent : Segment)
    (bare : sent.payload = [])
    (built : packet = tcpInitHdr (ipInitHdr buffer packetToIpHdr sent.saddr sent.daddr
      (BitVec.ofNat 16 (ipBaseHdrSize + tcpBaseHdrSize)) ipprotoTcp) tcpPlace sent.sport
      sent.dport sent.seq sent.ack sent.flags sent.rwnd) :
    Delivers (packet.store16 (tcpPlace + 16) (tcpChecksum packet packetToIpHdr tcpPlace).1)
      sent := by
  have length : sent.payload.length = 0 := by rw [bare, List.length_nil]
  have total : BitVec.ofNat 16 (ipBaseHdrSize + tcpBaseHdrSize) =
      BitVec.ofNat 16 (40 + sent.payload.length) := by
    rw [length]
    rfl
  subst built
  apply delivers_store
  · exact (carriesIp_ipInitHdr fills buffer total).congr fun index _ before _ _ =>
      tcpInitHdr_of_lt _ _ _ _ _ _ _ before
  · apply carriesTcp_tcpInitHdr
    rw [length, bare, Memory.slice_zero]
  · omega

theorem tcpSendControlPacketFrame_delivers (tsk : TcpSock) (flags : U8) (buffer : Memory U8) :
    Delivers (tcpSendControlPacketFrame ipInitHdr tsk flags buffer) (tsk.controlSegment flags) :=
  delivers_of_headers fills buffer _ (tsk.controlSegment flags) rfl rfl

theorem tcpSendResetFrame_delivers (cb : TcpCb) (buffer : Memory U8) :
    Delivers (tcpSendResetFrame ipInitHdr cb buffer) cb.resetSegment :=
  delivers_of_headers fills buffer _ cb.resetSegment rfl rfl

theorem tcpSendPacketFrame_delivers (tsk : TcpSock) {payload : List U8} {buffer : Memory U8}
    (fits : 40 + payload.length < 2 ^ 16) (filled : buffer.slice 54 payload.length = payload) :
    Delivers (tcpSendPacketFrame ipInitHdr tsk buffer (54 + payload.length))
      (tsk.dataSegment payload) := by
  have length : BitVec.ofInt 16 ((54 + payload.length : ℤ) - etherHdrSize) =
      BitVec.ofNat 16 (40 + (tsk.dataSegment payload).payload.length) := by
    rw [← BitVec.ofInt_natCast]
    congr 1
    simp only [etherHdrSize, TcpSock.dataSegment]
    omega
  apply delivers_store_ip _ _ fits
  · exact carriesIp_ipInitHdr fills _ length
  · refine (carriesTcp_tcpInitHdr buffer (tsk.dataSegment payload) filled).congr ?_
    intro index after _ _
    exact fills.frame _ _ _ _ _ _ _ (Or.inr after)

end Builders

/-- The packet, handed to `handle_tcp_packet` by `handle_ip_packet`, passes the
checksum comparison and is decoded to the values of the segment. -/
structure DecodesAs (packet : Memory U8) (sent : Segment) : Prop where
  matching : checksumMatches packet packetToIpHdr (ipData packet packetToIpHdr) = true
  saddr : (tcpCbInit packet packetToIpHdr (ipData packet packetToIpHdr)).saddr = sent.saddr
  daddr : (tcpCbInit packet packetToIpHdr (ipData packet packetToIpHdr)).daddr = sent.daddr
  sport : (tcpCbInit packet packetToIpHdr (ipData packet packetToIpHdr)).sport = sent.sport
  dport : (tcpCbInit packet packetToIpHdr (ipData packet packetToIpHdr)).dport = sent.dport
  seq : (tcpCbInit packet packetToIpHdr (ipData packet packetToIpHdr)).seq = sent.seq
  ack : (tcpCbInit packet packetToIpHdr (ipData packet packetToIpHdr)).ack = sent.ack
  rwnd : (tcpCbInit packet packetToIpHdr (ipData packet packetToIpHdr)).rwnd =
    sent.rwnd.setWidth 32
  flags : (tcpCbInit packet packetToIpHdr (ipData packet packetToIpHdr)).flags = sent.flags
  plLen : (tcpCbInit packet packetToIpHdr (ipData packet packetToIpHdr)).plLen =
    sent.payload.length
  payload : packet.slice (tcpCbInit packet packetToIpHdr (ipData packet packetToIpHdr)).payload
    sent.payload.length = sent.payload

theorem Delivers.decodesAs {packet : Memory U8} {sent : Segment}
    (delivers : Delivers packet sent) : DecodesAs packet sent := by
  constructor <;> rw [delivers.place]
  · exact delivers.matching
  all_goals rw [delivers.received]
  case payload => exact delivers.payload
  all_goals rfl

/-- **Decoding undoes encoding**, for every buffer the packet is built in: what
any of the three builders hands to the IP layer passes the receiver's checksum
comparison and is decoded to the values sent. -/
theorem encode_decode (ipInitHdr : IpInitHdr) (fills : ipInitHdr.Fills) :
    (∀ (tsk : TcpSock) (payload : List U8) (buffer : Memory U8), 40 + payload.length < 2 ^ 16 →
      buffer.slice 54 payload.length = payload →
      DecodesAs (tcpSendPacketFrame ipInitHdr tsk buffer (54 + payload.length))
        (tsk.dataSegment payload)) ∧
    (∀ (tsk : TcpSock) (flags : U8) (buffer : Memory U8),
      DecodesAs (tcpSendControlPacketFrame ipInitHdr tsk flags buffer)
        (tsk.controlSegment flags)) ∧
    (∀ (cb : TcpCb) (buffer : Memory U8),
      DecodesAs (tcpSendResetFrame ipInitHdr cb buffer) cb.resetSegment) :=
  ⟨fun tsk _ _ fits filled => (tcpSendPacketFrame_delivers fills tsk fits filled).decodesAs,
    fun tsk flags buffer => (tcpSendControlPacketFrame_delivers fills tsk flags buffer).decodesAs,
    fun cb buffer => (tcpSendResetFrame_delivers fills cb buffer).decodesAs⟩

/-- What the library does: the given identification stands for the random number
it draws. -/
def ipInitHdrWithId (id : U16) : IpInitHdr := fun packet ip saddr daddr len proto =>
  let packet := packet.blit ip ([0x45, 0] ++ bytes16 (htons len) ++ bytes16 id ++
    bytes16 (htons 0x4000) ++ [64, proto, 0, 0] ++ bytes32 (htonl saddr) ++ bytes32 (htonl daddr))
  packet.store16 (ip + 10) (ipChecksum packet ip).1

theorem ipInitHdrWithId_fills (id : U16) : (ipInitHdrWithId id).Fills := by
  constructor <;> intro packet ip saddr daddr len proto
  · simp [IpHdr.version, ipInitHdrWithId, Memory.store16, Memory.blit]
  · simp [IpHdr.ihl, ipInitHdrWithId, Memory.store16, Memory.blit]
  · apply Memory.load16_eq <;>
      simp [ipInitHdrWithId, Memory.store16, Memory.blit, bytes16, bytes32, Nat.add_assoc]
  · simp [IpHdr.protocol, ipInitHdrWithId, Memory.store16, Memory.blit, bytes16, bytes32]
  · apply Memory.load32_eq <;>
      simp [ipInitHdrWithId, Memory.store16, Memory.blit, bytes16, bytes32, Nat.add_assoc]
  · apply Memory.load32_eq <;>
      simp [ipInitHdrWithId, Memory.store16, Memory.blit, bytes16, bytes32, Nat.add_assoc]
  · intro index outside
    rw [ipInitHdrWithId, Memory.store16_of_ne _ _ (by simp only [ipBaseHdrSize] at outside; omega)]
    rcases outside with before | after
    · exact Memory.blit_of_lt _ _ before
    · exact Memory.blit_of_ge _ _ (by simpa [bytes16, bytes32, ipBaseHdrSize] using after)

/-- Three bytes sent by a sock just allocated. -/
theorem encode_decode_three_bytes :
    DecodesAs (tcpSendPacketFrame (ipInitHdrWithId 7) zeroedSock
      (Memory.blit (fun _ => 0xaa) 54 [1, 2, 3]) 57) (zeroedSock.dataSegment [1, 2, 3]) :=
  (encode_decode (ipInitHdrWithId 7) (ipInitHdrWithId_fills 7)).1 zeroedSock [1, 2, 3] _
    (by decide) (Memory.slice_blit _ 54 [1, 2, 3])

end TcpStack
