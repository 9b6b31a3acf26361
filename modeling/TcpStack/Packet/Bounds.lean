import TcpStack.Packet.Header
import TcpStack.Lib.Logged
import Mathlib.Algebra.Order.Ring.Nat

/-!
# The bytes a frame is read at

The way of a frame from `handle_ip_packet` to `tcp_process`, with a log of the
bytes of the frame it reads. Three lengths come with the frame: of the IP
header, of the IP datagram and of the TCP header. The program takes all three as
they are, and the number of bytes received does not come with them to the TCP
layer.

The functions that keep a log compute what the functions of `tcp.h` and `tcp.c`
compute (`tcpChecksumReading_run`, `tcpCbInitReading_run`). A frame is read
inside its bounds exactly when the lengths it states fit into one another and
into the number of bytes received (`frame_read_inside_iff`).
-/

set_option autoImplicit false

namespace TcpStack

open Lib

def ethFrameLen : ℕ := 1514
def ethPIp : U16 := 0x0800
def ipprotoIcmp : U8 := 1
def icmpEchoRequest : U8 := 8

/-! ## Reading with a log -/

/-- A computation on the bytes of a packet that keeps a log of the places it
reads. -/
abbrev Reading (α : Type) := Logged ℕ (Memory U8) Empty α

def readByte (place : ℕ) : Reading U8 := fun packet => ([place], .ok (packet place, packet))

def read16 (place : ℕ) : Reading U16 := do
  let low ← readByte place
  let high ← readByte (place + 1)
  pure (high ++ low)

def read32 (place : ℕ) : Reading U32 := do
  let first ← readByte place
  let second ← readByte (place + 1)
  let third ← readByte (place + 2)
  let fourth ← readByte (place + 3)
  pure (fourth ++ third ++ second ++ first)

def write16 (place : ℕ) (value : U16) : Reading Unit := fun packet =>
  ([], .ok ((), packet.store16 place value))

/-- `checksum`. -/
def checksumReading (buf nbytes : ℕ) (sum : U32) : Reading U16 := do
  let sum ← (List.range (nbytes / 2)).foldlM
    (fun sum i => do
      let word ← read16 (buf + 2 * i)
      pure (sum + word.setWidth 32)) sum
  let sum := (sum >>> 16) + (sum &&& 0xffff)
  let sum := sum + (sum >>> 16)
  let sum ← if nbytes % 2 ≠ 0 then do
      let last ← readByte (buf + (nbytes - 1))
      pure (sum + last.setWidth 32)
    else pure sum
  pure ((~~~sum).setWidth 16)

/-- `tcp_checksum`. -/
def tcpChecksumReading (ip tcp : ℕ) : Reading U16 := do
  let tmp ← read16 (tcp + 16)
  write16 (tcp + 16) 0
  let protocol ← readByte (ip + 9)
  let reservProto : U16 := protocol.setWidth 16
  let totLen ← read16 (ip + 2)
  let ihl ← readByte ip
  let tcpLen : U16 := ntohs totLen - BitVec.ofNat 16 ((ihl &&& 0x0f).toNat * 4)
  let saddr ← read32 (ip + 12)
  let daddr ← read32 (ip + 16)
  let sum : U32 := saddr + daddr + (htons reservProto).setWidth 32 + (htons tcpLen).setWidth 32
  let cksum ← checksumReading tcp tcpLen.toNat sum
  write16 (tcp + 16) tmp
  pure cksum

/-- `tcp_cb_init`. -/
def tcpCbInitReading (ip tcp : ℕ) : Reading TcpCb := do
  let totLen ← read16 (ip + 2)
  let ihl ← readByte ip
  let off ← readByte (tcp + 12)
  let tcpSize := (off >>> 4).toNat * 4
  let len : ℤ := (ntohs totLen).toNat - ((ihl &&& 0x0f).toNat * 4 : ℕ) - tcpSize
  let saddr ← read32 (ip + 12)
  let daddr ← read32 (ip + 16)
  let sport ← read16 tcp
  let dport ← read16 (tcp + 2)
  let seq ← read32 (tcp + 4)
  let flags ← readByte (tcp + 13)
  let ack ← read32 (tcp + 8)
  let rwnd ← read16 (tcp + 14)
  pure
    { saddr := ntohl saddr
      daddr := ntohl daddr
      sport := ntohs sport
      dport := ntohs dport
      seq := ntohl seq
      seqEnd := ntohl seq + BitVec.ofInt 32 len +
        (if flags &&& (tcpSyn ||| tcpFin) ≠ 0 then 1 else 0)
      ack := ntohl ack
      rwnd := (ntohs rwnd).setWidth 32
      flags := flags
      payload := tcp + tcpSize
      plLen := len }

/-- What becomes of a frame: nothing, an echo reply, or a call of
`tcp_process`. -/
inductive Handed where
  | nothing
  | icmpReply
  | segment (cb : TcpCb)

/-- `handle_tcp_packet` up to its call of `tcp_process`. The sock is looked up
in between, which does not read the packet. -/
def handleTcpPacketReading (ip tcp : ℕ) : Reading Handed := do
  let cksum ← tcpChecksumReading ip tcp
  let sent ← read16 (tcp + 16)
  if cksum ≠ sent then
    pure .nothing
  else
    let cb ← tcpCbInitReading ip tcp
    pure (.segment cb)

/-- `handle_ip_packet`, for the address of the interface. -/
def handleIpPacketReading (ifaceIp : U32) : Reading Handed := do
  let ip := packetToIpHdr
  let daddr ← read32 (ip + 16)
  if ntohl daddr = ifaceIp then
    let protocol ← readByte (ip + 9)
    if protocol = ipprotoIcmp then
      let ihl ← readByte ip
      let type ← readByte (ip + (ihl &&& 0x0f).toNat * 4)
      pure (if type = icmpEchoRequest then .icmpReply else .nothing)
    else if protocol = ipprotoTcp then
      let ihl ← readByte ip
      handleTcpPacketReading ip (ip + (ihl &&& 0x0f).toNat * 4)
    else
      pure .nothing
  else
    pure .nothing

/-! ## What is read, and what it comes to -/

/-- `nbytes` consecutive places. -/
def places (buf nbytes : ℕ) : List ℕ := (List.range nbytes).map (buf + ·)

theorem mem_places {buf nbytes place : ℕ} :
    place ∈ places buf nbytes ↔ buf ≤ place ∧ place < buf + nbytes := by
  simp only [places, List.mem_map, List.mem_range]
  constructor
  · rintro ⟨index, within, rfl⟩
    omega
  · rintro ⟨lower, upper⟩
    exact ⟨place - buf, by omega, by omega⟩

section Runs

variable (packet : Memory U8)

theorem read16_run (place : ℕ) :
    read16 place packet = (places place 2, .ok (packet.load16 place, packet)) := rfl

theorem read32_run (place : ℕ) :
    read32 place packet = (places place 4, .ok (packet.load32 place, packet)) := rfl

theorem readByte_run (place : ℕ) :
    readByte place packet = (places place 1, .ok (packet place, packet)) := rfl

/-- The places of the words of a block. -/
theorem flatMap_places (buf count : ℕ) :
    ((List.range count).flatMap fun i => places (buf + 2 * i) 2) = places buf (2 * count) := by
  induction count with
  | zero => rfl
  | succ count ih =>
      have pair : (List.range 2).map (2 * count + ·) = [2 * count, 2 * count + 1] := rfl
      rw [List.range_succ, List.flatMap_append, ih, Nat.mul_succ, places, places, List.range_add,
        List.map_append, pair]
      rfl

/-- The checksum reads the bytes it sums. -/
theorem checksumReading_run (buf nbytes : ℕ) (sum : U32) :
    checksumReading buf nbytes sum packet =
      (places buf nbytes, .ok (checksum packet buf nbytes sum, packet)) := by
  have loop : (List.range (nbytes / 2)).foldlM (fun (sum : U32) i => (do
        let word ← read16 (buf + 2 * i)
        pure (sum + word.setWidth 32) : Reading U32)) sum packet =
      (places buf (2 * (nbytes / 2)), .ok ((List.range (nbytes / 2)).foldl
        (fun sum i => sum + (packet.load16 (buf + 2 * i)).setWidth 32) sum, packet)) := by
    rw [← flatMap_places]
    exact Logged.foldlM_steady (fun _ _ => rfl) _ _
  rw [checksumReading, Logged.bind_of_ok loop]
  rcases Nat.mod_two_eq_zero_or_one nbytes with even | odd
  · have whole : 2 * (nbytes / 2) = nbytes := by omega
    simp only [even, ne_eq, not_true_eq_false, if_false, Logged.bind_apply, Logged.pure_apply,
      List.append_nil, whole, checksum]
  · have count : nbytes = 2 * (nbytes / 2) + 1 := by omega
    have last : nbytes - 1 = 2 * (nbytes / 2) := by omega
    have block : places buf nbytes = places buf (2 * (nbytes / 2)) ++ [buf + (nbytes - 1)] := by
      rw [last]
      conv_lhs => rw [count]
      rw [places, List.range_succ, List.map_append]
      rfl
    simp only [odd, ne_eq, one_ne_zero, not_false_eq_true, if_true, Logged.bind_apply,
      Logged.pure_apply, readByte, List.append_nil, block, checksum]

/-- The length of the TCP header and the payload as `tcp_checksum` computes it,
in 16 bits. -/
def tcpLength (ip : ℕ) : U16 :=
  ntohs (IpHdr.totLen packet ip) - BitVec.ofNat 16 (IpHdr.size packet ip)

theorem tcpChecksumReading_run {ip tcp : ℕ} (behind : ip ≤ tcp) :
    tcpChecksumReading ip tcp packet =
      (places (tcp + 16) 2 ++ (places (ip + 9) 1 ++ (places (ip + 2) 2 ++ (places ip 1 ++
        (places (ip + 12) 4 ++ (places (ip + 16) 4 ++
          places tcp (tcpLength packet ip).toNat))))),
        .ok ((tcpChecksum packet ip tcp).1, packet)) := by
  have kept : ∀ place, place < tcp + 16 → packet.store16 (tcp + 16) 0 place = packet place :=
    fun place before => packet.store16_of_ne 0 (.inl before)
  have totLen : (packet.store16 (tcp + 16) 0).load16 (ip + 2) = packet.load16 (ip + 2) :=
    Memory.load16_congr (kept _ (by omega)) (kept _ (by omega))
  have length : ntohs ((packet.store16 (tcp + 16) 0).load16 (ip + 2)) -
      BitVec.ofNat 16 ((packet.store16 (tcp + 16) 0 ip &&& 0x0f).toNat * 4) =
        tcpLength packet ip := by
    rw [totLen, kept ip (by omega)]
    rfl
  have restored : ((packet.store16 (tcp + 16) 0).store16 (tcp + 16) (packet.load16 (tcp + 16))) =
      packet := tcpChecksum_packet packet ip tcp
  simp only [tcpChecksumReading, Logged.bind_apply, read16_run, readByte_run, read32_run, write16,
    checksumReading_run, Logged.pure_apply, length, restored, List.append_nil, List.nil_append]
  simp only [tcpChecksum, ← length]
  rfl

theorem tcpCbInitReading_run (ip tcp : ℕ) :
    tcpCbInitReading ip tcp packet =
      (places (ip + 2) 2 ++ (places ip 1 ++ (places (tcp + 12) 1 ++ (places (ip + 12) 4 ++
        (places (ip + 16) 4 ++ (places tcp 2 ++ (places (tcp + 2) 2 ++ (places (tcp + 4) 4 ++
          (places (tcp + 13) 1 ++ (places (tcp + 8) 4 ++ places (tcp + 14) 2))))))))),
        .ok (tcpCbInit packet ip tcp, packet)) := rfl

theorem handleTcpPacketReading_run {ip tcp : ℕ} (behind : ip ≤ tcp) :
    handleTcpPacketReading ip tcp packet =
      ((tcpChecksumReading ip tcp packet).1 ++ (places (tcp + 16) 2 ++
        if checksumMatches packet ip tcp then (tcpCbInitReading ip tcp packet).1 else []),
        .ok (if checksumMatches packet ip tcp then .segment (tcpCbInit packet ip tcp) else .nothing,
          packet)) := by
  have compared : checksumMatches packet ip tcp = true ↔
      (tcpChecksum packet ip tcp).1 = packet.load16 (tcp + 16) := beq_iff_eq
  simp only [handleTcpPacketReading, Logged.bind_apply, tcpChecksumReading_run packet behind,
    read16_run]
  by_cases same : (tcpChecksum packet ip tcp).1 = packet.load16 (tcp + 16)
  · simp only [compared.mpr same, same, ne_eq, not_true_eq_false, if_false, if_true,
      Logged.bind_apply, tcpCbInitReading_run, Logged.pure_apply, List.append_nil]
  · have different : checksumMatches packet ip tcp = false :=
      Bool.eq_false_iff.mpr fun matching => same (compared.mp matching)
    simp only [different, same, ne_eq, not_false_eq_true, if_true, Bool.false_eq_true, if_false,
      Logged.pure_apply]

end Runs

/-! ## Frames -/

/-- A frame as `recv` returns it: what lies behind the bytes received is
whatever is there. -/
structure ReceivedFrame where
  packet : Memory U8
  len : ℕ
  received : 1 ≤ len
  fits : len ≤ ethFrameLen

namespace ReceivedFrame

variable (frame : ReceivedFrame) (ifaceIp : U32)

/-- Whether `handle_packet` calls `handle_ip_packet`. -/
def routed : Bool := ntohs (frame.packet.load16 12) == ethPIp

/-- The places `handle_ip_packet` and what it calls read the frame at. -/
def readPlaces : List ℕ := (handleIpPacketReading ifaceIp).log frame.packet

/-- Every byte read was received, and so was every byte of the payload handed
on. -/
def ReadInside : Prop :=
  (∀ place ∈ frame.readPlaces ifaceIp, place < frame.len) ∧
    ∀ cb packet, (handleIpPacketReading ifaceIp).result frame.packet = .ok (.segment cb, packet) →
      0 ≤ cb.plLen ∧ cb.payload + cb.plLen ≤ frame.len

/-- The frame is for the interface and carries the given protocol. -/
def Carries (protocol : U8) : Prop :=
  ntohl (IpHdr.daddr frame.packet packetToIpHdr) = ifaceIp ∧
    IpHdr.protocol frame.packet packetToIpHdr = protocol

/-- Where the header of the upper layer starts. -/
def data : ℕ := ipData frame.packet packetToIpHdr

/-- The total length the IP header states. -/
def totLen : ℕ := (ntohs (IpHdr.totLen frame.packet packetToIpHdr)).toNat

/-- The lengths a frame states fit into one another and into the number of bytes
received, as far as the program goes by them. -/
structure Consistent : Prop where
  header : packetToIpHdr + ipBaseHdrSize ≤ frame.len
  icmp : frame.Carries ifaceIp ipprotoIcmp → frame.data < frame.len
  checksum : frame.Carries ifaceIp ipprotoTcp → frame.data + 18 ≤ frame.len
  ipSize : frame.Carries ifaceIp ipprotoTcp → IpHdr.size frame.packet packetToIpHdr ≤ frame.totLen
  total : frame.Carries ifaceIp ipprotoTcp → packetToIpHdr + frame.totLen ≤ frame.len
  tcpSize : frame.Carries ifaceIp ipprotoTcp →
    checksumMatches frame.packet packetToIpHdr frame.data = true →
      IpHdr.size frame.packet packetToIpHdr + TcpHdr.size frame.packet frame.data ≤ frame.totLen

end ReceivedFrame

/-! ## Bounds -/

/-- The places are inside a block of the given length. -/
def Inside (len : ℕ) (log : List ℕ) : Prop := ∀ place ∈ log, place < len

section Inside

variable {len : ℕ}

theorem inside_nil : Inside len [] := by
  intro place member
  cases member

theorem inside_append {first second : List ℕ} :
    Inside len (first ++ second) ↔ Inside len first ∧ Inside len second := by
  simp only [Inside, List.mem_append, or_imp, forall_and]

theorem inside_places {buf nbytes : ℕ} :
    Inside len (places buf nbytes) ↔ nbytes = 0 ∨ buf + nbytes ≤ len := by
  simp only [Inside, mem_places]
  constructor
  · intro inside
    rcases Nat.eq_zero_or_pos nbytes with none | some
    · exact .inl none
    · have last := inside (buf + nbytes - 1) ⟨by omega, by omega⟩
      exact .inr (by omega)
  · rintro bound place ⟨lower, upper⟩
    omega

/-- What `tcp_checksum` reads is inside when its own field and the bytes it sums
are. -/
theorem inside_tcpChecksumReading {packet : Memory U8} {ip tcp : ℕ} (behind : ip ≤ tcp)
    (header : ip + 20 ≤ len) :
    Inside len (tcpChecksumReading ip tcp packet).1 ↔
      tcp + 18 ≤ len ∧ tcp + (tcpLength packet ip).toNat ≤ len := by
  rw [tcpChecksumReading_run packet behind]
  simp only [inside_append, inside_places]
  omega

/-- The rest reads no further. -/
theorem inside_handleTcpPacketReading {packet : Memory U8} {ip tcp : ℕ} (behind : ip ≤ tcp)
    (header : ip + 20 ≤ len) :
    Inside len (handleTcpPacketReading ip tcp packet).1 ↔
      tcp + 18 ≤ len ∧ tcp + (tcpLength packet ip).toNat ≤ len := by
  rw [handleTcpPacketReading_run packet behind, inside_append,
    inside_tcpChecksumReading behind header, inside_append, inside_places]
  constructor
  · exact fun inside => inside.1
  · rintro ⟨field, summed⟩
    refine ⟨⟨field, summed⟩, .inr (by omega), ?_⟩
    split
    · rw [tcpCbInitReading_run]
      simp only [inside_append, inside_places]
      omega
    · exact inside_nil

end Inside

/-- An IP header length is at most 60. -/
theorem IpHdr.size_le (packet : Memory U8) (ip : ℕ) : IpHdr.size packet ip ≤ 60 := by
  have masked : (packet ip &&& 0x0f).toNat ≤ 15 := by
    rw [BitVec.toNat_and]
    exact Nat.and_le_right
  simp only [IpHdr.size, IpHdr.ihl]
  omega

/-- The 16-bit length is the one stated, or far too large. -/
theorem tcpLength_toNat (packet : Memory U8) (ip : ℕ) :
    (tcpLength packet ip).toNat + IpHdr.size packet ip =
        (ntohs (IpHdr.totLen packet ip)).toNat ∧
          IpHdr.size packet ip ≤ (ntohs (IpHdr.totLen packet ip)).toNat ∨
      (tcpLength packet ip).toNat + IpHdr.size packet ip =
        (ntohs (IpHdr.totLen packet ip)).toNat + 65536 ∧
          (ntohs (IpHdr.totLen packet ip)).toNat < IpHdr.size packet ip := by
  have small := IpHdr.size_le packet ip
  have size : (BitVec.ofNat 16 (IpHdr.size packet ip)).toNat = IpHdr.size packet ip := by
    rw [BitVec.toNat_ofNat, Nat.mod_eq_of_lt (by omega)]
  have bound := (ntohs (IpHdr.totLen packet ip)).isLt
  rw [tcpLength, BitVec.toNat_sub, size]
  omega

namespace ReceivedFrame

variable (frame : ReceivedFrame) (ifaceIp : U32)

theorem inside_tcp_iff (header : packetToIpHdr + ipBaseHdrSize ≤ frame.len) :
    Inside frame.len (handleTcpPacketReading packetToIpHdr frame.data frame.packet).1 ↔
      frame.data + 18 ≤ frame.len ∧ IpHdr.size frame.packet packetToIpHdr ≤ frame.totLen ∧
        packetToIpHdr + frame.totLen ≤ frame.len := by
  have start : frame.data = packetToIpHdr + IpHdr.size frame.packet packetToIpHdr := rfl
  have total : frame.totLen = (ntohs (IpHdr.totLen frame.packet packetToIpHdr)).toNat := rfl
  have longest : frame.len ≤ 1514 := frame.fits
  have small := IpHdr.size_le frame.packet packetToIpHdr
  rw [inside_handleTcpPacketReading (by omega) header]
  rcases tcpLength_toNat frame.packet packetToIpHdr with ⟨length, stated⟩ | ⟨length, wrapped⟩
  · omega
  · omega

/-- The payload handed on is inside when the lengths of the headers fit into the
total length. -/
theorem payload_inside_iff (total : packetToIpHdr + frame.totLen ≤ frame.len) :
    (0 ≤ (tcpCbInit frame.packet packetToIpHdr frame.data).plLen ∧
      (tcpCbInit frame.packet packetToIpHdr frame.data).payload +
        (tcpCbInit frame.packet packetToIpHdr frame.data).plLen ≤ frame.len) ↔
      IpHdr.size frame.packet packetToIpHdr + TcpHdr.size frame.packet frame.data ≤
        frame.totLen := by
  have start : frame.data = packetToIpHdr + IpHdr.size frame.packet packetToIpHdr := rfl
  have length : (tcpCbInit frame.packet packetToIpHdr frame.data).plLen =
      frame.totLen - IpHdr.size frame.packet packetToIpHdr -
        TcpHdr.size frame.packet frame.data := rfl
  have payload : (tcpCbInit frame.packet packetToIpHdr frame.data).payload =
      frame.data + TcpHdr.size frame.packet frame.data := rfl
  rw [length, payload]
  omega

section Branches

/-- The destination is looked at in every frame. -/
theorem handleIpPacketReading_foreign
    (foreign : ntohl (IpHdr.daddr frame.packet packetToIpHdr) ≠ ifaceIp) :
    handleIpPacketReading ifaceIp frame.packet =
      (places (packetToIpHdr + 16) 4, .ok (.nothing, frame.packet)) := by
  have other : ¬ ntohl (frame.packet.load32 (packetToIpHdr + 16)) = ifaceIp := foreign
  simp only [handleIpPacketReading, Logged.bind_apply, read32_run, if_neg other,
    Logged.pure_apply, List.append_nil]

variable {frame ifaceIp}

theorem handleIpPacketReading_icmp (carries : frame.Carries ifaceIp ipprotoIcmp) :
    ∃ handed, (∀ cb, handed ≠ .segment cb) ∧ handleIpPacketReading ifaceIp frame.packet =
      (places (packetToIpHdr + 16) 4 ++ (places (packetToIpHdr + 9) 1 ++
        (places packetToIpHdr 1 ++ places frame.data 1)), .ok (handed, frame.packet)) := by
  have here : ntohl (frame.packet.load32 (packetToIpHdr + 16)) = ifaceIp := carries.1
  have protocol : frame.packet (packetToIpHdr + 9) = ipprotoIcmp := carries.2
  refine ⟨if frame.packet frame.data = icmpEchoRequest then .icmpReply else .nothing, ?_, ?_⟩
  · intro cb
    split <;> simp
  · simp only [handleIpPacketReading, Logged.bind_apply, read32_run, if_pos here, readByte_run,
      if_pos protocol, Logged.pure_apply, List.append_nil]
    rfl

theorem handleIpPacketReading_tcp (carries : frame.Carries ifaceIp ipprotoTcp) :
    handleIpPacketReading ifaceIp frame.packet =
      (places (packetToIpHdr + 16) 4 ++ (places (packetToIpHdr + 9) 1 ++
        (places packetToIpHdr 1 ++
          (handleTcpPacketReading packetToIpHdr frame.data frame.packet).1)),
        (handleTcpPacketReading packetToIpHdr frame.data frame.packet).2) := by
  have here : ntohl (frame.packet.load32 (packetToIpHdr + 16)) = ifaceIp := carries.1
  have protocol : frame.packet (packetToIpHdr + 9) = ipprotoTcp := carries.2
  have different : ipprotoTcp ≠ ipprotoIcmp := by decide
  simp only [handleIpPacketReading, Logged.bind_apply, read32_run, if_pos here, readByte_run,
    protocol, if_neg different, if_true]
  rfl

theorem handleIpPacketReading_unsupported
    (here : ntohl (IpHdr.daddr frame.packet packetToIpHdr) = ifaceIp)
    (notIcmp : IpHdr.protocol frame.packet packetToIpHdr ≠ ipprotoIcmp)
    (notTcp : IpHdr.protocol frame.packet packetToIpHdr ≠ ipprotoTcp) :
    handleIpPacketReading ifaceIp frame.packet =
      (places (packetToIpHdr + 16) 4 ++ places (packetToIpHdr + 9) 1,
        .ok (.nothing, frame.packet)) := by
  have here : ntohl (frame.packet.load32 (packetToIpHdr + 16)) = ifaceIp := here
  have notIcmp : ¬ frame.packet (packetToIpHdr + 9) = ipprotoIcmp := notIcmp
  have notTcp : ¬ frame.packet (packetToIpHdr + 9) = ipprotoTcp := notTcp
  simp only [handleIpPacketReading, Logged.bind_apply, read32_run, if_pos here, readByte_run,
    if_neg notIcmp, if_neg notTcp, Logged.pure_apply, List.append_nil]

end Branches

variable {frame ifaceIp}

/-- A frame that does not get to `tcp_process`. -/
theorem readInside_of_run {log : List ℕ} {handed : Handed}
    (run : handleIpPacketReading ifaceIp frame.packet = (log, .ok (handed, frame.packet)))
    (notSegment : ∀ cb, handed ≠ .segment cb) :
    frame.ReadInside ifaceIp ↔ Inside frame.len log := by
  simp only [ReadInside, readPlaces, Logged.log, Logged.result, run]
  constructor
  · exact fun inside => inside.1
  · refine fun inside => ⟨inside, fun cb packet handed => ?_⟩
    cases handed
    exact absurd rfl (notSegment cb)

/-- A frame that carries a TCP segment. -/
theorem readInside_tcp (carries : frame.Carries ifaceIp ipprotoTcp)
    (header : packetToIpHdr + ipBaseHdrSize ≤ frame.len) :
    frame.ReadInside ifaceIp ↔
      frame.data + 18 ≤ frame.len ∧ IpHdr.size frame.packet packetToIpHdr ≤ frame.totLen ∧
        packetToIpHdr + frame.totLen ≤ frame.len ∧
        (checksumMatches frame.packet packetToIpHdr frame.data = true →
          IpHdr.size frame.packet packetToIpHdr + TcpHdr.size frame.packet frame.data ≤
            frame.totLen) := by
  have fields : packetToIpHdr + 20 ≤ frame.len := header
  have places : (∀ place ∈ frame.readPlaces ifaceIp, place < frame.len) ↔
      Inside frame.len (handleTcpPacketReading packetToIpHdr frame.data frame.packet).1 := by
    show Inside frame.len (handleIpPacketReading ifaceIp frame.packet).1 ↔ _
    rw [handleIpPacketReading_tcp carries]
    simp only [inside_append, inside_places]
    constructor
    · exact fun inside => inside.2.2.2
    · exact fun inside => ⟨.inr (by omega), .inr (by omega), .inr (by omega), inside⟩
  have handed : ∀ cb packet, (handleIpPacketReading ifaceIp).result frame.packet =
      .ok (.segment cb, packet) ↔
        checksumMatches frame.packet packetToIpHdr frame.data = true ∧
          cb = tcpCbInit frame.packet packetToIpHdr frame.data ∧ packet = frame.packet := by
    intro cb packet
    have behind : packetToIpHdr ≤ frame.data := Nat.le_add_right _ _
    rw [Logged.result, handleIpPacketReading_tcp carries, handleTcpPacketReading_run _ behind]
    cases checksumMatches frame.packet packetToIpHdr frame.data <;> simp [eq_comm]
  rw [ReadInside, places, frame.inside_tcp_iff header]
  constructor
  · rintro ⟨⟨field, stated, total⟩, inside⟩
    refine ⟨field, stated, total, fun matching => (frame.payload_inside_iff total).mp ?_⟩
    exact inside _ _ ((handed _ _).mpr ⟨matching, rfl, rfl⟩)
  · rintro ⟨field, stated, total, sizes⟩
    refine ⟨⟨field, stated, total⟩, fun cb packet segment => ?_⟩
    obtain ⟨matching, rfl, _⟩ := (handed cb packet).mp segment
    exact (frame.payload_inside_iff total).mpr (sizes matching)

/-- The destination address is read in every frame. -/
theorem header_of_readInside (inside : frame.ReadInside ifaceIp) :
    packetToIpHdr + ipBaseHdrSize ≤ frame.len := by
  have last : packetToIpHdr + 19 ∈ frame.readPlaces ifaceIp := by
    simp only [readPlaces, handleIpPacketReading, Logged.log, Logged.bind_apply, read32_run]
    exact List.mem_append_left _ (mem_places.mpr ⟨by omega, by omega⟩)
  have read := inside.1 _ last
  simp only [ipBaseHdrSize]
  omega

theorem readInside_iff_consistent : frame.ReadInside ifaceIp ↔ frame.Consistent ifaceIp := by
  by_cases header : packetToIpHdr + ipBaseHdrSize ≤ frame.len
  swap
  · exact iff_of_false (fun inside => header (header_of_readInside inside))
      fun consistent => header consistent.header
  have fields : packetToIpHdr + 20 ≤ frame.len := header
  by_cases here : ntohl (IpHdr.daddr frame.packet packetToIpHdr) = ifaceIp
  swap
  · rw [readInside_of_run (frame.handleIpPacketReading_foreign ifaceIp here) (by simp)]
    have elsewhere : ∀ protocol, ¬ frame.Carries ifaceIp protocol := fun _ carries => here carries.1
    refine iff_of_true (inside_places.mpr (.inr (by omega))) ⟨header, ?_, ?_, ?_, ?_, ?_⟩
    all_goals exact fun carries => absurd carries (elsewhere _)
  by_cases icmp : IpHdr.protocol frame.packet packetToIpHdr = ipprotoIcmp
  · obtain ⟨handed, notSegment, run⟩ := handleIpPacketReading_icmp ⟨here, icmp⟩
    have notTcp : ¬ frame.Carries ifaceIp ipprotoTcp := by
      rintro ⟨_, tcp⟩
      rw [icmp] at tcp
      exact absurd tcp (by decide)
    rw [readInside_of_run run notSegment]
    simp only [inside_append, inside_places]
    constructor
    · rintro ⟨_, _, _, data⟩
      refine ⟨header, fun _ => by omega, ?_, ?_, ?_, ?_⟩
      all_goals exact fun carries => absurd carries notTcp
    · intro consistent
      have data := consistent.icmp ⟨here, icmp⟩
      omega
  by_cases tcp : IpHdr.protocol frame.packet packetToIpHdr = ipprotoTcp
  · have carries : frame.Carries ifaceIp ipprotoTcp := ⟨here, tcp⟩
    rw [readInside_tcp carries header]
    constructor
    · rintro ⟨field, stated, total, sizes⟩
      exact ⟨header, fun other => absurd other.2 icmp, fun _ => field, fun _ => stated,
        fun _ => total, fun _ => sizes⟩
    · exact fun consistent => ⟨consistent.checksum carries, consistent.ipSize carries,
        consistent.total carries, consistent.tcpSize carries⟩
  · rw [readInside_of_run (handleIpPacketReading_unsupported here icmp tcp) (by simp)]
    refine iff_of_true ?_ ⟨header, fun carries => absurd carries.2 icmp, ?_, ?_, ?_, ?_⟩
    · simp only [inside_append, inside_places]
      omega
    all_goals exact fun carries => absurd carries.2 tcp

end ReceivedFrame

/-- **When a frame is read inside its bounds.** A frame routed to the IP layer is
read at bytes that were received, and a payload handed to `tcp_process` was
received, exactly when the lengths the frame states are consistent. -/
theorem frame_read_inside_iff (frame : ReceivedFrame) (ifaceIp : U32) :
    (frame.routed = true → frame.ReadInside ifaceIp) ↔
      (frame.routed = true → frame.Consistent ifaceIp) :=
  forall_congr' fun _ => ReceivedFrame.readInside_iff_consistent

/-- A frame of an Ethernet header, an IP header and a TCP header for the address
10.0.0.1, whose IP header states a total length of 1500 bytes. -/
def overlongFrame : ReceivedFrame where
  packet := Memory.blit (fun _ => 0) 0 ([0, 0, 0, 0, 0, 1, 0, 0, 0, 0, 0, 2, 0x08, 0x00] ++
    [0x45, 0, 0x05, 0xdc, 0, 0, 0, 0, 64, 6, 0, 0, 10, 0, 0, 2, 10, 0, 0, 1])
  len := 54
  received := by decide
  fits := by decide

/-- It is read behind its end. -/
theorem overlongFrame_read_outside :
    overlongFrame.routed = true ∧ ¬ overlongFrame.ReadInside 0x0a000001 := by
  refine ⟨by decide, fun inside => ?_⟩
  have consistent := ReceivedFrame.readInside_iff_consistent.mp inside
  have carries : overlongFrame.Carries 0x0a000001 ipprotoTcp := by
    constructor <;> decide
  have total : packetToIpHdr + overlongFrame.totLen ≤ overlongFrame.len := consistent.total carries
  exact absurd total (by decide)

end TcpStack
