import TcpStack.Sock.Data
import TcpStack.Lib.ByteOrder

/-!
# Packets as bytes

The headers of `ip.h` and `tcp.h` as places in a packet, the checksum of
`checksum.h`, the header builders of `tcp_out.c` and the decoder of `tcp.c`.

A packet is a memory of bytes that starts at the pointer handed around by the
program; what lies behind its end is whatever is there. Header fields are read
and written as the host stores them, so a field in network byte order goes
through `htons` or `htonl`.

`ip_init_hdr` is part of the library the program is linked with. It is a
parameter here, with the fields it fills in as its specification.
-/

set_option autoImplicit false

namespace TcpStack

open Lib

def etherHdrSize : ℕ := 14
def ipBaseHdrSize : ℕ := 20
def tcpBaseHdrSize : ℕ := 20
def tcpHdrOffset : U8 := 5
def ipprotoTcp : U8 := 6

/-! ## Fields -/

namespace IpHdr

variable (packet : Memory U8) (ip : ℕ)

def ihl : U8 := packet ip &&& 0x0f
def version : U8 := packet ip >>> 4
def totLen : U16 := packet.load16 (ip + 2)
def protocol : U8 := packet (ip + 9)
def checksum : U16 := packet.load16 (ip + 10)
def saddr : U32 := packet.load32 (ip + 12)
def daddr : U32 := packet.load32 (ip + 16)

/-- `IP_HDR_SIZE`. -/
def size : ℕ := (ihl packet ip).toNat * 4

end IpHdr

namespace TcpHdr

variable (packet : Memory U8) (tcp : ℕ)

def sport : U16 := packet.load16 tcp
def dport : U16 := packet.load16 (tcp + 2)
def seq : U32 := packet.load32 (tcp + 4)
def ack : U32 := packet.load32 (tcp + 8)
def off : U8 := packet (tcp + 12) >>> 4
def flags : U8 := packet (tcp + 13)
def rwnd : U16 := packet.load16 (tcp + 14)
def checksum : U16 := packet.load16 (tcp + 16)

/-- `TCP_HDR_SIZE`. -/
def size : ℕ := (off packet tcp).toNat * 4

end TcpHdr

/-- `packet_to_ip_hdr`, as an offset. -/
def packetToIpHdr : ℕ := etherHdrSize

/-- `IP_DATA`: where the header of the upper layer starts. -/
def ipData (packet : Memory U8) (ip : ℕ) : ℕ := ip + IpHdr.size packet ip

/-! ## Checksums -/

/-- `checksum` over `nbytes` bytes at `buf`, from the given initial sum. -/
def checksum (packet : Memory U8) (buf nbytes : ℕ) (sum : U32) : U16 :=
  let sum := (List.range (nbytes / 2)).foldl
    (fun sum i => sum + (packet.load16 (buf + 2 * i)).setWidth 32) sum
  let sum := (sum >>> 16) + (sum &&& 0xffff)
  let sum := sum + (sum >>> 16)
  let sum := if nbytes % 2 ≠ 0 then sum + (packet (buf + (nbytes - 1))).setWidth 32 else sum
  (~~~sum).setWidth 16

/-- `ip_checksum`: the value returned and the packet afterwards. -/
def ipChecksum (packet : Memory U8) (ip : ℕ) : U16 × Memory U8 :=
  let tmp := IpHdr.checksum packet ip
  let zeroed := packet.store16 (ip + 10) 0
  let sum := checksum zeroed ip (IpHdr.size zeroed ip) 0
  (sum, zeroed.store16 (ip + 10) tmp)

/-- `tcp_checksum`: the value returned and the packet afterwards. -/
def tcpChecksum (packet : Memory U8) (ip tcp : ℕ) : U16 × Memory U8 :=
  let tmp := TcpHdr.checksum packet tcp
  let zeroed := packet.store16 (tcp + 16) 0
  let reservProto : U16 := (IpHdr.protocol zeroed ip).setWidth 16
  let tcpLen : U16 := ntohs (IpHdr.totLen zeroed ip) - BitVec.ofNat 16 (IpHdr.size zeroed ip)
  let sum : U32 := IpHdr.saddr zeroed ip + IpHdr.daddr zeroed ip +
    (htons reservProto).setWidth 32 + (htons tcpLen).setWidth 32
  let cksum := checksum zeroed tcp tcpLen.toNat sum
  (cksum, zeroed.store16 (tcp + 16) tmp)

/-- The comparison at the start of `handle_tcp_packet`. -/
def checksumMatches (packet : Memory U8) (ip tcp : ℕ) : Bool :=
  (tcpChecksum packet ip tcp).1 == TcpHdr.checksum packet tcp

/-- The checksum function leaves the packet as it was. -/
theorem tcpChecksum_packet (packet : Memory U8) (ip tcp : ℕ) :
    (tcpChecksum packet ip tcp).2 = packet := by
  simp only [tcpChecksum, TcpHdr.checksum]
  rw [Memory.store16_store16, Memory.store16_load16]

/-- The checksum does not depend on what its own field holds. -/
theorem tcpChecksum_store (packet : Memory U8) (ip tcp : ℕ) (value : U16) :
    (tcpChecksum (packet.store16 (tcp + 16) value) ip tcp).1 = (tcpChecksum packet ip tcp).1 := by
  simp only [tcpChecksum, Memory.store16_store16]

/-- The sum reads the bytes it is asked to sum and no others. -/
theorem checksum_congr {first second : Memory U8} {buf nbytes : ℕ}
    (same : ∀ index < nbytes, first (buf + index) = second (buf + index)) (sum : U32) :
    checksum first buf nbytes sum = checksum second buf nbytes sum := by
  have words : ∀ (list : List ℕ) (sum : U32), (∀ i ∈ list, i < nbytes / 2) →
      list.foldl (fun sum i => sum + (first.load16 (buf + 2 * i)).setWidth 32) sum =
        list.foldl (fun sum i => sum + (second.load16 (buf + 2 * i)).setWidth 32) sum := by
    intro list
    induction list with
    | nil => exact fun _ _ => rfl
    | cons i list ih =>
        intro sum bounded
        have within := bounded i (by simp)
        have word : first.load16 (buf + 2 * i) = second.load16 (buf + 2 * i) := by
          apply Memory.load16_congr
          · exact same (2 * i) (by omega)
          · exact same (2 * i + 1) (by omega)
        simp only [List.foldl_cons, word]
        exact ih _ fun j member => bounded j (List.mem_cons_of_mem _ member)
  simp only [checksum, words (List.range (nbytes / 2)) sum fun i member => List.mem_range.mp member]
  by_cases odd : nbytes % 2 ≠ 0
  · simp only [if_pos odd, same (nbytes - 1) (by omega)]
  · simp only [if_neg odd]

/-! ## Building headers -/

/-- `tcp_init_hdr`. -/
def tcpInitHdr (packet : Memory U8) (tcp : ℕ) (sport dport : U16) (seq ack : U32) (flags : U8)
    (rwnd : U16) : Memory U8 :=
  let packet := packet.blit tcp (List.replicate tcpBaseHdrSize 0)
  let packet := packet.store16 tcp (htons sport)
  let packet := packet.store16 (tcp + 2) (htons dport)
  let packet := packet.store32 (tcp + 4) (htonl seq)
  let packet := packet.store32 (tcp + 8) (htonl ack)
  -- the upper half of the byte is the field `off`, the lower half is unused
  let packet := packet.blit (tcp + 12) [packet (tcp + 12) &&& 0x0f ||| tcpHdrOffset <<< 4]
  let packet := packet.blit (tcp + 13) [flags]
  packet.store16 (tcp + 14) (htons rwnd)

/-- `ip_init_hdr`: packet, place of the header, source and destination address,
total length and protocol to the packet with the header filled in. -/
abbrev IpInitHdr := Memory U8 → ℕ → U32 → U32 → U16 → U8 → Memory U8

/-- What the program relies on of `ip_init_hdr`. -/
structure IpInitHdr.Fills (ipInitHdr : IpInitHdr) : Prop where
  version : ∀ packet ip saddr daddr len proto,
    IpHdr.version (ipInitHdr packet ip saddr daddr len proto) ip = 4
  ihl : ∀ packet ip saddr daddr len proto,
    IpHdr.ihl (ipInitHdr packet ip saddr daddr len proto) ip = 5
  totLen : ∀ packet ip saddr daddr len proto,
    IpHdr.totLen (ipInitHdr packet ip saddr daddr len proto) ip = htons len
  protocol : ∀ packet ip saddr daddr len proto,
    IpHdr.protocol (ipInitHdr packet ip saddr daddr len proto) ip = proto
  saddr : ∀ packet ip saddr daddr len proto,
    IpHdr.saddr (ipInitHdr packet ip saddr daddr len proto) ip = htonl saddr
  daddr : ∀ packet ip saddr daddr len proto,
    IpHdr.daddr (ipInitHdr packet ip saddr daddr len proto) ip = htonl daddr
  /-- It writes the header and nothing else. -/
  frame : ∀ packet ip saddr daddr len proto index, index < ip ∨ ip + ipBaseHdrSize ≤ index →
    ipInitHdr packet ip saddr daddr len proto index = packet index

/-- `tcp_send_packet`: the packet handed to `ip_send_packet`, from a buffer of
`len` bytes whose payload is filled in. -/
def tcpSendPacketFrame (ipInitHdr : IpInitHdr) (tsk : TcpSock) (packet : Memory U8) (len : ℤ) :
    Memory U8 :=
  let ip := packetToIpHdr
  let tcp := ip + ipBaseHdrSize
  let ipTotLen := len - etherHdrSize
  let packet := tcpInitHdr packet tcp tsk.skSport tsk.skDport tsk.sndNxt tsk.rcvNxt
    (tcpPsh ||| tcpAck) tsk.rcvWnd
  let packet := ipInitHdr packet ip tsk.skSip tsk.skDip (BitVec.ofInt 16 ipTotLen) ipprotoTcp
  let packet := packet.store16 (tcp + 16) (tcpChecksum packet ip tcp).1
  packet.store16 (ip + 10) (ipChecksum packet ip).1

/-- `tcp_send_control_packet`: the packet handed to `ip_send_packet`, from the
buffer `malloc` returned. -/
def tcpSendControlPacketFrame (ipInitHdr : IpInitHdr) (tsk : TcpSock) (flags : U8)
    (packet : Memory U8) : Memory U8 :=
  let ip := packetToIpHdr
  let tcp := ip + ipBaseHdrSize
  let totLen : U16 := BitVec.ofNat 16 (ipBaseHdrSize + tcpBaseHdrSize)
  let packet := ipInitHdr packet ip tsk.skSip tsk.skDip totLen ipprotoTcp
  let packet := tcpInitHdr packet tcp tsk.skSport tsk.skDport tsk.sndNxt tsk.rcvNxt flags
    tsk.rcvWnd
  packet.store16 (tcp + 16) (tcpChecksum packet ip tcp).1

/-- `tcp_send_reset`: the packet handed to `ip_send_packet`, from the buffer
`malloc` returned. -/
def tcpSendResetFrame (ipInitHdr : IpInitHdr) (cb : TcpCb) (packet : Memory U8) : Memory U8 :=
  let ip := packetToIpHdr
  let tcp := ip + ipBaseHdrSize
  let totLen : U16 := BitVec.ofNat 16 (ipBaseHdrSize + tcpBaseHdrSize)
  let packet := ipInitHdr packet ip cb.daddr cb.saddr totLen ipprotoTcp
  let packet := tcpInitHdr packet tcp cb.dport cb.sport 0 cb.seqEnd (tcpRst ||| tcpAck) 0
  packet.store16 (tcp + 16) (tcpChecksum packet ip tcp).1

/-! ## The values sent -/

/-- What `tcp_send_packet` puts into a packet. -/
def TcpSock.dataSegment (tsk : TcpSock) (payload : List U8) : Segment where
  saddr := tsk.skSip
  daddr := tsk.skDip
  sport := tsk.skSport
  dport := tsk.skDport
  seq := tsk.sndNxt
  ack := tsk.rcvNxt
  flags := tcpPsh ||| tcpAck
  rwnd := tsk.rcvWnd
  payload := payload

/-- What `tcp_send_control_packet` puts into a packet. -/
def TcpSock.controlSegment (tsk : TcpSock) (flags : U8) : Segment where
  saddr := tsk.skSip
  daddr := tsk.skDip
  sport := tsk.skSport
  dport := tsk.skDport
  seq := tsk.sndNxt
  ack := tsk.rcvNxt
  flags := flags
  rwnd := tsk.rcvWnd
  payload := []

/-- What `tcp_send_reset` puts into a packet. -/
def TcpCb.resetSegment (cb : TcpCb) : Segment where
  saddr := cb.daddr
  daddr := cb.saddr
  sport := cb.dport
  dport := cb.sport
  seq := 0
  ack := cb.seqEnd
  flags := tcpRst ||| tcpAck
  rwnd := 0
  payload := []

/-! ## Decoding -/

/-- `tcp_cb_init`. -/
def tcpCbInit (packet : Memory U8) (ip tcp : ℕ) : TcpCb :=
  let len : ℤ := (ntohs (IpHdr.totLen packet ip)).toNat - IpHdr.size packet ip -
    TcpHdr.size packet tcp
  let seq := ntohl (TcpHdr.seq packet tcp)
  let flags := TcpHdr.flags packet tcp
  { saddr := ntohl (IpHdr.saddr packet ip)
    daddr := ntohl (IpHdr.daddr packet ip)
    sport := ntohs (TcpHdr.sport packet tcp)
    dport := ntohs (TcpHdr.dport packet tcp)
    seq := seq
    seqEnd := seq + BitVec.ofInt 32 len + (if flags &&& (tcpSyn ||| tcpFin) ≠ 0 then 1 else 0)
    ack := ntohl (TcpHdr.ack packet tcp)
    rwnd := (ntohs (TcpHdr.rwnd packet tcp)).setWidth 32
    flags := flags
    payload := tcp + TcpHdr.size packet tcp
    plLen := len }

end TcpStack
