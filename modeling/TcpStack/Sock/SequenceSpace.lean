import TcpStack.Sock.Process
import TcpStack.Sock.Shape
import TcpStack.Packet.RoundTrip
import Mathlib.Data.List.Nodup

/-!
# The sequence numbers of a sender

`tcp_send_packet` and `tcp_send_control_packet` advance `snd_nxt` by one rule
each. The receiver derives the end of a segment by a third one, from the lengths
and the flags in the headers. The rules agree (`SendCall.run_sndNxt`), so the
segments a sock emits, whatever they are, tile the sequence space
(`segments_tile`).
-/

set_option autoImplicit false

namespace TcpStack

open Lib

/-! ## Sending -/

/-- `tcp_send_packet`, for a buffer of `len` bytes whose payload is filled
in. -/
def tcpSendPacket (s : Stack) (tsk : SockPtr) (packet : Memory U8) (len : ℤ) : Stack :=
  let ipTotLen := len - etherHdrSize
  let tcpDataLen := ipTotLen - ipBaseHdrSize - tcpBaseHdrSize
  let sent := (s.sock tsk).dataSegment
    (packet.slice (etherHdrSize + ipBaseHdrSize + tcpBaseHdrSize) tcpDataLen.toNat)
  let s := s.modify tsk fun sk =>
    { sk with sndNxt := sk.sndNxt + BitVec.ofInt 32 tcpDataLen
              sndWnd := sk.sndWnd - BitVec.ofInt 32 tcpDataLen }
  { s with out := s.out ++ [sent] }

/-- A call of one of the two sending functions. The buffer of a control packet
is the one that `malloc` returns. -/
inductive SendCall where
  | packet (buffer : Memory U8) (len : ℤ)
  | control (flags : U8) (buffer : Memory U8)

namespace SendCall

/-- There is room for the headers, and the total length of the IP datagram fits
in its field. -/
def Fits : SendCall → Prop
  | .packet _ len => 54 ≤ len ∧ len - etherHdrSize < 2 ^ 16
  | .control _ _ => True

def run (s : Stack) (tsk : SockPtr) : SendCall → Stack
  | .packet buffer len => tcpSendPacket s tsk buffer len
  | .control flags _ => tcpSendControlPacket s tsk flags

/-- What the call puts into the packet. -/
def segment (sk : TcpSock) : SendCall → Segment
  | .packet buffer len => sk.dataSegment (buffer.slice 54 (len - 54).toNat)
  | .control flags _ => sk.controlSegment flags

/-- The packet handed to `ip_send_packet`. -/
def frame (ipInitHdr : IpInitHdr) (sk : TcpSock) : SendCall → Memory U8
  | .packet buffer len => tcpSendPacketFrame ipInitHdr sk buffer len
  | .control flags buffer => tcpSendControlPacketFrame ipInitHdr sk flags buffer

end SendCall

/-- The stack after the calls. -/
def sendAll (tsk : SockPtr) (s : Stack) (calls : List SendCall) : Stack :=
  calls.foldl (fun s call => call.run s tsk) s

/-- The packets emitted by the calls. -/
def sendFrames (ipInitHdr : IpInitHdr) (tsk : SockPtr) : Stack → List SendCall → List (Memory U8)
  | _, [] => []
  | s, call :: calls =>
      call.frame ipInitHdr (s.sock tsk) :: sendFrames ipInitHdr tsk (call.run s tsk) calls

/-- What `handle_ip_packet` and `tcp_cb_init` of the receiver make of a
packet. -/
def cbOf (packet : Memory U8) : TcpCb :=
  tcpCbInit packet packetToIpHdr (ipData packet packetToIpHdr)

/-- The sequence numbers a segment takes up, as the receiver counts them. -/
def TcpCb.numbers (cb : TcpCb) : List U32 :=
  (List.range (cb.seqEnd - cb.seq).toNat).map fun index => cb.seq + BitVec.ofNat 32 index

/-! ## One call -/

namespace SendCall

variable {ipInitHdr : IpInitHdr} {call : SendCall}

/-- The number of bytes of the payload. -/
theorem exists_length {buffer : Memory U8} {len : ℤ} (fits : (SendCall.packet buffer len).Fits) :
    ∃ count : ℕ, len = 54 + count ∧ 40 + count < 2 ^ 16 := by
  obtain ⟨room, total⟩ := fits
  simp only [etherHdrSize] at total
  exact ⟨(len - 54).toNat, by omega, by omega⟩

/-- The receiver takes the packet for the segment sent. -/
theorem cbOf_frame (fills : ipInitHdr.Fills) (fits : call.Fits) (sk : TcpSock) :
    cbOf (call.frame ipInitHdr sk) = (call.segment sk).received := by
  have delivers : Delivers (call.frame ipInitHdr sk) (call.segment sk) := by
    cases call with
    | control flags buffer => exact tcpSendControlPacketFrame_delivers fills sk flags buffer
    | packet buffer len =>
        obtain ⟨count, rfl, total⟩ := exists_length fits
        have length : (buffer.slice 54 count).length = count := Memory.length_slice _ _ _
        have sent : Delivers (tcpSendPacketFrame ipInitHdr sk buffer
            (54 + (buffer.slice 54 count).length)) (sk.dataSegment (buffer.slice 54 count)) :=
          tcpSendPacketFrame_delivers fills sk (by rwa [length]) (by rw [length])
        simpa only [segment, frame, length, add_sub_cancel_left, Int.toNat_natCast] using sent
  rw [cbOf, delivers.place, delivers.received]

theorem segment_seq (sk : TcpSock) : (call.segment sk).seq = sk.sndNxt := by
  cases call <;> rfl

/-- **The sender advances to where the receiver sees the segment end.** -/
theorem run_sndNxt (fits : call.Fits) (s : Stack) (tsk : SockPtr) :
    ((call.run s tsk).sock tsk).sndNxt = (call.segment (s.sock tsk)).received.seqEnd := by
  cases call with
  | control flags buffer =>
      rw [run, tcpSendControlPacket_sock, if_pos rfl]
      show _ = (s.sock tsk).sndNxt + 0#32 + _
      rw [BitVec.add_zero]
      rfl
  | packet buffer len =>
      obtain ⟨count, rfl, _⟩ := exists_length fits
      have length : (54 + count : ℤ) - etherHdrSize - ipBaseHdrSize - tcpBaseHdrSize = count := by
        simp only [etherHdrSize, ipBaseHdrSize, tcpBaseHdrSize]
        omega
      have plain : (tcpPsh ||| tcpAck) &&& (tcpSyn ||| tcpFin) = 0 := by decide
      simp [run, tcpSendPacket, length, segment, Segment.received, TcpSock.dataSegment, plain]

end SendCall

/-! ## All calls -/

section Tiling

variable {ipInitHdr : IpInitHdr}

/-- What the receiver makes of the packets of a sequence of calls. -/
def seenFrames (ipInitHdr : IpInitHdr) (tsk : SockPtr) (s : Stack) (calls : List SendCall) :
    List TcpCb := (sendFrames ipInitHdr tsk s calls).map cbOf

/-- The segments follow one another from the first number on, and end where the
sender goes on. -/
inductive Tiles : U32 → List TcpCb → U32 → Prop where
  | nil (start : U32) : Tiles start [] start
  | cons {start final : U32} {cb : TcpCb} {rest : List TcpCb} :
      cb.seq = start → Tiles cb.seqEnd rest final → Tiles start (cb :: rest) final

/-- Fewer consecutive numbers than there are have no repetition. -/
theorem consecutive_nodup (start : U32) {total : ℕ} (few : total ≤ 2 ^ 32) :
    ((List.range total).map fun index => start + BitVec.ofNat 32 index).Nodup := by
  refine List.Nodup.map_on ?_ List.nodup_range
  intro first isFirst second isSecond same
  rw [List.mem_range] at isFirst isSecond
  have equal : BitVec.ofNat 32 first = BitVec.ofNat 32 second := by bv_omega
  have values := congrArg BitVec.toNat equal
  rwa [BitVec.toNat_ofNat, BitVec.toNat_ofNat, Nat.mod_eq_of_lt (by omega),
    Nat.mod_eq_of_lt (by omega)] at values

theorem seenFrames_tiles (fills : ipInitHdr.Fills) (tsk : SockPtr) (calls : List SendCall)
    (fits : ∀ call ∈ calls, call.Fits) (s : Stack) :
    Tiles (s.sock tsk).sndNxt (seenFrames ipInitHdr tsk s calls)
      ((sendAll tsk s calls).sock tsk).sndNxt := by
  induction calls generalizing s with
  | nil => exact .nil _
  | cons call calls ih =>
      have here := fits call List.mem_cons_self
      have seen := SendCall.cbOf_frame fills here (s.sock tsk)
      have rest := ih (fun later member => fits later (List.mem_cons_of_mem _ member))
        (call.run s tsk)
      rw [SendCall.run_sndNxt here, ← seen] at rest
      refine .cons ?_ rest
      rw [seen]
      exact SendCall.segment_seq _

namespace Tiles

variable {start final : U32} {seen : List TcpCb}

theorem head_seq (tiles : Tiles start seen final) :
    ∀ first ∈ seen.head?, first.seq = start := by
  cases tiles with
  | nil => simp
  | cons seq _ => simpa using seq

theorem getLast_seqEnd (tiles : Tiles start seen final) :
    ∀ last ∈ seen.getLast?, last.seqEnd = final := by
  induction tiles with
  | nil => simp
  | @cons start final cb rest seq tiles ih =>
      cases tiles with
      | nil => simp
      | cons next tiles => simpa using ih

theorem isChain (tiles : Tiles start seen final) :
    seen.IsChain fun first second => second.seq = first.seqEnd := by
  induction tiles with
  | nil => exact .nil
  | cons seq tiles ih =>
      cases tiles with
      | nil => exact .singleton _
      | cons next tiles => exact .cons_cons next ih

/-- The numbers taken up are consecutive. -/
theorem numbers (tiles : Tiles start seen final) :
    seen.flatMap TcpCb.numbers =
        (List.range (seen.map fun cb => (cb.seqEnd - cb.seq).toNat).sum).map
          (fun index => start + BitVec.ofNat 32 index) := by
  induction tiles with
  | nil => rfl
  | @cons start final cb rest seq tiles ih =>
      subst seq
      have length : cb.seq + BitVec.ofNat 32 (cb.seqEnd - cb.seq).toNat = cb.seqEnd := by
        rw [BitVec.ofNat_toNat, BitVec.setWidth_eq]
        bv_omega
      rw [List.flatMap_cons, ih, List.map_cons, List.sum_cons, List.range_add, List.map_append,
        List.map_map, TcpCb.numbers]
      congr 2
      funext index
      simp only [Function.comp_apply, BitVec.ofNat_add, ← BitVec.add_assoc, length]

end Tiles

end Tiling

/-- **The segments emitted tile the sequence space.** In any sequence of calls,
every packet starts where the receiver of the one before it says that one ends,
and the sock goes on where the last one ends. The sequence numbers the packets
take up, one packet after the other, are consecutive modulo 2 ^ 32, and no two
of them are the same until all were used. -/
theorem segments_tile (ipInitHdr : IpInitHdr) (fills : ipInitHdr.Fills) (tsk : SockPtr)
    (s : Stack) (calls : List SendCall) (fits : ∀ call ∈ calls, call.Fits) :
    (∀ first ∈ (seenFrames ipInitHdr tsk s calls).head?, first.seq = (s.sock tsk).sndNxt) ∧
      (seenFrames ipInitHdr tsk s calls).IsChain (fun first second => second.seq = first.seqEnd) ∧
      (∀ last ∈ (seenFrames ipInitHdr tsk s calls).getLast?,
        last.seqEnd = ((sendAll tsk s calls).sock tsk).sndNxt) ∧
      ∃ total, (seenFrames ipInitHdr tsk s calls).flatMap TcpCb.numbers =
          (List.range total).map (fun index => (s.sock tsk).sndNxt + BitVec.ofNat 32 index) ∧
        (total ≤ 2 ^ 32 →
          ((seenFrames ipInitHdr tsk s calls).flatMap TcpCb.numbers).Nodup) := by
  have tiles := seenFrames_tiles fills tsk calls fits s
  refine ⟨tiles.head_seq, tiles.isChain, tiles.getLast_seqEnd, _, tiles.numbers, fun few => ?_⟩
  rw [tiles.numbers]
  exact consecutive_nodup _ few

/-- A segment of three bytes, a FIN and an ACK, from a number just below the
largest one. -/
theorem segments_tile_wrapping :
    (seenFrames (ipInitHdrWithId 7) 1 { initTcpStack with
        sock := fun _ => { zeroedSock with sndNxt := 0xfffffffe } }
      [.packet (Memory.blit (fun _ => 0) 54 [1, 2, 3]) 57, .control tcpFin fun _ => 0,
        .control tcpAck fun _ => 0]).IsChain (fun first second => second.seq = first.seqEnd) :=
  (segments_tile (ipInitHdrWithId 7) (ipInitHdrWithId_fills 7) 1 _ _ (by
    simp only [List.forall_mem_cons, SendCall.Fits, etherHdrSize]
    refine ⟨by decide, trivial, trivial, by simp⟩)).2.1

end TcpStack
