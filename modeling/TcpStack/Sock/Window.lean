import TcpStack.Sock.Resets
import TcpStack.Sock.SequenceSpace
import TcpStack.Lib.SerialNumber

/-!
# The windows

The tests a segment has to pass before it is processed, on the circle of
sequence numbers: `is_tcp_seq_valid` for the receive window and
`tcp_update_window_safe` for the send window.

The test for the receive window combines two comparisons, each of which goes
wrong half a circle away. Together they are exact for every segment of at most
65536 sequence numbers (`seq_test_exact`). But the end of a segment is the number
after its last one, and it is compared as if it were the last one. So a segment
that ends right before the window is processed although all of it was received
before (`window_reached_iff`). The test for the send window goes wrong at one
number when nothing is in flight (`window_update_iff`).

A reset of this stack has sequence number zero, so the peer accepts it exactly
when zero is in its receive window (`reset_acceptable_iff`).
-/

set_option autoImplicit false

namespace TcpStack

open Lib

/-! ## The receive window -/

/-- The number of sequence numbers that `is_tcp_seq_valid` takes the receive
window for. -/
def TcpSock.window (tsk : TcpSock) : ℕ := max tsk.rcvWnd.toNat 1

theorem TcpSock.window_pos (tsk : TcpSock) : 0 < tsk.window := Nat.le_max_right _ _

theorem TcpSock.window_lt (tsk : TcpSock) : tsk.window < 65536 :=
  Nat.max_lt.mpr ⟨tsk.rcvWnd.isLt, by decide⟩

/-- The maximum in `is_tcp_seq_valid`, as a number. -/
theorem TcpSock.toNat_window (tsk : TcpSock) :
    (if tsk.rcvWnd > 1 then tsk.rcvWnd.setWidth 32 else (1 : U32)).toNat = tsk.window := by
  have bound := tsk.rcvWnd.isLt
  have one : (1 : U16).toNat = 1 := rfl
  rw [TcpSock.window]
  split
  · next large =>
      rw [gt_iff_lt, BitVec.lt_def, one] at large
      rw [BitVec.toNat_setWidth_of_le (by decide)]
      omega
  · next small =>
      rw [gt_iff_lt, BitVec.lt_def, one] at small
      show 1 = _
      omega

/-- Both comparisons, in terms of the distance from the start of the window and
the length of the segment. -/
theorem isTcpSeqValid_iff_toNat (tsk : TcpSock) (cb : TcpCb) :
    isTcpSeqValid tsk cb = true ↔
      (0 < (4294967296 - (cb.seq - tsk.rcvNxt).toNat + tsk.window) % 4294967296 ∧
        (4294967296 - (cb.seq - tsk.rcvNxt).toNat + tsk.window) % 4294967296 ≤ 2147483648) ∧
      ((cb.seq - tsk.rcvNxt).toNat + (cb.seqEnd - cb.seq).toNat) % 4294967296 ≤ 2147483648 := by
  have ahead : ∀ width : U32, tsk.rcvNxt + width - cb.seq = width - (cb.seq - tsk.rcvNxt) := by
    intro width
    bv_omega
  have reach : cb.seqEnd - tsk.rcvNxt = cb.seq - tsk.rcvNxt + (cb.seqEnd - cb.seq) := by
    grind
  rw [isTcpSeqValid, Bool.and_eq_true, lessThan32b, lessOrEqual32b, decide_eq_true_iff,
    decide_eq_true_iff, sub_toInt_neg_iff, sub_toInt_nonpos_iff, ahead, reach, BitVec.toNat_sub,
    tsk.toNat_window, BitVec.toNat_add]
  exact Iff.rfl

/-- The signed distance of a segment from the start of the receive window. -/
def TcpCb.offset (cb : TcpCb) (tsk : TcpSock) : ℤ := (cb.seq - tsk.rcvNxt).toInt

/-- The number of sequence numbers a segment takes up. -/
def TcpCb.seqLength (cb : TcpCb) : ℕ := (cb.seqEnd - cb.seq).toNat

/-- The test on the circle is a test on integers. -/
theorem isTcpSeqValid_iff {tsk : TcpSock} {cb : TcpCb} (short : cb.seqLength ≤ 65536) :
    isTcpSeqValid tsk cb = true ↔
      cb.offset tsk < tsk.window ∧ 0 ≤ cb.offset tsk + cb.seqLength := by
  have range := (cb.seq - tsk.rcvNxt).isLt
  have window := tsk.window_lt
  have positive := tsk.window_pos
  rw [isTcpSeqValid_iff_toNat, TcpCb.offset, toInt_eq_ite]
  simp only [TcpCb.seqLength] at short ⊢
  split <;> omega

/-- **The sequence test is exact across wraparound.** With the distance from the start of
the window taken in `[-2^31, 2^31)`, a segment of at most 65536 sequence numbers is
accepted exactly when it starts before the end of the window and does not end
before its start; and turning the circle changes nothing. -/
theorem seq_test_exact (tsk : TcpSock) (cb : TcpCb)
    (short : (cb.seqEnd - cb.seq).toNat ≤ 65536) :
    (isTcpSeqValid tsk cb = true ↔
      (cb.seq - tsk.rcvNxt).toInt < max (tsk.rcvWnd.toNat : ℤ) 1 ∧
        0 ≤ (cb.seq - tsk.rcvNxt).toInt + (cb.seqEnd - cb.seq).toNat) ∧
      ∀ shift : U32,
        isTcpSeqValid { tsk with rcvNxt := tsk.rcvNxt + shift }
          { cb with seq := cb.seq + shift, seqEnd := cb.seqEnd + shift } =
        isTcpSeqValid tsk cb := by
  have window : (tsk.window : ℤ) = max (tsk.rcvWnd.toNat : ℤ) 1 := Nat.cast_max _ _
  constructor
  · rw [isTcpSeqValid_iff short, window]
    exact Iff.rfl
  · intro shift
    rw [Bool.eq_iff_iff, isTcpSeqValid_iff_toNat, isTcpSeqValid_iff_toNat]
    simp only [sub_add_right]
    exact Iff.rfl

/-- A segment across the wrap: its last byte is the first one expected. -/
theorem seq_test_exact_wrapping :
    isTcpSeqValid zeroedSock { segmentWith tcpAck 0xfffffff0 with seqEnd := 1 } = true := by
  have exact := (seq_test_exact zeroedSock
    { segmentWith tcpAck 0xfffffff0 with seqEnd := 1 } (by decide)).1
  exact exact.mpr (by decide)

/-! ## Old segments -/

/-- The sequence numbers of a segment; of an empty one the number it is sent
with. -/
def TcpCb.claimed (cb : TcpCb) : List U32 := if cb.seqEnd = cb.seq then [cb.seq] else cb.numbers

/-- Some sequence number of the segment is in the receive window. -/
def TcpCb.ReachesWindow (cb : TcpCb) (tsk : TcpSock) : Prop :=
  ∃ number ∈ cb.claimed, InArc tsk.rcvNxt tsk.window number

/-- All sequence numbers of the segment come before the receive window. -/
def TcpCb.Old (cb : TcpCb) (tsk : TcpSock) : Prop :=
  ∀ number ∈ cb.claimed, (number - tsk.rcvNxt).toInt < 0

/-- A sock accepts a segment only if it reaches into the receive window, and does
nothing on an old one. -/
structure TcpSock.KeepsToWindow (tsk : TcpSock) (cb : TcpCb) : Prop where
  reaches : isTcpSeqValid tsk cb = true → cb.ReachesWindow tsk
  old : cb.Old tsk → ∀ (s : Stack) (ptr tmp : SockPtr), ptr ≠ 0 → s.sock ptr = tsk →
    tcpProcess s ptr cb tmp = .ok s

section Old

variable {tsk : TcpSock} {cb : TcpCb}

theorem TcpCb.mem_numbers {number : U32} :
    number ∈ cb.numbers ↔ ∃ index < cb.seqLength, cb.seq + BitVec.ofNat 32 index = number := by
  simp only [TcpCb.numbers, TcpCb.seqLength, List.mem_map, List.mem_range]

theorem TcpCb.seqLength_eq_zero : cb.seqLength = 0 ↔ cb.seqEnd = cb.seq := by
  rw [TcpCb.seqLength, toNat_sub_eq_zero_iff]

/-- How far a number of the segment is from the start of the window. -/
theorem TcpCb.distance_number (index : ℕ) :
    (cb.seq + BitVec.ofNat 32 index - tsk.rcvNxt).toNat =
      ((cb.seq - tsk.rcvNxt).toNat + index) % 4294967296 := by
  have shifted : cb.seq + BitVec.ofNat 32 index - tsk.rcvNxt =
      cb.seq - tsk.rcvNxt + BitVec.ofNat 32 index := by grind
  rw [shifted, BitVec.toNat_add, BitVec.toNat_ofNat, Nat.add_mod_mod]

/-- The offset in terms of the distance along the circle. -/
theorem TcpCb.offset_eq (cb : TcpCb) (tsk : TcpSock) :
    cb.offset tsk =
      if (cb.seq - tsk.rcvNxt).toNat < 2147483648 then ((cb.seq - tsk.rcvNxt).toNat : ℤ)
      else (cb.seq - tsk.rcvNxt).toNat - 4294967296 :=
  toInt_eq_ite (w := 31) (cb.seq - tsk.rcvNxt)

/-- The segment ends where the window starts. -/
theorem TcpCb.seqEnd_eq_iff (short : cb.seqLength ≤ 65536) :
    cb.seqEnd = tsk.rcvNxt ↔ cb.offset tsk + cb.seqLength = 0 := by
  have range := (cb.seq - tsk.rcvNxt).isLt
  have reach : cb.seqEnd - tsk.rcvNxt = cb.seq - tsk.rcvNxt + (cb.seqEnd - cb.seq) := by
    grind
  rw [← toNat_sub_eq_zero_iff, reach, BitVec.toNat_add, TcpCb.offset_eq]
  simp only [TcpCb.seqLength] at short ⊢
  split <;> omega

/-- An accepted segment reaches into the window unless it ends right before it. -/
theorem TcpCb.reachesWindow (short : cb.seqLength ≤ 65536)
    (accepted : isTcpSeqValid tsk cb = true)
    (apart : cb.seqEnd = cb.seq ∨ cb.seqEnd ≠ tsk.rcvNxt) : cb.ReachesWindow tsk := by
  obtain ⟨starts, ends⟩ := (isTcpSeqValid_iff short).mp accepted
  have range := (cb.seq - tsk.rcvNxt).isLt
  have offset := cb.offset_eq tsk
  rw [ReachesWindow, claimed]
  split
  · next empty =>
      rw [← TcpCb.seqLength_eq_zero] at empty
      refine ⟨cb.seq, List.mem_singleton_self _, ?_⟩
      rw [InArc]
      split at offset <;> omega
  · next occupied =>
      have last : cb.offset tsk + cb.seqLength ≠ 0 := fun none =>
        apart.elim occupied (absurd ((TcpCb.seqEnd_eq_iff short).mpr none))
      rw [← TcpCb.seqLength_eq_zero] at occupied
      -- the first number of the segment that does not come before the window
      refine ⟨_, TcpCb.mem_numbers.mpr ⟨(-cb.offset tsk).toNat, by omega, rfl⟩, ?_⟩
      rw [InArc, TcpCb.distance_number]
      have positive := tsk.window_pos
      split at offset <;> omega

/-- A number in the window does not come before it. -/
theorem TcpCb.Old.not_reachesWindow (old : cb.Old tsk) : ¬ cb.ReachesWindow tsk := by
  rintro ⟨number, member, inside⟩
  have before := old number member
  have window := tsk.window_lt
  rw [toInt_eq_ite (w := 31)] at before
  rw [InArc] at inside
  split at before <;> omega

/-- A segment that ends right before the window is accepted and old. -/
theorem TcpCb.old_of_seqEnd (short : cb.seqLength ≤ 65536) (occupied : cb.seqEnd ≠ cb.seq)
    (ends : cb.seqEnd = tsk.rcvNxt) : isTcpSeqValid tsk cb = true ∧ cb.Old tsk := by
  have last := (TcpCb.seqEnd_eq_iff short).mp ends
  have range := (cb.seq - tsk.rcvNxt).isLt
  have offset := cb.offset_eq tsk
  constructor
  · have positive := tsk.window_pos
    exact (isTcpSeqValid_iff short).mpr ⟨by omega, by omega⟩
  · intro number member
    rw [claimed, if_neg occupied] at member
    obtain ⟨index, within, rfl⟩ := TcpCb.mem_numbers.mp member
    rw [toInt_eq_ite (w := 31), TcpCb.distance_number]
    split at offset <;> split <;> omega

end Old

/-- **When old segments are kept out.** A sock accepts a segment of at most 65536
sequence numbers only if it reaches into the receive window, and does nothing on an
old one, if and only if the segment is empty or does not end right where the
window starts. -/
theorem window_reached_iff (tsk : TcpSock) (cb : TcpCb)
    (short : (cb.seqEnd - cb.seq).toNat ≤ 65536) :
    tsk.KeepsToWindow cb ↔ cb.seqEnd = cb.seq ∨ cb.seqEnd ≠ tsk.rcvNxt := by
  constructor
  · intro keeps
    by_contra bad
    rw [not_or, not_not] at bad
    obtain ⟨accepted, old⟩ := TcpCb.old_of_seqEnd short bad.1 bad.2
    exact old.not_reachesWindow (keeps.reaches accepted)
  · intro apart
    refine ⟨fun accepted => TcpCb.reachesWindow short accepted apart, ?_⟩
    rintro old s ptr tmp notNull rfl
    refine tcpProcess_dropped notNull (Bool.eq_false_of_not_eq_true fun accepted => ?_)
    exact old.not_reachesWindow (TcpCb.reachesWindow short accepted apart)

/-- Seventeen bytes, the last of which is the first of the window, and ten bytes, the first of
which is the last of the window. -/
theorem window_reached_iff_edges :
    zeroedSock.KeepsToWindow { segmentWith tcpAck 0xfffffff0 with seqEnd := 1 } ∧
      zeroedSock.KeepsToWindow { segmentWith tcpAck 65534 with seqEnd := 65544 } :=
  ⟨(window_reached_iff zeroedSock { segmentWith tcpAck 0xfffffff0 with seqEnd := 1 }
      (by decide)).mpr (.inr (by decide)),
    (window_reached_iff zeroedSock { segmentWith tcpAck 65534 with seqEnd := 65544 }
      (by decide)).mpr (.inr (by decide))⟩

/-- **An old FIN is processed again**: its one sequence number comes right before the
window, and the sock leaves `TCP_ESTABLISHED`. -/
theorem old_fin_processed :
    (segmentWith tcpFin 0xffffffff).claimed = [0xffffffff] ∧
      ((stackIn .established).sock 1).rcvNxt = 0 ∧
      isTcpSeqValid ((stackIn .established).sock 1) (segmentWith tcpFin 0xffffffff) = true ∧
      ¬ (segmentWith tcpFin 0xffffffff).ReachesWindow ((stackIn .established).sock 1) ∧
      (segmentWith tcpFin 0xffffffff).Old ((stackIn .established).sock 1) ∧
      ∃ later, tcpProcess (stackIn .established) 1 (segmentWith tcpFin 0xffffffff) 2 = .ok later ∧
        (later.sock 1).state = .finWait1 := by
  have ends : (segmentWith tcpFin 0xffffffff).seqEnd =
      ((stackIn .established).sock 1).rcvNxt := rfl
  obtain ⟨accepted, old⟩ := TcpCb.old_of_seqEnd (by decide) (by decide) ends
  exact ⟨rfl, rfl, accepted, old.not_reachesWindow, old, _,
    tcpProcess_fin (by decide) accepted rfl, rfl⟩

/-! ## The send window -/

/-- `tcp_update_window`; the old window is kept in 16 bits. -/
def tcpUpdateWindow (tsk : TcpSock) (cb : TcpCb) : TcpSock :=
  let oldSndWnd : U16 := tsk.sndWnd.setWidth 16
  let tsk := { tsk with sndWnd := cb.rwnd }
  if oldSndWnd = 0 then { tsk with waitSend := wakeUp tsk.waitSend } else tsk

def tcpUpdateWindowSafe (tsk : TcpSock) (cb : TcpCb) : TcpSock :=
  if lessOrEqual32b tsk.sndUna cb.ack && lessOrEqual32b cb.ack tsk.sndNxt then
    tcpUpdateWindow tsk cb
  else tsk

/-- The sequence numbers in flight. -/
def TcpSock.inFlight (tsk : TcpSock) : ℕ := (tsk.sndNxt - tsk.sndUna).toNat

/-- The segment acknowledges something between `snd_una` and `snd_nxt`, both
included. -/
def TcpSock.Acknowledges (tsk : TcpSock) (cb : TcpCb) : Prop :=
  InArc tsk.sndUna (tsk.inFlight + 1) cb.ack

instance (tsk : TcpSock) (cb : TcpCb) : Decidable (tsk.Acknowledges cb) :=
  inferInstanceAs (Decidable (InArc _ _ _))

/-- The send window follows a valid acknowledgement and no other. -/
structure TcpSock.FollowsWindow (tsk : TcpSock) (cb : TcpCb) : Prop where
  sets : tsk.Acknowledges cb → (tcpUpdateWindowSafe tsk cb).sndWnd = cb.rwnd
  keeps : ¬ tsk.Acknowledges cb → tcpUpdateWindowSafe tsk cb = tsk

section Update

variable {tsk : TcpSock} {cb : TcpCb}

theorem tcpUpdateWindow_sndWnd : (tcpUpdateWindow tsk cb).sndWnd = cb.rwnd := by
  simp only [tcpUpdateWindow]
  split <;> rfl

/-- Nobody is left to be woken. -/
theorem wakeUp_eq_self (wait : SynchWait) : wakeUp wait = wait ↔ wait.dead ∨ wait.notified := by
  obtain ⟨notified, dead, sleep⟩ := wait
  cases dead <;> cases notified <;> simp [wakeUp]

/-- The update writes what is there already. -/
theorem tcpUpdateWindow_eq_self : tcpUpdateWindow tsk cb = tsk ↔
    cb.rwnd = tsk.sndWnd ∧
      (tsk.sndWnd.setWidth 16 = (0 : U16) → tsk.waitSend.dead ∨ tsk.waitSend.notified) := by
  rw [← wakeUp_eq_self]
  obtain ⟨⟩ := tsk
  simp only [tcpUpdateWindow]
  split <;> simp_all [and_comm]

/-- The two comparisons, in terms of the distance of the acknowledgement from
`snd_una`: they let one number too many pass, when nothing is in flight. -/
theorem acknowledged_iff (few : tsk.inFlight < 2147483648) :
    (lessOrEqual32b tsk.sndUna cb.ack && lessOrEqual32b cb.ack tsk.sndNxt) = true ↔
      tsk.Acknowledges cb ∨ tsk.sndNxt = tsk.sndUna ∧ cb.ack = tsk.sndUna + 2147483648 := by
  have range := (cb.ack - tsk.sndUna).isLt
  have flight := (tsk.sndNxt - tsk.sndUna).isLt
  have split : tsk.sndNxt - cb.ack = tsk.sndNxt - tsk.sndUna - (cb.ack - tsk.sndUna) := by grind
  have rest : (tsk.sndNxt - cb.ack).toNat =
      (4294967296 - (cb.ack - tsk.sndUna).toNat + (tsk.sndNxt - tsk.sndUna).toNat) %
        4294967296 := by
    rw [split, BitVec.toNat_sub]
  have none : tsk.sndNxt = tsk.sndUna ↔ (tsk.sndNxt - tsk.sndUna).toNat = 0 :=
    toNat_sub_eq_zero_iff.symm
  have opposite : cb.ack = tsk.sndUna + 2147483648 ↔
      (cb.ack - tsk.sndUna).toNat = 2147483648 := by
    constructor <;> intro same <;> bv_omega
  rw [Bool.and_eq_true, lessOrEqual32b, lessOrEqual32b, decide_eq_true_iff, decide_eq_true_iff,
    sub_toInt_nonpos_iff, sub_toInt_nonpos_iff, rest, none, opposite, TcpSock.Acknowledges,
    InArc]
  simp only [TcpSock.inFlight] at few ⊢
  omega

end Update

/-- **When the send window follows valid acknowledgements only.** With fewer than `2^31`
sequence numbers in flight, `tcp_update_window_safe` takes over the window of a
segment that acknowledges something between `snd_una` and `snd_nxt` and does nothing on
others, if and only if something is in flight, or the acknowledgement is not the
number opposite to `snd_una`, or the update would write what is there already. -/
theorem window_update_iff (tsk : TcpSock) (cb : TcpCb)
    (few : (tsk.sndNxt - tsk.sndUna).toNat < 2147483648) :
    tsk.FollowsWindow cb ↔
      tsk.sndNxt ≠ tsk.sndUna ∨ cb.ack ≠ tsk.sndUna + 2147483648 ∨
        cb.rwnd = tsk.sndWnd ∧
          (tsk.sndWnd.setWidth 16 = (0 : U16) → tsk.waitSend.dead ∨ tsk.waitSend.notified) := by
  have passes : (lessOrEqual32b tsk.sndUna cb.ack && lessOrEqual32b cb.ack tsk.sndNxt) = true ↔ _ :=
    acknowledged_iff few
  constructor
  · intro follows
    by_contra bad
    simp only [ne_eq, not_or, not_not] at bad
    obtain ⟨idle, opposite, changes⟩ := bad
    have unacknowledged : ¬ tsk.Acknowledges cb := by
      rw [TcpSock.Acknowledges, TcpSock.inFlight, InArc, idle, opposite]
      bv_omega
    have kept := follows.keeps unacknowledged
    rw [tcpUpdateWindowSafe, if_pos (passes.mpr (.inr ⟨idle, opposite⟩))] at kept
    exact changes (tcpUpdateWindow_eq_self.mp kept)
  · intro condition
    constructor
    · intro acknowledged
      rw [tcpUpdateWindowSafe, if_pos (passes.mpr (.inl acknowledged))]
      exact tcpUpdateWindow_sndWnd
    · intro unacknowledged
      rw [tcpUpdateWindowSafe]
      split
      · next passed =>
          obtain ⟨idle, opposite⟩ := (passes.mp passed).resolve_left unacknowledged
          rcases condition with flying | other | same
          · exact absurd idle flying
          · exact absurd opposite other
          · exact tcpUpdateWindow_eq_self.mpr same
      · rfl

/-- An acknowledgement of the one number in flight opens the window. -/
theorem window_update_iff_opens :
    (tcpUpdateWindowSafe { zeroedSock with sndNxt := 1 }
      { segmentWith tcpAck 0 with ack := 1, rwnd := 500 }).sndWnd = 500 :=
  ((window_update_iff { zeroedSock with sndNxt := 1 }
    { segmentWith tcpAck 0 with ack := 1, rwnd := 500 } (by decide)).mpr (.inl (by decide))).sets
      (by decide)

/-- **An acknowledgement of what was never sent sets the send window**: nothing is in
flight, and the number is the one opposite to `snd_una`. -/
theorem window_updated_unacknowledged :
    ¬ zeroedSock.Acknowledges { segmentWith tcpAck 0 with ack := 0x80000000, rwnd := 500 } ∧
      zeroedSock.sndNxt = zeroedSock.sndUna ∧ zeroedSock.sndWnd = 0 ∧
      (tcpUpdateWindowSafe zeroedSock
        { segmentWith tcpAck 0 with ack := 0x80000000, rwnd := 500 }).sndWnd = 500 ∧
      (tcpUpdateWindowSafe zeroedSock
        { segmentWith tcpAck 0 with ack := 0x80000000, rwnd := 500 }).waitSend.notified = true := by
  refine ⟨?_, rfl, rfl, rfl, rfl⟩
  show ¬ (2147483648 : ℕ) < 1
  omega

/-! ## Resets on their way back -/

/-- The receive window is not changed by sending. -/
theorem SendCall.run_window (call : SendCall) (s : Stack) (tsk : SockPtr) :
    ((call.run s tsk).sock tsk).rcvNxt = (s.sock tsk).rcvNxt ∧
      ((call.run s tsk).sock tsk).window = (s.sock tsk).window := by
  cases call with
  | control flags buffer =>
      rw [run, tcpSendControlPacket_sock, if_pos rfl]
      exact ⟨rfl, rfl⟩
  | packet buffer len =>
      rw [run, tcpSendPacket, Stack.modify_sock_self]
      exact ⟨rfl, rfl⟩

/-- A reset takes up no sequence number. -/
theorem TcpCb.seqLength_reset (cb : TcpCb) : cb.resetSegment.received.seqLength = 0 := by
  have plain : (tcpRst ||| tcpAck) &&& (tcpSyn ||| tcpFin) = 0 := by decide
  simp [seqLength, Segment.received, resetSegment, plain]

/-- **When a reset is acceptable to the peer it answers.** For every segment that a sock
emits, with an acknowledgement or without, the reset built from what the other
side decodes of it, decoded in turn, passes the test of the sock if and only if
sequence number zero is in its receive window. -/
theorem reset_acceptable_iff (ipInitHdr : IpInitHdr) (fills : ipInitHdr.Fills) (s : Stack)
    (tsk : SockPtr) (call : SendCall) (buffer : Memory U8) :
    isTcpSeqValid ((call.run s tsk).sock tsk)
        (decodedReset ipInitHdr (cbOf (call.frame ipInitHdr (s.sock tsk))) buffer) = true ↔
      (s.sock tsk).rcvNxt = 0 ∨
        4294967296 - (s.sock tsk).rcvNxt.toNat < max (s.sock tsk).rcvWnd.toNat 1 := by
  obtain ⟨rcvNxt, window⟩ := call.run_window s tsk
  have range := (s.sock tsk).rcvNxt.isLt
  have zero : (s.sock tsk).rcvNxt = 0 ↔ (s.sock tsk).rcvNxt.toNat = 0 := by
    constructor <;> intro same <;> bv_omega
  have distance : ((0 : U32) - (s.sock tsk).rcvNxt).toNat =
      (4294967296 - (s.sock tsk).rcvNxt.toNat + 0) % 4294967296 := BitVec.toNat_sub _ _
  rw [decodedReset_eq fills]
  set reset := (cbOf (call.frame ipInitHdr (s.sock tsk))).resetSegment.received
  have empty : reset.seqLength = 0 := TcpCb.seqLength_reset _
  have seq : reset.seq = 0 := rfl
  have positive := (s.sock tsk).window_pos
  have small := (s.sock tsk).window_lt
  rw [isTcpSeqValid_iff (by rw [empty]; decide), empty, reset.offset_eq, window, rcvNxt, seq,
    distance, zero, ← TcpSock.window]
  split <;> omega

/-- A sock that has received nothing accepts the reset that answers its ACK. -/
theorem reset_acceptable_iff_fresh :
    isTcpSeqValid (((SendCall.control tcpAck fun _ => 0).run (stackIn .established) 1).sock 1)
      (decodedReset (ipInitHdrWithId 7) (cbOf ((SendCall.control tcpAck fun _ => 0).frame
        (ipInitHdrWithId 7) ((stackIn .established).sock 1))) fun _ => 0) = true :=
  (reset_acceptable_iff (ipInitHdrWithId 7) (ipInitHdrWithId_fills 7) (stackIn .established) 1
    (.control tcpAck fun _ => 0) fun _ => 0).mpr (.inl rfl)

/-- The sock has received the numbers before 1000. -/
def receivedStack : Stack := (stackIn .established).modify 1 fun sk => { sk with rcvNxt := 1000 }

/-- **A reset that the peer drops**: the peer has received 1000 sequence numbers, and the
reset that answers its ACK has sequence number zero. -/
theorem reset_unacceptable :
    (((SendCall.control tcpAck fun _ => 0).segment (receivedStack.sock 1)).flags &&& tcpAck ≠ 0) ∧
      isTcpSeqValid (((SendCall.control tcpAck fun _ => 0).run receivedStack 1).sock 1)
        (decodedReset (ipInitHdrWithId 7) (cbOf ((SendCall.control tcpAck fun _ => 0).frame
          (ipInitHdrWithId 7) (receivedStack.sock 1))) fun _ => 0) = false := by
  refine ⟨by decide, ?_⟩
  rw [decodedReset_eq (ipInitHdrWithId_fills 7)]
  rfl

end TcpStack
