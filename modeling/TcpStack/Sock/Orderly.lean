import TcpStack.Sock.Events

/-!
# Orderly runs

The lists of an orderly run stay in order, a sock has at most one reference for
each table it is in, a listener is in one of the hash tables, and a sock that opens
a connection is in the bind table or in a queue (`Stack.Orderly`).

One event does one of three things to a sock (`Event.turns`): the sock rests
where it is or leaves a queue, it is made, named or moved on towards a
connection, or it is closed.
-/

set_option autoImplicit false

namespace TcpStack

open Lib

/-! ## Accounts -/

/-- A sock has at most one reference for each table it is in. -/
def Stack.Backed (s : Stack) (tsk : SockPtr) : Prop :=
  ∃ hash bind : ℤ, (s.sock tsk).refCnt ≤ hash + bind ∧
    (hash ≤ 0 ∨ hash ≤ 1 ∧ s.Hashed tsk) ∧ (bind ≤ 0 ∨ bind ≤ 1 ∧ s.InBind tsk)

/-- A sock that opens a connection has the place that the opening gave it: the
bind table, or the queue of half-open connections of some sock. -/
structure Stack.Pending (s : Stack) (socks : Sequences) (tsk : SockPtr) : Prop where
  sent : (s.sock tsk).state = .synSent → s.InBind tsk
  received : (s.sock tsk).state = .synRecv →
    ∃ parent ∈ s.allocated, tsk ∈ socks (.listenQueue parent)

/-- What a run of orderly events keeps true of one sock. -/
structure Stack.Balanced (s : Stack) (socks : Sequences) (tsk : SockPtr) : Prop where
  backed : s.Backed tsk
  ready : ¬ s.Released tsk → s.BindReady socks tsk
  hashed : (s.sock tsk).state = .listen → s.Hashed tsk
  pending : s.Pending socks tsk

/-- What a run of orderly events keeps true of the stack. -/
structure Stack.Orderly (s : Stack) (socks : Sequences) : Prop where
  sound : s.Sound socks
  balances : ∀ tsk ∈ s.allocated, s.Balanced socks tsk
  freed : ∀ tsk, s.Released tsk → tsk ∈ s.allocated

theorem Stack.Backed.refCnt_le {s : Stack} {tsk : SockPtr} (backed : s.Backed tsk) :
    (s.sock tsk).refCnt ≤ 2 := by
  obtain ⟨hash, bind, count, inHash, inBind⟩ := backed
  rcases inHash with _ | ⟨_, _⟩ <;> rcases inBind with _ | ⟨_, _⟩ <;> omega

theorem Stack.Backed.mono {s later : Stack} {tsk : SockPtr} (backed : s.Backed tsk)
    (refCnt : (later.sock tsk).refCnt ≤ (s.sock tsk).refCnt)
    (hashed : s.Hashed tsk → later.Hashed tsk) (bound : s.InBind tsk → later.InBind tsk) :
    later.Backed tsk := by
  obtain ⟨hash, bind, count, inHash, inBind⟩ := backed
  exact ⟨hash, bind, refCnt.trans count, inHash.imp_right (And.imp_right hashed),
    inBind.imp_right (And.imp_right bound)⟩

section Pending

variable {s later : Stack} {socks moved : Sequences} {tsk : SockPtr}

theorem Stack.Aside.pending (aside : s.Aside socks later moved tsk) (shape : s.Shape socks)
    (laterShape : later.Shape moved) (grows : s.allocated ⊆ later.allocated)
    (pending : s.Pending socks tsk) : later.Pending moved tsk where
  sent := by
    rw [aside.state, aside.inBind shape laterShape]
    exact pending.sent
  received := by
    rw [aside.state]
    intro state
    obtain ⟨parent, member, inside⟩ := pending.received state
    exact ⟨parent, grows member,
      (aside.places (.listenQueue parent) (grows member)).mpr ⟨member, inside⟩⟩

/-- A sock whose places under its port and in the queues are kept. -/
theorem Stack.Pending.mono (pending : s.Pending socks tsk)
    (state : (later.sock tsk).state = (s.sock tsk).state)
    (allocated : later.allocated = s.allocated) (bound : s.InBind tsk → later.InBind tsk)
    (queues : ∀ parent, moved (.listenQueue parent) = socks (.listenQueue parent)) :
    later.Pending moved tsk where
  sent := by
    rw [state]
    exact fun sent => bound (pending.sent sent)
  received := by
    rw [state, allocated]
    simp only [queues]
    exact pending.received

/-- A sock that opens no connection has no such place to keep. -/
theorem Stack.Pending.idle (notSent : (s.sock tsk).state ≠ .synSent)
    (notReceived : (s.sock tsk).state ≠ .synRecv) : s.Pending socks tsk :=
  ⟨fun sent => absurd sent notSent, fun received => absurd received notReceived⟩

end Pending

/-! ## What one event does to a sock -/

/-- The sock keeps its state, is released exactly if it was, and is in no table or
queue unless it was in one. -/
structure Stack.Rests (s later : Stack) (tsk : SockPtr) : Prop where
  state : (later.sock tsk).state = (s.sock tsk).state
  released : later.Released tsk ↔ s.Released tsk
  linked : later.Linked tsk → s.Linked tsk

/-- The sock is made, named, or moved on towards a connection. -/
structure Stack.Opens (s later : Stack) (tsk : SockPtr) : Prop where
  released : later.Released tsk → s.Released tsk ∧ s.Linked tsk
  state : tsk ∈ s.allocated → (later.sock tsk).state = .closed →
    (s.sock tsk).state = .closed ∧ ¬ s.Released tsk

/-- The sock is closed. A listener leaves its tables; any other sock stays where
it is, and loses one reference unless it is closed already. -/
structure Stack.Shuts (s later : Stack) (tsk : SockPtr) : Prop where
  state : (later.sock tsk).state = (s.sock tsk).state.afterClose
  listening : (s.sock tsk).state = .listen →
    later.Released tsk ∧ (later.Linked tsk ↔ s.Queued tsk)
  linked : (s.sock tsk).state ≠ .listen → (later.Linked tsk ↔ s.Linked tsk)
  released : (s.sock tsk).state ≠ .listen → (later.Released tsk ↔
    s.Released tsk ∨ (s.sock tsk).state ≠ .closed ∧ (s.sock tsk).refCnt ≤ 1)

/-- The socks of `closed` are closed, and all others rest or are opened. -/
def Stack.Turns (s later : Stack) (closed : SockPtr → Prop) : Prop :=
  ∀ tsk, (closed tsk → s.Shuts later tsk) ∧
    (¬ closed tsk → s.Rests later tsk ∨ s.Opens later tsk)

section Turns

variable {s middle later : Stack} {socks moved : Sequences} {tsk : SockPtr}

theorem Stack.Rests.refl (s : Stack) (tsk : SockPtr) : s.Rests s tsk := ⟨rfl, Iff.rfl, id⟩

theorem Stack.Rests.trans (first : s.Rests middle tsk) (second : middle.Rests later tsk) :
    s.Rests later tsk :=
  ⟨second.state.trans first.state, second.released.trans first.released,
    fun linked => first.linked (second.linked linked)⟩

theorem Stack.Aside.rests (aside : s.Aside socks later moved tsk) (shape : s.Shape socks)
    (laterShape : later.Shape moved) : s.Rests later tsk where
  state := aside.state
  released := aside.released
  linked := by
    rw [shape.linked_iff, laterShape.linked_iff]
    rintro ⟨head, isHead, inside⟩
    exact ⟨head, (aside.places head isHead).mp inside⟩

/-- A sock that was not released, and neither is. -/
theorem Stack.Opens.unreleased (unreleased : ¬ s.Released tsk)
    (freed : later.Released tsk → s.Released tsk)
    (state : (later.sock tsk).state = .closed → (s.sock tsk).state = .closed) :
    s.Opens later tsk :=
  ⟨fun released => absurd (freed released) unreleased,
    fun _ closed => ⟨state closed, unreleased⟩⟩

theorem Stack.Turns.rests {closed : SockPtr → Prop} (none : ∀ tsk, ¬ closed tsk)
    (rests : ∀ tsk, s.Rests later tsk) : s.Turns later closed :=
  fun tsk => ⟨fun isClosed => absurd isClosed (none tsk), fun _ => .inl (rests tsk)⟩

theorem Stack.Turns.opens {closed : SockPtr → Prop} (none : ∀ tsk, ¬ closed tsk)
    (rests : ∀ other, other ≠ tsk → s.Rests later other) (opens : s.Opens later tsk) :
    s.Turns later closed := by
  refine fun other => ⟨fun isClosed => absurd isClosed (none other), fun _ => ?_⟩
  by_cases same : other = tsk
  · rw [same]
    exact .inr opens
  · exact .inl (rests other same)

theorem Stack.Turns.shuts {closed : SockPtr → Prop} (only : ∀ other, closed other ↔ other = tsk)
    (rests : ∀ other, other ≠ tsk → s.Rests later other) (shuts : s.Shuts later tsk) :
    s.Turns later closed := by
  refine fun other => ⟨fun isClosed => ?_, fun spared => .inl (rests other ?_)⟩
  · rw [(only other).mp isClosed]
    exact shuts
  · exact fun same => spared ((only other).mpr same)

/-- A sock that is left aside. -/
theorem Stack.Balanced.aside (balanced : s.Balanced socks tsk) (shape : s.Shape socks)
    (laterShape : later.Shape moved) (grows : s.allocated ⊆ later.allocated)
    (aside : s.Aside socks later moved tsk) : later.Balanced moved tsk where
  backed := balanced.backed.mono aside.refCnt.le (aside.hashed shape laterShape).mpr
    (aside.inBind shape laterShape).mpr
  ready := fun unreleased =>
    aside.bindReady (balanced.ready fun released => unreleased (aside.released.mpr released))
  hashed := by
    intro listening
    rw [aside.state] at listening
    exact (aside.hashed shape laterShape).mpr (balanced.hashed listening)
  pending := aside.pending shape laterShape grows balanced.pending

end Turns

namespace Stack.Orderly

variable {s later : Stack} {socks moved : Sequences} {tsk : SockPtr}

/-- An event that changes one sock, or makes it. -/
theorem step (orderly : s.Orderly socks) (sound : later.Sound moved)
    (member : tsk ∈ later.allocated) (grows : s.allocated ⊆ later.allocated)
    (only : ∀ other ∈ later.allocated, other ≠ tsk → other ∈ s.allocated)
    (aside : ∀ other, other ≠ tsk → s.Aside socks later moved other)
    (own : later.Balanced moved tsk) :
    later.Orderly moved ∧ ∀ other, other ≠ tsk → s.Rests later other := by
  refine ⟨⟨sound, fun other isOther => ?_, fun other released => ?_⟩, fun other different =>
    (aside other different).rests orderly.sound.shape sound.shape⟩
  · by_cases same : other = tsk
    · rw [same]
      exact own
    · exact (orderly.balances other (only other isOther same)).aside orderly.sound.shape sound.shape
        grows (aside other same)
  · by_cases same : other = tsk
    · rw [same]
      exact member
    · exact grows (orderly.freed other ((aside other same).released.mp released))

/-- An event that changes one sock that was there. -/
theorem step_of_member (orderly : s.Orderly socks) (sound : later.Sound moved)
    (member : tsk ∈ s.allocated) (allocated : later.allocated = s.allocated)
    (aside : ∀ other, other ≠ tsk → s.Aside socks later moved other)
    (own : later.Balanced moved tsk) :
    later.Orderly moved ∧ ∀ other, other ≠ tsk → s.Rests later other :=
  orderly.step sound (allocated ▸ member) (by rw [allocated]; exact fun _ => id)
    (fun other isOther _ => allocated ▸ isOther) aside own

/-- An event that leaves every sock aside. -/
theorem unmoved (orderly : s.Orderly socks) (sound : later.Sound moved)
    (allocated : later.allocated = s.allocated)
    (aside : ∀ other, s.Aside socks later moved other) :
    later.Orderly moved ∧ ∀ other, s.Rests later other := by
  refine ⟨⟨sound, fun other isOther => ?_, fun other released => ?_⟩, fun other =>
    (aside other).rests orderly.sound.shape sound.shape⟩
  · rw [allocated] at isOther
    exact (orderly.balances other isOther).aside orderly.sound.shape sound.shape
      (by rw [allocated]; exact fun _ => id) (aside other)
  · rw [allocated]
    exact orderly.freed other ((aside other).released.mp released)

/-- A change of one record that says nothing about the place of the sock. -/
theorem modify (orderly : s.Orderly socks) {change : TcpSock → TcpSock}
    (parent : ∀ sk, (change sk).parent = sk.parent) (state : ∀ sk, (change sk).state = sk.state)
    (refCnt : ∀ sk, (change sk).refCnt = sk.refCnt) :
    (s.modify tsk change).Orderly socks ∧ ∀ other, s.Rests (s.modify tsk change) other := by
  refine orderly.unmoved (orderly.sound.modify parent state) rfl fun other => ?_
  exact (Stack.Aside.refl s socks other).congr rfl rfl rfl
    (s.modify_field TcpSock.state tsk state other) (s.modify_field TcpSock.refCnt tsk refCnt other)

/-! ### Making and linking -/

theorem alloc (orderly : s.Orderly socks) (notNull : tsk ≠ 0) (absent : tsk ∉ s.allocated) :
    (allocTcpSock s tsk).Orderly (socks.withSock tsk) ∧
      (∀ other, other ≠ tsk → s.Rests (allocTcpSock s tsk) other) ∧
      s.Opens (allocTcpSock s tsk) tsk := by
  have made : (allocTcpSock s tsk).modify tsk (fun _ => zeroedSock) = allocTcpSock s tsk := by
    simp [Stack.modify, allocTcpSock]
  obtain ⟨sound, aside⟩ := orderly.sound.alloc zeroedSock notNull absent (.inl rfl) rfl
  rw [made] at sound aside
  have own : (allocTcpSock s tsk).sock tsk = zeroedSock := Function.update_self _ _ _
  have balanced : (allocTcpSock s tsk).Balanced (socks.withSock tsk) tsk :=
    { backed := ⟨0, 0, by rw [own]; rfl, .inl le_rfl, .inl le_rfl⟩
      ready := fun _ => .inr (by simp [allocTcpSock, Heap.initListHead])
      hashed := by
        intro listening
        rw [own] at listening
        cases listening
      pending := .idle (by rw [own]; decide) (by rw [own]; decide) }
  obtain ⟨inOrder, rests⟩ := orderly.step sound List.mem_cons_self (List.subset_cons_self _ _)
    (fun other inside different => (List.mem_cons.mp inside).resolve_left different) aside balanced
  exact ⟨inOrder, rests, fun released => absurd (orderly.freed tsk released) absent,
    fun member => absurd member absent⟩

/-- Binding a sock that is not bound. -/
theorem bindHash (orderly : s.Orderly socks) (member : tsk ∈ s.allocated)
    (unbound : ¬ s.InBind tsk) :
    ∃ links moved, tcpBindHash s tsk = .ok (tcpSockIncRefCnt { s with links := links } tsk) ∧
      (tcpSockIncRefCnt { s with links := links } tsk).Orderly moved ∧
      ((tcpSockIncRefCnt { s with links := links } tsk).Hashed tsk ↔ s.Hashed tsk) ∧
      (tcpSockIncRefCnt { s with links := links } tsk).InBind tsk ∧
      ∀ other, other ≠ tsk → s.Rests (tcpSockIncRefCnt { s with links := links } tsk) other := by
  have balanced := orderly.balances tsk member
  have outside : ∀ bucket, tsk ∉ socks (.bindTable bucket) :=
    fun bucket inside => unbound (orderly.sound.shape.inBind_iff.mpr ⟨bucket, inside⟩)
  obtain ⟨links, bucket, done, sound, aside⟩ := orderly.sound.bindHash member outside
  have elsewhere : ∀ head, head.slot = Node.hashList → Function.update socks (.bindTable bucket)
      (tsk :: socks (.bindTable bucket)) head = socks head :=
    fun head slot => Sequences.update_of_slot_ne (slot ▸ Node.bindHashList_ne_hashList.symm)
  have hashed : (tcpSockIncRefCnt { s with links := links } tsk).Hashed tsk ↔ s.Hashed tsk := by
    rw [sound.shape.hashed_iff, orderly.sound.shape.hashed_iff]
    refine exists_congr fun head => and_congr Iff.rfl (and_congr_right fun slot => ?_)
    rw [elsewhere head slot]
  have bound : ∃ place, tsk ∈ Function.update socks (.bindTable bucket)
      (tsk :: socks (.bindTable bucket)) (.bindTable place) := ⟨bucket, by simp⟩
  have inBind := sound.shape.inBind_iff.mpr bound
  have own : (tcpSockIncRefCnt { s with links := links } tsk).Balanced (Function.update socks
      (.bindTable bucket) (tsk :: socks (.bindTable bucket))) tsk :=
    { backed := by
        obtain ⟨hash, bind, count, inHash, wasBound⟩ := balanced.backed
        have noBind : bind ≤ 0 := wasBound.resolve_right fun inside => unbound inside.2
        refine ⟨hash, bind + 1, ?_, inHash.imp_right (And.imp_right hashed.mpr),
          .inr ⟨by omega, inBind⟩⟩
        rw [tcpSockIncRefCnt_sock, if_pos rfl]
        show (s.sock tsk).refCnt + 1 ≤ _
        omega
      ready := fun _ => .inl bound
      hashed := by
        intro listening
        rw [tcpSockIncRefCnt_field _ tsk TcpSock.state fun _ _ => rfl] at listening
        exact hashed.mpr (balanced.hashed listening)
      pending := balanced.pending.mono (tcpSockIncRefCnt_field _ tsk TcpSock.state
        (fun _ _ => rfl) tsk) rfl (fun _ => inBind)
        fun _ => Sequences.update_of_slot_ne Node.bindHashList_ne_list.symm }
  obtain ⟨inOrder, rests⟩ := orderly.step_of_member sound member rfl aside own
  exact ⟨links, _, done, inOrder, hashed, inBind, rests⟩

end Stack.Orderly

/-- Hashing a sock that is not hashed. -/
theorem Stack.Sound.hash_balanced {s : Stack} {socks : Sequences} {tsk : SockPtr}
    (sound : s.Sound socks) (member : tsk ∈ s.allocated) (unhashed : ¬ s.Hashed tsk)
    (backed : s.Backed tsk) (ready : s.BindReady socks tsk) (pending : s.Pending socks tsk) :
    ∃ result later moved, tcpHash s tsk = .ok (result, later) ∧ later.Sound moved ∧
      later.allocated = s.allocated ∧ (∀ other, other ≠ tsk → s.Aside socks later moved other) ∧
      later.Balanced moved tsk := by
  obtain ⟨result, later, moved, done, inOrder, aside, readyLater, linked⟩ :=
    sound.hash member unhashed
  rcases linked with ⟨rfl, rfl, notListen⟩ | ⟨links, head, isHead, slot, rfl, rfl⟩
  · exact ⟨result, later, moved, done, inOrder, rfl, aside, backed,
      fun _ => ready, fun listening => absurd listening notListen, pending⟩
  · have hashed : (tcpSockIncRefCnt { s with links := links } tsk).Hashed tsk :=
      inOrder.shape.hashed_iff.mpr ⟨head, isHead, slot, by simp⟩
    have bound : s.InBind tsk → (tcpSockIncRefCnt { s with links := links } tsk).InBind tsk := by
      rw [inOrder.shape.inBind_iff, sound.shape.inBind_iff]
      rintro ⟨bucket, inside⟩
      refine ⟨bucket, ?_⟩
      rwa [Sequences.update_of_slot_ne (slot ▸ Node.bindHashList_ne_hashList)]
    refine ⟨result, _, _, done, inOrder, rfl, aside, ?_, fun _ => readyLater ready,
      fun _ => hashed, pending.mono (tcpSockIncRefCnt_field _ tsk TcpSock.state
        (fun _ _ => rfl) tsk) rfl bound
        fun _ => Sequences.update_of_slot_ne (slot ▸ Node.hashList_ne_list.symm)⟩
    obtain ⟨hash, bind, count, inHash, inBind⟩ := backed
    have noHash : hash ≤ 0 := inHash.resolve_right fun inside => unhashed inside.2
    refine ⟨hash + 1, bind, ?_, .inr ⟨by omega, hashed⟩, inBind.imp_right (And.imp_right bound)⟩
    rw [tcpSockIncRefCnt_sock, if_pos rfl]
    show (s.sock tsk).refCnt + 1 ≤ _
    omega

/-! ### The socket calls -/

theorem tcpSockSetSport_ok {s later : Stack} {tsk : SockPtr} {port : U16} {result : ℤ}
    (done : tcpSockSetSport s tsk port = .ok (result, later)) :
    later = s ∨ ∃ chosen : U16,
      tcpBindHash (s.modify tsk fun sk => { sk with skSport := chosen }) tsk = .ok later := by
  have tail : ∀ chosen : U16, (if chosen = 0 then pure (-1, s) else do
      let s ← tcpBindHash (s.modify tsk fun sk => { sk with skSport := chosen }) tsk
      pure (0, s) : Outcome (ℤ × Stack)) = .ok (result, later) → later = s ∨ ∃ chosen : U16,
        tcpBindHash (s.modify tsk fun sk => { sk with skSport := chosen }) tsk = .ok later := by
    intro chosen done
    split at done
    · cases done
      exact .inl rfl
    · obtain ⟨bound, hashed, done⟩ := Outcome.bind_eq_ok.mp done
      cases done
      exact .inr ⟨chosen, hashed⟩
  unfold tcpSockSetSport at done
  dsimp only at done
  split at done
  · obtain ⟨used, _, done⟩ := Outcome.bind_eq_ok.mp done
    split at done
    · cases done
      exact .inl rfl
    · obtain ⟨chosen, _, done⟩ := Outcome.bind_eq_ok.mp done
      exact tail chosen done
  · obtain ⟨used, _, done⟩ := Outcome.bind_eq_ok.mp done
    split at done
    · cases done
      exact .inl rfl
    · split at done
      · obtain ⟨chosen, _, done⟩ := Outcome.bind_eq_ok.mp done
        exact tail chosen done
      · obtain ⟨chosen, _, done⟩ := Outcome.bind_eq_ok.mp done
        exact tail chosen done

/-- `tcp_sock_accept` takes a sock from the queue, at once or after it did not
have to sleep, or goes to sleep. -/
theorem tcpSockAccept_ok {s later : Stack} {tsk : SockPtr} {popped : Option Node}
    (done : tcpSockAccept s tsk = .ok (popped, later)) :
    ∃ before, (before = s ∨ before = s.modify tsk fun sk =>
        { sk with waitAccept := (sleepOn (s.sock tsk).waitAccept).1 }) ∧
      (later = before ∨ ∃ node, tcpSockAcceptDequeue before tsk = .ok (node, later)) := by
  simp only [tcpSockAccept] at done
  split at done
  · obtain ⟨⟨node, rest⟩, dequeued, done⟩ := Outcome.bind_eq_ok.mp done
    cases done
    exact ⟨s, .inl rfl, .inr ⟨node, dequeued⟩⟩
  · split at done
    · cases done
      exact ⟨_, .inr rfl, .inl rfl⟩
    · obtain ⟨⟨node, rest⟩, dequeued, done⟩ := Outcome.bind_eq_ok.mp done
      cases done
      exact ⟨_, .inr rfl, .inr ⟨node, dequeued⟩⟩

/-- A bound or zeroed sock may come to listen. -/
theorem Stack.Sound.setListen {s : Stack} {socks : Sequences} {tsk : SockPtr}
    (sound : s.Sound socks) (ready : s.BindReady socks tsk) :
    (tcpSetState s tsk .listen).Sound socks where
  shape := sound.shape.congr rfl rfl
  parents := by
    intro other member
    rw [(Stack.Touches.setState s tsk _).parent]
    exact sound.parents other member
  children := by
    intro other member state
    rw [(Stack.Touches.setState s tsk _).parent]
    rw [tcpSetState_sock] at state
    split at state
    · cases state
    · exact sound.children other member state
  listening := by
    intro other member state
    rw [tcpSetState_sock] at state
    split at state
    · rename_i same
      rw [same]
      exact ready
    · exact sound.listening other member state

namespace Stack.Orderly

variable {s later : Stack} {socks moved : Sequences} {tsk : SockPtr}

theorem sendControl (orderly : s.Orderly socks) (tsk : SockPtr) (flags : U8) :
    (tcpSendControlPacket s tsk flags).Orderly socks ∧
      ∀ other, s.Rests (tcpSendControlPacket s tsk flags) other := by
  obtain ⟨sound, aside⟩ := orderly.sound.sendControl tsk flags
  exact orderly.unmoved sound (by simp) aside

/-- A sock may take any state but those of a passive open. -/
theorem setState (orderly : s.Orderly socks) (member : tsk ∈ s.allocated) {state : TcpState}
    (active : state.passive = false) (bound : state = .synSent → s.InBind tsk) :
    (tcpSetState s tsk state).Orderly socks ∧
      ∀ other, other ≠ tsk → s.Rests (tcpSetState s tsk state) other := by
  have balanced := orderly.balances tsk member
  have own : (tcpSetState s tsk state).sock tsk = { s.sock tsk with state := state } := by
    rw [tcpSetState_sock, if_pos rfl]
  have sound : (tcpSetState s tsk state).Sound socks := by
    refine orderly.sound.touched (.setState s tsk state) rfl ?_ ?_ <;>
    · rw [own]
      rintro rfl
      cases active
  have aside := Stack.Aside.touched (.setState s tsk state) (socks.movesOnly_refl tsk) (by simp)
  refine orderly.step_of_member sound member rfl aside ⟨?_, balanced.ready, ?_, ?_, ?_⟩
  · exact balanced.backed.mono (by rw [own]) id id
  · rw [own]
    rintro rfl
    cases active
  · rw [own]
    exact bound
  · rw [own]
    rintro rfl
    cases active

theorem bind (orderly : s.Orderly socks) (member : tsk ∈ s.allocated)
    (unreleased : ¬ s.Released tsk) (unbound : ¬ s.InBind tsk) {skaddr : SockAddr} {result : ℤ}
    (done : tcpSockBind s tsk skaddr = .ok (result, later)) :
    ∃ moved, later.Orderly moved ∧ s.Turns later fun _ => False := by
  rcases tcpSockSetSport_ok done with rfl | ⟨chosen, hashed⟩
  · exact ⟨socks, orderly, .rests (fun _ => id) (.refl later)⟩
  · obtain ⟨named, same⟩ : (s.modify tsk fun sk =>
        { sk with skSport := chosen }).Orderly socks ∧ _ :=
      orderly.modify (fun _ => rfl) (fun _ => rfl) (fun _ => rfl)
    obtain ⟨links, moved, bound, inOrder, _, _, rests⟩ := named.bindHash member unbound
    rw [bound] at hashed
    cases hashed
    refine ⟨moved, inOrder, .opens (fun _ => id)
      (fun other different => (same other).trans (rests other different))
      (.unreleased unreleased id ?_)⟩
    rw [tcpSockIncRefCnt_field _ tsk TcpSock.state fun _ _ => rfl]
    exact fun closed => (same tsk).state ▸ closed

/-- Hashing a sock that is not hashed. -/
theorem hash (orderly : s.Orderly socks) (member : tsk ∈ s.allocated) (unhashed : ¬ s.Hashed tsk)
    (unreleased : ¬ s.Released tsk) {result : ℤ} (done : tcpHash s tsk = .ok (result, later)) :
    ∃ moved, later.Orderly moved ∧ ∀ other, other ≠ tsk → s.Rests later other := by
  have balanced := orderly.balances tsk member
  obtain ⟨_, _, moved, hashed, inOrder, allocated, aside, own⟩ := orderly.sound.hash_balanced member
    unhashed balanced.backed (balanced.ready unreleased) balanced.pending
  rw [hashed] at done
  cases done
  exact ⟨moved, orderly.step_of_member inOrder member allocated aside own⟩

theorem listen (orderly : s.Orderly socks) (member : tsk ∈ s.allocated)
    (unreleased : ¬ s.Released tsk) (unhashed : ¬ s.Hashed tsk) {backlog : ℤ} {result : ℤ}
    (done : tcpSockListen s tsk backlog = .ok (result, later)) :
    ∃ moved, later.Orderly moved ∧ s.Turns later fun _ => False := by
  obtain ⟨sized, same⟩ : (s.modify tsk fun sk =>
      { sk with backlog := backlog }).Orderly socks ∧ _ :=
    orderly.modify (fun _ => rfl) (fun _ => rfl) (fun _ => rfl)
  have balanced := sized.balances tsk member
  have ready := balanced.ready unreleased
  have aside := Stack.Aside.touched (.setState (s.modify tsk fun sk =>
    { sk with backlog := backlog }) tsk .listen) (socks.movesOnly_refl tsk) (by simp)
  have backed : (tcpSetState (s.modify tsk fun sk => { sk with backlog := backlog }) tsk
      .listen).Backed tsk :=
    balanced.backed.mono (by rw [tcpSetState_sock, if_pos rfl]) id id
  obtain ⟨_, later', moved, hashed, inOrder, allocated, asideLater, own⟩ :=
    (sized.sound.setListen ready).hash_balanced member unhashed backed ready
      (.idle (by simp [tcpSetState_sock]) (by simp [tcpSetState_sock]))
  have called : tcpSockListen s tsk backlog = _ := hashed
  rw [called] at done
  cases done
  have asides : ∀ other, other ≠ tsk → Stack.Aside _ socks later moved other :=
    fun other different => (aside other different).trans (asideLater other different) fun _ => id
  obtain ⟨next, rests⟩ := sized.step_of_member inOrder member allocated asides own
  refine ⟨moved, next, .opens (fun _ => id)
    (fun other different => (same other).trans (rests other different))
    (.unreleased unreleased ?_ ?_)⟩
  · rw [Stack.Released, tcpHash_freed hashed]
    exact id
  · rw [tcpHash_field TcpSock.state hashed (fun _ _ => rfl), tcpSetState_sock, if_pos rfl]
    rintro ⟨⟩

theorem connect (orderly : s.Orderly socks) (member : tsk ∈ s.allocated)
    (unreleased : ¬ s.Released tsk) (unbound : ¬ s.InBind tsk) (unhashed : ¬ s.Hashed tsk)
    {skaddr : SockAddr} {cursorIp : U32} {result : Option ℤ}
    (done : tcpSockConnect s tsk skaddr cursorIp = .ok (result, later)) :
    ∃ moved, later.Orderly moved ∧ s.Turns later fun _ => False := by
  obtain ⟨port, _, done⟩ := Outcome.bind_eq_ok.mp done
  obtain ⟨bound, binding, done⟩ := Outcome.bind_eq_ok.mp done
  obtain ⟨⟨_, hashed⟩, hashing, done⟩ := Outcome.bind_eq_ok.mp done
  cases done
  obtain ⟨addressed, first⟩ : (s.modify tsk fun sk => { sk with skDip := htonl skaddr.ip
                                                                skDport := htons skaddr.port
                                                                skSip := cursorIp }).Orderly
      socks ∧ _ := orderly.modify (fun _ => rfl) (fun _ => rfl) (fun _ => rfl)
  obtain ⟨named, second⟩ : (Stack.modify _ tsk fun sk =>
      { sk with skSport := htons port }).Orderly socks ∧ _ :=
    addressed.modify (fun _ => rfl) (fun _ => rfl) (fun _ => rfl)
  obtain ⟨links, between, linked, inTable, still, inBind, third⟩ := named.bindHash member unbound
  rw [linked] at binding
  cases binding
  obtain ⟨sent, fourth⟩ := inTable.sendControl tsk tcpSyn
  have stillBound := ((inTable.sound.sendControl tsk tcpSyn).2 tsk).inBind inTable.sound.shape
    sent.sound.shape
  obtain ⟨opened, fifth⟩ := sent.setState (by simpa using member)
    (show TcpState.synSent.passive = false from rfl) fun _ => stillBound.mpr inBind
  obtain ⟨moved, inOrder, sixth⟩ := opened.hash (by simpa using member)
    (fun inside => unhashed
      (still.mp ((congrFun (Stack.hashed_congr (by simp) (by simp)) tsk).mp inside)))
    (by simpa [Stack.Released] using unreleased) hashing
  obtain ⟨asleep, last⟩ : (hashed.modify tsk fun sk =>
      { sk with waitConnect := (sleepOn (hashed.sock tsk).waitConnect).1 }).Orderly moved ∧ _ :=
    inOrder.modify (fun _ => rfl) (fun _ => rfl) (fun _ => rfl)
  refine ⟨moved, asleep, .opens (fun _ => id) (fun other different => ?_)
    (.unreleased unreleased ?_ ?_)⟩
  · exact (first other).trans <| (second other).trans <| (third other different).trans <|
      (fourth other).trans <| (fifth other different).trans <| (sixth other different).trans
        (last other)
  · intro released
    have freed : hashed.freed = s.freed := by
      rw [tcpHash_freed hashing]
      simp
    have before : tsk ∈ hashed.freed := (last tsk).released.mp released
    rwa [freed] at before
  · intro closed
    have state : (hashed.sock tsk).state = .closed := (last tsk).state.symm.trans closed
    rw [tcpHash_field TcpSock.state hashing (fun _ _ => rfl), tcpSetState_sock, if_pos rfl] at state
    cases state

/-- Taking a sock for `accept` leaves fewer links, and the tables as they are. -/
theorem acceptDequeue (orderly : s.Orderly socks) (member : tsk ∈ s.allocated) {popped : Node}
    (done : tcpSockAcceptDequeue s tsk = .ok (popped, later)) :
    ∃ moved, later.Orderly moved ∧ ∀ other, s.Rests later other := by
  obtain ⟨_, links, moved, dequeued, sound, fewer, elsewhere, frame⟩ :=
    orderly.sound.acceptDequeue member
  rw [dequeued] at done
  cases done
  have hashed : ∀ other, s.Hashed other → ({ s with links := links } : Stack).Hashed other := by
    intro other inside
    obtain ⟨head, isHead, slot, inside⟩ := orderly.sound.shape.hashed_iff.mp inside
    refine sound.shape.hashed_iff.mpr ⟨head, isHead, slot, ?_⟩
    rwa [elsewhere head fun same => Node.hashList_ne_list (slot.symm.trans (congrArg _ same))]
  have bind : ∀ bucket, moved (.bindTable bucket) = socks (.bindTable bucket) :=
    fun bucket => elsewhere _ (by simp)
  have bound : ∀ other, s.InBind other → ({ s with links := links } : Stack).InBind other := by
    intro other
    rw [sound.shape.inBind_iff, orderly.sound.shape.inBind_iff]
    simp only [bind]
    exact id
  have thinned : ({ s with links := links } : Stack).Orderly moved :=
    { sound := sound
      balances := by
        intro other isOther
        have balanced := orderly.balances other isOther
        exact
          { backed := balanced.backed.mono le_rfl (hashed other) (bound other)
            ready := fun unreleased => (balanced.ready unreleased).transfer
              (fun bucket inside => by rwa [bind]) (frame other)
            hashed := fun listening => hashed other (balanced.hashed listening)
            pending := balanced.pending.mono rfl rfl (bound other)
              fun _ => elsewhere _ (by simp) }
      freed := orderly.freed }
  have rests : ∀ other, s.Rests { s with links := links } other := by
    refine fun other => ⟨rfl, Iff.rfl, ?_⟩
    rw [sound.shape.linked_iff, orderly.sound.shape.linked_iff]
    rintro ⟨head, isHead, inside⟩
    exact ⟨head, isHead, fewer head other inside⟩
  obtain ⟨counted, same⟩ : (({ s with links := links } : Stack).modify tsk fun sk =>
      { sk with acceptBacklog := sk.acceptBacklog - 1 }).Orderly moved ∧ _ :=
    thinned.modify (fun _ => rfl) (fun _ => rfl) (fun _ => rfl)
  exact ⟨moved, counted, fun other => (rests other).trans (same other)⟩

theorem accept (orderly : s.Orderly socks) (member : tsk ∈ s.allocated) {popped : Option Node}
    (done : tcpSockAccept s tsk = .ok (popped, later)) :
    ∃ moved, later.Orderly moved ∧ ∀ other, s.Rests later other := by
  obtain ⟨before, called, rest⟩ := tcpSockAccept_ok done
  obtain ⟨inOrder, there, same⟩ : before.Orderly socks ∧ tsk ∈ before.allocated ∧
      ∀ other, s.Rests before other := by
    rcases called with rfl | rfl
    · exact ⟨orderly, member, .refl before⟩
    · obtain ⟨slept, same⟩ : (s.modify tsk fun sk =>
          { sk with waitAccept := (sleepOn (s.sock tsk).waitAccept).1 }).Orderly socks ∧ _ :=
        orderly.modify (fun _ => rfl) (fun _ => rfl) (fun _ => rfl)
      exact ⟨slept, member, same⟩
  rcases rest with rfl | ⟨node, dequeued⟩
  · exact ⟨socks, inOrder, same⟩
  · obtain ⟨moved, next, rests⟩ := inOrder.acceptDequeue there dequeued
    exact ⟨moved, next, fun other => (same other).trans (rests other)⟩

end Stack.Orderly

/-! ### Closing -/

/-- A sock that was closed opens no connection. -/
theorem tcpSockClose_not_opening {s later : Stack} {tsk : SockPtr}
    (done : tcpSockClose s tsk = .ok later) {state : TcpState} (opening : state.opening = true) :
    (later.sock tsk).state ≠ state := by
  rintro rfl
  rw [tcpSockClose_state done, TcpState.opening_afterClose] at opening
  cases opening

/-- Closing a sock that does not listen drops one reference, unless the sock is
closed already. -/
theorem tcpSockClose_refs {s later : Stack} {tsk : SockPtr}
    (notListen : (s.sock tsk).state ≠ .listen) (done : tcpSockClose s tsk = .ok later) :
    later = s ∧ (s.sock tsk).state = .closed ∨ (s.sock tsk).state ≠ .closed ∧
      (later.sock tsk).refCnt = (s.sock tsk).refCnt - 1 ∧
      later.freed = if (s.sock tsk).refCnt ≤ 1 then tsk :: s.freed else s.freed := by
  cases state : (s.sock tsk).state <;> simp only [tcpSockClose, state] at done
  case listen => exact absurd state notListen
  case closed =>
    cases done
    exact .inl ⟨rfl, rfl⟩
  all_goals
    cases done
    right
    simp [freeTcpSock_sock, freeTcpSock_freed, tcpSetState_sock, tcpSendControlPacket_sock]

namespace Stack.Orderly

variable {s later : Stack} {socks : Sequences} {tsk tmp : SockPtr} {cb : TcpCb}

/-- Closing a listener. -/
theorem close_listening (orderly : s.Orderly socks) (member : tsk ∈ s.allocated)
    (listening : (s.sock tsk).state = .listen) (done : tcpSockClose s tsk = .ok later) :
    ∃ moved, later.Orderly moved ∧ (∀ other, other ≠ tsk → s.Rests later other) ∧
      s.Shuts later tsk := by
  have balanced := orderly.balances tsk member
  have touches := tcpSockClose_touches done
  have notOpening := @tcpSockClose_not_opening s later tsk done
  obtain ⟨moved, sound, aside, _, own⟩ :=
    orderly.sound.close_listen listening (balanced.hashed listening)
  obtain ⟨refCnt, released, places⟩ := own later done
  rw [done, Outcome.stack_ok] at sound aside
  have few := balanced.backed.refCnt_le
  have gone : later.Released tsk := released (by omega)
  have own : later.Balanced moved tsk :=
    { backed := ⟨0, 0, by omega, .inl le_rfl, .inl le_rfl⟩
      ready := fun unreleased => absurd gone unreleased
      hashed := fun listens => absurd listens (notOpening rfl)
      pending := .idle (notOpening rfl) (notOpening rfl) }
  have linked : later.Linked tsk ↔ s.Queued tsk := by
    rw [sound.shape.linked_iff, orderly.sound.shape.queued_iff,
      Stack.isHead_congr touches.allocated]
    refine exists_congr fun place => and_congr_right fun isPlace => ?_
    rw [places place isPlace, and_comm]
  obtain ⟨inOrder, rests⟩ := orderly.step_of_member sound member touches.allocated aside own
  exact ⟨moved, inOrder, rests, tcpSockClose_state done, fun _ => ⟨gone, linked⟩,
    fun other => absurd listening other, fun other => absurd listening other⟩

/-- Closing a sock that does not listen. -/
theorem close_quiet (orderly : s.Orderly socks) (member : tsk ∈ s.allocated)
    (notListen : (s.sock tsk).state ≠ .listen) (done : tcpSockClose s tsk = .ok later) :
    later.Orderly socks ∧ (∀ other, other ≠ tsk → s.Rests later other) ∧ s.Shuts later tsk := by
  have balanced := orderly.balances tsk member
  have touches := tcpSockClose_touches done
  have notOpening := @tcpSockClose_not_opening s later tsk done
  obtain ⟨sound, aside⟩ := orderly.sound.close notListen
  have links := (tcpSockClose_quiet notListen).2
  rw [done, Outcome.stack_ok] at sound aside links
  have linked : later.Linked tsk ↔ s.Linked tsk := by
    rw [sound.shape.linked_iff, orderly.sound.shape.linked_iff,
      Stack.isHead_congr touches.allocated]
  rcases tcpSockClose_refs notListen done with ⟨rfl, closed⟩ | ⟨notClosed, refCnt, freed⟩
  · exact ⟨orderly, fun other _ => .refl later other, tcpSockClose_state done,
      fun listens => absurd listens notListen, fun _ => Iff.rfl,
      fun _ => ⟨.inl, fun before => before.resolve_right fun more => more.1 closed⟩⟩
  · have released : later.Released tsk ↔
        s.Released tsk ∨ (s.sock tsk).state ≠ .closed ∧ (s.sock tsk).refCnt ≤ 1 := by
      rw [Stack.Released, Stack.Released, freed]
      by_cases last : (s.sock tsk).refCnt ≤ 1
      · simp [last, notClosed]
      · simp [last]
    have hashed := Stack.hashed_congr links touches.allocated
    have bound : s.InBind tsk → later.InBind tsk := by
      rw [sound.shape.inBind_iff, orderly.sound.shape.inBind_iff]
      exact id
    have own : later.Balanced socks tsk :=
      { backed := balanced.backed.mono (by omega) (by rw [hashed]; exact id) bound
        ready := fun unreleased => (balanced.ready fun before =>
          unreleased (released.mpr (.inl before))).transfer (fun _ => id) fun _ => by rw [links]
        hashed := fun listens => absurd listens (notOpening rfl)
        pending := .idle (notOpening rfl) (notOpening rfl) }
    obtain ⟨inOrder, rests⟩ := orderly.step_of_member sound member touches.allocated aside own
    exact ⟨inOrder, rests, tcpSockClose_state done, fun listens => absurd listens notListen,
      fun _ => linked, fun _ => released⟩

/-- Closing a sock. -/
theorem close (orderly : s.Orderly socks) (member : tsk ∈ s.allocated)
    (done : tcpSockClose s tsk = .ok later) :
    ∃ moved, later.Orderly moved ∧ (∀ other, other ≠ tsk → s.Rests later other) ∧
      s.Shuts later tsk := by
  by_cases listening : (s.sock tsk).state = .listen
  · exact orderly.close_listening member listening done
  · exact ⟨socks, orderly.close_quiet member listening done⟩

/-! ### Packets -/

/-- The end of a handshake. -/
theorem establish (orderly : s.Orderly socks) (hashed : s.Hashed tsk) (member : tsk ∈ s.allocated)
    (state : (s.sock tsk).state = .synRecv) {queued : Stack}
    (enqueued : tcpSockAcceptEnqueue s tsk = .ok queued) :
    ∃ moved, (tcpProcessSynRecv queued tsk).Orderly moved ∧
      (∀ other, other ≠ tsk → s.Rests (tcpProcessSynRecv queued tsk) other) ∧
      s.Opens (tcpProcessSynRecv queued tsk) tsk := by
  have balanced := orderly.balances tsk member
  obtain ⟨_, moved, done, sound, aside, ready, tables⟩ := orderly.sound.establish member state
  rw [done] at enqueued
  cases enqueued
  obtain ⟨links, same⟩ := tcpSockAcceptEnqueue_ok done
  have allocated : (tcpProcessSynRecv queued tsk).allocated = s.allocated := by rw [same]; rfl
  have released : (tcpProcessSynRecv queued tsk).Released tsk ↔ s.Released tsk := by
    rw [same]
    exact Iff.rfl
  have established : ((tcpProcessSynRecv queued tsk).sock tsk).state = .established := by
    rw [tcpProcessSynRecv_field TcpSock.state (fun _ _ => rfl), tcpSetState_sock, if_pos rfl]
  have still : (tcpProcessSynRecv queued tsk).Hashed tsk := by
    obtain ⟨head, isHead, slot, inside⟩ := orderly.sound.shape.hashed_iff.mp hashed
    rw [← Stack.isHead_congr allocated] at isHead
    refine sound.shape.hashed_iff.mpr ⟨head, isHead, slot, ?_⟩
    rwa [tables head (slot ▸ Node.hashList_ne_list)]
  have bound : s.InBind tsk → (tcpProcessSynRecv queued tsk).InBind tsk := by
    rw [sound.shape.inBind_iff, orderly.sound.shape.inBind_iff]
    rintro ⟨bucket, inside⟩
    exact ⟨bucket, by rwa [tables (.bindTable bucket) Node.bindHashList_ne_list]⟩
  have refCnt : ((tcpProcessSynRecv queued tsk).sock tsk).refCnt = (s.sock tsk).refCnt := by
    rw [tcpProcessSynRecv_field TcpSock.refCnt (fun _ _ => rfl), tcpSetState_sock, if_pos rfl]
    exact tcpSockAcceptEnqueue_field TcpSock.refCnt done (fun _ _ => rfl) tsk
  have own : (tcpProcessSynRecv queued tsk).Balanced moved tsk :=
    { backed := balanced.backed.mono refCnt.le (fun _ => still) bound
      ready := fun unreleased =>
        ready (balanced.ready fun before => unreleased (released.mpr before))
      hashed := by
        rw [established]
        rintro ⟨⟩
      pending := .idle (by rw [established]; decide) (by rw [established]; decide) }
  obtain ⟨inOrder, rests⟩ := orderly.step_of_member sound member allocated aside own
  refine ⟨moved, inOrder, rests, fun now => ⟨released.mp now, hashed.imp_right .inl⟩,
    fun _ closed => ?_⟩
  rw [established] at closed
  cases closed

/-- The first half of a handshake. -/
theorem passiveOpen (orderly : s.Orderly socks) (member : tsk ∈ s.allocated) (notNull : tmp ≠ 0)
    (absent : tmp ∉ s.allocated) (done : tcpProcessSyn s tsk cb tmp = .ok later) :
    ∃ moved, later.Orderly moved ∧ (∀ other, other ≠ tmp → s.Rests later other) ∧
      s.Opens later tmp := by
  obtain ⟨moved, sound, aside, _, own⟩ := orderly.sound.passiveOpen member notNull absent cb
  obtain ⟨allocated, freed, ready, state, ⟨parent, isParent, queued⟩, refCnt⟩ := own later done
  rw [done, Outcome.stack_ok] at sound aside
  have own : later.Balanced moved tmp :=
    { backed := by
        rcases refCnt with none | ⟨one, hashed⟩
        · exact ⟨0, 0, by omega, .inl le_rfl, .inl le_rfl⟩
        · exact ⟨1, 0, by omega, .inr ⟨le_rfl, hashed⟩, .inl le_rfl⟩
      ready := fun _ => ready
      hashed := by
        rw [state]
        rintro ⟨⟩
      pending :=
        { sent := by
            rw [state]
            rintro ⟨⟩
          received := fun _ => ⟨parent, by simp [allocated, isParent], queued⟩ } }
  have only : ∀ other ∈ later.allocated, other ≠ tmp → other ∈ s.allocated := by
    intro other inside different
    rw [allocated] at inside
    exact (List.mem_cons.mp inside).resolve_left different
  obtain ⟨inOrder, rests⟩ := orderly.step sound (by simp [allocated]) (by simp [allocated]) only
    aside own
  refine ⟨moved, inOrder, rests, fun released => ?_, fun present => absurd present absent⟩
  rw [Stack.Released, freed] at released
  exact absurd (orderly.freed tmp released) absent

/-- A sock in `TCP_SYN_SENT` that gets any segment. -/
theorem synSent (orderly : s.Orderly socks) (hashed : s.Hashed tsk) (member : tsk ∈ s.allocated) :
    (tcpProcessSynSent s tsk).Orderly socks ∧
      (∀ other, other ≠ tsk → s.Rests (tcpProcessSynSent s tsk) other) ∧
      s.Opens (tcpProcessSynSent s tsk) tsk := by
  obtain ⟨established, first⟩ := orderly.setState member
    (show TcpState.established.passive = false from rfl) (by rintro ⟨⟩)
  obtain ⟨sent, second⟩ := established.sendControl tsk tcpAck
  obtain ⟨woken, third⟩ : (tcpProcessSynSent s tsk).Orderly socks ∧ _ :=
    sent.modify (fun _ => rfl) (fun _ => rfl) (fun _ => rfl)
  refine ⟨woken, fun other different =>
    (first other different).trans ((second other).trans (third other)), fun released => ?_,
    fun _ closed => ?_⟩
  · have before := (second tsk).released.mp ((third tsk).released.mp released)
    exact ⟨before, hashed.imp_right .inl⟩
  · have state := (third tsk).state.trans (second tsk).state
    rw [tcpSetState_sock, if_pos rfl] at state
    rw [tcpProcessSynSent, state] at closed
    cases closed

/-- Closing a sock right after sending from it. -/
theorem shuts_sendControl (orderly : s.Orderly socks) {flags : U8}
    (shuts : (tcpSendControlPacket s tsk flags).Shuts later tsk) : s.Shuts later tsk := by
  obtain ⟨sent, aside⟩ := orderly.sound.sendControl tsk flags
  have heads : (tcpSendControlPacket s tsk flags).IsHead = s.IsHead := Stack.isHead_congr (by simp)
  have queued : (tcpSendControlPacket s tsk flags).Queued tsk ↔ s.Queued tsk := by
    rw [sent.shape.queued_iff, orderly.sound.shape.queued_iff, heads]
  have linked : (tcpSendControlPacket s tsk flags).Linked tsk ↔ s.Linked tsk := by
    rw [sent.shape.linked_iff, orderly.sound.shape.linked_iff, heads]
  obtain ⟨state, listening, stays, released⟩ := shuts
  rw [(aside tsk).state] at state listening stays released
  rw [queued] at listening
  rw [linked] at stays
  rw [(aside tsk).released, (aside tsk).refCnt] at released
  exact ⟨state, listening, stays, released⟩

/-- A segment handed to a sock. -/
theorem process (orderly : s.Orderly socks) (hashed : s.Hashed tsk) (notNull : tmp ≠ 0)
    (absent : tmp ∉ s.allocated) (done : tcpProcess s tsk cb tmp = .ok later) :
    ∃ moved, later.Orderly moved ∧
      s.Turns later fun other => other = tsk ∧ cb.Closes (s.sock tsk) := by
  have member := orderly.sound.shape.allocated_of_hashed hashed
  have spared : cb.flags ≠ tcpRst → cb.flags ≠ tcpFin →
      ∀ other, ¬ (other = tsk ∧ cb.Closes (s.sock tsk)) :=
    fun notRst notFin _ closes => closes.2.2.elim notRst notFin
  have closed : cb.Closes (s.sock tsk) →
      ∀ other, other = tsk ∧ cb.Closes (s.sock tsk) ↔ other = tsk :=
    fun closes _ => and_iff_left closes
  cases (tcpProcess_step done).2 with
  | dropped dropped =>
      refine ⟨socks, orderly, .rests (fun _ closes => ?_) (.refl s)⟩
      have accepted := closes.2.1
      rw [dropped] at accepted
      cases accepted
  | ignored _ notRst notFin =>
      exact ⟨socks, orderly, .rests (spared notRst notFin) (.refl s)⟩
  | rst accepted flags closing =>
      obtain ⟨sent, same⟩ := orderly.sendControl tsk tcpAck
      obtain ⟨moved, inOrder, rests, shuts⟩ := sent.close (by simpa using member) closing
      exact ⟨moved, inOrder, .shuts (closed ⟨accepted, .inl flags⟩)
        (fun other different => (same other).trans (rests other different))
        (orderly.shuts_sendControl shuts)⟩
  | fin accepted flags closing =>
      obtain ⟨moved, inOrder, rests, shuts⟩ := orderly.close member closing
      exact ⟨moved, inOrder, .shuts (closed ⟨accepted, .inr flags⟩) rests shuts⟩
  | answered _ notRst notFin =>
      have sound : (tcpSendReset s cb).Sound socks :=
        orderly.sound.congr rfl rfl (fun _ => rfl) (fun _ _ => rfl)
      have aside : ∀ other, s.Aside socks (tcpSendReset s cb) socks other :=
        fun other => (Stack.Aside.refl s socks other).congr rfl rfl rfl rfl rfl
      obtain ⟨inOrder, rests⟩ := orderly.unmoved sound rfl aside
      exact ⟨socks, inOrder, .rests (spared notRst notFin) rests⟩
  | syn _ _ isSyn opened =>
      obtain ⟨moved, inOrder, rests, opens⟩ := orderly.passiveOpen member notNull absent opened
      exact ⟨moved, inOrder, .opens (spared (by rw [isSyn]; decide) (by rw [isSyn]; decide)) rests
        opens⟩
  | ack _ state isAck enqueued =>
      obtain ⟨moved, inOrder, rests, opens⟩ := orderly.establish hashed member state enqueued
      exact ⟨moved, inOrder, .opens (spared (by rw [isAck]; decide) (by rw [isAck]; decide)) rests
        opens⟩
  | synSent _ notRst notFin =>
      obtain ⟨inOrder, rests, opens⟩ := orderly.synSent hashed member
      exact ⟨socks, inOrder, .opens (spared notRst notFin) rests opens⟩

/-- A packet that arrives. -/
theorem arrive (orderly : s.Orderly socks) {packet : Memory U8} {ip tcp : ℕ} (notNull : tmp ≠ 0)
    (absent : tmp ∉ s.allocated) (done : handleTcpPacket s packet ip tcp tmp = .ok later) :
    ∃ moved, later.Orderly moved ∧
      s.Turns later fun tsk => (Event.arrive packet ip tcp tmp).Closes s tsk := by
  cases matching : checksumMatches packet ip tcp with
  | false =>
      simp only [handleTcpPacket, matching, Bool.not_false, if_true] at done
      cases done
      refine ⟨socks, orderly, .rests (fun _ closes => ?_) (.refl s)⟩
      rw [Event.Closes, matching] at closes
      cases closes.1
  | true =>
      obtain ⟨tsk, found, routed⟩ := orderly.sound.shape.lookup (tcpCbInit packet ip tcp)
      rw [handleTcpPacket_routed matching found] at done
      obtain ⟨moved, inOrder, turns⟩ :=
        orderly.process (routed.resolve_left (tcpProcess_step done).1) notNull absent done
      have same : ∀ other, (Event.arrive packet ip tcp tmp).Closes s other ↔
          other = tsk ∧ (tcpCbInit packet ip tcp).Closes (s.sock tsk) := by
        intro other
        rw [Event.Closes, found, and_iff_right matching]
        constructor
        · rintro ⟨⟨⟩, closes⟩
          exact ⟨rfl, closes⟩
        · rintro ⟨rfl, closes⟩
          exact ⟨rfl, closes⟩
      refine ⟨moved, inOrder, fun other => ?_⟩
      simp only [same]
      exact turns other

end Stack.Orderly

/-! ## Orderly runs -/

theorem initTcpStack_orderly : initTcpStack.Orderly fun _ => [] where
  sound :=
    { shape := initTcpStack_shape
      parents := by simp [initTcpStack]
      children := by simp [initTcpStack]
      listening := by simp [initTcpStack] }
  balances := by simp [initTcpStack]
  freed := by simp [initTcpStack, Stack.Released]

/-- **An orderly event keeps the lists and the references in order.** It closes
the socks it says, and every other sock rests or is opened. -/
theorem Event.turns {s later : Stack} {socks : Sequences} {event : Event}
    (orderly : s.Orderly socks) (possible : event.Possible s) (allowed : event.Orderly s)
    (done : event.run s = .ok later) :
    ∃ moved, later.Orderly moved ∧ s.Turns later fun tsk => event.Closes s tsk := by
  cases event with
  | alloc tsk =>
      cases done
      obtain ⟨inOrder, rests, opens⟩ := orderly.alloc possible.1 possible.2
      exact ⟨_, inOrder, .opens (fun _ => id) rests opens⟩
  | bind tsk skaddr =>
      obtain ⟨⟨result, final⟩, called, done⟩ := Outcome.bind_eq_ok.mp done
      cases done
      exact orderly.bind possible allowed.1 allowed.2 called
  | listen tsk backlog =>
      obtain ⟨⟨result, final⟩, called, done⟩ := Outcome.bind_eq_ok.mp done
      cases done
      exact orderly.listen possible allowed.1 allowed.2 called
  | connect tsk skaddr cursorIp =>
      obtain ⟨⟨result, final⟩, called, done⟩ := Outcome.bind_eq_ok.mp done
      cases done
      exact orderly.connect possible allowed.1 allowed.2.1 allowed.2.2 called
  | connectWoken tsk =>
      cases done
      obtain ⟨woken, rests⟩ : (s.modify tsk fun sk =>
          { sk with waitConnect := sleepOnWoken sk.waitConnect }).Orderly socks ∧ _ :=
        orderly.modify (fun _ => rfl) (fun _ => rfl) (fun _ => rfl)
      exact ⟨socks, woken, .rests (fun _ => id) rests⟩
  | accept tsk =>
      obtain ⟨⟨result, final⟩, called, done⟩ := Outcome.bind_eq_ok.mp done
      cases done
      obtain ⟨moved, inOrder, rests⟩ := orderly.accept possible called
      exact ⟨moved, inOrder, .rests (fun _ => id) rests⟩
  | acceptWoken tsk =>
      obtain ⟨⟨result, final⟩, called, done⟩ := Outcome.bind_eq_ok.mp done
      cases done
      obtain ⟨woken, same⟩ : (s.modify tsk fun sk =>
          { sk with waitAccept := sleepOnWoken sk.waitAccept }).Orderly socks ∧ _ :=
        orderly.modify (fun _ => rfl) (fun _ => rfl) (fun _ => rfl)
      obtain ⟨moved, inOrder, rests⟩ := woken.acceptDequeue possible called
      exact ⟨moved, inOrder, .rests (fun _ => id) fun other => (same other).trans (rests other)⟩
  | close tsk =>
      obtain ⟨moved, inOrder, rests, shuts⟩ := orderly.close possible done
      exact ⟨moved, inOrder, .shuts (fun other => eq_comm) rests shuts⟩
  | arrive packet ip tcp tmp => exact orderly.arrive possible.1 possible.2 done

theorem Run.orderly {allowed : Stack → Event → Prop} {s later : Stack} {socks : Sequences}
    (orderly : s.Orderly socks) (inOrder : ∀ s event, allowed s event → event.Orderly s)
    (run : Run allowed s later) : ∃ moved, later.Orderly moved := by
  induction run with
  | refl => exact ⟨socks, orderly⟩
  | tail _ step ih =>
      obtain ⟨between, still⟩ := ih
      obtain ⟨event, possible, isAllowed, done⟩ := step
      obtain ⟨moved, next, _⟩ := event.turns still possible (inOrder _ event isAllowed) done
      exact ⟨moved, next⟩

end TcpStack
