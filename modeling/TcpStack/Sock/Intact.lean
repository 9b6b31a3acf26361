import TcpStack.Sock.Effects

/-!
# Memory that was given back

`free_tcp_sock` gives the memory of a sock back, and a program that uses it after that has
no meaning in C: the allocator writes over the beginning of the sock, and stops the
program when the sock is given back again (`Outcome.checked`).

A stack is intact while no list leads to a released sock and none was released twice
(`Stack.Intact`). An orderly event is sparing if the stack is intact and the event is no
call on a released sock (`Event.Sparing`), so that it comes to no released sock. What such
an event releases, it releases once, unless it closes a listener (`Event.Sparing.exec_eq_ok`).
It leaves the stack intact under the condition of a careful run
(`Event.Sparing.intact_iff`).
-/

set_option autoImplicit false

namespace TcpStack

open Lib

/-! ## Sparing events -/

/-- No list leads to a released sock, and no sock was released twice. -/
structure Stack.Intact (s : Stack) : Prop where
  unlinked : ∀ tsk, s.Released tsk → ¬ s.Linked tsk
  once : s.freed.Nodup

/-- The sock that a call is made on. -/
def Event.subject : Event → Option SockPtr
  | .alloc _ | .arrive _ _ _ _ => none
  | .bind tsk _ | .listen tsk _ | .connect tsk _ _ | .connectWoken tsk | .accept tsk
  | .acceptWoken tsk | .close tsk => some tsk

/-- The event is orderly and comes to no released sock: no list leads to one, and the event is no
call on one. -/
structure Event.Sparing (s : Stack) (event : Event) : Prop where
  orderly : event.Orderly s
  intact : s.Intact
  unreleased : ∀ tsk, event.subject = some tsk → ¬ s.Released tsk

/-- A call with the check of `free`, which stops the program when a sock is released that was
released before. -/
def Outcome.checked (result : Outcome Stack) : Outcome Stack :=
  result >>= fun later => if later.freed.Nodup then .ok later else .error ⟨.badPointer, later⟩

/-- An event with the check of `free`. -/
def Event.exec (s : Stack) (event : Event) : Outcome Stack := (event.run s).checked

section Checked

variable {s later : Stack} {result : Outcome Stack} {event : Event}

theorem Outcome.checked_eq_ok :
    result.checked = .ok later ↔ result = .ok later ∧ later.freed.Nodup := by
  refine Outcome.bind_eq_ok.trans ⟨?_, ?_⟩
  · rintro ⟨value, returned, kept⟩
    split at kept
    · cases kept
      exact ⟨returned, by assumption⟩
    · cases kept
  · rintro ⟨returned, once⟩
    exact ⟨later, returned, if_pos once⟩

theorem Event.exec_eq_ok :
    event.exec s = .ok later ↔ event.run s = .ok later ∧ later.freed.Nodup :=
  Outcome.checked_eq_ok

theorem Stack.Intact.not_released (intact : s.Intact) {tsk : SockPtr} (linked : s.Linked tsk) :
    ¬ s.Released tsk := fun released => intact.unlinked tsk released linked

/-- Where nothing was released, everything is intact. -/
theorem Stack.Intact.of_freed (none : s.freed = []) : s.Intact where
  unlinked := fun tsk released => by
    rw [Stack.Released, none] at released
    cases released
  once := none ▸ List.nodup_nil

/-- What is linked and what was released say whether the stack is intact. -/
theorem Stack.Intact.congr (links : later.links = s.links)
    (allocated : later.allocated = s.allocated) (freed : later.freed = s.freed)
    (intact : s.Intact) : later.Intact where
  unlinked := by
    simp only [Stack.Released, freed, Stack.Linked, Stack.InEstablished, Stack.InListen,
      Stack.InBind, Stack.Queued, Stack.entries_congr links allocated, allocated]
    exact intact.unlinked
  once := freed ▸ intact.once

theorem initTcpStack_intact : initTcpStack.Intact := .of_freed rfl

end Checked

/-! ## What an event releases -/

section Freed

variable {s later : Stack} {socks : Sequences} {tsk : SockPtr} {event : Event}

theorem allocTcpSock_freed (s : Stack) (tsk : SockPtr) : (allocTcpSock s tsk).freed = s.freed := rfl

/-- The last reference is dropped, and one more. -/
theorem freeTcpSock_twice (s : Stack) (last : (s.sock tsk).refCnt ≤ 1) :
    (freeTcpSock (tcpSetState (freeTcpSock s tsk) tsk .closed) tsk).freed =
      tsk :: tsk :: s.freed := by
  have dropped : ((tcpSetState (freeTcpSock s tsk) tsk .closed).sock tsk).refCnt ≤ 1 := by
    simp only [tcpSetState_sock, freeTcpSock_sock, if_pos]
    omega
  rw [freeTcpSock_freed, if_pos dropped, tcpSetState_freed, freeTcpSock_freed, if_pos last]

/-- The close of a listener that returns has released it twice. -/
theorem Stack.Orderly.close_listener_freed (orderly : s.Orderly socks) (member : tsk ∈ s.allocated)
    (listening : (s.sock tsk).state = .listen) (done : tcpSockClose s tsk = .ok later) :
    ¬ later.freed.Nodup := by
  have balanced := orderly.balances tsk member
  have few := balanced.backed.refCnt_le
  obtain ⟨head, isHead, slot, inside⟩ :=
    orderly.sound.shape.hashed_iff.mp (balanced.hashed listening)
  obtain ⟨links, unlinked, unhashed, _⟩ := orderly.sound.unhash isHead slot inside
  obtain ⟨bucket, inBind⟩ := orderly.sound.shape.inBind_iff.mp
    ((orderly.close_listener member listening).1.mp ⟨later, done⟩)
  have still : tsk ∈ Function.update socks head ((socks head).erase tsk) (.bindTable bucket) := by
    rwa [Sequences.update_of_slot_ne (slot ▸ Node.bindHashList_ne_hashList)]
  obtain ⟨final, last, unlinkedBind, closed, _⟩ := unhashed.unbind still
  have closes : tcpSockClose s tsk = .ok last := by
    simp only [tcpSockClose, listening]
    exact Outcome.bind_eq_ok.mpr ⟨_, unlinked, Outcome.bind_eq_ok.mpr ⟨_, unlinkedBind,
      congrArg _ closed.symm⟩⟩
  have dropped : ((freeTcpSock { s with links := links } tsk).sock tsk).refCnt ≤ 1 := by
    rw [freeTcpSock_sock, if_pos rfl]
    exact sub_le_iff_le_add.mpr few
  rw [done] at closes
  cases closes
  rw [closed, freeTcpSock_twice { freeTcpSock { s with links := links } tsk with links := final }
    dropped]
  exact fun once => (List.nodup_cons.mp once).1 List.mem_cons_self

/-- Any other close releases the sock, or nothing. -/
theorem tcpSockClose_freed (notListen : (s.sock tsk).state ≠ .listen)
    (done : tcpSockClose s tsk = .ok later) :
    later.freed = s.freed ∨ later.freed = tsk :: s.freed := by
  rcases tcpSockClose_refs notListen done with ⟨rfl, _⟩ | ⟨_, _, freed⟩
  · exact .inl rfl
  · by_cases last : (s.sock tsk).refCnt ≤ 1
    · exact .inr (by rw [freed, if_pos last])
    · exact .inl (by rw [freed, if_neg last])

theorem tcpBindHash_freed (done : tcpBindHash s tsk = .ok later) : later.freed = s.freed := by
  obtain ⟨links, rfl⟩ := tcpBindHash_ok done
  rfl

theorem tcpSockBind_freed {skaddr : SockAddr} {result : ℤ}
    (done : tcpSockBind s tsk skaddr = .ok (result, later)) : later.freed = s.freed := by
  rcases tcpSockSetSport_ok done with rfl | ⟨_, bound⟩
  · rfl
  · rw [tcpBindHash_freed bound, Stack.modify_freed]

theorem tcpSockListen_freed {backlog result : ℤ}
    (done : tcpSockListen s tsk backlog = .ok (result, later)) : later.freed = s.freed := by
  rw [tcpHash_freed done, tcpSetState_freed, Stack.modify_freed]

theorem tcpSockConnect_freed {skaddr : SockAddr} {cursorIp : U32} {result : Option ℤ}
    (done : tcpSockConnect s tsk skaddr cursorIp = .ok (result, later)) :
    later.freed = s.freed := by
  obtain ⟨port, _, done⟩ := Outcome.bind_eq_ok.mp done
  obtain ⟨bound, binding, done⟩ := Outcome.bind_eq_ok.mp done
  obtain ⟨⟨_, hashed⟩, hashing, done⟩ := Outcome.bind_eq_ok.mp done
  cases done
  rw [Stack.modify_freed, tcpHash_freed hashing, tcpSetState_freed, tcpSendControlPacket_freed,
    tcpBindHash_freed binding, Stack.modify_freed, Stack.modify_freed]

theorem tcpSockAccept_freed {popped : Option Node}
    (done : tcpSockAccept s tsk = .ok (popped, later)) : later.freed = s.freed := by
  obtain ⟨before, same, after⟩ := tcpSockAccept_ok done
  have asleep : before.freed = s.freed := by
    rcases same with rfl | rfl <;> rfl
  rcases after with rfl | ⟨_, dequeued⟩
  · exact asleep
  · obtain ⟨links, rfl⟩ := tcpSockAcceptDequeue_ok dequeued
    exact asleep

/-- A segment that ends a listener releases it twice. -/
theorem Stack.Orderly.process_listener_freed (orderly : s.Orderly socks)
    (member : tsk ∈ s.allocated) {cb : TcpCb} {tmp : SockPtr} (closes : cb.Closes (s.sock tsk))
    (listening : (s.sock tsk).state = .listen) (done : tcpProcess s tsk cb tmp = .ok later) :
    ¬ later.freed.Nodup := by
  have notNull := orderly.sound.shape.ne_null member
  obtain ⟨accepted, isRst | isFin⟩ := closes
  · rw [tcpProcess_rst notNull accepted isRst] at done
    obtain ⟨sent, _⟩ := orderly.sendControl tsk tcpAck
    exact sent.close_listener_freed (by simpa using member)
      (by rwa [tcpSendControlPacket_state]) done
  · rw [tcpProcess_fin notNull accepted isFin] at done
    exact orderly.close_listener_freed member listening done

/-- Any other segment releases the sock it closes, or nothing. -/
theorem Stack.Orderly.process_freed (orderly : s.Orderly socks) (childless : s.Childless)
    (member : tsk ∈ s.allocated) {cb : TcpCb} {tmp : SockPtr} (absent : tmp ∉ s.allocated)
    (kept : cb.Closes (s.sock tsk) → (s.sock tsk).state ≠ .listen)
    (done : tcpProcess s tsk cb tmp = .ok later) :
    later.freed = s.freed ∨ cb.Closes (s.sock tsk) ∧ later.freed = tsk :: s.freed := by
  cases (tcpProcess_step done).2 with
  | dropped | ignored | answered => exact .inl rfl
  | rst accepted isRst closing =>
      have closes : cb.Closes (s.sock tsk) := ⟨accepted, .inl isRst⟩
      have released := tcpSockClose_freed
        (tcpSendControlPacket_state s tsk tcpAck tsk ▸ kept closes) closing
      rw [tcpSendControlPacket_freed] at released
      exact released.imp_right (And.intro closes)
  | fin accepted isFin closing =>
      have closes : cb.Closes (s.sock tsk) := ⟨accepted, .inr isFin⟩
      exact (tcpSockClose_freed (kept closes) closing).imp_right (And.intro closes)
  | syn _ _ _ opened =>
      have stops := tcpProcessSyn_orphan cb (ne_of_mem_of_not_mem member absent)
        (childless tsk member)
      rw [stops] at opened
      cases opened
  | ack _ state => exact absurd (childless tsk member) (orderly.sound.children tsk member state)
  | synSent => exact .inl (by simp [tcpProcessSynSent])

/-- The event closes a listener. -/
def Event.EndsListener (s : Stack) (event : Event) : Prop :=
  ∃ tsk, event.Closes s tsk ∧ (s.sock tsk).state = .listen

/-- A packet that is checked and returns was handed to a hashed sock. -/
theorem Stack.Orderly.arrive_handed (orderly : s.Orderly socks) {packet : Memory U8} {ip tcp : ℕ}
    {tmp : SockPtr} (matching : checksumMatches packet ip tcp = true)
    (done : handleTcpPacket s packet ip tcp tmp = .ok later) :
    ∃ tsk, tcpSockLookup s (tcpCbInit packet ip tcp) = .ok tsk ∧ tsk ∈ s.allocated ∧
      tcpProcess s tsk (tcpCbInit packet ip tcp) tmp = .ok later := by
  obtain ⟨tsk, found, routed⟩ := orderly.sound.shape.lookup (tcpCbInit packet ip tcp)
  have handed : tcpProcess s tsk (tcpCbInit packet ip tcp) tmp = .ok later :=
    (handleTcpPacket_routed matching found tmp).symm.trans done
  have hashed := routed.resolve_left (tcpProcess_step handed).1
  exact ⟨tsk, found, orderly.sound.shape.allocated_of_hashed hashed, handed⟩

/-- **The end of a listener** releases it twice. -/
theorem Event.EndsListener.freed (ends : event.EndsListener s) (orderly : s.Orderly socks)
    (possible : event.Possible s) (done : event.run s = .ok later) : ¬ later.freed.Nodup := by
  obtain ⟨tsk, closes, listening⟩ := ends
  cases event with
  | close other =>
      cases closes
      exact orderly.close_listener_freed possible listening done
  | arrive packet ip tcp tmp =>
      obtain ⟨handed, found, member, processed⟩ := orderly.arrive_handed closes.1 done
      rw [closes.2.1] at found
      cases found
      exact orderly.process_listener_freed member closes.2.2 listening processed
  | alloc | bind | listen | connect | connectWoken | accept | acceptWoken => exact closes.elim

/-- **Any other orderly event** releases a sock that it closes, or nothing. -/
theorem Event.freed_cases (orderly : s.Orderly socks) (childless : s.Childless)
    (possible : event.Possible s) (kept : ¬ event.EndsListener s)
    (done : event.run s = .ok later) :
    later.freed = s.freed ∨ ∃ tsk, event.Closes s tsk ∧ later.freed = tsk :: s.freed := by
  cases event with
  | alloc | connectWoken =>
      cases done
      exact .inl rfl
  | bind tsk skaddr =>
      obtain ⟨⟨_, final⟩, called, done⟩ := Outcome.bind_eq_ok.mp done
      cases done
      exact .inl (tcpSockBind_freed called)
  | listen tsk backlog =>
      obtain ⟨⟨_, final⟩, called, done⟩ := Outcome.bind_eq_ok.mp done
      cases done
      exact .inl (tcpSockListen_freed called)
  | connect tsk skaddr cursorIp =>
      obtain ⟨⟨_, final⟩, called, done⟩ := Outcome.bind_eq_ok.mp done
      cases done
      exact .inl (tcpSockConnect_freed called)
  | accept tsk =>
      obtain ⟨⟨_, final⟩, called, done⟩ := Outcome.bind_eq_ok.mp done
      cases done
      exact .inl (tcpSockAccept_freed called)
  | acceptWoken tsk =>
      obtain ⟨⟨_, final⟩, called, done⟩ := Outcome.bind_eq_ok.mp done
      cases done
      obtain ⟨links, same⟩ := tcpSockAcceptDequeue_ok called
      exact .inl (by rw [same]; rfl)
  | close tsk =>
      have notListen : (s.sock tsk).state ≠ .listen := fun state => kept ⟨tsk, rfl, state⟩
      exact (tcpSockClose_freed notListen done).imp_right fun freed => ⟨tsk, rfl, freed⟩
  | arrive packet ip tcp tmp =>
      cases matching : checksumMatches packet ip tcp with
      | false =>
          have same : handleTcpPacket s packet ip tcp tmp = .ok later := done
          rw [handleTcpPacket_mismatch matching] at same
          cases same
          exact .inl rfl
      | true =>
          obtain ⟨tsk, found, member, processed⟩ := orderly.arrive_handed matching done
          have released := orderly.process_freed childless member possible.2
            (fun closes state => kept ⟨tsk, ⟨matching, found, closes⟩, state⟩) processed
          exact released.imp_right fun both => ⟨tsk, ⟨matching, found, both.1⟩, both.2⟩

/-- An event that closes nothing releases nothing. -/
theorem Event.freed_of_calm (orderly : s.Orderly socks) (childless : s.Childless)
    (possible : event.Possible s) (calm : ∀ tsk, ¬ event.Closes s tsk)
    (done : event.run s = .ok later) : later.freed = s.freed := by
  have kept : ¬ event.EndsListener s := fun ⟨tsk, closes, _⟩ => calm tsk closes
  rcases Event.freed_cases orderly childless possible kept done with same | ⟨tsk, closes, _⟩
  · exact same
  · exact absurd closes (calm tsk)

/-- What was released twice stays so. -/
theorem Event.freed_twice (orderly : s.Orderly socks) (childless : s.Childless)
    (possible : event.Possible s) (done : event.run s = .ok later) (twice : ¬ s.freed.Nodup) :
    ¬ later.freed.Nodup := by
  by_cases ends : event.EndsListener s
  · exact ends.freed orderly possible done
  · rcases Event.freed_cases orderly childless possible ends done with same | ⟨tsk, _, more⟩
    · rwa [same]
    · rw [more]
      exact fun once => twice (List.nodup_cons.mp once).2

/-- The only way in which a listener comes to be closed. -/
theorem Event.endsListener_of_closed (orderly : s.Orderly socks) (possible : event.Possible s)
    (allowed : event.Orderly s) (done : event.run s = .ok later) (member : tsk ∈ s.allocated)
    (listening : (s.sock tsk).state = .listen) (closed : (later.sock tsk).state = .closed) :
    event.EndsListener s := by
  obtain ⟨_, _, turns⟩ := event.turns orderly possible allowed done
  refine ⟨tsk, ?_, listening⟩
  by_contra spared
  rcases (turns tsk).2 spared with rests | opens
  · rw [rests.state, listening] at closed
    cases closed
  · have already := (opens.state member closed).1
    rw [listening] at already
    cases already

end Freed

/-! ## What a sparing event leaves -/

namespace Event.Sparing

variable {s later : Stack} {socks : Sequences} {event : Event} {tsk : SockPtr}

/-- A sock that is closed was not released. -/
theorem not_released (sparing : event.Sparing s) (orderly : s.Orderly socks)
    (closes : event.Closes s tsk) : ¬ s.Released tsk := by
  cases event with
  | close other =>
      cases closes
      exact sparing.unreleased tsk rfl
  | arrive packet ip tcp tmp =>
      obtain ⟨handed, found, routed⟩ := orderly.sound.shape.lookup (tcpCbInit packet ip tcp)
      rw [closes.2.1] at found
      cases found
      rcases routed with rfl | hashed
      · exact fun released => orderly.sound.shape.ne_null (orderly.freed 0 released) rfl
      · exact sparing.intact.not_released (hashed.imp_right .inl)
  | alloc | bind | listen | connect | connectWoken | accept | acceptWoken => exact closes.elim

/-- **What a sparing event releases, it releases once**, unless it is the end of a listener. -/
theorem exec_eq_ok (sparing : event.Sparing s) (orderly : s.Orderly socks)
    (childless : s.Childless) (possible : event.Possible s) :
    event.exec s = .ok later ↔ event.run s = .ok later ∧ ¬ event.EndsListener s := by
  rw [Event.exec_eq_ok]
  refine and_congr_right fun done => ⟨fun once ends => ends.freed orderly possible done once, ?_⟩
  intro kept
  rcases Event.freed_cases orderly childless possible kept done with same | ⟨tsk, closes, more⟩
  · rw [same]
    exact sparing.intact.once
  · rw [more]
    exact List.nodup_cons.mpr ⟨sparing.not_released orderly closes, sparing.intact.once⟩

/-- **A sparing event leaves the stack intact** exactly if it closes only socks that can be
closed. -/
theorem intact_iff (sparing : event.Sparing s) (orderly : s.Orderly socks)
    (possible : event.Possible s) (done : event.exec s = .ok later) :
    later.Intact ↔ ∀ tsk, event.Closes s tsk → s.Closable tsk := by
  obtain ⟨returned, once⟩ := Event.exec_eq_ok.mp done
  obtain ⟨moved, _, turns⟩ := event.turns orderly possible sparing.orderly returned
  constructor
  · intro intact tsk closes
    have shuts := (turns tsk).1 closes
    have notListen : (s.sock tsk).state ≠ .listen := fun listening =>
      Event.EndsListener.freed ⟨tsk, closes, listening⟩ orderly possible returned once
    by_cases closed : (s.sock tsk).state = .closed
    · exact .inl closed
    · refine .inr (.inr ⟨notListen, or_iff_not_imp_left.mpr fun last linked => ?_⟩)
      have released := (shuts.released notListen).mpr (.inr ⟨closed, by omega⟩)
      exact intact.unlinked tsk released ((shuts.linked notListen).mpr linked)
  · refine fun closable => ⟨fun tsk released linked => ?_, once⟩
    by_cases closes : event.Closes s tsk
    · exact ((turns tsk).1 closes).not_linked (closable tsk closes)
        (sparing.intact.unlinked tsk) released linked
    · rcases (turns tsk).2 closes with rests | opens
      · exact sparing.intact.unlinked tsk (rests.released.mp released) (rests.linked linked)
      · obtain ⟨before, wasLinked⟩ := opens.released released
        exact sparing.intact.unlinked tsk before wasLinked

/-- An event that closes nothing. -/
theorem intact_of_calm (sparing : event.Sparing s) (orderly : s.Orderly socks)
    (childless : s.Childless) (possible : event.Possible s) (done : event.run s = .ok later)
    (calm : ∀ tsk, ¬ event.Closes s tsk) : later.Intact := by
  have kept : ¬ event.EndsListener s := fun ⟨tsk, closes, _⟩ => calm tsk closes
  have checked := (sparing.exec_eq_ok orderly childless possible).mpr ⟨done, kept⟩
  exact (sparing.intact_iff orderly possible checked).mpr fun tsk closes =>
    absurd closes (calm tsk)

end Event.Sparing

/-! ## Sparing runs -/

/-- A sparing run is an orderly one. -/
theorem Run.orderly_of_sparing {s later : Stack} (run : Run Event.Sparing s later) :
    Run Event.Orderly s later :=
  Relation.ReflTransGen.mono (fun _ _ step => by
    obtain ⟨event, possible, sparing, done⟩ := step
    exact ⟨event, possible, sparing.orderly, done⟩) _ _ run

end TcpStack
