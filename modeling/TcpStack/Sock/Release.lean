import TcpStack.Lib.Logged
import TcpStack.Sock.Listener

/-!
# Closing and releasing

What one call of `tcp_sock_close` does to the memory of the sock, in the order
in which it does it. Every access is an event, and so is every call of
`free_tcp_sock`, with whether it releases the sock. The computation with events is
the close of the stack (`tcpSockCloseLogged_result`).

A close drops one reference at the end, and nothing follows. A listener is taken
out of its tables first, with a reference dropped for each, and is written to and
freed once more after that. So the close of a listener stays clear of released
memory only if it has more references than nodes that are taken out
(`close_release_iff`), and a listener has no more than these
(`close_listener_releases_early`).
-/

set_option autoImplicit false

namespace TcpStack

open Lib

/-! ## Accesses -/

/-- What happens to the memory of the sock that is closed. -/
inductive CloseEvent where
  | touched
  | freed (releases : Bool)
  deriving DecidableEq, Repr

/-- A close, with its events. -/
abbrev Closing := Logged CloseEvent Stack Halt

/-- Read or write the sock. -/
def touching (change : Stack → Stack) : Closing Unit := do
  Logged.event .touched
  let s ← Logged.get
  Logged.set (change s)

/-- `free_tcp_sock`. -/
def freeTcpSockLogged (tsk : SockPtr) : Closing Unit := do
  let s ← Logged.get
  Logged.event (.freed (decide ((s.sock tsk).refCnt ≤ 1)))
  Logged.set (freeTcpSock s tsk)

/-- `tcp_unhash` and `tcp_bind_unhash`, for the node of the sock. -/
def unlinkLogged (tsk : SockPtr) (node : Node) : Closing Unit := do
  -- `list_empty` reads the node
  touching id
  let s ← Logged.get
  if !s.links.listEmpty node then
    touching id
    let s ← Logged.lift (s.relink (s.links.listDeleteEntry Node.valid node))
    Logged.set s
    freeTcpSockLogged tsk

def tcpUnhashLogged (tsk : SockPtr) : Closing Unit := unlinkLogged tsk (.hashList tsk)

def tcpBindUnhashLogged (tsk : SockPtr) : Closing Unit := unlinkLogged tsk (.bindHashList tsk)

/-- The branch of `tcp_sock_close` for a listener, with the release at its end. -/
def closeListenerLogged (tsk : SockPtr) : Closing Unit := do
  tcpUnhashLogged tsk
  tcpBindUnhashLogged tsk
  touching fun s => tcpSetState s tsk .closed
  freeTcpSockLogged tsk

/-- `tcp_sock_close`. -/
def tcpSockCloseLogged (tsk : SockPtr) : Closing Unit := do
  touching id
  let s ← Logged.get
  match (s.sock tsk).state with
  | .closed => pure ()
  | .listen => closeListenerLogged tsk
  | .synRecv | .synSent =>
      touching fun s => tcpSetState s tsk .closed
      freeTcpSockLogged tsk
  | .established =>
      touching fun s => tcpSendControlPacket s tsk tcpFin
      touching fun s => tcpSetState s tsk .finWait1
      freeTcpSockLogged tsk
  | .closeWait =>
      touching fun s => tcpSendControlPacket s tsk tcpAck
      touching fun s => tcpSendControlPacket s tsk tcpFin
      touching fun s => tcpSetState s tsk .lastAck
      freeTcpSockLogged tsk
  | .lastAck | .finWait1 | .finWait2 | .closing | .timeWait => freeTcpSockLogged tsk

/-! ## Without the events -/

section Erase

variable (s : Stack) (tsk : SockPtr)

@[simp] theorem touching_run (change : Stack → Stack) :
    touching change s = ([.touched], .ok ((), change s)) := rfl

@[simp] theorem freeTcpSockLogged_run : freeTcpSockLogged tsk s =
    ([.freed (decide ((s.sock tsk).refCnt ≤ 1))], .ok ((), freeTcpSock s tsk)) := rfl

/-- The run of `tcp_unhash` and of `tcp_bind_unhash`. -/
theorem unlinkLogged_run (node : Node) : unlinkLogged tsk node s =
    if s.links.listEmpty node then ([.touched], .ok ((), s))
    else match s.links.listDeleteEntry Node.valid node with
      | .ok links => ([.touched, .touched, .freed (decide ((s.sock tsk).refCnt ≤ 1))],
          .ok ((), freeTcpSock { s with links := links } tsk))
      | .error fault => ([.touched, .touched], .error ⟨fault, s⟩) := by
  cases empty : s.links.listEmpty node with
  | true => simp [unlinkLogged, Logged.bind_apply, Logged.get, empty]
  | false =>
      cases deleted : s.links.listDeleteEntry Node.valid node with
      | ok links =>
          simp [unlinkLogged, Logged.bind_apply, Logged.get, Logged.lift, Logged.set, empty,
            deleted, Stack.relink, Except.map]
      | error fault =>
          simp [unlinkLogged, Logged.bind_apply, Logged.get, Logged.lift, empty, deleted,
            Stack.relink, Except.map]

/-- A part of the close without its events. -/
def Erases (part : Closing Unit) (plain : Stack → Outcome Stack) : Prop :=
  ∀ s, part.result s = (plain s).map fun later => ((), later)

theorem Erases.bind {part next : Closing Unit} {plain plainNext : Stack → Outcome Stack}
    (first : Erases part plain) (second : Erases next plainNext) :
    Erases (part >>= fun _ => next) fun s => plain s >>= plainNext := by
  intro s
  rw [Logged.result_bind, first s]
  show _ = (plain s >>= plainNext).map _
  cases plain s with
  | ok later => exact second later
  | error halt => rfl

theorem unlinkLogged_erases (node : Node) : Erases (unlinkLogged tsk node) fun s =>
    if !s.links.listEmpty node then do
      let s ← s.relink (s.links.listDeleteEntry Node.valid node)
      pure (freeTcpSock s tsk)
    else
      pure s := by
  intro s
  simp only [Logged.result, unlinkLogged_run]
  cases s.links.listEmpty node with
  | true => rfl
  | false => cases s.links.listDeleteEntry Node.valid node <;> rfl

/-- A listener is taken out of its tables, and closed. -/
theorem closeListenerLogged_erases : Erases (closeListenerLogged tsk) fun s =>
    tcpUnhash s tsk >>= fun s => tcpBindUnhash s tsk >>= fun s =>
      pure (freeTcpSock (tcpSetState s tsk .closed) tsk) :=
  (unlinkLogged_erases tsk (.hashList tsk)).bind
    ((unlinkLogged_erases tsk (.bindHashList tsk)).bind fun _ => rfl)

theorem tcpSockCloseLogged_listen (state : (s.sock tsk).state = .listen) :
    tcpSockCloseLogged tsk s =
      (.touched :: (closeListenerLogged tsk).log s, (closeListenerLogged tsk).result s) := by
  simp [tcpSockCloseLogged, Logged.bind_apply, Logged.get, Logged.log, Logged.result, state]

/-- **The close with events is the close of the stack.** -/
theorem tcpSockCloseLogged_result :
    (tcpSockCloseLogged tsk).result s = (tcpSockClose s tsk).map fun later => ((), later) := by
  cases state : (s.sock tsk).state with
  | listen =>
      rw [Logged.result, tcpSockCloseLogged_listen s tsk state, tcpSockClose, state]
      exact closeListenerLogged_erases tsk s
  | _ =>
      simp only [tcpSockCloseLogged, Logged.result, Logged.bind_apply, Logged.get, tcpSockClose,
        touching_run, freeTcpSockLogged_run, id, state]
      rfl

end Erase

/-! ## Released once, and last -/

/-- The sock is released at most once, and nothing is done to it after that. -/
structure SafeRelease (log : List CloseEvent) : Prop where
  once : log.count (.freed true) ≤ 1
  last : ∀ before after, log = before ++ .freed true :: after → after = []

theorem safeRelease_nil : SafeRelease [] where
  once := Nat.zero_le _
  last before after split := by
    have := congrArg List.length split
    simp at this

theorem safeRelease_cons {event : CloseEvent} (keeps : event ≠ .freed true)
    (log : List CloseEvent) : SafeRelease (event :: log) ↔ SafeRelease log := by
  constructor
  · intro safe
    refine ⟨?_, fun before after split => safe.last (event :: before) after (by rw [split]; rfl)⟩
    have once := safe.once
    rwa [List.count_cons_of_ne keeps] at once
  · intro safe
    refine ⟨by rw [List.count_cons_of_ne keeps]; exact safe.once, ?_⟩
    intro before after split
    cases before with
    | nil => exact absurd (List.cons.inj split).1 keeps
    | cons first rest => exact safe.last rest after (List.cons.inj split).2

theorem safeRelease_released (log : List CloseEvent) :
    SafeRelease (.freed true :: log) ↔ log = [] := by
  constructor
  · exact fun safe => safe.last [] log rfl
  · rintro rfl
    refine ⟨le_rfl, fun before after split => ?_⟩
    have := congrArg List.length split
    simp only [List.length_append, List.length_cons, List.length_nil] at this
    exact List.eq_nil_of_length_eq_zero (by omega)

@[simp] theorem safeRelease_touched (log : List CloseEvent) :
    SafeRelease (.touched :: log) ↔ SafeRelease log :=
  safeRelease_cons (by simp) log

/-- A reference that is dropped with something to follow is not the last one. -/
theorem safeRelease_freed {refCnt : ℤ} {log : List CloseEvent} (more : log ≠ []) :
    SafeRelease (.freed (decide (refCnt ≤ 1)) :: log) ↔ 1 < refCnt ∧ SafeRelease log := by
  by_cases few : refCnt ≤ 1
  · rw [decide_eq_true few, safeRelease_released]
    exact ⟨fun none => absurd none more, fun many => absurd few (not_le.mpr many.1)⟩
  · rw [decide_eq_false few, safeRelease_cons (by simp)]
    exact (and_iff_right (not_le.mp few)).symm

theorem safeRelease_freed_last (releases : Bool) : SafeRelease [.freed releases] := by
  cases releases with
  | true => exact (safeRelease_released []).mpr rfl
  | false => exact (safeRelease_cons (by simp) []).mpr safeRelease_nil

/-! ## Listeners -/

/-- Take out the nodes of the sock one after the other, then close it. -/
def unlinkThenClose (tsk : SockPtr) : List Node → Closing Unit
  | [] => do
      touching fun s => tcpSetState s tsk .closed
      freeTcpSockLogged tsk
  | node :: nodes => do
      unlinkLogged tsk node
      unlinkThenClose tsk nodes

theorem closeListenerLogged_eq (tsk : SockPtr) : closeListenerLogged tsk =
    unlinkThenClose tsk [.hashList tsk, .bindHashList tsk] := rfl

/-- How many of the nodes are taken out of a list, before there is an invalid
pointer. -/
def unlinkable (links : Heap Node) : List Node → ℕ
  | [] => 0
  | node :: nodes =>
      if links.listEmpty node then unlinkable links nodes
      else match links.listDeleteEntry Node.valid node with
        | .ok later => unlinkable later nodes + 1
        | .error _ => 0

/-- How many nodes of a listener its close takes out of a table. -/
def Stack.linkedNodes (s : Stack) (tsk : SockPtr) : ℕ :=
  unlinkable s.links [.hashList tsk, .bindHashList tsk]

section Unlink

variable (tsk : SockPtr)

theorem unlinkThenClose_log_ne_nil (nodes : List Node) (s : Stack) :
    (unlinkThenClose tsk nodes).log s ≠ [] := by
  cases nodes with
  | nil => simp [unlinkThenClose, Logged.log, Logged.bind_apply]
  | cons node nodes =>
      rw [unlinkThenClose, Logged.log_bind, Logged.log, unlinkLogged_run]
      cases s.links.listEmpty node with
      | true => simp
      | false => cases s.links.listDeleteEntry Node.valid node <;> simp

/-- Each node that is taken out costs one reference, and one more must be left
then. -/
theorem unlinkThenClose_safe (nodes : List Node) (s : Stack) :
    SafeRelease ((unlinkThenClose tsk nodes).log s) ↔
      unlinkable s.links nodes = 0 ∨ (unlinkable s.links nodes : ℤ) < (s.sock tsk).refCnt := by
  induction nodes generalizing s with
  | nil =>
      simp only [unlinkThenClose, Logged.log, Logged.bind_apply, touching_run,
        freeTcpSockLogged_run, unlinkable, true_or, iff_true]
      exact (safeRelease_touched _).mpr (safeRelease_freed_last _)
  | cons node nodes ih =>
      rw [unlinkThenClose, Logged.log_bind, Logged.log, Logged.result, unlinkLogged_run, unlinkable]
      cases s.links.listEmpty node with
      | true => simpa using ih s
      | false =>
          cases s.links.listDeleteEntry Node.valid node with
          | error fault => simpa using safeRelease_nil
          | ok later =>
              have dropped : ((freeTcpSock { s with links := later } tsk).sock tsk).refCnt =
                  (s.sock tsk).refCnt - 1 := by
                rw [freeTcpSock_sock, if_pos rfl]
              have rest := ih (freeTcpSock { s with links := later } tsk)
              rw [dropped, freeTcpSock_links] at rest
              simp only [Bool.false_eq_true, if_false, List.cons_append, List.nil_append,
                safeRelease_touched, safeRelease_freed (unlinkThenClose_log_ne_nil tsk nodes _),
                rest]
              push_cast
              rw [false_or]
              omega

end Unlink

/-- **A close releases the sock at most once and leaves it alone then**, except that of a
listener with no more references than nodes that are taken out. -/
theorem close_release_iff (s : Stack) (tsk : SockPtr) :
    SafeRelease ((tcpSockCloseLogged tsk).log s) ↔
      ((s.sock tsk).state = .listen →
        s.linkedNodes tsk = 0 ∨ (s.linkedNodes tsk : ℤ) < (s.sock tsk).refCnt) := by
  cases state : (s.sock tsk).state with
  | listen =>
      rw [Logged.log, tcpSockCloseLogged_listen s tsk state, safeRelease_touched,
        closeListenerLogged_eq, unlinkThenClose_safe, Stack.linkedNodes]
      exact ⟨fun kept _ => kept, fun kept => kept rfl⟩
  | closed =>
      simp [tcpSockCloseLogged, Logged.log, Logged.bind_apply, Logged.get, state, safeRelease_nil]
  | _ =>
      simp [tcpSockCloseLogged, Logged.log, Logged.bind_apply, Logged.get, state,
        safeRelease_freed_last]

/-! ## Listeners of a run -/

section Run

variable {s : Stack} {socks : Sequences} {tsk : SockPtr}

/-- A linked node is taken out. -/
theorem Stack.Shape.unlinkable_linked (shape : s.Shape socks) {head : Node}
    (isHead : s.IsHead head) (inside : tsk ∈ socks head) (slot : head.slot tsk ≠ .list tsk)
    (nodes : List Node) :
    ∃ links, ({ s with links := links } : Stack).Shape
        (Function.update socks head ((socks head).erase tsk)) ∧
      unlinkable s.links (head.slot tsk :: nodes) = unlinkable links nodes + 1 := by
  obtain ⟨links, deleted, without, _⟩ := shape.deleteEntry isHead inside slot
  refine ⟨links, without, ?_⟩
  simp [unlinkable, shape.not_listEmpty isHead inside, deleted]

/-- The nodes of a sock that is in a hash table are one, or two if it is bound. -/
theorem Stack.Shape.le_linkedNodes (shape : s.Shape socks) (hashed : s.Hashed tsk) :
    1 ≤ s.linkedNodes tsk ∧ (s.InBind tsk → 2 ≤ s.linkedNodes tsk) := by
  obtain ⟨head, isHead, slot, inside⟩ := shape.hashed_iff.mp hashed
  obtain ⟨links, without, count⟩ := shape.unlinkable_linked isHead inside
    (by simp [congrFun slot tsk]) [.bindHashList tsk]
  rw [congrFun slot tsk] at count
  rw [Stack.linkedNodes, count]
  refine ⟨Nat.le_add_left _ _, fun bound => ?_⟩
  obtain ⟨bucket, inBind⟩ := shape.inBind_iff.mp bound
  have still : tsk ∈ Function.update socks head ((socks head).erase tsk) (.bindTable bucket) := by
    rwa [Sequences.update_of_slot_ne (slot ▸ Node.bindHashList_ne_hashList)]
  obtain ⟨final, _, second⟩ := without.unlinkable_linked (Stack.isHead_bind _ bucket) still
    (by simp [Node.slot]) []
  have taken : unlinkable links [.bindHashList tsk] = unlinkable final [] + 1 := second
  rw [taken]
  exact Nat.le_add_left _ _

/-- **In a careful run the close of a listener releases it too early.** -/
theorem close_listener_releases_early (run : Run Event.Careful initTcpStack s)
    (member : tsk ∈ s.allocated) (listening : (s.sock tsk).state = .listen) :
    ¬ SafeRelease ((tcpSockCloseLogged tsk).log s) := by
  obtain ⟨socks, tended⟩ := Run.tended run
  have account := tended.accounts tsk member
  obtain ⟨one, two⟩ := tended.sound.shape.le_linkedNodes (account.hashed listening)
  obtain ⟨hash, bind, references, inHash, inBind⟩ := account.backed
  rw [close_release_iff]
  intro safe
  rcases safe listening with none | more
  · omega
  · rcases inBind with unbound | ⟨bound, linked⟩
    · omega
    · have := two linked
      omega

end Run

/-- **The close of a listener on port 80 releases it, writes its state and
releases it again.** -/
theorem closed_listener_released_twice :
    Run Event.Careful initTcpStack listeningStack ∧ (listeningStack.sock 1).state = .listen ∧
      ((tcpSockCloseLogged 1).log listeningStack).count (.freed true) = 2 ∧
      ¬ SafeRelease ((tcpSockCloseLogged 1).log listeningStack) := by
  have log : (tcpSockCloseLogged 1).log listeningStack =
      [.touched, .touched, .touched, .freed false, .touched, .touched, .freed true,
        .touched, .freed true] := by
    decide
  refine ⟨listeningStack_run, by decide, ?_, fun safe => ?_⟩
  · rw [log]
    rfl
  · rw [log] at safe
    exact absurd safe.once (by decide)

end TcpStack
