import TcpStack.Lib.CircularList
import TcpStack.RingBuffer

/-!
# The data of the stack

The records of `tcp.h`, `tcp_sock.h` and `synch_wait.h`, and the memory they
live in.

A sock is referred to by its address; the null pointer is `0`. The fields of a
sock are a record, except for its list nodes: those are nodes of one heap of
intrusive lists, next to the buckets of the three hash tables. The address of a
list node says which field of which sock, or which bucket, it is.

Memory handed out for a sock is not handed out again, also when it was released. A
released sock keeps its contents and can be released again, and the list `freed` has
one entry for every time it was. In the program `free` writes over the first bytes of
the sock, which hold its 4-tuple, and stops at the second release. So the model
follows the program up to the first use of a sock that was released; where a result
goes further, it is about runs without one (`Stack.Intact`).
-/

set_option autoImplicit false

namespace TcpStack

open Lib

/-! ## Constants -/

def tcpFin : U8 := 0x01
def tcpSyn : U8 := 0x02
def tcpRst : U8 := 0x04
def tcpPsh : U8 := 0x08
def tcpAck : U8 := 0x10

def tcpDefaultWindow : U16 := 65535

def portMin : U16 := 12345
def portMax : U16 := 23456

/-- `enum tcp_state`. -/
inductive TcpState where
  | closed
  | listen
  | synRecv
  | synSent
  | established
  | closeWait
  | lastAck
  | finWait1
  | finWait2
  | closing
  | timeWait
  deriving DecidableEq, Repr

/-! ## Records -/

/-- `struct sock_addr`; the fields are in network byte order. -/
structure SockAddr where
  ip : U32
  port : U16
  deriving DecidableEq, Repr

/-- `struct tcp_cb`: what is needed of a packet. The payload is given by its
offset in the packet. -/
structure TcpCb where
  saddr : U32
  daddr : U32
  sport : U16
  dport : U16
  seq : U32
  seqEnd : U32
  ack : U32
  rwnd : U32
  flags : U8
  payload : ℕ
  plLen : ℤ
  deriving DecidableEq, Repr

/-- The flags of `struct synch_wait`. -/
structure SynchWait where
  notified : Bool
  dead : Bool
  sleep : Bool
  deriving DecidableEq, Repr

/-- The address of a sock; `0` is the null pointer. -/
abbrev SockPtr := ℕ

/-- `struct tcp_sock`, without its list nodes. -/
structure TcpSock where
  skSip : U32
  skSport : U16
  skDip : U32
  skDport : U16
  parent : SockPtr
  refCnt : ℤ
  acceptBacklog : ℤ
  backlog : ℤ
  waitConnect : SynchWait
  waitAccept : SynchWait
  waitRecv : SynchWait
  waitSend : SynchWait
  rcvBuf : RingBuffer
  state : TcpState
  sndUna : U32
  sndNxt : U32
  rcvNxt : U32
  sndWnd : U32
  rcvWnd : U16

/-- The values a segment carries when it is handed to `ip_send_packet`. -/
structure Segment where
  saddr : U32
  daddr : U32
  sport : U16
  dport : U16
  seq : U32
  ack : U32
  flags : U8
  rwnd : U16
  payload : List U8
  deriving DecidableEq, Repr

/-! ## Waiting -/

/-- `wait_init`. -/
def waitInit : SynchWait := ⟨false, false, false⟩

/-- `wake_up`; the signal itself matters only to the thread that sleeps. -/
def wakeUp (wait : SynchWait) : SynchWait :=
  if wait.dead then wait
  else if wait.notified then wait
  else { wait with notified := true }

theorem wakeUp_dead (wait : SynchWait) : (wakeUp wait).dead = wait.dead := by
  simp only [wakeUp]
  split
  · rfl
  · split <;> rfl

theorem wakeUp_notified {wait : SynchWait} (alive : wait.dead = false) :
    (wakeUp wait).notified = true := by
  simp only [wakeUp, alive, Bool.false_eq_true, if_false]
  split
  · assumption
  · rfl

/-- `sleep_on` up to the point where it returns or blocks, and whether it
blocks. -/
def sleepOn (wait : SynchWait) : SynchWait × Bool :=
  if wait.dead then (wait, false)
  else if wait.notified then ({ wait with notified := false, sleep := false }, false)
  else ({ wait with sleep := true }, true)

/-- The rest of `sleep_on` once the thread was woken. -/
def sleepOnWoken (wait : SynchWait) : SynchWait :=
  { wait with notified := false, sleep := false }

/-! ## Memory -/

/-- The address of a `struct list_head`. -/
inductive Node where
  | null
  | establishedTable (bucket : U8)
  | listenTable (bucket : U8)
  | bindTable (bucket : U8)
  | hashList (tsk : SockPtr)
  | bindHashList (tsk : SockPtr)
  | listenQueue (tsk : SockPtr)
  | acceptQueue (tsk : SockPtr)
  | list (tsk : SockPtr)
  deriving DecidableEq, Repr

/-- A node may be dereferenced unless it is null or a field of the null
sock. -/
def Node.valid : Node → Bool
  | .null => false
  | .establishedTable _ | .listenTable _ | .bindTable _ => true
  | .hashList tsk | .bindHashList tsk | .listenQueue tsk | .acceptQueue tsk | .list tsk =>
      tsk != 0

/-- The stack: the socks and list nodes in memory, the socks allocated and
released so far, and the segments emitted so far. -/
structure Stack where
  sock : SockPtr → TcpSock
  links : Heap Node
  allocated : List SockPtr
  freed : List SockPtr
  out : List Segment

/-- Where and in which state the program stopped. -/
structure Halt where
  fault : Fault
  stack : Stack

/-- The result of code that can stop. -/
abbrev Outcome (α : Type) := Except Halt α

/-- The stack a call ends with, whether it returns or stops. -/
def Outcome.stack : Outcome Stack → Stack
  | .ok s => s
  | .error halt => halt.stack

@[simp] theorem Outcome.stack_ok (s : Stack) : Outcome.stack (.ok s) = s := rfl

@[simp] theorem Outcome.stack_error (halt : Halt) : Outcome.stack (.error halt) = halt.stack := rfl

/-- A sequence of two calls returns when both return. -/
theorem Outcome.bind_eq_ok {α β : Type} {first : Outcome α} {next : α → Outcome β} {result : β} :
    first >>= next = .ok result ↔ ∃ value, first = .ok value ∧ next value = .ok result := by
  cases first with
  | ok value => simp [bind, Except.bind]
  | error halt => simp [bind, Except.bind]

namespace Stack

/-- Change one sock. -/
def modify (s : Stack) (tsk : SockPtr) (change : TcpSock → TcpSock) : Stack :=
  { s with sock := Function.update s.sock tsk (change (s.sock tsk)) }

/-- More nodes than any list of socks can have. -/
def fuel (s : Stack) : ℕ := s.allocated.length + 1

/-- Continue with the result of a list operation. -/
def relink (s : Stack) (result : Except Fault (Heap Node)) : Outcome Stack :=
  match result with
  | .ok links => .ok { s with links := links }
  | .error fault => .error ⟨fault, s⟩

/-- Stop in the given state when a list operation faults. -/
def stopOn {α : Type} (s : Stack) (result : Except Fault α) : Outcome α :=
  match result with
  | .ok value => .ok value
  | .error fault => .error ⟨fault, s⟩

theorem relink_eq_ok {s later : Stack} {result : Except Fault (Heap Node)} :
    s.relink result = .ok later ↔
      ∃ links, result = .ok links ∧ later = { s with links := links } := by
  cases result with
  | ok links => simp [relink, eq_comm]
  | error fault => simp [relink]

@[simp] theorem modify_sock_self (s : Stack) (tsk : SockPtr) (change : TcpSock → TcpSock) :
    (s.modify tsk change).sock tsk = change (s.sock tsk) := by
  simp [modify]

@[simp] theorem modify_sock_of_ne (s : Stack) {tsk other : SockPtr} (change : TcpSock → TcpSock)
    (different : other ≠ tsk) : (s.modify tsk change).sock other = s.sock other := by
  simp [modify, different]

/-- A field that a change leaves alone. -/
theorem modify_field {β : Type} (field : TcpSock → β) (s : Stack) (tsk : SockPtr)
    {change : TcpSock → TcpSock} (keeps : ∀ sk, field (change sk) = field sk) (other : SockPtr) :
    field ((s.modify tsk change).sock other) = field (s.sock other) := by
  by_cases same : other = tsk
  · rw [same, modify_sock_self, keeps]
  · rw [modify_sock_of_ne _ _ same]

@[simp] theorem modify_links (s : Stack) (tsk : SockPtr) (change : TcpSock → TcpSock) :
    (s.modify tsk change).links = s.links := rfl

@[simp] theorem modify_allocated (s : Stack) (tsk : SockPtr) (change : TcpSock → TcpSock) :
    (s.modify tsk change).allocated = s.allocated := rfl

@[simp] theorem modify_freed (s : Stack) (tsk : SockPtr) (change : TcpSock → TcpSock) :
    (s.modify tsk change).freed = s.freed := rfl

@[simp] theorem modify_out (s : Stack) (tsk : SockPtr) (change : TcpSock → TcpSock) :
    (s.modify tsk change).out = s.out := rfl

end Stack

/-! ## Allocation and release -/

/-- The contents of a sock just allocated. -/
def zeroedSock : TcpSock where
  skSip := 0
  skSport := 0
  skDip := 0
  skDport := 0
  parent := 0
  refCnt := 0
  acceptBacklog := 0
  backlog := 0
  waitConnect := waitInit
  waitAccept := waitInit
  waitRecv := waitInit
  waitSend := waitInit
  rcvBuf := allocRingBuffer tcpDefaultWindow.toNat
  state := .closed
  sndUna := 0
  sndNxt := 0
  rcvNxt := 0
  sndWnd := 0
  rcvWnd := tcpDefaultWindow

/-- `alloc_tcp_sock`, for the address that `malloc` returns. The nodes for the
hash tables are only zeroed. -/
def allocTcpSock (s : Stack) (tsk : SockPtr) : Stack :=
  let zeroed : Heap Node :=
    Function.update (Function.update s.links (.hashList tsk) ⟨.null, .null⟩)
      (.bindHashList tsk) ⟨.null, .null⟩
  { s with
    sock := Function.update s.sock tsk zeroedSock
    links := ((zeroed.initListHead (.list tsk)).initListHead (.listenQueue tsk)).initListHead
      (.acceptQueue tsk)
    allocated := tsk :: s.allocated }

def tcpSockIncRefCnt (s : Stack) (tsk : SockPtr) : Stack :=
  s.modify tsk fun sk => { sk with refCnt := sk.refCnt + 1 }

/-- `free_tcp_sock`: drop one reference, and release the sock when none is left. A sock that
was released before is entered in `freed` once more; `free` stops the program there
(`Outcome.checked`). -/
def freeTcpSock (s : Stack) (tsk : SockPtr) : Stack :=
  let s := s.modify tsk fun sk => { sk with refCnt := sk.refCnt - 1 }
  if (s.sock tsk).refCnt ≤ 0 then { s with freed := tsk :: s.freed } else s

section Simp

variable (s : Stack) (tsk : SockPtr)

@[simp] theorem tcpSockIncRefCnt_links : (tcpSockIncRefCnt s tsk).links = s.links := rfl

@[simp] theorem tcpSockIncRefCnt_allocated :
    (tcpSockIncRefCnt s tsk).allocated = s.allocated := rfl

@[simp] theorem tcpSockIncRefCnt_freed : (tcpSockIncRefCnt s tsk).freed = s.freed := rfl

theorem tcpSockIncRefCnt_sock (other : SockPtr) : (tcpSockIncRefCnt s tsk).sock other =
    if other = tsk then { s.sock tsk with refCnt := (s.sock tsk).refCnt + 1 }
    else s.sock other := by
  by_cases same : other = tsk
  · subst same
    simp [tcpSockIncRefCnt]
  · simp [tcpSockIncRefCnt, same]

/-- A field other than the reference count. -/
theorem tcpSockIncRefCnt_field {β : Type} (field : TcpSock → β)
    (keeps : ∀ (sk : TcpSock) (refCnt : ℤ), field { sk with refCnt := refCnt } = field sk)
    (other : SockPtr) : field ((tcpSockIncRefCnt s tsk).sock other) = field (s.sock other) :=
  s.modify_field field tsk (fun sk => keeps sk _) other

@[simp] theorem freeTcpSock_links : (freeTcpSock s tsk).links = s.links := by
  simp only [freeTcpSock]
  split <;> rfl

@[simp] theorem freeTcpSock_allocated : (freeTcpSock s tsk).allocated = s.allocated := by
  simp only [freeTcpSock]
  split <;> rfl

@[simp] theorem freeTcpSock_out : (freeTcpSock s tsk).out = s.out := by
  simp only [freeTcpSock]
  split <;> rfl

theorem freeTcpSock_freed : (freeTcpSock s tsk).freed =
    if (s.sock tsk).refCnt ≤ 1 then tsk :: s.freed else s.freed := by
  have shift : (s.sock tsk).refCnt - 1 ≤ 0 ↔ (s.sock tsk).refCnt ≤ 1 := by omega
  simp only [freeTcpSock, Stack.modify_sock_self, shift]
  split <;> rfl

theorem freeTcpSock_sock (other : SockPtr) : (freeTcpSock s tsk).sock other =
    if other = tsk then { s.sock tsk with refCnt := (s.sock tsk).refCnt - 1 }
    else s.sock other := by
  have base : (freeTcpSock s tsk).sock =
      (s.modify tsk fun sk => { sk with refCnt := sk.refCnt - 1 }).sock := by
    simp only [freeTcpSock]
    split <;> rfl
  rw [base]
  by_cases same : other = tsk
  · subst same
    simp
  · simp [same]

end Simp

/-- The sock was released at least once. -/
def Stack.Released (s : Stack) (tsk : SockPtr) : Prop := tsk ∈ s.freed

instance (s : Stack) (tsk : SockPtr) : Decidable (s.Released tsk) :=
  inferInstanceAs (Decidable (tsk ∈ s.freed))

end TcpStack
