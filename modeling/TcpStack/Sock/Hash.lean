import TcpStack.Sock.Data
import TcpStack.Lib.ByteOrder

/-!
# The hash tables

The part of `tcp_sock.c` that links socks into the three tables, unlinks them
and searches them, with `tcp_hash.h` and `hash.h`.

`tcp_port_in_use` walks a bucket of the bind table, whose nodes are
`bind_hash_list` members, and names the member `hash_list`. The traversal itself
is not affected, as the offset is added back before the pointer is followed, but
every sock it looks at is taken to start 16 bytes late, and its source port is
read from the upper half of the `parent` pointer.
-/

set_option autoImplicit false

namespace TcpStack

open Lib

/-! ## The hash function -/

def hash8 (buf : List U8) : U8 := buf.foldl (fun result byte => result ^^^ byte) 0

def tcpHashFunction (saddr daddr : U32) (sport dport : U16) : U8 :=
  (hash8 (bytes32 saddr) ^^^ hash8 (bytes32 daddr) ^^^ hash8 (bytes16 sport) ^^^
    hash8 (bytes16 dport)) &&& 0xff

/-! ## Lookup -/

/-- `list_entry` for the member `hash_list`. -/
def Node.hashEntry : Node → Except Fault SockPtr
  | .hashList tsk => .ok tsk
  | _ => .error .badPointer

/-- Visit a node of a bucket: the sock it belongs to, if that is the one
wanted. -/
def visitHashed (s : Stack) (wanted : TcpSock → Bool) (node : Node) :
    Except Fault (Option SockPtr) := do
  let tmp ← node.hashEntry
  pure (if wanted (s.sock tmp) then some tmp else none)

/-- Whether a sock has the given 4-tuple. -/
def TcpSock.hasTuple (sk : TcpSock) (saddr daddr : U32) (sport dport : U16) : Bool :=
  sk.skSip == saddr && sk.skSport == sport && sk.skDip == daddr && sk.skDport == dport

def tcpSockLookupEstablished (s : Stack) (saddr daddr : U32) (sport dport : U16) :
    Except Fault SockPtr := do
  let hash := tcpHashFunction saddr daddr sport dport
  let found ← s.links.listFind Node.valid (.establishedTable hash) s.fuel
    (visitHashed s fun sk => sk.hasTuple saddr daddr sport dport)
  pure (found.getD 0)

def tcpSockLookupListen (s : Stack) (_saddr : U32) (sport : U16) : Except Fault SockPtr := do
  let hash := tcpHashFunction 0 0 sport 0
  let found ← s.links.listFind Node.valid (.listenTable hash) s.fuel
    (visitHashed s fun sk => sk.skSport == sport)
  pure (found.getD 0)

def tcpSockLookup (s : Stack) (cb : TcpCb) : Except Fault SockPtr := do
  let saddr := cb.daddr
  let daddr := cb.saddr
  let sport := cb.dport
  let dport := cb.sport
  let tsk ← tcpSockLookupEstablished s saddr daddr sport dport
  if tsk = 0 then tcpSockLookupListen s saddr sport else pure tsk

/-! ## The bind table -/

def tcpBindHash (s : Stack) (tsk : SockPtr) : Outcome Stack := do
  let bindHashValue := tcpHashFunction 0 0 (s.sock tsk).skSport 0
  let s ← s.relink
    (s.links.listAddHead Node.valid (.bindHashList tsk) (.bindTable bindHashValue))
  pure (tcpSockIncRefCnt s tsk)

def tcpBindUnhash (s : Stack) (tsk : SockPtr) : Outcome Stack :=
  if !s.links.listEmpty (.bindHashList tsk) then do
    let s ← s.relink (s.links.listDeleteEntry Node.valid (.bindHashList tsk))
    pure (freeTcpSock s tsk)
  else
    pure s

/-- What `tcp_port_in_use` reads as the source port of the sock whose
`bind_hash_list` is the node: bytes 4 and 5 of its `parent` pointer. -/
def Node.portThroughHashList (s : Stack) : Node → Except Fault U16
  | .bindHashList tsk => .ok (BitVec.ofNat 16 ((s.sock tsk).parent / 2 ^ 32))
  | _ => .error .badPointer

def tcpPortInUse (s : Stack) (sport : U16) : Except Fault Bool := do
  let value := tcpHashFunction 0 0 sport 0
  let found ← s.links.listFind Node.valid (.bindTable value) s.fuel fun node => do
    let port ← node.portThroughHashList s
    pure (if port = sport then some () else none)
  pure found.isSome

/-- The loop of `tcp_get_port` over the given number of ports. -/
def tcpGetPortFrom (s : Stack) : ℕ → U16 → Except Fault U16
  | 0, _ => .ok 0
  | count + 1, port => do
      if ← tcpPortInUse s port then tcpGetPortFrom s count (port + 1) else pure port

def tcpGetPort (s : Stack) : Except Fault U16 :=
  tcpGetPortFrom s (portMax.toNat - portMin.toNat) portMin

def tcpSockSetSport (s : Stack) (tsk : SockPtr) (port : U16) : Outcome (ℤ × Stack) := do
  let used ← if port ≠ 0 then s.stopOn (tcpPortInUse s port) else pure false
  if used then
    pure (-1, s)
  else
    let port ← if port = 0 then s.stopOn (tcpGetPort s) else pure port
    if port = 0 then
      pure (-1, s)
    else
      let s ← tcpBindHash (s.modify tsk fun sk => { sk with skSport := port }) tsk
      pure (0, s)

/-! ## The established and listen tables -/

def tcpHash (s : Stack) (tsk : SockPtr) : Outcome (ℤ × Stack) :=
  let sk := s.sock tsk
  if sk.state = .closed then
    pure (-1, s)
  else if sk.state = .listen then do
    let hash := tcpHashFunction 0 0 sk.skSport 0
    let s ← s.relink (s.links.listAddHead Node.valid (.hashList tsk) (.listenTable hash))
    pure (0, tcpSockIncRefCnt s tsk)
  else do
    let hash := tcpHashFunction sk.skSip sk.skDip sk.skSport sk.skDport
    let same ← s.stopOn (s.links.listFind Node.valid (.establishedTable hash) s.fuel
      (visitHashed s fun tmp => tmp.hasTuple sk.skSip sk.skDip sk.skSport sk.skDport))
    if same.isSome then
      pure (-1, s)
    else
      let s ← s.relink (s.links.listAddHead Node.valid (.hashList tsk) (.establishedTable hash))
      pure (0, tcpSockIncRefCnt s tsk)

def tcpUnhash (s : Stack) (tsk : SockPtr) : Outcome Stack :=
  if !s.links.listEmpty (.hashList tsk) then do
    let s ← s.relink (s.links.listDeleteEntry Node.valid (.hashList tsk))
    pure (freeTcpSock s tsk)
  else
    pure s

end TcpStack
