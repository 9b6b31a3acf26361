import TcpStack.Sock.Process

/-!
# The socket calls

What an application calls: `tcp_sock_bind`, `tcp_sock_connect`,
`tcp_sock_listen` and `tcp_sock_accept`. Two of them sleep. A call is followed
up to the point where it returns or blocks; the part after the sleep is a
function of its own.

`tcp_sock_connect` has a semicolon after its loop over the interfaces, so the
block below it runs once, after the loop, with the cursor on the head of the
list. What it reads there as the address of an interface is a parameter.

The condition of `tcp_sock_accept` compares a structure with a null pointer. It
is read as the test its comment describes: whether the queue is empty.
-/

set_option autoImplicit false

namespace TcpStack

open Lib

def tcpSockBind (s : Stack) (tsk : SockPtr) (skaddr : SockAddr) : Outcome (ℤ × Stack) :=
  tcpSockSetSport s tsk (ntohs skaddr.port)

def tcpSockListen (s : Stack) (tsk : SockPtr) (backlog : ℤ) : Outcome (ℤ × Stack) :=
  let s := s.modify tsk fun sk => { sk with backlog := backlog }
  tcpHash (tcpSetState s tsk .listen) tsk

/-- `tcp_sock_connect` up to its sleep: the result when it returns at once,
nothing when it blocks. -/
def tcpSockConnect (s : Stack) (tsk : SockPtr) (skaddr : SockAddr) (cursorIp : U32) :
    Outcome (Option ℤ × Stack) := do
  let s := s.modify tsk fun sk =>
    { sk with skDip := htonl skaddr.ip, skDport := htons skaddr.port, skSip := cursorIp }
  let port ← s.stopOn (tcpGetPort s)
  let s := s.modify tsk fun sk => { sk with skSport := htons port }
  let s ← tcpBindHash s tsk
  let s := tcpSendControlPacket s tsk tcpSyn
  let s := tcpSetState s tsk .synSent
  -- the result of `tcp_hash` is ignored
  let (_, s) ← tcpHash s tsk
  let (wait, blocks) := sleepOn (s.sock tsk).waitConnect
  let s := s.modify tsk fun sk => { sk with waitConnect := wait }
  pure (if blocks then none else some 0, s)

/-- The rest of `tcp_sock_connect` once it was woken. -/
def tcpSockConnectWoken (s : Stack) (tsk : SockPtr) : ℤ × Stack :=
  (0, s.modify tsk fun sk => { sk with waitConnect := sleepOnWoken sk.waitConnect })

/-- `tcp_sock_accept_dequeue`. The result is the `list` node of the sock
returned, which is the head of the queue when the queue is empty. -/
def tcpSockAcceptDequeue (s : Stack) (tsk : SockPtr) : Outcome (Node × Stack) := do
  let link ← s.stopOn (s.links.load Node.valid (.acceptQueue tsk))
  let newTsk := link.next
  let s ← s.relink (s.links.listDeleteEntry Node.valid newTsk)
  let s := { s with links := s.links.initListHead newTsk }
  pure (newTsk, s.modify tsk fun sk => { sk with acceptBacklog := sk.acceptBacklog - 1 })

/-- `tcp_sock_accept` up to its sleep: the sock when one is returned, nothing
when the call blocks. -/
def tcpSockAccept (s : Stack) (tsk : SockPtr) : Outcome (Option Node × Stack) :=
  if !s.links.listEmpty (.acceptQueue tsk) then do
    let (popSock, s) ← tcpSockAcceptDequeue s tsk
    pure (some popSock, s)
  else
    let (wait, blocks) := sleepOn (s.sock tsk).waitAccept
    let s := s.modify tsk fun sk => { sk with waitAccept := wait }
    if blocks then pure (none, s)
    else do
      let (popSock, s) ← tcpSockAcceptDequeue s tsk
      pure (some popSock, s)

/-- The rest of `tcp_sock_accept` once it was woken. -/
def tcpSockAcceptWoken (s : Stack) (tsk : SockPtr) : Outcome (Node × Stack) :=
  tcpSockAcceptDequeue
    (s.modify tsk fun sk => { sk with waitAccept := sleepOnWoken sk.waitAccept }) tsk

end TcpStack
