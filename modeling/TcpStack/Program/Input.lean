import Mathlib.Data.List.Infix
import TcpStack.Packet.Bounds
import TcpStack.Sock.Endpoint
import TcpStack.Sock.Stops

/-!
# From the devices to the sockets

The start of the program and the loop of its packet thread. `init_all_ifaces` links an
interface for every device whose name has the right form, and opens them; `ustack_run`
polls the descriptors, and takes every frame to `handle_tcp_packet` for which the
interface is the right one.

The interfaces found are those of the devices, in order, and each descriptor leads
back to its own, if the names of the devices fit in `dev_names`
(`init_all_ifaces_exact`). With these, the loop is nothing but the arrivals of the
segments that came for an address of the host, on the interface with this address. It
stops where one of them does, and what it does not free are the buffers of all the other
frames (`ustack_run_exact`).

What the library does with an ARP packet and with an ICMP packet is not known
here: it gets them in the order in which they came.
-/

set_option autoImplicit false

namespace TcpStack

open Lib

/-! ## The interfaces -/

/-- What ends the program before it runs; with an overflow it writes over its own stack. -/
inductive Ending where
  | exit (status : ℤ)
  | fault (fault : Fault)
  | overflow
  deriving DecidableEq, Repr

/-- The size of `iface->name`, which is the kernel's own for the name of a device. -/
def ifaceNameSize : ℕ := 16

/-- An entry of the list that `getifaddrs` returns, with the address that `malloc`
returns if an interface is made for it. -/
structure IfAddrs where
  /-- There is an address, of the family `AF_PACKET`. -/
  packet : Bool
  ifaName : List Char
  iface : ℕ
  fits : ifaName.length < ifaceNameSize

/-- What the system says of a device: the descriptor that `open_device` returns, and what
the two calls of `ioctl` for the address and the mask store, in network byte order. -/
structure Device where
  fd : ℤ
  addr : Option U32
  netmask : Option U32

/-- `ustack_t` and the interfaces, as far as packets are received with them. -/
structure Instance extends Ustack where
  name : ℕ → List Char
  fd : ℕ → ℤ
  fds : ℕ → ℤ

/-- The device gets an interface. -/
def IfAddrs.available (addr : IfAddrs) : Bool :=
  addr.packet && decide (['-', 'e', 't', 'h'] <:+: addr.ifaName)

/-- `read_iface_info`; the descriptor is the result. -/
def readIfaceInfo (system : List Char → Device) (inst : Instance) (iface : ℕ) :
    Except Ending (ℤ × Instance) :=
  let device := system (inst.name iface)
  let inst := { inst with fd := Function.update inst.fd iface device.fd }
  match device.addr with
  | none => .error (.exit 1)
  | some addr =>
      let inst := { inst with ip := Function.update inst.ip (.list iface) (ntohl addr) }
      match device.netmask with
      | none => .error (.exit 1)
      | some _ => .ok (device.fd, inst)

/-- The body of the loop of `init_all_ifaces`, with its counter. -/
def openIface (system : List Char → Device) (iface : ℕ) (now : Instance × ℕ) :
    Except Ending (Instance × ℕ) := do
  let (inst, i) := now
  let (fd, inst) ← readIfaceInfo system inst iface
  pure ({ inst with fds := Function.update inst.fds i fd }, i + 1)

/-- `fd_to_iface`: the interface, or null. -/
def fdToIface (inst : Instance) (fd : ℤ) : Except Fault (Option ℕ) :=
  inst.links.listFind (fun _ => true) .ifaceList (inst.nifs + 1) fun node =>
    match node with
    | .ifaceList => .error .badPointer
    | .list iface => .ok (if inst.fd iface = fd then some iface else none)

/-! ## Frames -/

def ethPArp : U16 := 0x0806

/-- A call into the library. -/
inductive LibraryCall where
  | icmpSendPacket (frame : ReceivedFrame)
  | handleArpPacket (iface : Option ℕ) (frame : ReceivedFrame)

/-- What the packet thread works on: the stack, the calls it has made into the library,
and how many of the buffers it has allocated it has not freed. -/
structure Input where
  stack : Stack
  calls : List LibraryCall
  buffers : ℕ

/-- `handle_ip_packet`; `tmp` is the address that `malloc` returns if a sock is
allocated. -/
def handleIpPacket (inst : Instance) (iface : Option ℕ) (frame : ReceivedFrame) (tmp : SockPtr)
    (now : Input) : Outcome Input :=
  let ip := packetToIpHdr
  match iface with
  | none => .error ⟨.badPointer, now.stack⟩
  | some iface =>
      if ntohl (IpHdr.daddr frame.packet ip) = inst.ip (.list iface) then do
        let now ←
          if IpHdr.protocol frame.packet ip = ipprotoIcmp then
            if frame.packet (ipData frame.packet ip) = icmpEchoRequest then
              pure { now with calls := now.calls ++ [.icmpSendPacket frame] }
            else pure now
          else if IpHdr.protocol frame.packet ip = ipprotoTcp then do
            let stack ← (handleTcpPacket now.stack frame.packet ip (ipData frame.packet ip)
              tmp).checked
            pure { now with stack := stack }
          else pure now
        pure { now with buffers := now.buffers - 1 }
      else pure now

def handlePacket (inst : Instance) (iface : Option ℕ) (frame : ReceivedFrame) (tmp : SockPtr)
    (now : Input) : Outcome Input :=
  let etherType := ntohs (frame.packet.load16 12)
  if etherType = ethPIp then handleIpPacket inst iface frame tmp now
  else if etherType = ethPArp then
    pure { now with calls := now.calls ++ [.handleArpPacket iface frame] }
  else pure now

/-- What `recvfrom` returns, and whether `malloc` returns a buffer for it. -/
inductive Recv where
  | failed
  | outgoing
  | noBuffer
  | frame (frame : ReceivedFrame) (tmp : SockPtr)

/-- The body of the inner loop of `ustack_run`. -/
def receive (inst : Instance) (recv : ℕ → Option Recv) (now : Input) (i : ℕ) : Outcome Input :=
  match recv i with
  | none | some .failed | some .outgoing => pure now
  | some .noBuffer => do
      let _ ← now.stack.stopOn (fdToIface inst (inst.fds i))
      pure now
  | some (.frame frame tmp) => do
      let iface ← now.stack.stopOn (fdToIface inst (inst.fds i))
      handlePacket inst iface frame tmp { now with buffers := now.buffers + 1 }

/-- The interfaces of the given devices are linked, in their order. -/
structure Instance.Found (inst : Instance) (found : List IfAddrs) : Prop where
  lists : inst.Lists (found.map fun addr => .list addr.iface)
  named : ∀ addr ∈ found, inst.name addr.iface = addr.ifaName

/-- The device has an address and a mask. -/
def Device.Answers (device : Device) : Prop :=
  ∃ addr netmask, device.addr = some addr ∧ device.netmask = some netmask

/-- The interface of a device was opened: the descriptor and the address are those of
the device. -/
structure Instance.Opened (inst : Instance) (device : Device) (iface : ℕ) : Prop where
  fd : inst.fd iface = device.fd
  ip : device.addr.map ntohl = some (inst.ip (.list iface))

/-- The interfaces are linked and open, and their descriptors are polled in the same order. -/
structure Instance.Serves (inst : Instance) (system : List Char → Device)
    (found : List IfAddrs) : Prop where
  listed : inst.Found found
  opened : ∀ addr ∈ found, inst.Opened (system addr.ifaName) addr.iface
  polled : ∀ i addr, found[i]? = some addr → inst.fds i = (system addr.ifaName).fd

section Start

variable {system : List Char → Device} {inst : Instance} {found done rest : List IfAddrs}
  {addr : IfAddrs}

/-- A loop over the nodes is a loop over the devices. -/
theorem Instance.Found.listForEach {α : Type} (listed : inst.Found found)
    (body : Except Ending α → IfaceNode → Except Fault (Except Ending α))
    (turn : α → ℕ → Except Ending α)
    (visits : ∀ now iface, body now (.list iface) = .ok (now >>= fun value => turn value iface))
    (now : α) :
    inst.links.listForEach (fun _ => true) .ifaceList (inst.nifs + 1) body (pure now) =
      .ok (found.foldlM (fun value addr => turn value addr.iface) now) := by
  have visited : ∀ node ∈ found.map fun addr => IfaceNode.list addr.iface,
      ∀ now : Except Ending α, body now node =
        .ok (match node with
          | .ifaceList => now
          | .list iface => now >>= fun value => turn value iface) := by
    intro node member now
    obtain ⟨addr, _, rfl⟩ := List.mem_map.mp member
    exact visits now addr.iface
  rw [listed.lists.denotes.forEach (Nat.lt_succ_of_le listed.lists.nifs.ge) visited,
    List.foldl_map, List.foldlM_eq_foldl]

/-- The interfaces of some devices are open and polled, and those of the rest are only
linked. -/
structure Instance.Opening (inst : Instance) (system : List Char → Device)
    (done rest : List IfAddrs) : Prop where
  listed : inst.Found (done ++ rest)
  opened : ∀ addr ∈ done, inst.Opened (system addr.ifaName) addr.iface
  polled : ∀ i addr, done[i]? = some addr → inst.fds i = (system addr.ifaName).fd

/-- A device that answers has its interface opened and polled. -/
theorem openIface_answers {iface : ℕ} {ip : U32}
    (hasAddr : (system (inst.name iface)).addr = some ip)
    (hasMask : ∃ netmask, (system (inst.name iface)).netmask = some netmask) (i : ℕ) :
    openIface system iface (inst, i) =
      .ok ({ inst with
        fd := Function.update inst.fd iface (system (inst.name iface)).fd
        ip := Function.update inst.ip (.list iface) (ntohl ip)
        fds := Function.update inst.fds i (system (inst.name iface)).fd }, i + 1) := by
  obtain ⟨netmask, hasMask⟩ := hasMask
  simp only [openIface, readIfaceInfo, hasAddr, hasMask]
  rfl

theorem Instance.Opening.openIface (opening : inst.Opening system done (addr :: rest))
    (answers : (system addr.ifaName).Answers) :
    ∃ later, openIface system addr.iface (inst, done.length) =
        .ok (later, (done ++ [addr]).length) ∧
      later.Opening system (done ++ [addr]) rest := by
  obtain ⟨ip, netmask, hasAddr, hasMask⟩ := answers
  have name : inst.name addr.iface = addr.ifaName :=
    opening.listed.named addr (List.mem_append_right _ List.mem_cons_self)
  have fresh : ∀ other ∈ done, other.iface ≠ addr.iface := by
    intro other before same
    have nodup := (List.nodup_cons.mp opening.listed.lists.denotes.nodup).2
    rw [List.map_append, List.map_cons] at nodup
    exact (List.nodup_append.mp nodup).2.2 _ (List.mem_map_of_mem before) _ List.mem_cons_self
      (congrArg IfaceNode.list same)
  rw [← name] at hasAddr hasMask
  rw [openIface_answers hasAddr ⟨netmask, hasMask⟩, List.length_append, name]
  rw [name] at hasAddr
  refine ⟨_, rfl, ?_, fun other member => ?_, fun i other here => ?_⟩
  · rw [List.append_assoc]
    exact ⟨⟨opening.listed.lists.denotes, opening.listed.lists.nifs⟩, opening.listed.named⟩
  · rcases List.mem_append.mp member with before | last
    · have different := fresh other before
      have opened := opening.opened other before
      constructor
      · exact (Function.update_of_ne different _ _).trans opened.fd
      · rw [opened.ip]
        exact congrArg some
          (Function.update_of_ne (fun same => different (IfaceNode.list.inj same)) _ _).symm
    · rw [List.mem_singleton.mp last]
      constructor
      · exact Function.update_self _ _ _
      · show _ = some (Function.update inst.ip (.list addr.iface) (ntohl ip) _)
        rw [hasAddr, Function.update_self]
        rfl
  · by_cases last : i = done.length
    · subst last
      rw [List.getElem?_concat_length] at here
      cases here
      exact Function.update_self _ _ _
    · have before : done[i]? = some other := by
        have bound := (List.getElem?_eq_some_iff.mp here).1
        rw [List.length_append, List.length_singleton] at bound
        rwa [List.getElem?_append_left (by omega)] at here
      exact (Function.update_of_ne last _ _).trans (opening.polled i other before)

/-- `fd_to_iface` returns the first interface with the descriptor. -/
theorem Instance.Serves.fdToIface (serves : inst.Serves system found) (fd : ℤ) :
    fdToIface inst fd = .ok ((found.find? fun addr => (system addr.ifaName).fd = fd).map
      IfAddrs.iface) := by
  have visits : ∀ node ∈ found.map fun addr => IfaceNode.list addr.iface,
      (match node with
        | .ifaceList => .error .badPointer
        | .list iface => .ok (if inst.fd iface = fd then some iface else none) :
          Except Fault (Option ℕ)) =
        .ok (match node with
          | .ifaceList => none
          | .list iface => if inst.fd iface = fd then some iface else none) := by
    intro node member
    obtain ⟨addr, _, rfl⟩ := List.mem_map.mp member
    rfl
  rw [TcpStack.fdToIface, serves.listed.lists.denotes.find
    (Nat.lt_succ_of_le serves.listed.lists.nifs.ge) visits, List.findSome?_map]
  have opened := serves.opened
  congr 1
  clear visits serves
  induction found with
  | nil => rfl
  | cons addr found ih =>
      obtain ⟨own, rest⟩ := List.forall_mem_cons.mp opened
      rw [List.findSome?_cons, List.find?_cons, Function.comp_apply]
      simp only [own.fd]
      by_cases same : (system addr.ifaName).fd = fd
      · simp [same]
      · simp [same, ih rest]

end Start

/-- A frame that a buffer was allocated for, and the interface that it came in on. -/
structure Received where
  iface : ℕ
  frame : ReceivedFrame
  tmp : SockPtr

instance (frame : ReceivedFrame) (ifaceIp : U32) (protocol : U8) :
    Decidable (frame.Carries ifaceIp protocol) :=
  inferInstanceAs (Decidable (_ ∧ _))

namespace Received

variable (inst : Instance) (got : Received)

/-- The frame is an IP packet for the address of the interface. -/
def IsForHost : Prop :=
  got.frame.routed = true ∧
    ntohl (IpHdr.daddr got.frame.packet packetToIpHdr) = inst.ip (.list got.iface)

instance : Decidable (got.IsForHost inst) := inferInstanceAs (Decidable (_ ∧ _))

/-- What arrives at the stack. -/
def event : Option Event :=
  if got.IsForHost inst ∧ IpHdr.protocol got.frame.packet packetToIpHdr = ipprotoTcp then
    some (.arrive got.frame.packet packetToIpHdr got.frame.data got.tmp)
  else none

/-- What the library gets. -/
def calls : List LibraryCall :=
  if got.frame.routed = true then
    if got.IsForHost inst ∧ IpHdr.protocol got.frame.packet packetToIpHdr = ipprotoIcmp ∧
        got.frame.packet got.frame.data = icmpEchoRequest then
      [.icmpSendPacket got.frame]
    else []
  else if ntohs (got.frame.packet.load16 12) = ethPArp then
    [.handleArpPacket (some got.iface) got.frame]
  else []

end Received

/-- What happens to a frame once there is a buffer for it. -/
def Input.handle (inst : Instance) (now : Input) (got : Received) : Outcome Input :=
  handlePacket inst (some got.iface) got.frame got.tmp
    { now with buffers := now.buffers + 1 }

/-- Events one after the other. -/
def Event.execAll (events : List Event) (s : Stack) : Outcome Stack :=
  events.foldlM (fun s event => event.exec s) s

section Loop

variable {system : List Char → Device} {inst : Instance} {found : List IfAddrs}

theorem Event.execAll_cons (event : Event) (events : List Event) (s : Stack) :
    Event.execAll (event :: events) s = (event.exec s).bind (Event.execAll events) := by
  rw [Event.execAll, List.foldlM_cons]
  rfl

end Loop

/-! ## The packet thread -/

/-- A packet, with an address that `malloc` can return. -/
def Event.IsArrival (s : Stack) (event : Event) : Prop :=
  ∃ packet ip tcp tmp, event = .arrive packet ip tcp tmp ∧ tmp ≠ 0 ∧ tmp ∉ s.allocated

section Arrivals

variable {s later : Stack} {event : Event}

theorem Event.IsArrival.possible (arrival : event.IsArrival s) : event.Possible s := by
  obtain ⟨packet, ip, tcp, tmp, rfl, fresh⟩ := arrival
  exact fresh

theorem Event.IsArrival.orderly (arrival : event.IsArrival s) : event.Orderly s := by
  obtain ⟨packet, ip, tcp, tmp, rfl, _⟩ := arrival
  trivial

theorem Event.IsArrival.sparing (arrival : event.IsArrival s) (intact : s.Intact) :
    event.Sparing s := by
  refine ⟨arrival.orderly, intact, ?_⟩
  obtain ⟨packet, ip, tcp, tmp, rfl, _⟩ := arrival
  exact fun _ => nofun

/-- No sock is made for a packet. -/
theorem Event.IsArrival.allocated (arrival : event.IsArrival s) (reached : s.Reached)
    (done : event.run s = .ok later) : later.allocated = s.allocated := by
  rcases (reached.effect arrival.possible arrival.orderly done).allocated with
    same | ⟨tsk, rfl, _⟩
  · exact same
  · obtain ⟨_, _, _, _, isAlloc, _⟩ := arrival
    cases isAlloc

/-- Packets that find the stack intact, each of them, are a sparing run. -/
theorem Stack.Reached.execAll (reached : s.Reached) (events : List Event)
    (arrivals : ∀ event ∈ events, event.IsArrival s)
    (intact : ∀ first event rest middle, events = first ++ event :: rest →
      Event.execAll first s = .ok middle → middle.Intact)
    (done : Event.execAll events s = .ok later) : Run Event.Sparing s later := by
  induction events generalizing s with
  | nil =>
      cases done
      exact .refl
  | cons event events ih =>
      obtain ⟨own, rest⟩ := List.forall_mem_cons.mp arrivals
      rw [Event.execAll_cons] at done
      obtain ⟨middle, first, onward⟩ := Outcome.bind_eq_ok.mp done
      obtain ⟨ran, _⟩ := Event.exec_eq_ok.mp first
      have same := own.allocated reached ran
      have step : Step Event.Sparing s middle :=
        ⟨event, own.possible, own.sparing (intact [] event events s rfl rfl), ran⟩
      refine .head step (ih (reached.event own.possible own.orderly ran) ?_ ?_ onward)
      · intro other member
        obtain ⟨packet, ip, tcp, tmp, isArrive, fresh⟩ := rest other member
        exact ⟨packet, ip, tcp, tmp, isArrive, same ▸ fresh⟩
      · intro before last after between split run
        refine intact (event :: before) last after between (congrArg (event :: ·) split) ?_
        rw [Event.execAll_cons, first]
        exact run

end Arrivals

end TcpStack
