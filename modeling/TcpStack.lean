import TcpStack.RingBuffer.Bounds
import TcpStack.ListHead
import TcpStack.Packet.Bounds
import TcpStack.Packet.RoundTrip
import TcpStack.Packet.Corruption
import TcpStack.Sock.Tables
import TcpStack.Sock.Calls
import TcpStack.Sock.ActiveOpen
import TcpStack.Sock.Resets
import TcpStack.Sock.Acknowledgement
import TcpStack.Sock.Lifetime
import TcpStack.Sock.Listener
import TcpStack.Sock.Waiting
import TcpStack.Sock.SequenceSpace
import TcpStack.Sock.Isolation
import TcpStack.Sock.SynFin
import TcpStack.Sock.Backlog
import TcpStack.Sock.Accepting
import TcpStack.Sock.Ports
import TcpStack.Sock.Connecting
import TcpStack.Sock.Release
import TcpStack.Sock.Names
import TcpStack.Sock.Unmatched
import TcpStack.Sock.Window
import TcpStack.Sock.Reading
import TcpStack.Sock.Endpoint
import TcpStack.Sock.Timers
import TcpStack.Sock.SignedComparison
import TcpStack.Sock.Unhash
import TcpStack.Sock.Network
import TcpStack.Sock.Counting
import TcpStack.Program.Machines
