/-
The receive path as a whole: a frame is read, and what it delivers is handled
by arp.c, dhcp.c, gprot.c or tcp.c. Between two frames the kernel serves local
calls, and the rest of it changes what is not in the tables. What goes out on the
wire is said by the handlers' own modules and not followed here.
-/
import Gramado.Net.Arp
import Gramado.Net.Calls
import Gramado.Net.ParseBounds

namespace Gramado.Net.Reception

open Gramado.Ke Gramado.Lib Gramado.Lib.BigEndian Gramado.Lib.Traced
open Gramado.Net.Parse

/-- What the receive path reads and writes. The eight transmit buffers of a NIC
    are there: its driver does not finish without them. -/
structure Kernel where
  initialized : Bool
  locked : Bool
  currentNIC : Option Dhcp.Nic
  currentInterface : Bool
  status : Bool
  isOnline : Bool
  nodename : List UInt8
  saved : NetworkSaved
  networkInfo : Option Arp.NetworkInfo
  arpTable : Arp.ArpTable
  dhcpInfo : Dhcp.DhcpInfo
  tables : Tables

/-- The two calls of gprot.c that leave the network code: a message to the
    display server, and a command line for the shell of the console. -/
structure Outside where
  targetThreadQueue : Bool
  ipcPostMessageToDs : Except Stop Unit
  ibrokerParseCommand : List UInt8 → Except Stop Unit

/-- A frame, the memory behind it, and what its handling finds in the kernel. -/
structure Arrival where
  frame : List UInt8
  behind : List UInt8
  heap : Heap
  fsizeThere : Int
  isn : UInt32
  jiffies : UInt32
  outside : Outside

def Arrival.memory (a : Arrival) : List UInt8 :=
  a.frame ++ a.behind

section Views

def Kernel.receiver (k : Kernel) : Receiver where
  initialized := k.initialized
  locked := k.locked
  currentNIC := k.currentNIC.map Dhcp.Nic.mac
  saved := k.saved

/-- `ip_address` and `tx_cur` of the NIC are left out: sends write them, and all
    buffers are alike. -/
def Kernel.arp (k : Kernel) : Arp.Network where
  table := k.arpTable
  saved := k.saved
  networkInfo := k.networkInfo
  dhcpInfo := k.dhcpInfo
  status := k.status
  currentNIC := k.currentNIC.map fun nic => ⟨nic.mac, 0, 0, fun _ => true⟩
  currentInterface := k.currentInterface

def Kernel.dhcp (k : Kernel) : Dhcp.DhcpClient where
  info := k.dhcpInfo
  isOnline := k.isOnline
  networkStatus := k.status
  currentNIC := k.currentNIC
  nodename := k.nodename

def Kernel.env (k : Kernel) (a : Arrival) : Tcp.Env where
  currentNIC := k.currentNIC.map Dhcp.Nic.mac
  yourIpv4 := k.dhcpInfo.yourIpv4
  saved := k.saved
  isn := a.isn
  heap := a.heap
  fsizeThere := a.fsizeThere

def Kernel.setArp (k : Kernel) (s : Arp.Network) : Kernel :=
  { k with arpTable := s.table, saved := s.saved, networkInfo := s.networkInfo }

def Kernel.setDhcp (k : Kernel) (client : Dhcp.DhcpClient) : Kernel :=
  { k with dhcpInfo := client.info, isOnline := client.isOnline }

end Views

section Handling

/-- `__gprot_handle_g`. The requests are told apart by their third byte, and all
    but two of them are only answered. The command is cut to the 127 bytes that
    `cmd_buffer` has for it. -/
def gprotHandleG (k : Kernel) (outside : Outside) (buf : List UInt8) : Except Stop Unit :=
  if k.dhcpInfo.initialized = false then
    .ok ()
  else if byteAt buf 2 = 120 then
    if outside.targetThreadQueue then outside.ipcPostMessageToDs else .ok ()
  else if byteAt buf 2 = 99 ∧ (byteAt buf 3 = 32 ∨ byteAt buf 3 = 9) ∧ byteAt buf 4 ≠ 0 then
    outside.ibrokerParseCommand ((buf.drop 4).take 127)
  else
    .ok ()

/-- Everything but `g:` is taken for HTTP, which is only answered. -/
def gprotHandleProtocol (k : Kernel) (outside : Outside) (buf : List UInt8) : Except Stop Unit :=
  if byteAt buf 0 = 103 ∧ byteAt buf 1 = 58 then
    gprotHandleG k outside buf
  else
    .ok ()

/-- What the handlers do with what was read. A DHCP message is handled in the
    frame itself. -/
def handle (k : Kernel) (a : Arrival) : Delivery → Except Stop Kernel
  | .none => .ok k
  | .arp packet => do
      let (_, s) ← Arp.networkHandleArp k.arp (some ⟨packet, word32 a.memory 38⟩)
      pure (k.setArp s)
  | .dhcp _ => do
      let message := a.memory.drop (ParseBounds.transportBase a.memory + 8)
      let (_, client) ← Dhcp.networkHandleDhcp k.dhcp message a.jiffies
      pure (k.setDhcp client)
  | .udp datagram =>
      if datagram.dport = kdPort then do
        gprotHandleProtocol k a.outside datagram.payload
        pure k
      else
        .ok k
  | .tcp seg => do
      let (_, tables) ← Tcp.networkHandleTcp (k.env a) k.tables seg
      pure { k with tables := tables }

/-- What was read of the frame, with the addresses that the reading saves. -/
def delivered (k : Kernel) (a : Arrival) : Except Stop (Receiver × Delivery) :=
  value (networkHandleEthernet k.receiver a.frame.length) a.memory

/-- `network_handle_ethernet` with all that it calls. -/
def receive (k : Kernel) (a : Arrival) : Except Stop Kernel := do
  let (receiver, delivery) ← delivered k a
  handle { k with saved := receiver.saved } a delivery

end Handling

structure LocalCall where
  call : Calls.Call
  notReceived : ∀ env seg, call ≠ .segment env seg

/-- What can happen: a frame arrives, a process makes a call, or the rest of the
    kernel changes everything but the tables. -/
inductive Event where
  | frame (arrival : Arrival)
  | call (made : LocalCall)
  | elsewhere (after : Kernel)

def step (k : Kernel) : Event → Except Stop (Unit × Kernel)
  | .frame arrival => (receive k arrival).map ((), ·)
  | .call made => (Calls.serve k.tables made.call).map fun out => ((), { k with tables := out.2 })
  | .elsewhere after => .ok ((), { after with tables := k.tables })

end Gramado.Net.Reception
