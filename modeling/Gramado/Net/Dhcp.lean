/-
The DHCP client of dhcp.c. A message is the 548 bytes of `struct dhcp_d`; what a
send does not write of its buffer is sent as it was. What the console prints is
left out.
-/
import Gramado.Lib.Bytes
import Gramado.Net.Frame

namespace Gramado.Net.Dhcp

open Gramado.Ke Gramado.Lib.BigEndian Gramado.Lib.Bytes

/-- The fields of `struct intel_nic_info_d` that the client looks at. -/
structure Nic where
  magic : Int
  initialized : Bool
  mac : Mac
  deriving DecidableEq, Repr

/-- `xid` is the number that its four bytes spell in a message. -/
structure DhcpInfo where
  initialized : Bool
  step : Nat
  yourIpv4 : UInt32
  yourMac : Mac
  serverIpv4 : UInt32
  yourIpv4Int : UInt32
  xid : UInt32
  deriving DecidableEq, Repr

/-- `dhcp_info` and what the client reads of the rest of the kernel. -/
structure DhcpClient where
  info : DhcpInfo
  isOnline : Bool
  networkStatus : Bool
  currentNIC : Option Nic
  nodename : List UInt8
  deriving DecidableEq, Repr

def DORA_D : UInt8 := 1

def DORA_O : UInt8 := 2

def DORA_R : UInt8 := 3

def DORA_A : UInt8 := 5

def dhcpMagicCookie : UInt32 := 0x63825363

/-- `rand` seeds itself from the ticks once more. -/
def rand (jiffies : UInt32) : UInt32 :=
  jiffies * 8 + 8

def dhcpXid (jiffies : UInt32) : UInt32 :=
  rand jiffies + 0x3903F326

/-- The step and the options of a message. Only two kinds are ever sent. -/
def dhcpOptions (nodename : List UInt8) (messageType : UInt8) (sourceIp targetIp : UInt32) :
    Option (Nat × List UInt8) :=
  if messageType = DORA_D then
    some (1, [53, 1, messageType, 55, 3, 1, 3, 6, 255])
  else if messageType = DORA_R then
    some (3, [53, 1, messageType, 50, 4] ++ be32 sourceIp ++ [54, 4] ++ be32 targetIp ++
      [55, 3, 1, 3, 6, 12, 7] ++ peek nodename 0 7 ++ [255])
  else
    none

/-- The message up to its options. -/
def dhcpHeader (messageType : UInt8) (xid : UInt32) (mac : Mac) : List UInt8 :=
  [1, 1, 6, 0] ++ be32 xid ++ be16 0 ++
    be16 (if messageType = DORA_D then 0x8000 else 0) ++
    be32 0 ++ be32 0 ++ be32 0 ++ be32 0 ++
    mac.bytes ++ List.replicate 10 0 ++ List.replicate 64 0 ++ List.replicate 128 0 ++
    be32 dhcpMagicCookie

def dhcpMessage (buffer : List UInt8) (messageType : UInt8) (xid : UInt32) (mac : Mac)
    (options : List UInt8) : List UInt8 :=
  let written := dhcpHeader messageType xid mac ++ options
  written ++ peek buffer written.length (548 - written.length)

def DhcpClient.saveXid (client : DhcpClient) (xid : UInt32) : DhcpClient :=
  { client with info := { client.info with xid := xid } }

def DhcpClient.saveMac (client : DhcpClient) (mac : Mac) : DhcpClient :=
  { client with info := { client.info with yourMac := mac } }

def DhcpClient.setStep (client : DhcpClient) (step : Nat) : DhcpClient :=
  { client with info := { client.info with step := step } }

/-- The address that discovers and requests go to. -/
def broadcastMac : Mac := ⟨255, 255, 255, 255, 255, 255⟩

/-- What was sent, if anything, and the buffer that it was sent from. The
    transaction number is saved before anything can fail. -/
def networkDhcpSend (client : DhcpClient) (buffer : List UInt8) (messageType : UInt8)
    (sourceIp targetIp : UInt32) (sport dport : UInt16) (jiffies : UInt32) :
    Except Stop (Option UdpSend × List UInt8 × DhcpClient) :=
  match client.currentNIC with
  | none => .ok (none, buffer, client.saveXid (dhcpXid jiffies))
  | some nic =>
      match dhcpOptions client.nodename messageType sourceIp targetIp with
      | none => .ok (none, buffer, (client.saveXid (dhcpXid jiffies)).saveMac nic.mac)
      | some (step, options) => do
          let message := dhcpMessage buffer messageType (dhcpXid jiffies) nic.mac options
          let send : UdpSend := ⟨0, 0xFFFFFFFF, broadcastMac, sport, dport, message⟩
          let _ ← networkSendUdp (some nic.mac) send
          pure (some send, message,
            ((client.saveXid (dhcpXid jiffies)).saveMac nic.mac).setStep step)

/-- The discovers of one call, from one buffer, at these ticks. -/
def sendDiscovers (client : DhcpClient) (buffer : List UInt8) :
    List UInt32 → Except Stop (List UdpSend × DhcpClient)
  | [] => .ok ([], client)
  | jiffies :: rest => do
      let (sent, buffer, client) ←
        networkDhcpSend client buffer DORA_D 0 0xFFFFFFFF 68 67 jiffies
      let (later, client) ← sendDiscovers client buffer rest
      pure (sent.toList ++ later, client)

/-- `buffer` is what lies on the stack where the message is built. -/
def networkInitializeDhcp (client : DhcpClient) (buffer : List UInt8) (jiffies : Fin 5 → UInt32) :
    Except Stop (List UdpSend × DhcpClient) :=
  let client := { client with info := { client.info with initialized := false, step := 0 } }
  if client.networkStatus ≠ true then
    .ok ([], client)
  else
    match client.currentNIC with
    | none => .ok ([], client)
    | some nic =>
        if nic.magic ≠ 1234 then
          .ok ([], client)
        else if nic.initialized ≠ true then
          .ok ([], client)
        else
          sendDiscovers client buffer (List.ofFn jiffies)

/-- `yiaddr` and `siaddr` of a message, and `options[2]`. -/
def yiaddr (buffer : List UInt8) : UInt32 := word32 buffer 16

def siaddr (buffer : List UInt8) : UInt32 := word32 buffer 20

def option2 (buffer : List UInt8) : UInt8 := byteAt buffer 242

/-- What an acknowledgement saves. -/
def DhcpClient.saveLease (client : DhcpClient) (yourIpv4 serverIpv4 : UInt32) : DhcpClient :=
  { client with
    info :=
      { client.info with
        step := 4
        yourIpv4 := yourIpv4
        serverIpv4 := serverIpv4
        yourIpv4Int := yourIpv4
        initialized := true }
    isOnline := true }

/-- `buffer` is the memory from the datagram on. Its size is a parameter that is
    not looked at; the tests of the operation, of the transaction number and of
    the first option are commented out. -/
def networkHandleDhcp (client : DhcpClient) (buffer : List UInt8) (jiffies : UInt32) :
    Except Stop (List UdpSend × DhcpClient) :=
  if option2 buffer = DORA_O then do
    let (sent, _, client) ← networkDhcpSend (client.setStep 2) buffer DORA_R (yiaddr buffer)
      (siaddr buffer) 68 67 jiffies
    pure (sent.toList, client)
  else if option2 buffer = DORA_A then
    .ok ([], client.saveLease (yiaddr buffer) (siaddr buffer))
  else
    .ok ([], client)

end Gramado.Net.Dhcp
