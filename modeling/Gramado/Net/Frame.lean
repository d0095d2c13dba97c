/-
The frames that network_send_tcp and network_send_udp put into the transmit
buffer. An `uint8_t ip[4]` is the number in host order that its octets spell.
A field that the source swaps with `ToNetByteOrder16` or `ToNetByteOrder32`
and stores on a little-endian machine lies in memory high byte first, so it is
written with `be16` or `be32`. What the console prints and the copy of the
source address in the NIC structure are left out.
-/
import Gramado.Ke
import Gramado.Lib.BigEndian

namespace Gramado.Net

open Gramado.Ke Gramado.Lib.BigEndian

structure Mac where
  b0 : UInt8
  b1 : UInt8
  b2 : UInt8
  b3 : UInt8
  b4 : UInt8
  b5 : UInt8
  deriving DecidableEq, Repr

def Mac.bytes (mac : Mac) : List UInt8 :=
  [mac.b0, mac.b1, mac.b2, mac.b3, mac.b4, mac.b5]

def toNetByteOrder16 (v : UInt16) : UInt16 :=
  UInt16.ofNat (v.toNat % 2 ^ 8 * 2 ^ 8 + v.toNat / 2 ^ 8)

/-- The 16-bit words of `__tcp_checksum`. An odd last byte is padded with zero. -/
def tcpWords : List UInt8 → Nat
  | [] => 0
  | [high] => high.toNat * 2 ^ 8
  | high :: low :: rest => high.toNat * 2 ^ 8 + low.toNat + tcpWords rest

/-- `while (sum >> 16) sum = (sum & 0xFFFF) + (sum >> 16)` -/
def foldCarries (sum : Nat) : Nat :=
  if 2 ^ 16 ≤ sum then
    foldCarries (sum % 2 ^ 16 + sum / 2 ^ 16)
  else
    sum
termination_by sum

def tcpChecksum (srcIp dstIp : UInt32) (tcpSegment : List UInt8) : UInt16 :=
  let pseudo := tcpWords (be32 srcIp) + tcpWords (be32 dstIp) + 6 + tcpSegment.length % 2 ^ 16
  ~~~UInt16.ofNat (foldCarries ((pseudo + tcpWords tcpSegment) % 2 ^ 32))

/-- The words of `net_checksum`, as a little-endian machine reads them. -/
def netWords : List UInt8 → Nat
  | [] => 0
  | [low] => low.toNat
  | low :: high :: rest => low.toNat + high.toNat * 2 ^ 8 + netWords rest

/-- `net_checksum` without a pseudo header. The carries are folded twice, and
    the result has its bytes swapped. -/
def netChecksum (start : List UInt8) : UInt16 :=
  let checksum := netWords start % 2 ^ 32
  let checksum := checksum % 2 ^ 16 + checksum / 2 ^ 16
  let checksum := checksum + checksum / 2 ^ 16
  toNetByteOrder16 (~~~UInt16.ofNat checksum)

def ethernetHeader (dst src : Mac) (type : UInt16) : List UInt8 :=
  dst.bytes ++ src.bytes ++ be16 type

def ipHeaderWith (sum : UInt16) (protocol : UInt8) (totalLen : UInt16)
    (sourceIp targetIp : UInt32) : List UInt8 :=
  [0x45, 0x00] ++ be16 totalLen ++ be16 0 ++ be16 0x4000 ++ [255, protocol] ++ be16 sum ++
    be32 sourceIp ++ be32 targetIp

/-- The caller of `net_checksum` swaps the result once more before it is stored. -/
def ipHeader (protocol : UInt8) (totalLen : UInt16) (sourceIp targetIp : UInt32) : List UInt8 :=
  ipHeaderWith (netChecksum (ipHeaderWith 0 protocol totalLen sourceIp targetIp))
    protocol totalLen sourceIp targetIp

def tcpHeaderWith (checksum sourcePort targetPort : UInt16) (seq ack : UInt32)
    (flags : UInt16) : List UInt8 :=
  be16 sourcePort ++ be16 targetPort ++ be32 seq ++ be32 ack ++ be16 (0x5000 ||| flags) ++
    be16 512 ++ be16 checksum ++ be16 0

def udpHeader (sourcePort targetPort ulen : UInt16) : List UInt8 :=
  be16 sourcePort ++ be16 targetPort ++ be16 ulen ++ be16 0

/-- The arguments of `network_send_tcp`. -/
structure TcpSend where
  sourceIp : UInt32
  targetIp : UInt32
  targetMac : Mac
  sourcePort : UInt16
  targetPort : UInt16
  seq : UInt32
  ack : UInt32
  flags : UInt16
  data : List UInt8
  deriving DecidableEq, Repr

/-- The arguments of `network_send_udp`. -/
structure UdpSend where
  sourceIp : UInt32
  targetIp : UInt32
  targetMac : Mac
  sourcePort : UInt16
  targetPort : UInt16
  data : List UInt8
  deriving DecidableEq, Repr

/-- `E1000_DEFAULT_BUFFER_SIZE`, the size of each transmit buffer. -/
def txBufferSize : Nat := 8192

def tcpHeader (s : TcpSend) : List UInt8 :=
  let zeroed := tcpHeaderWith 0 s.sourcePort s.targetPort s.seq s.ack s.flags
  tcpHeaderWith (tcpChecksum s.sourceIp s.targetIp (zeroed ++ s.data))
    s.sourcePort s.targetPort s.seq s.ack s.flags

def tcpFrame (mac : Mac) (s : TcpSend) : List UInt8 :=
  ethernetHeader s.targetMac mac 0x0800 ++
    (ipHeader 0x06 (UInt16.ofNat (40 + s.data.length)) s.sourceIp s.targetIp ++
      (tcpHeader s ++ s.data))

def udpFrame (mac : Mac) (s : UdpSend) : List UInt8 :=
  ethernetHeader s.targetMac mac 0x0800 ++
    (ipHeader 0x11 (UInt16.ofNat (28 + s.data.length)) s.sourceIp s.targetIp ++
      (udpHeader s.sourcePort s.targetPort (UInt16.ofNat (8 + s.data.length)) ++ s.data))

/-- The copy loops into `tx_buffers_virt[tx_cur]` have no bound of their own.
    `none` is the return value -1, when there is no `currentNIC`. -/
def transmit (currentNIC : Option Mac) (frame : Mac → List UInt8) :
    Except Stop (Option (List UInt8)) :=
  match currentNIC with
  | none => .ok none
  | some mac =>
      if (frame mac).length ≤ txBufferSize then
        .ok (some (frame mac))
      else
        .error (.fault "tx_buffers_virt")

def networkSendTcp (currentNIC : Option Mac) (s : TcpSend) : Except Stop (Option (List UInt8)) :=
  transmit currentNIC fun mac => tcpFrame mac s

def networkSendUdp (currentNIC : Option Mac) (s : UdpSend) : Except Stop (Option (List UInt8)) :=
  transmit currentNIC fun mac => udpFrame mac s

section Lengths

@[simp] theorem length_ethernetHeader (dst src : Mac) (type : UInt16) :
    (ethernetHeader dst src type).length = 14 := rfl

@[simp] theorem length_ipHeader (protocol : UInt8) (totalLen : UInt16)
    (sourceIp targetIp : UInt32) :
    (ipHeader protocol totalLen sourceIp targetIp).length = 20 := rfl

@[simp] theorem length_tcpHeader (s : TcpSend) : (tcpHeader s).length = 20 := rfl

@[simp] theorem length_udpHeader (sourcePort targetPort ulen : UInt16) :
    (udpHeader sourcePort targetPort ulen).length = 8 := rfl

@[simp] theorem length_tcpFrame (mac : Mac) (s : TcpSend) :
    (tcpFrame mac s).length = 54 + s.data.length := by
  simp only [tcpFrame, List.length_append, length_ethernetHeader, length_ipHeader,
    length_tcpHeader]
  omega

@[simp] theorem length_udpFrame (mac : Mac) (s : UdpSend) :
    (udpFrame mac s).length = 42 + s.data.length := by
  simp only [udpFrame, List.length_append, length_ethernetHeader, length_ipHeader,
    length_udpHeader]
  omega

end Lengths

end Gramado.Net
