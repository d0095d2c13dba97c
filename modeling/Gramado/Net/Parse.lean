/-
What the receive path reads from a frame: the reading half of
network_handle_ethernet and of the handlers below it, down to the copy of the
payload into `__tcp_payload` and `udp_payload`. Every read is in the trace, and
so is every pointer and size that one handler passes to the next. What the
handlers then do with the state of the kernel is in other modules, and
`Delivery` is what they get. The firewall is switched off in the source.
-/
import Gramado.Lib.Traced
import Gramado.Net.Frame

namespace Gramado.Net.Parse

open Gramado.Ke Gramado.Lib.BigEndian Gramado.Lib.Traced

/-- `NetworkSaved`. The caller's address is kept twice there, as octets and as
    a number; here it is one number. -/
structure NetworkSaved where
  gatewayIpv4 : UInt32
  gatewayMac : Mac
  callerIpv4 : UInt32
  callerMac : Mac
  targetIp : UInt32
  deriving DecidableEq, Repr

/-- What the reading depends on, and what it writes. -/
structure Receiver where
  initialized : Bool
  locked : Bool
  currentNIC : Option Mac
  saved : NetworkSaved
  deriving DecidableEq, Repr

structure ArpPacket where
  op : UInt16
  sha : Mac
  spa : UInt32
  deriving DecidableEq, Repr

structure DhcpMessage where
  yiaddr : UInt32
  siaddr : UInt32
  messageType : UInt8
  deriving DecidableEq, Repr

/-- A datagram as it lies in `udp_payload`: a string. -/
structure Datagram where
  sport : UInt16
  dport : UInt16
  payload : List UInt8
  deriving DecidableEq, Repr

/-- A segment as a TCP handler sees it: `data_len` is the payload's length, and
    the payload lies in `__tcp_payload[1400]` with two zero bytes behind it. -/
structure Segment where
  sIpv4 : UInt32
  dIpv4 : UInt32
  sport : UInt16
  dport : UInt16
  seq : UInt32
  ack : UInt32
  flags : UInt16
  window : UInt16
  payload : List UInt8
  fits : payload.length ≤ 1398
  deriving DecidableEq, Repr

theorem nil_fits : ([] : List UInt8).length ≤ 1398 := Nat.zero_le _

theorem copied_fits (copied : { payload : List UInt8 // payload.length ≤ 1398 }) :
    copied.val.length ≤ 1398 := copied.property

inductive Delivery where
  | none
  | arp (packet : ArpPacket)
  | dhcp (message : DhcpMessage)
  | udp (datagram : Datagram)
  | tcp (segment : Segment)
  deriving DecidableEq, Repr

def firstEphemeralPort : UInt16 := 32768

def lastEphemeralPort : UInt16 := 32999

def kdPort : UInt16 := 11888

/-- `AllowThisPort` of the two handlers that are not the kernel debugger's. -/
def allowThisPort (dport : UInt16) : Bool :=
  (firstEphemeralPort ≤ dport && dport ≤ lastEphemeralPort) ||
    dport == 4040 || dport == 4041 || dport == 22888

/-- The size of `struct dhcp_d`. -/
def dhcpSize : Nat := 548

def readMac (off : Nat) : Program Stop Mac := do
  let b0 ← read8 off
  let b1 ← read8 (off + 1)
  let b2 ← read8 (off + 2)
  let b3 ← read8 (off + 3)
  let b4 ← read8 (off + 4)
  let b5 ← read8 (off + 5)
  pure ⟨b0, b1, b2, b3, b4, b5⟩

theorem readMac_value (off : Nat) (mem : List UInt8) :
    value (readMac off) mem = .ok ⟨byteAt mem off, byteAt mem (off + 1), byteAt mem (off + 2),
      byteAt mem (off + 3), byteAt mem (off + 4), byteAt mem (off + 5)⟩ := rfl

theorem readMac_events (off : Nat) (mem : List UInt8) :
    events (readMac off) mem = [.read off 1, .read (off + 1) 1, .read (off + 2) 1,
      .read (off + 3) 1, .read (off + 4) 1, .read (off + 5) 1] := rfl

/-- The payload copy of the TCP handlers: `strncpy`, then a zero byte at
    `__tcp_payload[data_len + 1]`, which the array of 1400 has for 1398 at most. -/
def copyTcpPayload (off : Nat) (size : Int) :
    Program Stop { payload : List UInt8 // payload.length ≤ 1398 } := do
  let dataLen := (size - 20).toNat
  let dataLen := if 1400 ≤ dataLen then 1400 - 2 else dataLen
  let copied ← strncpy off dataLen
  if fits : dataLen ≤ 1398 then
    pure ⟨copied.val, le_of_eq_of_le copied.property fits⟩
  else
    stop (.fault "__tcp_payload")

/-- The kernel debugger's handler looks at its port before it copies, the other
    two at `AllowThisPort`. -/
def networkHandleTcp (sIpv4 dIpv4 : UInt32) (base : Nat) (size : Int) :
    Program Stop Delivery :=
  if size < 20 then
    pure .none
  else do
    let sport ← read16 base
    let dport ← read16 (base + 2)
    let seq ← read32 (base + 4)
    let ack ← read32 (base + 8)
    let flags ← read16 (base + 12)
    let window ← read16 (base + 14)
    let _urgentPointer ← read16 (base + 18)
    if dport = kdPort ∨ allowThisPort dport then
      let copied ← copyTcpPayload (base + 20) size
      pure (.tcp ⟨sIpv4, dIpv4, sport, dport, seq, ack, flags, window, copied.val,
        copied_fits copied⟩)
    else
      pure .none

/-- The size is a parameter that `network_handle_dhcp` does not look at. An
    offer is answered from the received message itself, and `network_send_udp`
    then reads all of it. -/
def networkHandleDhcp (currentNIC : Option Mac) (base : Nat) : Program Stop Delivery := do
  let yiaddr ← read32 (base + 16)
  let siaddr ← read32 (base + 20)
  let _chaddr ← readMac (base + 28)
  let _op ← read8 base
  let messageType ← read8 (base + 242)
  if messageType = 2 ∧ currentNIC.isSome then
    let _message ← readBytes base dhcpSize
    pure (.dhcp ⟨yiaddr, siaddr, messageType⟩)
  else
    pure (.dhcp ⟨yiaddr, siaddr, messageType⟩)

theorem dhcp_value (currentNIC : Option Mac) (base : Nat) (mem : List UInt8) :
    value (networkHandleDhcp currentNIC base) mem =
      .ok (.dhcp ⟨word32 mem (base + 16), word32 mem (base + 20), byteAt mem (base + 242)⟩) := by
  simp only [networkHandleDhcp, value_bind, value_read32, value_read8, readMac_value, Except.bind,
    value_ite, value_readBytes, value_pure]
  split <;> rfl

/-- The copy into `udp_payload`, which is cleared before. The length is the
    string's, and the size of the datagram is not looked at. -/
def copyUdpPayload (off : Nat) : Program Stop (List UInt8) := do
  let pSize ← strlen off
  if pSize ≤ 512 then
    Subtype.val <$> strncpy off pSize
  else
    pure []

/-- What the copy leaves in `udp_payload`. -/
def received (bytes : List UInt8) : List UInt8 :=
  if (text bytes).length ≤ 512 then text bytes else []

theorem copyUdpPayload_value (off : Nat) (mem : List UInt8) :
    value (copyUdpPayload off) mem = .ok (received (mem.drop off)) := by
  simp only [copyUdpPayload, value_bind, value_strlen, Except.bind, value_ite, value_map,
    value_strncpy, Except.map, cut_peek_text, value_pure, received]
  split <;> rfl

/-- `uh_ulen` is used without `FromNetByteOrder16`. -/
def networkHandleUdp (currentNIC : Option Mac) (base : Nat) (size : Int) :
    Program Stop Delivery :=
  if size < 8 then
    pure .none
  else do
    let sport ← read16 base
    let dport ← read16 (base + 2)
    if dport = 80 ∨ dport = 443 then
      pure .none
    else
      let payload ← copyUdpPayload (base + 8)
      if dport = 68 then
        let uhUlen ← read16 (base + 4)
        leave (.pass (base + 8) ((toNetByteOrder16 uhUlen).toNat - 8))
        networkHandleDhcp currentNIC (base + 8)
      else
        pure (.udp ⟨sport, dport, payload⟩)

/-- The gateway's address, as `network_handle_arp` tests it byte by byte. -/
def readIsGateway (off : Nat) : Program Stop Bool := do
  let b0 ← read8 off
  if b0 = 192 then
    let b1 ← read8 (off + 1)
    if b1 = 168 then
      let b2 ← read8 (off + 2)
      if b2 = 1 then
        let b3 ← read8 (off + 3)
        pure (b3 = 1)
      else
        pure false
    else
      pure false
  else
    pure false

/-- There is no test of the size. -/
def networkHandleArp (saved : NetworkSaved) (base : Nat) :
    Program Stop (NetworkSaved × Delivery) := do
  let isGateway ← readIsGateway (base + 14)
  let saved ← if isGateway then do
      let spa ← read32 (base + 14)
      let sha ← readMac (base + 8)
      pure { saved with gatewayIpv4 := spa, gatewayMac := sha }
    else
      pure saved
  let op ← read16 (base + 6)
  if op = 1 ∨ op = 2 then
    let sha ← readMac (base + 8)
    let spa ← read32 (base + 14)
    pure (saved, .arp ⟨op, sha, spa⟩)
  else
    pure (saved, .none)

/-- `panic("IP: Bad total lenght #debug\n")` -/
def badTotalLength : Stop := .panic "IP: Bad total lenght #debug\n"

def networkHandleIpv4 (currentNIC : Option Mac) (saved : NetworkSaved) (base : Nat)
    (size : Int) : Program Stop (NetworkSaved × Delivery) :=
  if size < 20 then
    pure (saved, .none)
  else do
    let src ← read32 (base + 12)
    let dst ← read32 (base + 16)
    let saved := { saved with callerIpv4 := src, targetIp := dst }
    let vHl ← read8 base
    let headerLength := vHl.toNat % 16 * 4
    if vHl.toNat / 16 ≠ 4 then
      pure (saved, .none)
    else
      let ipLength ← read16 (base + 2)
      if ipLength < 20 then
        stop badTotalLength
      else
        let payloadBase := base + headerLength
        let payloadSize : Int := ipLength.toNat - headerLength
        let protocol ← read8 (base + 9)
        if protocol = 0x06 then
          leave (.pass payloadBase payloadSize)
          Prod.mk saved <$> networkHandleTcp src dst payloadBase payloadSize
        else if protocol = 0x11 then
          leave (.pass payloadBase payloadSize)
          Prod.mk saved <$> networkHandleUdp currentNIC payloadBase payloadSize
        else
          pure (saved, .none)

def Receiver.save (receiver : Receiver) (handled : NetworkSaved × Delivery) :
    Receiver × Delivery :=
  ({ receiver with saved := handled.1 }, handled.2)

def networkHandleEthernet (receiver : Receiver) (frameSize : Int) :
    Program Stop (Receiver × Delivery) :=
  if ¬receiver.initialized ∨ receiver.locked then
    pure (receiver, .none)
  else if frameSize < 14 ∨ frameSize > 8192 then
    pure (receiver, .none)
  else do
    let src ← readMac 6
    let saved := { receiver.saved with callerMac := src }
    let type ← read16 12
    receiver.save <$>
      if type = 0x0800 then do
        leave (.pass 14 (frameSize - 14))
        networkHandleIpv4 receiver.currentNIC saved 14 (frameSize - 14)
      else if type = 0x0806 then do
        leave (.pass 14 (frameSize - 14))
        networkHandleArp saved 14
      else
        pure (saved, .none)

end Gramado.Net.Parse
