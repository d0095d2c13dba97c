/-
Which frames the receive path reads without leaving them. The frame is the
first part of the memory behind the pointer, and what lies behind the frame is
arbitrary.
-/
import Gramado.Net.Parse

namespace Gramado.Net.ParseBounds

open Gramado.Ke Gramado.Lib.BigEndian Gramado.Lib.Bytes Gramado.Lib.Traced Gramado.Net.Parse

section Fields

variable (frame : List UInt8)

def etherType : UInt16 := word16 frame 12

def version : Nat := (byteAt frame 14).toNat / 16

def headerLength : Nat := (byteAt frame 14).toNat % 16 * 4

def ipLength : Nat := (word16 frame 16).toNat

def protocol : UInt8 := byteAt frame 23

def transportBase : Nat := 14 + headerLength frame

def transportSize : Nat := ipLength frame - headerLength frame

def destinationPort : UInt16 := word16 frame (transportBase frame + 2)

/-- The TCP data offset in bytes. -/
def dataOffset : Nat := (byteAt frame (transportBase frame + 12)).toNat / 16 * 4

def udpLength : UInt16 := word16 frame (transportBase frame + 4)

/-- The length fields of an IPv4 packet do not describe the frame they came in. -/
def LengthsContradict : Prop :=
  headerLength frame < 20 ∨ ipLength frame < headerLength frame ∨
    frame.length < 14 + ipLength frame ∨
    (protocol frame = 0x06 ∧ 20 ≤ transportSize frame ∧
      (dataOffset frame < 20 ∨ transportSize frame < dataOffset frame)) ∨
    (protocol frame = 0x11 ∧ 8 ≤ transportSize frame ∧
      ((udpLength frame).toNat < 8 ∨ transportSize frame < (udpLength frame).toNat))

/-- The frame holds an IPv4 header. -/
def IsIpv4 : Prop :=
  etherType frame = 0x0800 ∧ 34 ≤ frame.length ∧ version frame = 4

/-- What the DHCP handler reads at `base`, and the size it is told. -/
def DhcpInside (base : Nat) : Prop :=
  8 ≤ (toNetByteOrder16 (udpLength frame)).toNat ∧
    base + ((toNetByteOrder16 (udpLength frame)).toNat - 8) ≤ frame.length ∧
    base + 243 ≤ frame.length ∧
    (byteAt frame (base + 242) = 2 → base + dhcpSize ≤ frame.length)

/-- The UDP handler looks for the end of a string. -/
def UdpInside : Prop :=
  transportSize frame < 8 ∨ destinationPort frame = 80 ∨ destinationPort frame = 443 ∨
    ((0 : UInt8) ∈ frame.drop (transportBase frame + 8) ∧
      (destinationPort frame = 68 → DhcpInside frame (transportBase frame + 8)))

/-- The ARP handler does not look at the size: with less than 18 bytes of a
    packet it stays inside when it finds early that the sender is not the
    gateway and that the packet is neither a request nor a reply. -/
def ArpInside : Prop :=
  32 ≤ frame.length ∨
    (29 ≤ frame.length ∧ word16 frame 20 ≠ 1 ∧ word16 frame 20 ≠ 2 ∧
      (byteAt frame 28 ≠ 192 ∨
        (30 ≤ frame.length ∧
          (byteAt frame 29 ≠ 168 ∨ (31 ≤ frame.length ∧ byteAt frame 30 ≠ 1)))))

def FrameInside : Prop :=
  frame.length < 14 ∨ 8192 < frame.length ∨
    (etherType frame = 0x0806 → ArpInside frame) ∧
      (IsIpv4 frame → ¬LengthsContradict frame ∧ (protocol frame = 0x11 → UdpInside frame))

end Fields

/-- For every state and whatever lies behind the frame, nothing outside it is
    read or handed on, and a frame whose lengths contradict it has no effect. -/
def ParsedInside (frame : List UInt8) : Prop :=
  ∀ (receiver : Receiver) (rest : List UInt8),
    Stays frame.length (networkHandleEthernet receiver frame.length) (frame ++ rest) ∧
      (IsIpv4 frame ∧ LengthsContradict frame →
        value (networkHandleEthernet receiver frame.length) (frame ++ rest) =
          .ok (receiver, .none))

section Memory

variable {frame : List UInt8} (rest : List UInt8) {off : Nat}

theorem byteAt_frame (inside : off < frame.length) :
    byteAt (frame ++ rest) off = byteAt frame off :=
  List.getD_append _ _ _ _ inside

theorem word16_frame (inside : off + 1 < frame.length) :
    word16 (frame ++ rest) off = word16 frame off := by
  rw [word16, word16, byteAt_frame rest (by omega), byteAt_frame rest inside]

/-- A string that starts in the frame ends in it when the frame has a zero byte
    for it. -/
theorem text_inside_iff (inside : off ≤ frame.length) :
    off + ((text ((frame ++ rest).drop off)).length + 1) ≤ frame.length ↔
      (0 : UInt8) ∈ frame.drop off := by
  rw [List.drop_append_of_le_length inside]
  have drop : (frame.drop off).length = frame.length - off := List.length_drop
  constructor
  · intro ends
    by_contra free
    rw [text_append_of_zero_free free, List.length_append] at ends
    omega
  · intro zero
    have ends := text_length_lt rest zero
    omega

end Memory

section Handlers

variable {frame : List UInt8} {base n : Nat}

theorem readMac_stays (mem : List UInt8) (off : Nat) : Stays n (readMac off) mem ↔ off + 6 ≤ n := by
  simp only [Stays, readMac_events, List.forall_mem_cons, Event.Within]
  simp
  omega

theorem copyTcpPayload_stays (mem : List UInt8) {size : Int} (long : 20 ≤ size)
    (inside : base + size ≤ n) : Stays n (copyTcpPayload (base + 20) size) mem := by
  simp only [copyTcpPayload, stays_bind, stays_strncpy, stays_dite, stays_pure, stays_stop,
    implies_true, and_true]
  split <;> omega

theorem tcp_stays {mem : List UInt8} {sIpv4 dIpv4 : UInt32} {size : Int}
    (inside : base + size ≤ n) : Stays n (networkHandleTcp sIpv4 dIpv4 base size) mem := by
  by_cases short : size < 20
  · simp [networkHandleTcp, short]
  · have copied := copyTcpPayload_stays mem (Int.not_lt.mp short) inside
    simp only [networkHandleTcp, short, if_false, stays_bind, stays_read16, stays_read32,
      value_read16, value_read32, Except.ok.injEq, forall_eq', stays_ite, copied, stays_pure]
    refine ⟨?_, ?_, ?_, ?_, ?_, ?_, ?_, ?_⟩
    all_goals first | omega | simp

theorem dhcp_stays {mem : List UInt8} {currentNIC : Option Mac} :
    Stays n (networkHandleDhcp currentNIC base) mem ↔
      base + 243 ≤ n ∧
        (byteAt mem (base + 242) = 2 ∧ currentNIC.isSome → base + dhcpSize ≤ n) := by
  simp only [networkHandleDhcp, stays_bind, stays_read32, stays_read8, readMac_stays, value_read32,
    value_read8, readMac_value, Except.ok.injEq, forall_eq', stays_ite, stays_readBytes,
    value_readBytes, stays_pure]
  by_cases offer : byteAt mem (base + 242) = 2 ∧ currentNIC.isSome
  · simp only [offer, and_true, and_self, if_true, true_implies, dhcpSize]
    omega
  · simp only [offer, if_false, and_true, false_implies]
    omega

theorem copyUdpPayload_stays {mem : List UInt8} {off : Nat} :
    Stays n (copyUdpPayload off) mem ↔ off + ((text (mem.drop off)).length + 1) ≤ n := by
  simp only [copyUdpPayload, stays_bind, stays_strlen, value_strlen, Except.ok.injEq, forall_eq',
    stays_ite, stays_map, stays_strncpy, stays_pure]
  constructor
  · exact fun inside => inside.1
  · intro inside
    refine ⟨inside, ?_⟩
    split
    · omega
    · trivial

theorem readIsGateway_stays (mem : List UInt8) (off : Nat) :
    Stays n (readIsGateway off) mem ↔
      off + 1 ≤ n ∧ (byteAt mem off = 192 → off + 2 ≤ n ∧ (byteAt mem (off + 1) = 168 →
        off + 3 ≤ n ∧ (byteAt mem (off + 2) = 1 → off + 4 ≤ n))) := by
  simp only [readIsGateway, stays_bind, stays_read8, value_read8, Except.ok.injEq, forall_eq',
    stays_ite, stays_pure]
  grind

theorem readIsGateway_value (mem : List UInt8) (off : Nat) :
    value (readIsGateway off) mem =
      .ok (decide (byteAt mem off = 192 ∧ byteAt mem (off + 1) = 168 ∧
        byteAt mem (off + 2) = 1 ∧ byteAt mem (off + 3) = 1)) := by
  simp only [readIsGateway, value_bind, value_read8, Except.bind, value_ite, value_pure]
  by_cases first : byteAt mem off = 192
  · by_cases second : byteAt mem (off + 1) = 168
    · by_cases third : byteAt mem (off + 2) = 1 <;> simp [first, second, third]
    · simp [first, second]
  · simp [first]

theorem arp_stays (saved : NetworkSaved) (rest : List UInt8) :
    Stays frame.length (networkHandleArp saved 14) (frame ++ rest) ↔ ArpInside frame := by
  simp only [networkHandleArp, stays_bind, readIsGateway_stays, readIsGateway_value,
    Except.ok.injEq, forall_eq', stays_ite, stays_read32, value_read32, readMac_stays,
    readMac_value, stays_pure, stays_read16, value_read16, Nat.reduceAdd, value_pure, ArpInside,
    decide_eq_true_eq, true_and, and_true]
  by_cases start : 29 ≤ frame.length
  · -- from byte 28 on the bytes read decide how far the handler goes
    have first := byteAt_frame rest (show 28 < frame.length by omega)
    have op := word16_frame rest (show 20 + 1 < frame.length by omega)
    by_cases second : 30 ≤ frame.length
    · have byte29 := byteAt_frame rest (show 29 < frame.length by omega)
      by_cases third : 31 ≤ frame.length
      · have byte30 := byteAt_frame rest (show 30 < frame.length by omega)
        grind
      · grind
    · grind
  · grind

theorem udp_stays (currentNIC : Option Mac) (rest : List UInt8) {size : Nat}
    (inside : base + size ≤ frame.length) :
    Stays frame.length (networkHandleUdp currentNIC base size) (frame ++ rest) ↔
      size < 8 ∨ word16 frame (base + 2) = 80 ∨ word16 frame (base + 2) = 443 ∨
        ((0 : UInt8) ∈ frame.drop (base + 8) ∧
          (word16 frame (base + 2) = 68 →
            8 ≤ (toNetByteOrder16 (word16 frame (base + 4))).toNat ∧
            base + 8 + ((toNetByteOrder16 (word16 frame (base + 4))).toNat - 8) ≤ frame.length ∧
            base + 8 + 243 ≤ frame.length ∧
            (byteAt frame (base + 8 + 242) = 2 ∧ currentNIC.isSome →
              base + 8 + dhcpSize ≤ frame.length))) := by
  by_cases short : (size : Int) < 8
  · have small : size < 8 := by omega
    simp [networkHandleUdp, short, small]
  · have large : ¬size < 8 := by omega
    have ends := text_inside_iff rest (show base + 8 ≤ frame.length by omega)
    simp only [networkHandleUdp, short, large, if_false, stays_bind, stays_read16, value_read16,
      Except.ok.injEq, forall_eq', stays_ite, stays_pure, copyUdpPayload_stays, ends, stays_leave,
      value_leave, dhcp_stays, false_or, copyUdpPayload_value, forall_const,
        word16_frame rest (show base + 2 + 1 < frame.length by omega),
      word16_frame rest (show base + 4 + 1 < frame.length by omega), Event.Within]
    by_cases noise : word16 frame (base + 2) = 80 ∨ word16 frame (base + 2) = 443
    · simp only [noise, if_true]
      grind
    · by_cases dhcp : word16 frame (base + 2) = 68
      · have byte : base + 8 + 242 < frame.length →
            byteAt (frame ++ rest) (base + 8 + 242) = byteAt frame (base + 8 + 242) :=
          byteAt_frame rest
        grind
      · grind

/-- What is asked of the layers above when the IPv4 handler passes their part on. -/
def Ipv4Stays (currentNIC : Option Mac) (frame rest : List UInt8) : Prop :=
  version frame = 4 → 20 ≤ ipLength frame →
    (protocol frame = 0x06 →
      (Event.pass (transportBase frame) (ipLength frame - headerLength frame)).Within
          frame.length ∧
        Stays frame.length
          (networkHandleTcp (word32 (frame ++ rest) 26) (word32 (frame ++ rest) 30)
            (transportBase frame) (ipLength frame - headerLength frame)) (frame ++ rest)) ∧
    (protocol frame = 0x11 →
      (Event.pass (transportBase frame) (ipLength frame - headerLength frame)).Within
          frame.length ∧
        Stays frame.length
          (networkHandleUdp currentNIC (transportBase frame)
            (ipLength frame - headerLength frame)) (frame ++ rest))

theorem ipv4_stays (currentNIC : Option Mac) (saved : NetworkSaved) (rest : List UInt8)
    (long : 34 ≤ frame.length) :
    Stays frame.length (networkHandleIpv4 currentNIC saved 14 (frame.length - 14))
        (frame ++ rest) ↔ Ipv4Stays currentNIC frame rest := by
  have room : ¬((frame.length : Int) - 14 < 20) := by omega
  have vHl := byteAt_frame rest (show 14 < frame.length by omega)
  have length := word16_frame rest (show 16 + 1 < frame.length by omega)
  have proto := byteAt_frame rest (show 23 < frame.length by omega)
  have short : word16 frame 16 < 20 ↔ ¬20 ≤ ipLength frame := by
    rw [ipLength, UInt16.lt_iff_toNat_lt]
    exact Nat.not_le.symm
  simp only [networkHandleIpv4, room, if_false, stays_bind, stays_read32, value_read32,
    Except.ok.injEq, forall_eq', stays_read8, value_read8, stays_ite, stays_pure, stays_read16,
    value_read16, stays_stop, stays_leave, stays_map, value_leave, forall_const, Nat.reduceAdd,
    vHl, length, proto, short]
  rw [← version, ← headerLength, ← ipLength, ← protocol, ← transportBase, Ipv4Stays]
  grind

theorem ipv4_keeps_callerMac (currentNIC : Option Mac) (saved : NetworkSaved) (base : Nat)
    (size : Int) (mem : List UInt8) :
    Gives (fun handled => handled.1.callerMac = saved.callerMac)
      (networkHandleIpv4 currentNIC saved base size) mem := by
  simp only [networkHandleIpv4, gives_ite, gives_bind, gives_pure, gives_stop, gives_map,
    gives_true, ite_self]

theorem arp_keeps_callerMac (saved : NetworkSaved) (base : Nat) (mem : List UInt8) :
    Gives (fun handled => handled.1.callerMac = saved.callerMac)
      (networkHandleArp saved base) mem := by
  simp only [networkHandleArp, gives_bind, gives_ite, gives_pure, gives_true, ite_self]

end Handlers

section Frames

variable {frame : List UInt8} {receiver : Receiver}

theorem ethernet_drops (receiver : Receiver) (rest : List UInt8)
    (out : frame.length < 14 ∨ 8192 < frame.length) :
    networkHandleEthernet receiver frame.length (frame ++ rest) = (.ok (receiver, .none), []) := by
  have size : (frame.length : Int) < 14 ∨ (frame.length : Int) > 8192 := by omega
  simp only [networkHandleEthernet, size, if_true]
  split <;> rfl

theorem ethernet_deaf (receiver : Receiver) (rest : List UInt8)
    (deaf : ¬receiver.initialized = true ∨ receiver.locked = true) :
    networkHandleEthernet receiver frame.length (frame ++ rest) = (.ok (receiver, .none), []) := by
  simp only [networkHandleEthernet, deaf, if_true]
  rfl

theorem ethernet_stays (rest : List UInt8)
    (ready : ¬(¬receiver.initialized = true ∨ receiver.locked = true))
    (long : 14 ≤ frame.length) (short : frame.length ≤ 8192) :
    Stays frame.length (networkHandleEthernet receiver frame.length) (frame ++ rest) ↔
      (etherType frame = 0x0806 → ArpInside frame) ∧
      (etherType frame = 0x0800 → 34 ≤ frame.length →
        Ipv4Stays receiver.currentNIC frame rest) := by
  have size : ¬((frame.length : Int) < 14 ∨ (frame.length : Int) > 8192) := by omega
  have type := word16_frame rest (show 12 + 1 < frame.length by omega)
  simp only [networkHandleEthernet, ready, if_false, size, stays_bind, readMac_stays, readMac_value,
    Except.ok.injEq, forall_eq', stays_read16, value_read16, stays_map, stays_ite, stays_pure,
    stays_leave, value_leave, forall_const, arp_stays, type, Event.Within]
  rw [← etherType]
  by_cases ip : 34 ≤ frame.length
  · rw [ipv4_stays _ _ rest ip]
    grind
  · have small : (frame.length : Int) - 14 < 20 := by omega
    simp only [networkHandleIpv4, small, if_true, stays_pure]
    grind

theorem gives_readMac {post : Mac → Prop} (mem : List UInt8) (off : Nat) :
    Gives post (readMac off) mem ↔
      post ⟨byteAt mem off, byteAt mem (off + 1), byteAt mem (off + 2), byteAt mem (off + 3),
        byteAt mem (off + 4), byteAt mem (off + 5)⟩ := by
  simp [Gives, readMac_value]

/-- Every frame that is looked at leaves its source address in the kernel. -/
theorem ethernet_saves_callerMac (rest : List UInt8)
    (ready : ¬(¬receiver.initialized = true ∨ receiver.locked = true))
    (long : 14 ≤ frame.length) (short : frame.length ≤ 8192) :
    Gives (fun handled => handled.1.saved.callerMac.b0 = byteAt frame 6)
      (networkHandleEthernet receiver frame.length) (frame ++ rest) := by
  have size : ¬((frame.length : Int) < 14 ∨ (frame.length : Int) > 8192) := by omega
  have first := byteAt_frame rest (show 6 < frame.length by omega)
  simp only [networkHandleEthernet, ready, if_false, size, gives_bind, gives_readMac, gives_map,
    gives_ite, gives_leave, gives_pure, Receiver.save, first]
  intro type _
  split
  · refine gives_imp _ (fun handled same => ?_) (ipv4_keeps_callerMac _ _ _ _ _)
    rw [same]
  · split
    · refine gives_imp _ (fun handled same => ?_) (arp_keeps_callerMac _ _ _)
      rw [same]
    · trivial

theorem sane_lengths (sane : ¬LengthsContradict frame) :
    20 ≤ ipLength frame ∧ transportBase frame + transportSize frame ≤ frame.length ∧
      (ipLength frame : Int) - headerLength frame = transportSize frame := by
  unfold LengthsContradict at sane
  unfold transportBase transportSize
  omega

theorem udp_inside_of_stays {mac : Mac} (rest : List UInt8) (sane : ¬LengthsContradict frame) :
    Stays frame.length (networkHandleUdp (some mac) (transportBase frame) (transportSize frame))
      (frame ++ rest) → UdpInside frame := by
  intro stays
  have parts := (udp_stays (some mac) rest (sane_lengths sane).2.1).mp stays
  unfold UdpInside DhcpInside udpLength destinationPort
  simpa using parts

theorem stays_of_udp_inside (currentNIC : Option Mac) (rest : List UInt8)
    (sane : ¬LengthsContradict frame) (inside : UdpInside frame) :
    Stays frame.length (networkHandleUdp currentNIC (transportBase frame) (transportSize frame))
      (frame ++ rest) := by
  refine (udp_stays currentNIC rest (sane_lengths sane).2.1).mpr ?_
  unfold UdpInside DhcpInside udpLength destinationPort at inside
  grind

end Frames

theorem frameInside_of_parsed {frame : List UInt8} (parsed : ParsedInside frame) :
    FrameInside frame := by
  by_cases out : frame.length < 14 ∨ 8192 < frame.length
  · rcases out with small | large
    · exact .inl small
    · exact .inr (.inl large)
  have long : 14 ≤ frame.length := by omega
  have short : frame.length ≤ 8192 := by omega
  have listening : ¬(¬true = true ∨ false = true) := by decide
  -- a ready machine whose last caller had another address
  rcases parsed ⟨true, false, some ⟨0, 0, 0, 0, 0, 0⟩,
      ⟨0, ⟨0, 0, 0, 0, 0, 0⟩, 0, ⟨byteAt frame 6 + 1, 0, 0, 0, 0, 0⟩, 0⟩⟩ [] with
    ⟨stays, dropped⟩
  have layers := (ethernet_stays [] listening long short).mp stays
  have sane (ip : IsIpv4 frame) : ¬LengthsContradict frame := by
    intro contradiction
    have saved := ethernet_saves_callerMac [] listening long short _
      (dropped ⟨ip, contradiction⟩)
    simp at saved
  refine .inr (.inr ⟨layers.1, fun ip => ⟨sane ip, fun udp => ?_⟩⟩)
  rcases sane_lengths (sane ip) with ⟨headed, _, size⟩
  have datagram := ((layers.2 ip.1 ip.2.1 ip.2.2 headed).2 udp).2
  rw [size] at datagram
  exact udp_inside_of_stays [] (sane ip) datagram

theorem parsed_of_frameInside {frame : List UInt8} (inside : FrameInside frame) :
    ParsedInside frame := by
  intro receiver rest
  by_cases out : frame.length < 14 ∨ 8192 < frame.length
  · have dropped := ethernet_drops receiver rest out
    simp [Stays, value, events, dropped]
  rcases inside with small | large | ⟨arp, ipv4⟩
  · exact absurd (.inl small) out
  · exact absurd (.inr large) out
  have quiet (ip : IsIpv4 frame ∧ LengthsContradict frame) : False := (ipv4 ip.1).1 ip.2
  refine ⟨?_, fun ip => (quiet ip).elim⟩
  by_cases deaf : ¬receiver.initialized = true ∨ receiver.locked = true
  · simp [Stays, events, ethernet_deaf receiver rest deaf]
  refine (ethernet_stays rest deaf (by omega) (by omega)).mpr
    ⟨arp, fun type ip version _ => ?_⟩
  rcases ipv4 ⟨type, ip, version⟩ with ⟨sane, udp⟩
  rcases sane_lengths sane with ⟨_, part, size⟩
  have passed : (Event.pass (transportBase frame) (transportSize frame)).Within
      frame.length := ⟨by omega, by omega⟩
  rw [size]
  exact ⟨fun _ => ⟨passed, tcp_stays (by omega)⟩,
    fun isUdp => ⟨passed, stays_of_udp_inside receiver.currentNIC rest sane (udp isUdp)⟩⟩

/-- A frame is parsed inside itself exactly when the network layers find lengths
    that fit it, and, for UDP, a zero byte where they look for one. -/
theorem parsed_inside_iff (frame : List UInt8) : ParsedInside frame ↔ FrameInside frame :=
  ⟨frameInside_of_parsed, parsed_of_frameInside⟩

/-- An IPv4 header that claims 60 bytes behind it, in a frame that ends with it. -/
def overlongFrame : List UInt8 :=
  [0xFF, 0xFF, 0xFF, 0xFF, 0xFF, 0xFF, 2, 0, 0, 0, 0, 9, 0x08, 0x00,
    0x45, 0, 0, 80, 0, 0, 0x40, 0, 64, 0x06, 0, 0, 10, 0, 0, 9, 10, 0, 0, 1]

theorem overlong_packet_is_parsed : ¬ParsedInside overlongFrame := by
  intro parsed
  rcases frameInside_of_parsed parsed with small | large | ⟨_, ipv4⟩
  · revert small
    decide
  · revert large
    decide
  · exact (ipv4 ⟨rfl, by decide, rfl⟩).1 (.inr (.inr (.inl (by decide))))

end Gramado.Net.ParseBounds
