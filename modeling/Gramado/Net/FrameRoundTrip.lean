/-
A frame that network_send_tcp or network_send_udp built, read back by the
receive path.
-/
import Gramado.Net.Parse

namespace Gramado.Net.FrameRoundTrip

open Gramado.Ke Gramado.Lib.BigEndian Gramado.Lib.Bytes Gramado.Lib.Traced Gramado.Net.Parse

/-- `network_handle_ethernet` takes frames. -/
def Ready (receiver : Receiver) : Prop :=
  receiver.initialized = true ∧ receiver.locked = false

/-- The addresses of a frame, saved. -/
def saveAddresses (receiver : Receiver) (mac : Mac) (sourceIp targetIp : UInt32) : Receiver :=
  { receiver with
    saved := { receiver.saved with
      callerMac := mac
      callerIpv4 := sourceIp
      targetIp := targetIp } }

/-- The handler that an IPv4 header chooses. -/
def transport (currentNIC : Option Mac) (protocol : UInt8) (sourceIp targetIp : UInt32)
    (size : Int) : Program Stop Delivery :=
  if protocol = 0x06 then
    networkHandleTcp sourceIp targetIp 34 size
  else if protocol = 0x11 then
    networkHandleUdp currentNIC 34 size
  else
    pure .none

section Headers

variable {receiver : Receiver} {dst mac : Mac} {protocol : UInt8} {totalLen : UInt16}
  {sourceIp targetIp : UInt32} {body : List UInt8} {frameSize : Nat}

/-- The two headers in front of a body. -/
def headed (dst mac : Mac) (protocol : UInt8) (totalLen : UInt16) (sourceIp targetIp : UInt32)
    (body : List UInt8) : List UInt8 :=
  ethernetHeader dst mac 0x0800 ++ (ipHeader protocol totalLen sourceIp targetIp ++ body)

theorem headed_type :
    word16 (headed dst mac protocol totalLen sourceIp targetIp body) 12 = 0x0800 :=
  word16_be16 0x0800 []

theorem headed_totalLen :
    word16 (headed dst mac protocol totalLen sourceIp targetIp body) 16 = totalLen :=
  word16_be16 totalLen []

theorem headed_sourceIp :
    word32 (headed dst mac protocol totalLen sourceIp targetIp body) 26 = sourceIp :=
  word32_be32 sourceIp []

theorem headed_targetIp :
    word32 (headed dst mac protocol totalLen sourceIp targetIp body) 30 = targetIp :=
  word32_be32 targetIp []

theorem headed_mac :
    value (readMac 6) (headed dst mac protocol totalLen sourceIp targetIp body) = .ok mac := rfl

theorem headed_vHl :
    byteAt (headed dst mac protocol totalLen sourceIp targetIp body) 14 = 0x45 := rfl

theorem headed_protocol :
    byteAt (headed dst mac protocol totalLen sourceIp targetIp body) 23 = protocol := rfl

theorem ethernet_value (ready : Ready receiver) (low : 34 ≤ frameSize) (high : frameSize ≤ 8192)
    (long : 20 ≤ totalLen) :
    value (networkHandleEthernet receiver frameSize)
        (headed dst mac protocol totalLen sourceIp targetIp body) =
      (value (transport receiver.currentNIC protocol sourceIp targetIp (totalLen.toNat - 20))
        (headed dst mac protocol totalLen sourceIp targetIp body)).map
        fun delivery => (saveAddresses receiver mac sourceIp targetIp, delivery) := by
  have size : ¬((frameSize : Int) < 14 ∨ (frameSize : Int) > 8192) := by omega
  have ipSize : ¬(frameSize : Int) - 14 < 20 := by omega
  have notShort : ¬totalLen < 20 := UInt16.not_lt.mpr long
  have version : ¬(0x45 : UInt8).toNat / 16 ≠ 4 := by decide
  have headerLength : (0x45 : UInt8).toNat % 16 * 4 = 20 := by decide
  have listening : ¬(¬True ∨ false = true) := by decide
  rcases receiver with ⟨initialized, locked, currentNIC, saved⟩
  rcases ready with ⟨rfl, rfl⟩
  simp only [networkHandleEthernet, size, ipSize, networkHandleIpv4, value_ite, value_bind,
    headed_mac, value_read16, headed_type, value_leave, value_read32, Nat.reduceAdd,
    headed_sourceIp, headed_targetIp, value_read8, headed_vHl, headed_totalLen, headed_protocol,
    notShort, version, headerLength, listening, Except.bind, value_pure, value_map, if_false,
    if_true, Int.cast_ofNat_Int, transport]
  by_cases tcp : protocol = 0x06
  · simp only [tcp, if_true]
    rcases value (networkHandleTcp sourceIp targetIp _ _) _ with stopped | delivery <;> rfl
  · by_cases udp : protocol = 0x11
    · simp only [udp, if_true]
      rcases value (networkHandleUdp currentNIC _ _) _ with stopped | delivery <;> rfl
    · simp only [tcp, udp, if_false]
      rfl

/-- Only the handler that the header chooses passes a pointer on behind byte 34. -/
theorem ethernet_passes {off : Nat} {size : Int} (ready : Ready receiver) (low : 34 ≤ frameSize)
    (high : frameSize ≤ 8192) (long : 20 ≤ totalLen) (behind : 34 < off) :
    Event.pass off size ∈ events (networkHandleEthernet receiver frameSize)
        (headed dst mac protocol totalLen sourceIp targetIp body) ↔
      Event.pass off size ∈ events
        (transport receiver.currentNIC protocol sourceIp targetIp (totalLen.toNat - 20))
        (headed dst mac protocol totalLen sourceIp targetIp body) := by
  have frame : ¬((frameSize : Int) < 14 ∨ (frameSize : Int) > 8192) := by omega
  have ipSize : ¬(frameSize : Int) - 14 < 20 := by omega
  have notShort : ¬totalLen < 20 := UInt16.not_lt.mpr long
  have version : ¬(0x45 : UInt8).toNat / 16 ≠ 4 := by decide
  have headerLength : (0x45 : UInt8).toNat % 16 * 4 = 20 := by decide
  have listening : ¬(¬True ∨ false = true) := by decide
  have notFirst : off ≠ 14 := by omega
  have notSecond : off ≠ 34 := by omega
  rcases receiver with ⟨initialized, locked, currentNIC, saved⟩
  rcases ready with ⟨rfl, rfl⟩
  simp only [networkHandleEthernet, frame, ipSize, networkHandleIpv4, events_ite, events_bind,
    headed_mac, value_read16, headed_type, value_leave, value_read32, Nat.reduceAdd,
    headed_sourceIp, headed_targetIp, value_read8, headed_vHl, headed_totalLen, headed_protocol,
    notShort, version, headerLength, listening, if_false, if_true, Int.cast_ofNat_Int, transport,
    List.mem_append, events_map]
  by_cases tcp : protocol = 0x06
  · simp [tcp, readMac_events, notFirst, notSecond]
  · by_cases udp : protocol = 0x11
    · simp [udp, readMac_events, notFirst, notSecond]
    · simp [tcp, udp, readMac_events, notFirst]

theorem totalLen_toNat {header length : Nat} (fits : header + length < 2 ^ 16) :
    (UInt16.ofNat (header + length)).toNat = header + length :=
  UInt16.toNat_ofNat_of_lt' fits

theorem totalLen_long {header length : Nat} (fits : header + length < 2 ^ 16)
    (low : 20 ≤ header) : 20 ≤ UInt16.ofNat (header + length) := by
  rw [UInt16.le_iff_toNat_le, totalLen_toNat fits]
  change 20 ≤ header + length
  omega

end Headers

section Tcp

variable {receiver : Receiver} {mac : Mac} {s : TcpSend} {rest : List UInt8}

theorem tcpFrame_headed (mac : Mac) (s : TcpSend) (rest : List UInt8) :
    tcpFrame mac s ++ rest =
      headed s.targetMac mac 0x06 (UInt16.ofNat (40 + s.data.length)) s.sourceIp s.targetIp
        (tcpHeader s ++ (s.data ++ rest)) := by
  simp only [tcpFrame, headed, List.append_assoc]

theorem tcpFrame_sport : word16 (tcpFrame mac s ++ rest) 34 = s.sourcePort :=
  word16_be16 s.sourcePort []

theorem tcpFrame_dport : word16 (tcpFrame mac s ++ rest) 36 = s.targetPort :=
  word16_be16 s.targetPort []

theorem tcpFrame_seq : word32 (tcpFrame mac s ++ rest) 38 = s.seq :=
  word32_be32 s.seq []

theorem tcpFrame_ack : word32 (tcpFrame mac s ++ rest) 42 = s.ack :=
  word32_be32 s.ack []

theorem tcpFrame_flags : word16 (tcpFrame mac s ++ rest) 46 = 0x5000 ||| s.flags :=
  word16_be16 (0x5000 ||| s.flags) []

theorem tcpFrame_window : word16 (tcpFrame mac s ++ rest) 48 = 512 :=
  word16_be16 512 []

theorem tcpFrame_data : peek (tcpFrame mac s ++ rest) 54 s.data.length = s.data := by
  have behind : (tcpFrame mac s ++ rest).drop 54 = s.data ++ rest := rfl
  rw [peek_eq_take_drop (by simp), behind, List.take_left' rfl]

/-- The segment is the one that was sent. -/
structure Carries (segment : Segment) (s : TcpSend) : Prop where
  sIpv4 : segment.sIpv4 = s.sourceIp
  dIpv4 : segment.dIpv4 = s.targetIp
  sport : segment.sport = s.sourcePort
  dport : segment.dport = s.targetPort
  seq : segment.seq = s.seq
  ack : segment.ack = s.ack
  flags : segment.flags &&& 0x3F = s.flags &&& 0x3F
  payload : segment.payload = s.data

/-- All that follows the first zero byte is zero. -/
def ZeroTail (data : List UInt8) : Prop :=
  data = text data ++ List.replicate (data.length - (text data).length) 0

def tcpSegment (s : TcpSend) (copied : { payload : List UInt8 // payload.length ≤ 1398 }) :
    Segment :=
  ⟨s.sourceIp, s.targetIp, s.sourcePort, s.targetPort, s.seq, s.ack, 0x5000 ||| s.flags, 512,
    copied.val, copied_fits copied⟩

theorem tcpFrame_value :
    value (networkHandleTcp s.sourceIp s.targetIp 34 (20 + s.data.length))
        (tcpFrame mac s ++ rest) =
      if s.targetPort = kdPort ∨ allowThisPort s.targetPort = true then
        (value (copyTcpPayload 54 (20 + s.data.length)) (tcpFrame mac s ++ rest)).map
          fun copied => .tcp (tcpSegment s copied)
      else
        .ok .none := by
  have long : ¬(20 + (s.data.length : Int)) < 20 := by omega
  simp only [networkHandleTcp, long, if_false, value_bind, value_read16, value_read32, value_ite,
    Nat.reduceAdd, tcpFrame_sport, tcpFrame_dport, tcpFrame_seq, tcpFrame_ack, tcpFrame_flags,
    tcpFrame_window, Except.bind, value_pure]
  by_cases port : s.targetPort = kdPort ∨ allowThisPort s.targetPort = true
  · simp only [port, if_true]
    rcases value (copyTcpPayload _ _) _ with stopped | copied <;> rfl
  · simp only [port, if_false]

theorem controlBits (flags : UInt16) : (0x5000 ||| flags) &&& 0x3F = flags &&& 0x3F := by
  apply UInt16.toBitVec_inj.mp
  rw [UInt16.toBitVec_and, UInt16.toBitVec_or, UInt16.toBitVec_and, BitVec.and_or_distrib_right]
  exact BitVec.zero_or

theorem copyTcpPayload_value {mem data : List UInt8} {off : Nat}
    (there : peek mem off data.length = data) (small : data.length ≤ 1398) :
    value (copyTcpPayload off (20 + data.length)) mem =
      .ok ⟨cut data data.length, (length_cut data data.length).symm ▸ small⟩ := by
  have size : (20 + (data.length : Int) - 20).toNat = data.length := by omega
  have below : ¬1400 ≤ data.length := by omega
  simp only [copyTcpPayload, size, below, if_false, value_bind, value_strncpy, Except.bind, there,
    small, dite_true, value_pure]

theorem tcpFrame_received (ready : Ready receiver) (fits : s.data.length ≤ 8138) :
    value (networkHandleEthernet receiver ((tcpFrame mac s).length : Nat))
        (tcpFrame mac s ++ rest) =
      (if s.targetPort = kdPort ∨ allowThisPort s.targetPort = true then
        (value (copyTcpPayload 54 (20 + s.data.length)) (tcpFrame mac s ++ rest)).map
          fun copied => .tcp (tcpSegment s copied)
      else
        .ok .none).map
        fun delivery => (saveAddresses receiver mac s.sourceIp s.targetIp, delivery) := by
  have short : 40 + s.data.length < 2 ^ 16 := by omega
  have size : ((UInt16.ofNat (40 + s.data.length)).toNat : Int) - 20 = 20 + s.data.length := by
    rw [totalLen_toNat short]
    omega
  have frameLow : 34 ≤ (tcpFrame mac s).length := by rw [length_tcpFrame]; omega
  have frameHigh : (tcpFrame mac s).length ≤ 8192 := by rw [length_tcpFrame]; omega
  rw [tcpFrame_headed,
    ethernet_value ready frameLow frameHigh (totalLen_long short (by decide)), ← tcpFrame_headed,
    transport, if_pos rfl, size, tcpFrame_value]

/-- One call of `network_send_tcp`, its frame received: a frame that is sent
    carries the segment to the receiver, and a payload that does not fit the
    transmit buffer is refused. -/
def TcpRoundTrip (currentNIC : Option Mac) (receiver : Receiver) (rest : List UInt8)
    (s : TcpSend) : Prop :=
  match networkSendTcp currentNIC s with
  | .error _ => False
  | .ok none => True
  | .ok (some frame) =>
      ∃ mac segment, currentNIC = some mac ∧
        value (networkHandleEthernet receiver frame.length) (frame ++ rest) =
          .ok (saveAddresses receiver mac s.sourceIp s.targetIp, .tcp segment) ∧
        Carries segment s

/-- The payloads and ports that survive. -/
structure TcpFits (s : TcpSend) : Prop where
  port : s.targetPort = kdPort ∨ allowThisPort s.targetPort = true
  length : s.data.length ≤ 1398
  zeros : ZeroTail s.data

theorem tcp_round_trip_iff (currentNIC : Option Mac) (rest : List UInt8) (s : TcpSend)
    (ready : Ready receiver) :
    TcpRoundTrip currentNIC receiver rest s ↔ currentNIC = none ∨ TcpFits s := by
  rcases currentNIC with _ | mac
  · exact ⟨fun _ => .inl rfl, fun _ => trivial⟩
  by_cases fits : s.data.length ≤ 8138
  · have sent : networkSendTcp (some mac) s = .ok (some (tcpFrame mac s)) := by
      simp only [networkSendTcp, transmit, length_tcpFrame, txBufferSize]
      exact if_pos (by omega)
    simp only [TcpRoundTrip, sent, tcpFrame_received ready fits, Option.some.injEq, reduceCtorEq,
      false_or]
    constructor
    · rintro ⟨_, segment, rfl, received, carries⟩
      by_cases port : s.targetPort = kdPort ∨ allowThisPort s.targetPort = true
      · rw [if_pos port] at received
        rcases copy : value (copyTcpPayload 54 (20 + s.data.length)) _ with stopped | copied
        · rw [copy] at received
          cases received
        · rw [copy] at received
          simp only [Except.map, Except.ok.injEq, Prod.mk.injEq, tcpSegment, Delivery.tcp.injEq,
            true_and] at received
          subst received
          have small : s.data.length ≤ 1398 := carries.payload ▸ copied.property
          rw [copyTcpPayload_value tcpFrame_data small] at copy
          cases copy
          exact ⟨port, small, cut_eq_self_iff.mp carries.payload⟩
      · simp [port, Except.map] at received
    · intro survives
      have copied : (cut s.data s.data.length).length ≤ 1398 := by
        rw [length_cut]
        exact survives.length
      refine ⟨mac, tcpSegment s ⟨_, copied⟩, rfl, ?_, ?_⟩
      · rw [if_pos survives.port, copyTcpPayload_value tcpFrame_data survives.length]
        rfl
      · exact ⟨rfl, rfl, rfl, rfl, rfl, rfl, controlBits s.flags,
          cut_eq_self_iff.mpr survives.zeros⟩
  · have overrun : networkSendTcp (some mac) s = .error (.fault "tx_buffers_virt") := by
      simp only [networkSendTcp, transmit, length_tcpFrame, txBufferSize]
      exact if_neg (by omega)
    simp only [TcpRoundTrip, overrun, reduceCtorEq, false_or, false_iff]
    intro survives
    have := survives.length
    omega

end Tcp

section Udp

variable {receiver : Receiver} {mac : Mac} {s : UdpSend} {rest : List UInt8}

theorem udpFrame_headed (mac : Mac) (s : UdpSend) (rest : List UInt8) :
    udpFrame mac s ++ rest =
      headed s.targetMac mac 0x11 (UInt16.ofNat (28 + s.data.length)) s.sourceIp s.targetIp
        (udpHeader s.sourcePort s.targetPort (UInt16.ofNat (8 + s.data.length)) ++
          (s.data ++ rest)) := by
  simp only [udpFrame, headed, List.append_assoc]

theorem udpFrame_sport : word16 (udpFrame mac s ++ rest) 34 = s.sourcePort :=
  word16_be16 s.sourcePort []

theorem udpFrame_dport : word16 (udpFrame mac s ++ rest) 36 = s.targetPort :=
  word16_be16 s.targetPort []

theorem udpFrame_ulen : word16 (udpFrame mac s ++ rest) 38 = UInt16.ofNat (8 + s.data.length) :=
  word16_be16 (UInt16.ofNat (8 + s.data.length)) []

theorem udpFrame_data : (udpFrame mac s ++ rest).drop 42 = s.data ++ rest := rfl

theorem received_eq_iff {data rest : List UInt8} :
    received (data ++ rest) = data ↔
      ((0 : UInt8) ∉ data ∧ rest.headD 0 = 0 ∧ data.length ≤ 512) ∨
        (data = [] ∧ 512 < (text rest).length) := by
  by_cases short : (text (data ++ rest)).length ≤ 512
  · rw [received, if_pos short, text_append_eq_left_iff]
    constructor
    · rintro ⟨free, ends⟩
      rw [text_append_eq_left_iff.mpr ⟨free, ends⟩] at short
      exact .inl ⟨free, ends, short⟩
    · rintro (⟨free, ends, _⟩ | ⟨rfl, long⟩)
      · exact ⟨free, ends⟩
      · rw [List.nil_append] at short
        omega
  · rw [received, if_neg short]
    constructor
    · rintro rfl
      rw [List.nil_append] at short
      exact .inr ⟨rfl, by omega⟩
    · rintro (⟨free, ends, small⟩ | ⟨rfl, _⟩)
      · rw [text_append_eq_left_iff.mpr ⟨free, ends⟩] at short
        exact absurd small short
      · rfl

theorem copyUdpPayload_passes_nothing (copyOff off : Nat) (size : Int) (mem : List UInt8) :
    Event.pass off size ∉ events (copyUdpPayload copyOff) mem := by
  simp only [copyUdpPayload, events_bind, events_strlen, value_strlen, events_ite, events_map,
    events_strncpy, events_pure]
  split <;> simp

theorem dhcp_passes_nothing (currentNIC : Option Mac) (base off : Nat) (size : Int)
    (mem : List UInt8) : Event.pass off size ∉ events (networkHandleDhcp currentNIC base) mem := by
  simp only [networkHandleDhcp, events_bind, events_read32, events_read8, readMac_events,
    value_read32, value_read8, readMac_value, events_ite, events_readBytes, value_readBytes,
    events_pure]
  split <;> simp

theorem udpFrame_value (port : s.targetPort ≠ 68) :
    value (networkHandleUdp receiver.currentNIC 34 (8 + s.data.length)) (udpFrame mac s ++ rest) =
      if s.targetPort = 80 ∨ s.targetPort = 443 then
        .ok .none
      else
        .ok (.udp ⟨s.sourcePort, s.targetPort, received (s.data ++ rest)⟩) := by
  have long : ¬(8 + (s.data.length : Int)) < 8 := by omega
  simp only [networkHandleUdp, long, if_false, value_bind, value_read16, value_ite, Nat.reduceAdd,
    udpFrame_sport, udpFrame_dport, Except.bind, value_pure, copyUdpPayload_value, udpFrame_data,
    port]

theorem udpFrame_dhcp (currentNIC : Option Mac) (mac : Mac) (rest : List UInt8)
    (port : s.targetPort = 68) :
    ∃ message, value (networkHandleUdp currentNIC 34 (8 + s.data.length))
      (udpFrame mac s ++ rest) = .ok (.dhcp message) := by
  have long : ¬(8 + (s.data.length : Int)) < 8 := by omega
  have noFilter : ¬((68 : UInt16) = 80 ∨ (68 : UInt16) = 443) := by decide
  simp only [networkHandleUdp, long, if_false, value_bind, value_read16, Nat.reduceAdd,
    udpFrame_dport, Except.bind, copyUdpPayload_value, port, noFilter, value_leave, dhcp_value,
    if_true, Except.ok.injEq, Delivery.dhcp.injEq, exists_eq']

theorem udpFrame_passes (port : s.targetPort = 68) (size : Int) :
    Event.pass 42 size ∈ events (networkHandleUdp receiver.currentNIC 34 (8 + s.data.length))
        (udpFrame mac s ++ rest) ↔
      size = (toNetByteOrder16 (UInt16.ofNat (8 + s.data.length))).toNat - 8 := by
  have long : ¬(8 + (s.data.length : Int)) < 8 := by omega
  have noFilter : ¬((68 : UInt16) = 80 ∨ (68 : UInt16) = 443) := by decide
  simp only [networkHandleUdp, long, if_false, events_bind, value_read16, Nat.reduceAdd,
    udpFrame_dport, copyUdpPayload_value, port, noFilter, value_leave, if_true, events_read16,
    udpFrame_ulen, events_leave, List.mem_append, copyUdpPayload_passes_nothing,
    dhcp_passes_nothing]
  simp

theorem udpFrame_received (ready : Ready receiver) (fits : s.data.length ≤ 8150) :
    value (networkHandleEthernet receiver ((udpFrame mac s).length : Nat))
        (udpFrame mac s ++ rest) =
      (value (networkHandleUdp receiver.currentNIC 34 (8 + s.data.length))
        (udpFrame mac s ++ rest)).map
        fun delivery => (saveAddresses receiver mac s.sourceIp s.targetIp, delivery) := by
  have short : 28 + s.data.length < 2 ^ 16 := by omega
  have size : ((UInt16.ofNat (28 + s.data.length)).toNat : Int) - 20 = 8 + s.data.length := by
    rw [totalLen_toNat short]
    omega
  have frameLow : 34 ≤ (udpFrame mac s).length := by rw [length_udpFrame]; omega
  have frameHigh : (udpFrame mac s).length ≤ 8192 := by rw [length_udpFrame]; omega
  rw [udpFrame_headed, ethernet_value ready frameLow frameHigh (totalLen_long short (by decide)),
    ← udpFrame_headed, transport, if_neg (by decide), if_pos rfl, size]

theorem udpFrame_received_passes (ready : Ready receiver) (fits : s.data.length ≤ 8150)
    (port : s.targetPort = 68) (size : Int) :
    Event.pass 42 size ∈ events (networkHandleEthernet receiver ((udpFrame mac s).length : Nat))
        (udpFrame mac s ++ rest) ↔
      size = (toNetByteOrder16 (UInt16.ofNat (8 + s.data.length))).toNat - 8 := by
  have short : 28 + s.data.length < 2 ^ 16 := by omega
  have datagram : ((UInt16.ofNat (28 + s.data.length)).toNat : Int) - 20 = 8 + s.data.length := by
    rw [totalLen_toNat short]
    omega
  have frameLow : 34 ≤ (udpFrame mac s).length := by rw [length_udpFrame]; omega
  have frameHigh : (udpFrame mac s).length ≤ 8192 := by rw [length_udpFrame]; omega
  rw [udpFrame_headed,
    ethernet_passes ready frameLow frameHigh (totalLen_long short (by decide)) (by decide),
    ← udpFrame_headed, transport, if_neg (by decide), if_pos rfl, datagram, udpFrame_passes port]

/-- One call of `network_send_udp`, its frame received. The DHCP handler gets
    its datagram as a pointer and a size. -/
def UdpRoundTrip (currentNIC : Option Mac) (receiver : Receiver) (rest : List UInt8)
    (s : UdpSend) : Prop :=
  match networkSendUdp currentNIC s with
  | .error _ => False
  | .ok none => True
  | .ok (some frame) =>
      ∃ mac, currentNIC = some mac ∧
        (value (networkHandleEthernet receiver frame.length) (frame ++ rest) =
            .ok (saveAddresses receiver mac s.sourceIp s.targetIp,
              .udp ⟨s.sourcePort, s.targetPort, s.data⟩) ∨
          (∃ message, value (networkHandleEthernet receiver frame.length) (frame ++ rest) =
              .ok (saveAddresses receiver mac s.sourceIp s.targetIp, .dhcp message)) ∧
            Event.pass 42 s.data.length ∈
              events (networkHandleEthernet receiver frame.length) (frame ++ rest))

/-- The datagrams that survive in front of the bytes `rest`. -/
def UdpFits (s : UdpSend) (rest : List UInt8) : Prop :=
  if s.targetPort = 68 then
    s.data.length ≤ 8150 ∧
      (toNetByteOrder16 (UInt16.ofNat (8 + s.data.length))).toNat = 8 + s.data.length
  else
    s.targetPort ≠ 80 ∧ s.targetPort ≠ 443 ∧
      (((0 : UInt8) ∉ s.data ∧ rest.headD 0 = 0 ∧ s.data.length ≤ 512) ∨
        (s.data = [] ∧ 512 < (text rest).length))

theorem udp_round_trip_iff (currentNIC : Option Mac) (rest : List UInt8) (s : UdpSend)
    (ready : Ready receiver) :
    UdpRoundTrip currentNIC receiver rest s ↔ currentNIC = none ∨ UdpFits s rest := by
  rcases currentNIC with _ | mac
  · exact ⟨fun _ => .inl rfl, fun _ => trivial⟩
  by_cases fits : s.data.length ≤ 8150
  · have sent : networkSendUdp (some mac) s = .ok (some (udpFrame mac s)) := by
      simp only [networkSendUdp, transmit, length_udpFrame, txBufferSize]
      exact if_pos (by omega)
    simp only [UdpRoundTrip, sent, udpFrame_received ready fits, Option.some.injEq, reduceCtorEq,
      false_or, UdpFits]
    -- Port 68 belongs to DHCP, and what comes for 80 or 443 is dropped.
    by_cases port : s.targetPort = 68
    · rcases udpFrame_dhcp receiver.currentNIC mac rest port with ⟨message, handled⟩
      rw [if_pos port, handled]
      constructor
      · rintro ⟨_, rfl, received | ⟨_, passed⟩⟩
        · cases received
        · rw [udpFrame_received_passes ready fits port] at passed
          exact ⟨fits, by omega⟩
      · rintro ⟨_, symmetric⟩
        refine ⟨mac, rfl, .inr ⟨⟨message, rfl⟩, ?_⟩⟩
        rw [udpFrame_received_passes ready fits port, symmetric]
        omega
    · rw [if_neg port]
      by_cases noise : s.targetPort = 80 ∨ s.targetPort = 443
      · rw [udpFrame_value port, if_pos noise]
        constructor
        · rintro ⟨_, _, received | ⟨⟨_, received⟩, _⟩⟩ <;> cases received
        · rintro ⟨not80, not443, _⟩
          exact absurd noise (not_or.mpr ⟨not80, not443⟩)
      · rw [udpFrame_value port, if_neg noise, ← received_eq_iff]
        constructor
        · rintro ⟨_, rfl, received | ⟨⟨_, received⟩, _⟩⟩
          · simp only [Except.map, Except.ok.injEq, Prod.mk.injEq, Delivery.udp.injEq,
              Datagram.mk.injEq, true_and] at received
            exact ⟨(not_or.mp noise).1, (not_or.mp noise).2, received⟩
          · cases received
        · rintro ⟨_, _, same⟩
          refine ⟨mac, rfl, .inl ?_⟩
          rw [same]
          rfl
  · have overrun : networkSendUdp (some mac) s = .error (.fault "tx_buffers_virt") := by
      simp only [networkSendUdp, transmit, length_udpFrame, txBufferSize]
      exact if_neg (by omega)
    simp only [UdpRoundTrip, overrun, reduceCtorEq, false_or, false_iff, UdpFits]
    split
    · exact fun survives => fits survives.1
    · rintro ⟨_, _, ⟨_, _, small⟩ | ⟨empty, _⟩⟩
      · omega
      · exact fits (by simp [empty])

end Udp

/-- Which frames survive the way from the sender to the handler: for TCP
    payloads of at most 1398 bytes with zero bytes only at the end, to a port
    that is let through, and for UDP strings of at most 512 bytes that the
    receive buffer happens to terminate. -/
theorem frame_round_trip_iff (receiver : Receiver) (currentNIC : Option Mac)
    (rest : List UInt8) (ready : Ready receiver) :
    (∀ s, TcpRoundTrip currentNIC receiver rest s ↔ currentNIC = none ∨ TcpFits s) ∧
      ∀ s, UdpRoundTrip currentNIC receiver rest s ↔ currentNIC = none ∨ UdpFits s rest :=
  ⟨fun s => tcp_round_trip_iff currentNIC rest s ready,
    fun s => udp_round_trip_iff currentNIC rest s ready⟩

/-- A machine that has just switched its network on. -/
def freshReceiver : Receiver :=
  ⟨true, false, none, ⟨0, ⟨0, 0, 0, 0, 0, 0⟩, 0, ⟨0, 0, 0, 0, 0, 0⟩, 0⟩⟩

theorem freshReceiver_round_trip_iff :
    (∀ s, TcpRoundTrip (some ⟨2, 0, 0, 0, 0, 1⟩) freshReceiver [] s ↔
        some (⟨2, 0, 0, 0, 0, 1⟩ : Mac) = none ∨ TcpFits s) ∧
      ∀ s, UdpRoundTrip (some ⟨2, 0, 0, 0, 0, 1⟩) freshReceiver [] s ↔
        some (⟨2, 0, 0, 0, 0, 1⟩ : Mac) = none ∨ UdpFits s [] :=
  frame_round_trip_iff freshReceiver (some ⟨2, 0, 0, 0, 0, 1⟩) [] ⟨rfl, rfl⟩

/-- Three bytes to port 22888, the middle one zero. -/
def zeroInside : TcpSend :=
  ⟨0x0A000001, 0x0A000002, ⟨2, 0, 0, 0, 0, 2⟩, 32768, 22888, 1, 1, 0x18, [7, 0, 9]⟩

theorem zero_byte_cuts_payload :
    ¬TcpRoundTrip (some ⟨2, 0, 0, 0, 0, 1⟩) freshReceiver [] zeroInside := by
  rw [tcp_round_trip_iff _ _ _ ⟨rfl, rfl⟩]
  rintro (absent | fits)
  · cases absent
  · have tail := fits.zeros
    revert tail
    unfold ZeroTail
    decide

end Gramado.Net.FrameRoundTrip
