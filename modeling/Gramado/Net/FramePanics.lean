/-
Which frames stop the kernel in a panic, in any run of frames and local calls:
an IPv4 packet that says it is shorter than its header, a segment that tcp.c
panics on, and a datagram whose command makes the shell or the display server's
queue panic.
-/
import Gramado.Lib.Machine
import Gramado.Net.Reception
import Gramado.Net.SegmentPanics

namespace Gramado.Net.FramePanics

open Gramado.Ke Gramado.Lib Gramado.Lib.BigEndian Gramado.Lib.Fallible Gramado.Lib.Traced
open Gramado.Net.Parse Gramado.Net.ParseBounds Gramado.Net.Reception Gramado.Net.SegmentPanics

section FatalFrames

/-- Handling a frame does not reach a `panic()`. -/
def NoPanic (k : Kernel) : Reception.Event → Prop
  | .frame a => ∀ text, receive k a ≠ .error (.panic text)
  | _ => True

/-- `g:x` and `g:c` for the kernel debugger's port, where the display server's
    queue or the shell panics. -/
def FatalDatagram (k : Kernel) (outside : Outside) (datagram : Datagram) : Prop :=
  let buf := datagram.payload
  datagram.dport = kdPort ∧ byteAt buf 0 = 103 ∧ byteAt buf 1 = 58 ∧
    k.dhcpInfo.initialized = true ∧
    ((byteAt buf 2 = 120 ∧ outside.targetThreadQueue = true ∧
        Fails outside.ipcPostMessageToDs Stop.IsPanic) ∨
      (byteAt buf 2 = 99 ∧ (byteAt buf 3 = 32 ∨ byteAt buf 3 = 9) ∧ byteAt buf 4 ≠ 0 ∧
        Fails (outside.ibrokerParseCommand ((buf.drop 4).take 127)) Stop.IsPanic))

def FatalDelivery (k : Kernel) (a : Arrival) : Delivery → Prop
  | .udp datagram => FatalDatagram k a.outside datagram
  | .tcp seg => FatalSegment (k.env a) k.tables seg
  | _ => False

/-- An IPv4 packet that says it is shorter than its header. -/
def BadTotalLength (frame : List UInt8) : Prop :=
  frame.length ≤ 8192 ∧ IsIpv4 frame ∧ ipLength frame < 20

def Fatal (k : Kernel) (a : Arrival) : Prop :=
  (k.initialized = true ∧ k.locked = false ∧ BadTotalLength a.frame) ∨
    ∃ out, delivered k a = .ok out ∧ FatalDelivery k a out.2

/-- The condition under which handling a frame does not panic. -/
def Harmless (k : Kernel) : Reception.Event → Prop
  | .frame a => ¬Fatal k a
  | _ => True

end FatalFrames

section Reading

variable {mem : List UInt8} {base : Nat} {size : Int}

theorem fails_value_bind {α β : Type} {program : Program Stop α} {next : α → Program Stop β}
    {bad : Stop → Prop} : Fails (value (program >>= next) mem) bad ↔
      Fails (value program mem) bad ∨
        Meets (value program mem) fun a => Fails (value (next a) mem) bad := by
  rw [value_bind]
  exact fails_bind

theorem copy_quiet (off : Nat) : ¬Panics (value (copyTcpPayload off size) mem) := by
  simp only [copyTcpPayload, Panics, fails_value_bind, value_strncpy, fails_ok, meets_ok, false_or]
  split_ifs <;> simp

theorem tcp_quiet (sIpv4 dIpv4 : UInt32) :
    ¬Panics (value (Parse.networkHandleTcp sIpv4 dIpv4 base size) mem) := by
  have copied := @copy_quiet mem size (base + 20)
  simp only [Panics] at copied ⊢
  simp only [Parse.networkHandleTcp, value_ite, fails_ite, fails_value_bind, value_read16,
    value_read32, value_pure, fails_ok, copied, meets_false, and_false, or_false,
      not_false_eq_true]

theorem udp_quiet (currentNIC : Option Mac) :
    ¬Panics (value (networkHandleUdp currentNIC base size) mem) := by
  simp only [networkHandleUdp, Panics, value_ite, fails_ite, fails_value_bind, value_read16,
    value_leave, value_pure, copyUdpPayload_value, dhcp_value, fails_ok, meets_ok, and_false,
    or_false, not_false_eq_true]

theorem arp_quiet (saved : NetworkSaved) :
    ¬Panics (value (Parse.networkHandleArp saved base) mem) := by
  simp only [Parse.networkHandleArp, Panics, fails_value_bind, readIsGateway_value, value_ite,
    fails_ite, value_read16, value_read32, readMac_value, value_pure, fails_ok, meets_ok, and_false,
    or_false, not_false_eq_true]

theorem panics_ipv4 (currentNIC : Option Mac) (saved : NetworkSaved) :
    Panics (value (networkHandleIpv4 currentNIC saved base size) mem) ↔
      20 ≤ size ∧ (byteAt mem base).toNat / 16 = 4 ∧ word16 mem (base + 2) < 20 := by
  have tcp (src dst : UInt32) (off : Nat) (n : Int) := @tcp_quiet mem off n src dst
  have udp (off : Nat) (n : Int) := @udp_quiet mem off n currentNIC
  simp only [Panics] at tcp udp ⊢
  simp only [networkHandleIpv4, value_ite, fails_ite, fails_value_bind, value_read8, value_read16,
    value_read32, value_leave, value_pure, value_map, value_stop, fails_ok, meets_ok, fails_map,
    fails_error, tcp, udp, badTotalLength, isPanic_panic, false_or, and_false, or_false, and_true,
    not_not, ne_eq, Int.not_lt]

theorem panics_delivered (k : Kernel) (a : Arrival) : Panics (delivered k a) ↔
    k.initialized = true ∧ k.locked = false ∧ BadTotalLength a.frame := by
  have ipv4 (saved : NetworkSaved) :=
    @panics_ipv4 a.memory 14 (a.frame.length - 14) k.receiver.currentNIC saved
  have arp (saved : NetworkSaved) := @arp_quiet a.memory 14 saved
  simp only [Panics] at ipv4 arp ⊢
  simp only [delivered, networkHandleEthernet, value_ite, fails_ite, fails_value_bind,
    readMac_value,
    value_read16, value_leave, value_pure, value_map, fails_ok, fails_map, meets_ok, ipv4, arp,
    false_or, and_false, or_false]
  have short : word16 a.frame 16 < 20 ↔ ipLength a.frame < 20 := UInt16.lt_iff_toNat_lt
  by_cases long : 34 ≤ a.frame.length
  · have type := word16_frame a.behind (show 12 + 1 < a.frame.length by omega)
    have vHl := byteAt_frame a.behind (show 14 < a.frame.length by omega)
    have length := word16_frame a.behind (show 16 + 1 < a.frame.length by omega)
    simp only [Arrival.memory, type, vHl, length, Nat.reduceAdd, short, Kernel.receiver,
      BadTotalLength, IsIpv4, etherType, version]
    grind
  · have small : ¬20 ≤ (a.frame.length : Int) - 14 := by omega
    simp only [small, BadTotalLength, IsIpv4, long, false_and, and_false]

end Reading

section Handling

variable {k : Kernel} {a : Arrival}

theorem panics_udp (s : UdpSend) (nic : Option Mac) : ¬Panics (networkSendUdp nic s) := by
  unfold networkSendUdp transmit
  cases nic with
  | none => exact fails_ok
  | some mac =>
      simp only [Panics]
      split_ifs <;> simp

theorem panics_dhcp (client : Dhcp.DhcpClient) (buffer : List UInt8) (jiffies : UInt32) :
    ¬Panics (Dhcp.networkHandleDhcp client buffer jiffies) := by
  have sent (client : Dhcp.DhcpClient) (yiaddr siaddr : UInt32) :
      ¬Panics (Dhcp.networkDhcpSend client buffer Dhcp.DORA_R yiaddr siaddr 68 67 jiffies) := by
    unfold Dhcp.networkDhcpSend
    split
    · exact fails_ok
    · split
      · exact fails_ok
      · rw [Panics, fails_then fun _ => fails_pure]
        exact panics_udp _ _
  unfold Dhcp.networkHandleDhcp
  split
  · rw [Panics, fails_then fun _ => fails_pure]
    exact sent _ _ _
  · split <;> exact fails_ok

/-- The operation of an answer is a valid one, and there is a buffer. -/
theorem panics_arp (k : Kernel) (packet : Arp.EtherArp) :
    ¬Panics (Arp.networkHandleArp k.arp (some packet)) := by
  have sent : ¬Panics (Arp.networkSendArpReply (Arp.saveGateway k.arp packet) packet.sha
      packet.spa) := by
    obtain ⟨-, nic, -⟩ := Arp.saveGateway_sends k.arp packet
    unfold Arp.networkSendArpReply Arp.networkSendArp
    rw [nic]
    cases card : k.currentNIC with
    | none => simp [Panics, Kernel.arp, card]
    | some nic => simp [Panics, Kernel.arp, card]
  unfold Arp.networkHandleArp
  simp only [Panics] at sent ⊢
  simp [sent]

theorem panics_gprot (k : Kernel) (outside : Outside) (datagram : Datagram)
    (kd : datagram.dport = kdPort) :
    Panics (gprotHandleProtocol k outside datagram.payload) ↔ FatalDatagram k outside datagram := by
  simp only [Panics, gprotHandleProtocol, gprotHandleG, fails_ite, fails_ok, and_false, or_false,
    false_or, FatalDatagram, kd, true_and]
  grind

theorem panics_handle (k : Kernel) (a : Arrival) (delivery : Delivery) :
    Panics (handle k a delivery) ↔ FatalDelivery k a delivery := by
  cases delivery with
  | none => exact iff_of_false fails_ok id
  | arp packet =>
      refine iff_of_false ?_ id
      unfold handle
      rw [Panics, fails_then fun _ => fails_pure]
      exact panics_arp k _
  | dhcp message =>
      refine iff_of_false ?_ id
      unfold handle
      rw [Panics, fails_then fun _ => fails_pure]
      exact panics_dhcp _ _ _
  | udp datagram =>
      simp only [handle]
      by_cases kd : datagram.dport = kdPort
      · rw [if_pos kd, Panics, fails_then fun _ => fails_pure]
        exact panics_gprot k a.outside datagram kd
      · rw [if_neg kd]
        exact iff_of_false fails_ok fun fatal => kd fatal.1
  | tcp seg =>
      unfold handle
      rw [Panics, fails_then fun _ => fails_pure]
      exact panics_networkHandleTcp (k.env a) k.tables seg

theorem panics_receive (k : Kernel) (a : Arrival) : Panics (receive k a) ↔ Fatal k a := by
  have read := panics_delivered k a
  have handled (out : Receiver × Delivery) :=
    panics_handle { k with saved := out.1.saved } a out.2
  unfold receive Fatal
  simp only [Panics] at read handled ⊢
  rw [fails_bind, read]
  exact or_congr_right (exists_congr fun out => and_congr_right fun _ => handled out)

end Handling

theorem noPanic_iff (k : Kernel) (event : Reception.Event) :
    NoPanic k event ↔ Harmless k event := by
  cases event with
  | frame a =>
      rw [NoPanic, Harmless, ← panics_receive, Panics, Fails]
      constructor
      · rintro quiet ⟨stop, stopped, panic⟩
        cases stop with
        | panic text => exact quiet text stopped
        | fault text => exact panic
      · intro quiet text stopped
        exact quiet ⟨.panic text, stopped, trivial⟩
  | call made => exact Iff.rfl
  | elsewhere after => exact Iff.rfl

/-- No frame of a run makes the kernel panic exactly if each of them is harmless
    in the state that it finds. -/
theorem frames_panic_iff (start : Kernel) (events : List Reception.Event) :
    Machine.Guarded step NoPanic start events ↔ Machine.Guarded step Harmless start events :=
  Machine.guarded_congr noPanic_iff start events

section Counterexample

/-- A kernel with a NIC that has its address. -/
def host : Kernel where
  initialized := true
  locked := false
  currentNIC := some ⟨1234, true, ⟨2, 0, 0, 0, 0, 1⟩⟩
  currentInterface := true
  status := true
  isOnline := true
  nodename := []
  saved := Calls.wiredEnv.saved
  networkInfo := none
  arpTable := Arp.arpInitializeArpTable Arp.host.table
  dhcpInfo := ⟨true, 4, 0xC0A8010C, ⟨2, 0, 0, 0, 0, 1⟩, 0, 0, 0⟩
  tables := Tables.initial

/-- A frame that finds memory enough, and a shell and a queue that do nothing. -/
def arrival (frame : List UInt8) : Arrival where
  frame := frame
  behind := []
  heap := ⟨100, true⟩
  fsizeThere := 0
  isn := 0
  jiffies := 0
  outside := ⟨true, .ok (), fun _ => .ok ()⟩

/-- An IPv4 header with the total length 0. -/
def shortPacket : List UInt8 :=
  List.replicate 12 0 ++ [8, 0, 0x45, 0, 0, 0] ++ List.replicate 16 0

/-- A SYN to port 22888, where nothing listens. -/
def strangeSyn : List UInt8 :=
  List.replicate 12 0 ++ [8, 0, 0x45, 0, 0, 40, 0, 0, 0, 0, 64, 6, 0, 0,
    192, 168, 1, 20, 192, 168, 1, 12] ++
    [4, 0, 0x59, 0x68, 0, 0, 0, 1, 0, 0, 0, 0, 0x50, 2, 2, 0, 0, 0, 0, 0]

theorem one_frame_panics :
    ¬Machine.Guarded step NoPanic host [.frame (arrival shortPacket)] ∧
      ¬Machine.Guarded step NoPanic host [.frame (arrival strangeSyn)] := by
  constructor
  · rintro ⟨quiet, -⟩
    exact quiet "IP: Bad total lenght #debug\n" rfl
  · rintro ⟨quiet, -⟩
    exact quiet "TCP: Invalid sk_listener" rfl

end Counterexample

end Gramado.Net.FramePanics
