/-
Two kernels on one wire, with a process on each. The wire keeps the order of the
frames and loses none. What a kernel sends comes to the other one as the segment
that it sent, and a direction of a connection is the stream of the bytes in the
receiver's file and on the wire.
-/
import Gramado.Lib.Streams
import Gramado.Net.FrameRoundTrip
import Gramado.Net.Opening
import Gramado.Net.Reception

namespace Gramado.Net.Conversation

open Gramado.Ke Gramado.Lib.Bytes Gramado.Lib.Fallible Gramado.Lib.Streams
open Gramado.Lib.Traced (value cut_eq_self_iff)
open Gramado.Net.Parse Gramado.Net.Tcp Gramado.Net.Calls Gramado.Net.Reception
open Gramado.Net.FrameRoundTrip Gramado.Net.Ends Gramado.Net.Opening
open Gramado.Net.InOrder (Holding storePayload_extended storePayload_nil extended
  extended_holding)

section System

/-- What the TCP handlers put on the wire for a delivery, and the kernel after it. -/
def handleSending (k : Kernel) (a : Arrival) : Delivery → Except Stop (List TcpSend × Kernel)
  | .tcp seg => do
      let (sent, tables) ← Tcp.networkHandleTcp (k.env a) k.tables seg
      pure (sent, { k with tables := tables })
  | delivery => do
      let k ← handle k a delivery
      pure ([], k)

def receiveSending (k : Kernel) (a : Arrival) : Except Stop (List TcpSend × Kernel) := do
  let (receiver, delivery) ← delivered k a
  handleSending { k with saved := receiver.saved } a delivery

/-- The two kernels with the frames on their way to each, and the socket behind
    the descriptor that the server's process has, if it has one. -/
structure Network where
  client : Kernel
  server : Kernel
  toServer : List (List UInt8)
  toClient : List (List UInt8)
  accepted : Option Nat

namespace Network

def kernel (net : Network) : Side → Kernel
  | .client => net.client
  | .server => net.server

def wire (net : Network) : Side → List (List UInt8)
  | .client => net.toClient
  | .server => net.toServer

def setKernel (net : Network) (k : Kernel) : Side → Network
  | .client => { net with client := k }
  | .server => { net with server := k }

def setWire (net : Network) (frames : List (List UInt8)) : Side → Network
  | .client => { net with toClient := frames }
  | .server => { net with toServer := frames }

end Network

/-- The frames of the segments that a kernel sends. -/
def framesOf (k : Kernel) (sent : List TcpSend) : List (List UInt8) :=
  match k.currentNIC with
  | none => []
  | some nic => sent.map (tcpFrame nic.mac)

/-- A kernel after something that sent segments, with their frames behind the
    ones that are on their way already. -/
def Network.put (net : Network) (side : Side) (k : Kernel) (sent : List TcpSend) : Network :=
  (net.setKernel k side).setWire (net.wire side.other ++ framesOf k sent) side.other

/-- The sockets that the two processes have at first, and the address that the
    client's process connects to. -/
structure Parties where
  socket : Nat
  listener : Nat
  ip : UInt32
  port : UInt16

/-- What can happen next. The arrival says what a call or a frame finds in the
    kernel; the frame itself is the first one on the wire. -/
inductive Act where
  | connect (found : Arrival)
  | accept
  | send (side : Side) (found : Arrival) (buf : List UInt8)
  | recv (side : Side) (len : Nat)
  | arrive (side : Side) (found : Arrival)

/-- The socket that a process can name. -/
def Parties.named (p : Parties) (net : Network) : Side → Option Nat
  | .client => some p.socket
  | .server => net.accepted

def called (net : Network) (side : Side) (served : Except Stop (Answer × Tables)) :
    Except Stop (Answer × Network) := do
  let (answer, tables) ← served
  pure (answer, net.put side { net.kernel side with tables := tables } answer.sent)

def step (p : Parties) (net : Network) : Act → Except Stop (Answer × Network)
  | .connect found =>
      called net .client
        (connectInet (net.client.env found) net.client.tables p.socket none p.ip p.port)
  | .accept => do
      let (answer, tables) ← sysAccept net.server.tables p.listener
      let accepted :=
        if answer.rv = 31 then chosen net.server.tables p.listener else net.accepted
      pure (answer,
        { net with server := { net.server with tables := tables }, accepted := accepted })
  | .send side found buf =>
      match p.named net side with
      | none => .ok (.just (-1), net)
      | some k =>
          called net side
            (tcpSocketSend ((net.kernel side).env found) (net.kernel side).tables k buf)
  | .recv side len =>
      match p.named net side with
      | none => .ok (.just (-1), net)
      | some k => called net side (tcpSocketRecv (net.kernel side).tables k len)
  | .arrive side found =>
      match net.wire side with
      | [] => .ok (.just 0, net)
      | frame :: later => do
          let (sent, k) ← receiveSending (net.kernel side) { found with frame := frame }
          pure (.just 0, (net.setWire later side).put side k sent)

/-- What the processes have sent and received so far. -/
structure Record where
  sent : Side → List UInt8
  handed : Side → List UInt8

def Record.blank : Record :=
  ⟨fun _ => [], fun _ => []⟩

def behindSide (f : Side → List UInt8) (side : Side) (bytes : List UInt8) : Side → List UInt8 :=
  fun other => if other = side then f other ++ bytes else f other

/-- A send counts as far as its return value says. -/
def note (record : Record) (_ : Network) : Act → Answer × Network → Record
  | .send side _ buf, out =>
      { record with sent := behindSide record.sent side (buf.take out.1.rv.toNat) }
  | .recv side _, out => { record with handed := behindSide record.handed side out.1.bytes }
  | _, _ => record

/-- The receiver of a side's bytes has this much room for them. -/
def room : Side → Nat
  | .client => 1024
  | .server => 5120

/-- The condition on what happens: there is memory, which is zero where a new file
    is made of it; and a process sends what survives the copies of the payload,
    and in all no more than the other side has room for. -/
def Good (record : Record) (_ : Network) : Act → Prop
  | .connect found => 8 ≤ found.heap.left
  | .accept => True
  | .send side _ buf =>
      buf.length ≤ 1398 ∧ ZeroTail buf ∧ (record.sent side).length + buf.length ≤ room side
  | .recv _ _ => True
  | .arrive _ found => 8 ≤ found.heap.left ∧ found.fsizeThere = 0

def underWay (frames : List (List UInt8)) : List UInt8 :=
  frames.flatMap (List.drop 54)

/-- A kernel that takes frames and has a NIC and an address. -/
structure Host (ip : UInt32) (k : Kernel) : Prop where
  ready : Ready k.receiver
  nic : ∃ nic, k.currentNIC = some nic
  own : k.dhcpInfo.yourIpv4 = ip

end System

section Frames

variable {k : Kernel} {a : Arrival} {s : TcpSend} {mac : Mac} {line : Line} {side : Side}

theorem receiveSending_forgets (k : Kernel) (a : Arrival) :
    (receiveSending k a).map Prod.snd = receive k a := by
  rw [receiveSending, receive]
  cases delivered k a with
  | error stop => rfl
  | ok read =>
      rcases read with ⟨receiver, delivery⟩
      cases delivery with
      | tcp seg =>
          simp only [ok_bind, handleSending, handle]
          cases Tcp.networkHandleTcp _ k.tables seg <;> rfl
      | none => rfl
      | arp packet =>
          simp only [ok_bind, handleSending]
          cases handle _ a (.arp packet) <;> rfl
      | dhcp message =>
          simp only [ok_bind, handleSending]
          cases handle _ a (.dhcp message) <;> rfl
      | udp datagram =>
          simp only [ok_bind, handleSending]
          cases handle _ a (.udp datagram) <;> rfl

/-- The kernel with the addresses of a frame saved. -/
def savedFrom (k : Kernel) (mac : Mac) (s : TcpSend) : Kernel :=
  { k with saved := (saveAddresses k.receiver mac s.sourceIp s.targetIp).saved }

/-- The segment that is read from the frame of a send. -/
def segmentOf (s : TcpSend) (small : s.data.length ≤ 1398) : Segment :=
  tcpSegment s ⟨s.data, small⟩

theorem receiveSending_frame (ready : Ready k.receiver) (port : allowThisPort s.targetPort = true)
    (small : s.data.length ≤ 1398) (zeros : ZeroTail s.data) :
    receiveSending k { a with frame := tcpFrame mac s } =
      (Tcp.networkHandleTcp ((savedFrom k mac s).env a) k.tables (segmentOf s small)).map
        fun out => (out.1, { savedFrom k mac s with tables := out.2 }) := by
  have copied : value (copyTcpPayload 54 (20 + s.data.length))
      (tcpFrame mac s ++ a.behind) = .ok ⟨s.data, small⟩ := by
    rw [copyTcpPayload_value tcpFrame_data small]
    simp only [cut_eq_self_iff.mpr zeros]
  have read : delivered k { a with frame := tcpFrame mac s } =
      .ok (saveAddresses k.receiver mac s.sourceIp s.targetIp, .tcp (segmentOf s small)) := by
    rw [delivered, Arrival.memory, tcpFrame_received ready (by omega), if_pos (.inr port), copied]
    rfl
  rw [receiveSending, read, ok_bind]
  simp only [handleSending]
  have env : (savedFrom k mac s).env { a with frame := tcpFrame mac s } =
      (savedFrom k mac s).env a := rfl
  rw [← env]
  cases answered : Tcp.networkHandleTcp
      ((savedFrom k mac s).env { a with frame := tcpFrame mac s }) k.tables (segmentOf s small) with
  | error stop =>
      simp only [savedFrom] at answered
      rw [answered]
      rfl
  | ok out =>
      simp only [savedFrom] at answered
      rw [answered]
      rfl

/-- Frames on the wire are those of the segments. -/
def Framed (frames : List (List UInt8)) (segs : List TcpSend) : Prop :=
  List.Forall₂ (fun frame s => ∃ mac, frame = tcpFrame mac s) frames segs

/-- The segments of a direction as pieces of its stream. -/
def bySeq : Numbering TcpSend UInt8 UInt32 where
  number := TcpSend.seq
  content := TcpSend.data
  next := fun n bytes => n + UInt32.ofNat bytes.length

theorem underWay_framed {frames : List (List UInt8)} {segs : List TcpSend}
    (framed : Framed frames segs) : underWay frames = carried bySeq segs := by
  induction framed with
  | nil => rfl
  | @cons frame s frames segs here _ ih =>
      rcases here with ⟨mac, rfl⟩
      have data : (tcpFrame mac s).drop 54 = s.data := rfl
      rw [underWay, List.flatMap_cons, data, ← underWay, ih]
      rfl

/-- A segment that goes from one end to the other. -/
structure OnLine (line : Line) (side : Side) (s : TcpSend) : Prop where
  sourceIp : s.sourceIp = line.ip side
  targetIp : s.targetIp = line.ip side.other
  sourcePort : s.sourcePort = line.port side
  targetPort : s.targetPort = line.port side.other

theorem fromPeer_segmentOf (side : Side) (there : OnLine line side.other s)
    (allowed : allowThisPort (line.port side) = true) (small : s.data.length ≤ 1398) :
    FromPeer side line (segmentOf s small) := by
  have back : side.other.other = side := by cases side <;> rfl
  refine ⟨there.sourceIp, there.sourcePort, ?_, ?_, allowed⟩
  · exact there.targetIp.trans (by rw [back])
  · exact there.targetPort.trans (by rw [back])

theorem framesOf_wired {nic : Dhcp.Nic} (there : k.currentNIC = some nic) (sent : List TcpSend) :
    Framed (framesOf k sent) sent := by
  rw [framesOf, there]
  simp only
  induction sent with
  | nil => exact .nil
  | cons s later ih => exact .cons ⟨_, rfl⟩ ih

theorem Framed.append {frames frames' : List (List UInt8)} {segs segs' : List TcpSend}
    (framed : Framed frames segs) (framed' : Framed frames' segs') :
    Framed (frames ++ frames') (segs ++ segs') :=
  List.rel_append framed framed'

end Frames

section Directions

variable {line : Line} {side : Side} {n m : UInt32} {fp : SocketFile} {sent : List UInt8}
  {frames : List (List UInt8)} {segs later : List TcpSend} {s : TcpSend} {w : Nat}

/-- A segment of a talk: an acknowledgement whose payload survives the copies. -/
structure Piece (line : Line) (side : Side) (s : TcpSend) : Prop extends OnLine line side s where
  acks : s.flags = thAck ∨ s.flags = thAck ||| thPush
  small : s.data.length ≤ 1398
  zeros : ZeroTail s.data

theorem acks_segmentOf (acks : s.flags = thAck ∨ s.flags = thAck ||| thPush)
    (small : s.data.length ≤ 1398) : Acks (segmentOf s small) := by
  have flags : (segmentOf s small).flags = 0x5000 ||| s.flags := rfl
  rcases acks with plain | pushed
  · constructor <;> simp only [Segment.fin, Segment.syn, Segment.rst, Segment.isAck, flags,
      plain] <;>
      decide
  · constructor <;> simp only [Segment.fin, Segment.syn, Segment.rst, Segment.isAck, flags,
      pushed] <;>
      decide

/-- The bytes of a side, in the file of the other end and on the wire. The
    receiver expects the number `n`, and the sender goes on with `m`. -/
structure Direction (line : Line) (side : Side) (n m : UInt32) (fp : SocketFile)
    (sent : List UInt8) (frames : List (List UInt8)) (segs : List TcpSend) (w : Nat) : Prop where
  stream : Stream bySeq n m sent (sent.take w) segs
  framed : Framed frames segs
  pieces : ∀ s ∈ segs, Piece line side s
  holding : Holding sent fp w
  settled : fp.w = 0 → fp.fsize = 0
  size : fp.base.length = room side
  bounded : sent.length ≤ room side

theorem Holding.append {stream : List UInt8} (holding : Holding stream fp w)
    (more : List UInt8) : Holding (stream ++ more) fp w where
  position := holding.position
  inside := holding.inside
  size := holding.size
  room := holding.room
  sent := by
    have sent := holding.sent
    rw [List.length_append]
    omega
  same := by rw [List.take_append_of_le_length holding.sent, holding.same]
  filled := holding.filled

theorem Direction.start (line : Line) (side : Side) (n : UInt32) :
    Direction line side n n (blankFile (room side)) [] [] [] 0 where
  stream := stream_start n
  framed := .nil
  pieces := by
    intro s there
    cases there
  holding := by
    have size : (blankFile (room side)).base.length = room side := List.length_replicate
    have small : room side < 2 ^ 31 := by cases side <;> decide
    refine ⟨rfl, Nat.zero_le _, by rwa [size], ?_, Nat.le_refl _, rfl, ?_⟩
    · rw [size]
      exact (Int.sub_zero _).symm
    · intro more
      exact absurd rfl more
  settled := fun _ => rfl
  size := List.length_replicate
  bounded := Nat.zero_le _

theorem Direction.push {new : List (List UInt8)}
    (direction : Direction line side n m fp sent frames segs w) (piece : Piece line side s)
    (number : s.seq = m) (framed : Framed new [s])
    (fits : sent.length + s.data.length ≤ room side) :
    Direction line side n (m + UInt32.ofNat s.data.length) fp (sent ++ s.data) (frames ++ new)
      (segs ++ [s]) w where
  stream := by
    rw [List.take_append_of_le_length direction.holding.sent]
    exact direction.stream.send number
  framed := direction.framed.append framed
  pieces := by
    intro other there
    rcases List.mem_append.mp there with old | last
    · exact direction.pieces other old
    · rw [List.mem_singleton.mp last]
      exact piece
  holding := Holding.append direction.holding s.data
  settled := direction.settled
  size := direction.size
  bounded := by rwa [List.length_append]

theorem Direction.pop (direction : Direction line side n m fp sent frames (s :: later) w)
    (valid : fp.valid = true) :
    s.seq = n ∧ ∃ mac rest, frames = tcpFrame mac s :: rest ∧
      ∃ fp', storePayload fp s.data = .ok fp' ∧ fp'.valid = true ∧ fp'.r = fp.r ∧
        Direction line side (n + UInt32.ofNat s.data.length) m fp' sent rest later
          (w + s.data.length) := by
  have holding := direction.holding
  have whole : sent.drop w = s.data ++ carried bySeq later := by
    have whole := direction.stream.whole
    conv at whole => lhs; rw [← List.take_append_drop w sent]
    exact List.append_cancel_left whole
  have start := holding.sent
  have next : s.data <+: sent.drop w := ⟨carried bySeq later, whole.symm⟩
  have fits : s.data.length ≤ fp.cnt.toNat := by
    have long := next.length_le
    have bounded := direction.bounded
    have size := direction.size
    rw [List.length_drop] at long
    rw [holding.room_eq]
    omega
  have front : sent.take (w + s.data.length) = sent.take w ++ s.data := by
    rw [List.take_add, whole, List.take_left']
    rfl
  have framed := direction.framed
  cases framed with
  | @cons frame _ frames _ here framed =>
      rcases here with ⟨mac, rfl⟩
      refine ⟨direction.stream.number_eq, mac, frames, rfl, ?_⟩
      have stream := direction.stream.take
      have after : ∀ fp', Holding sent fp' (w + s.data.length) → (fp'.w = 0 → fp'.fsize = 0) →
          fp'.base.length = room side →
            Direction line side (n + UInt32.ofNat s.data.length) m fp' sent frames later
              (w + s.data.length) := by
        intro fp' held settled size
        refine ⟨?_, framed, fun other there => direction.pieces other
          (List.mem_cons_of_mem _ there),
          held, settled, size, direction.bounded⟩
        rw [front]
        exact stream
      by_cases empty : s.data = []
      · refine ⟨fp, by rw [empty]; exact storePayload_nil, valid, rfl, ?_⟩
        refine after fp ?_ direction.settled direction.size
        rwa [empty]
      · refine ⟨extended fp w s.data, storePayload_extended holding fits empty, valid, rfl, ?_⟩
        have held := extended_holding holding fits next
        have positive : 0 < s.data.length := List.length_pos_of_ne_nil empty
        refine after _ held ?_ ?_
        · intro none
          rw [held.position] at none
          omega
        · have inside := held.inside
          have length : (poke fp.base w s.data).length = fp.base.length := by
            apply length_poke
            have long := next.length_le
            have bounded := direction.bounded
            have size := direction.size
            rw [List.length_drop] at long
            omega
          exact length.trans direction.size

theorem Direction.numbers (direction : Direction line side n m fp sent frames segs w) :
    m = n + UInt32.ofNat (underWay frames).length := by
  have spans : ∀ {n m : UInt32} {segs : List TcpSend}, Sequenced bySeq n segs m →
      m = n + UInt32.ofNat (carried bySeq segs).length := by
    intro n m segs sequenced
    induction segs generalizing n with
    | nil =>
        cases sequenced
        simp [carried]
    | cons s later ih =>
        rw [ih sequenced.2, carried, carried, List.flatMap_cons, List.length_append,
          UInt32.ofNat_add, ← UInt32.add_assoc]
        rfl
  rw [underWay_framed direction.framed]
  exact spans direction.stream.sequenced

end Directions

end Gramado.Net.Conversation
