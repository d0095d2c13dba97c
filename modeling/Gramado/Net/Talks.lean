/-
The two kernels once the client is connected. Whatever happens next, the two
ends stay those of one connection, and each direction keeps its stream.
-/
import Gramado.Net.TwoKernels

namespace Gramado.Net.Conversation

open Gramado.Ke Gramado.Lib.Bytes Gramado.Lib.Fallible
open Gramado.Net.Parse Gramado.Net.Tcp Gramado.Net.Calls Gramado.Net.Reception
open Gramado.Net.FrameRoundTrip Gramado.Net.Ends Gramado.Net.Opening
open Gramado.Net.InOrder (storePayload_nil)

section Talks

variable {line : Line} {p : Parties} {i j : Nat} {record : Record} {net : Network}
  {pc ps : Places} {cc cs : Connection} {state : SocketState} {fpc fps : SocketFile}
  {up down : List TcpSend} {wc ws : Nat} {side : Side} {k : Kernel} {ip : UInt32}

/-- Both kernels go on, and their handlers let the two ports through. -/
structure Hosts (line : Line) (net : Network) : Prop where
  client : Host line.clientIp net.client
  server : Host line.serverIp net.server
  allowed : ∀ side, allowThisPort (line.port side) = true

theorem Host.withTables (host : Host ip k) (t : Tables) : Host ip { k with tables := t } :=
  ⟨host.ready, host.nic, host.own⟩

theorem Host.savedFrom (host : Host ip k) (mac : Mac) (s : TcpSend) :
    Host ip (savedFrom k mac s) :=
  ⟨host.ready, host.nic, host.own⟩

theorem Host.wired (host : Host ip k) (a : Arrival) : (k.env a).wired = true := by
  rcases host.nic with ⟨nic, there⟩
  simp [Env.wired, Kernel.env, there]

/-- The first segment is the acknowledgement that the server waits for. -/
def Confirming (n : UInt32) (segs : List TcpSend) : Prop :=
  ∃ s later, segs = s :: later ∧ s.data = [] ∧ s.ack = n

theorem Confirming.append {n : UInt32} {segs : List TcpSend} (confirming : Confirming n segs)
    (more : List TcpSend) : Confirming n (segs ++ more) := by
  rcases confirming with ⟨s, later, rfl, rest⟩
  exact ⟨s, later ++ more, rfl, rest⟩

/-- What the server's process has read is the front of what its kernel stored. -/
def ReadsFront (sent handed : List UInt8) (fp : SocketFile) (w : Nat) : Prop :=
  fp.r = (handed.length : Int) ∧ handed.length ≤ w ∧ handed = sent.take handed.length

theorem ReadsFront.append {sent handed : List UInt8} {fp : SocketFile} {w : Nat}
    (reads : ReadsFront sent handed fp w) (below : w ≤ sent.length) (more : List UInt8) :
    ReadsFront (sent ++ more) handed fp w := by
  refine ⟨reads.1, reads.2.1, ?_⟩
  rw [List.take_append_of_le_length (Nat.le_trans reads.2.1 below)]
  exact reads.2.2

/-- The state of a talk, once the client is connected. -/
structure Talking (line : Line) (p : Parties) (i j : Nat) (record : Record) (net : Network)
    (pc ps : Places) (cc cs : Connection) (state : SocketState) (fpc fps : SocketFile)
    (up down : List TcpSend) (wc ws : Nat) : Prop where
  hosts : Hosts line net
  clientPlaces : pc.client = p.socket ∧ pc.conn = i
  serverPlaces : ps.server = p.listener ∧ ps.conn = j
  clientEnd : End .client line pc net.client.tables cc .connected fpc
  serverEnd : End .server line ps net.server.tables cs state fps
  clientUp : cc.status = .established
  serverUp : cs.status = .established ∨
    (cs.status = .synReceived ∧ Confirming cs.sndNxt up)
  upward : Direction line .client cs.rcvNxt cc.sndNxt fps (record.sent .client) net.toServer up ws
  downward : Direction line .server cc.rcvNxt cs.sndNxt fpc (record.sent .server) net.toClient
    down wc
  serverReads : ReadsFront (record.sent .client) (record.handed .server) fps ws
  clientReads : record.handed .client = [] ∧ fpc.r = 0
  holds : Holds ps.server ps.client net.server.tables
  named : net.accepted = none ∨ net.accepted = some ps.client

def Talks (line : Line) (p : Parties) (i j : Nat) (record : Record) (net : Network) : Prop :=
  ∃ pc ps cc cs state fpc fps up down wc ws,
    Talking line p i j record net pc ps cc cs state fpc fps up down wc ws

/-- The step is served, and leaves what `inv` says. -/
def Moves (p : Parties) (record : Record) (net : Network) (act : Act)
    (inv : Record → Network → Prop) : Prop :=
  ∃ answer net', step p net act = .ok (answer, net') ∧
    inv (note record net act (answer, net')) net'

@[simp] theorem behindSide_self (f : Side → List UInt8) (bytes : List UInt8) :
    behindSide f side bytes side = f side ++ bytes :=
  if_pos rfl

theorem behindSide_other (f : Side → List UInt8) {other : Side} (bytes : List UInt8)
    (apart : other ≠ side) : behindSide f side bytes other = f other :=
  if_neg apart

@[simp] theorem behindSide_nil (f : Side → List UInt8) : behindSide f side [] = f := by
  funext other
  simp [behindSide]

theorem framesOf_nil (k : Kernel) : framesOf k [] = [] := by
  rw [framesOf]
  split <;> rfl

theorem put_same (net : Network) (side : Side) :
    net.put side { net.kernel side with tables := (net.kernel side).tables } [] = net := by
  cases side <;> simp [Network.put, framesOf_nil, Network.setKernel, Network.setWire, Network.wire,
    Network.kernel, Side.other]

theorem called_nothing (net : Network) (side : Side) {rv : Int} :
    called net side (.ok (.just rv, (net.kernel side).tables)) = .ok (.just rv, net) := by
  have same := put_same net side
  rw [called, ok_bind]
  simp only [Answer.just] at same ⊢
  rw [same]
  rfl

theorem take_toNat_nonpos {rv : Int} (none : rv ≤ 0) (buf : List UInt8) :
    buf.take rv.toNat = [] := by
  rw [Int.toNat_of_nonpos none, List.take_zero]

theorem note_send_nothing {found : Arrival} {buf : List UInt8} {rv : Int} (none : rv ≤ 0) :
    note record net (.send side found buf) (.just rv, net) = record := by
  simp [note, Answer.just, take_toNat_nonpos none]

theorem note_sent (record : Record) (net net' : Network) (side : Side) (found : Arrival)
    (buf : List UInt8) (sent : List TcpSend) :
    (note record net (.send side found buf) (⟨buf.length, sent, []⟩, net')).sent =
      behindSide record.sent side buf := by
  simp [note]

theorem note_recv_nothing {len : Nat} {rv : Int} :
    note record net (.recv side len) (.just rv, net) = record := by
  simp [note, Answer.just]

section Refusals

variable {inv : Record → Network → Prop} {found : Arrival} {buf : List UInt8} {s : Nat}

theorem connect_refused {c : Connection} {fp : SocketFile}
    (e : End .client line pc net.client.tables c state fp) (there : pc.client = p.socket)
    (busy : state ≠ .unconnected) (kept : inv record net) :
    Moves p record net (.connect found) inv := by
  rcases e.client with ⟨sk, met, -, now, -⟩
  rw [there] at met
  refine ⟨.just (-1), net, ?_, kept⟩
  rw [step, connectInet_again met (by rwa [now])]
  exact called_nothing net .client

theorem send_refused (named : p.named net side = some s)
    (refused : ∃ rv ≤ 0, tcpSocketSend ((net.kernel side).env found) (net.kernel side).tables
    s buf =
      .ok (.just rv, (net.kernel side).tables)) (kept : inv record net) :
    Moves p record net (.send side found buf) inv := by
  rcases refused with ⟨rv, none, served⟩
  refine ⟨.just rv, net, ?_, ?_⟩
  · simp only [step, named]
    rw [served]
    exact called_nothing net side
  · rwa [note_send_nothing none]

theorem recv_refused {len : Nat} (named : p.named net side = some s)
    (refused : ∃ rv, tcpSocketRecv (net.kernel side).tables s len =
      .ok (.just rv, (net.kernel side).tables)) (kept : inv record net) :
    Moves p record net (.recv side len) inv := by
  rcases refused with ⟨rv, served⟩
  refine ⟨.just rv, net, ?_, ?_⟩
  · simp only [step, named]
    rw [served]
    exact called_nothing net side
  · rwa [note_recv_nothing]

theorem send_unnamed (nobody : p.named net side = none) (kept : inv record net) :
    Moves p record net (.send side found buf) inv := by
  refine ⟨.just (-1), net, ?_, ?_⟩
  · simp only [step, nobody]
  · rwa [note_send_nothing (by decide)]

theorem recv_unnamed {len : Nat} (nobody : p.named net side = none) (kept : inv record net) :
    Moves p record net (.recv side len) inv := by
  refine ⟨.just (-1), net, ?_, ?_⟩
  · simp only [step, nobody]
  · rwa [note_recv_nothing]

theorem arrive_nothing (empty : net.wire side = []) (kept : inv record net) :
    Moves p record net (.arrive side found) inv := by
  refine ⟨.just 0, net, ?_, kept⟩
  simp only [step, empty]

end Refusals

theorem Talking.talks (talking : Talking line p i j record net pc ps cc cs state fpc fps up down
    wc ws) : Talks line p i j record net :=
  ⟨pc, ps, cc, cs, state, fpc, fps, up, down, wc, ws, talking⟩

theorem named_accept {rv : Int} {state' : SocketState}
    (before : net.accepted = none ∨ net.accepted = some ps.client)
    (outcome : (rv = -1 ∧ state' = state) ∨ (rv = 31 ∧ state' = .connected ∧
      chosen net.server.tables p.listener = some ps.client)) :
    (if (Answer.just rv).rv = 31 then chosen net.server.tables p.listener else net.accepted) =
        none ∨
      (if (Answer.just rv).rv = 31 then chosen net.server.tables p.listener else net.accepted) =
        some ps.client := by
  rcases outcome with ⟨rfl, -⟩ | ⟨rfl, -, client⟩
  · exact before
  · exact .inr client

theorem Talking.accept (talking : Talking line p i j record net pc ps cc cs state fpc fps up down
    wc ws) : Moves p record net .accept (Talks line p i j) := by
  rcases sysAccept_end talking.serverEnd talking.holds with
    ⟨rv, state', t', served, left, holds, outcome⟩
  rw [talking.serverPlaces.1] at served outcome
  refine ⟨_, _, by rw [step, served]; rfl, pc, ps, cc, cs, state', fpc, fps, up, down, wc, ws, ?_⟩
  exact ⟨⟨talking.hosts.client, talking.hosts.server.withTables t', talking.hosts.allowed⟩,
    talking.clientPlaces, talking.serverPlaces, talking.clientEnd, left, talking.clientUp,
    talking.serverUp, talking.upward, talking.downward, talking.serverReads, talking.clientReads,
    holds, named_accept talking.named outcome⟩

theorem Direction.pushSend {n : UInt32} {c : Connection} {fp : SocketFile}
    {sent buf : List UInt8} {frames : List (List UInt8)} {segs : List TcpSend} {w : Nat}
    (direction : Direction line side n c.sndNxt fp sent frames segs w)
    (host : Host (line.ip side) k) (found : Arrival) (mac : Mac) (small : buf.length ≤ 1398)
    (zeros : ZeroTail buf) (fits : sent.length + buf.length ≤ room side) (t : Tables) :
    Direction line side n (sentConnection c buf).sndNxt fp (sent ++ buf)
      (frames ++ framesOf { k with tables := t } [dataSend (k.env found) line side c mac buf])
      (segs ++ [dataSend (k.env found) line side c mac buf]) w := by
  have piece : Piece line side (dataSend (k.env found) line side c mac buf) :=
    ⟨⟨host.own, rfl, rfl, rfl⟩, .inr rfl, small, zeros⟩
  rcases host.nic with ⟨nic, there⟩
  exact direction.push piece rfl (framesOf_wired there _) fits

theorem send_empty {env : Env} {t : Tables} {k : Nat} {sk : Socket}
    (there : t.sockets[k]? = some sk) : tcpSocketSend env t k [] = .ok (.just 0, t) := by
  rw [tcpSocketSend, there]
  rfl

theorem Talking.send_client (talking : Talking line p i j record net pc ps cc cs state fpc fps up
    down wc ws) {found : Arrival} {buf : List UInt8}
    (good : Good record net (.send .client found buf)) :
    Moves p record net (.send .client found buf) (Talks line p i j) := by
  rcases good with ⟨small, zeros, fits⟩
  have host : Host (line.ip .client) net.client := talking.hosts.client
  have socket : pc.client = p.socket := talking.clientPlaces.1
  by_cases empty : buf = []
  · subst empty
    rcases talking.clientEnd.client with ⟨sk, there, -⟩
    rw [socket] at there
    exact send_refused rfl ⟨0, Int.le_refl 0, send_empty there⟩ talking.talks
  rcases tcpSocketSend_end talking.clientEnd talking.clientUp (host.wired found) empty small with
    ⟨mac, sends⟩
  have left := talking.clientEnd.setConnection (sentConnection cc buf) rfl rfl rfl
  have upward := talking.upward.pushSend host found mac small zeros fits
    (net.client.tables.setConnection pc.conn (sentConnection cc buf))
  generalize dataSend (net.client.env found) line .client cc mac buf = s at sends upward
  rw [socket] at sends
  refine ⟨⟨buf.length, [s], []⟩, net.put .client { net.client with
    tables := net.client.tables.setConnection pc.conn (sentConnection cc buf) } [s], ?_, pc, ps,
    sentConnection cc buf, cs, state, fpc, fps, up ++ [s], down, wc, ws, ?_⟩
  · simp only [step, Parties.named, Network.kernel]
    rw [sends]
    rfl
  · refine ⟨⟨talking.hosts.client.withTables _, talking.hosts.server, talking.hosts.allowed⟩,
      talking.clientPlaces, talking.serverPlaces, left, talking.serverEnd, talking.clientUp,
      talking.serverUp.imp_right fun waits => ⟨waits.1, waits.2.append _⟩, ?_, talking.downward, ?_,
      talking.clientReads, talking.holds, talking.named⟩
    · rw [note_sent, behindSide_self]
      exact upward
    · rw [note_sent, behindSide_self]
      exact talking.serverReads.append talking.upward.holding.sent buf

theorem Talking.send_server (talking : Talking line p i j record net pc ps cc cs state fpc fps up
    down wc ws) {found : Arrival} {buf : List UInt8}
    (good : Good record net (.send .server found buf)) :
    Moves p record net (.send .server found buf) (Talks line p i j) := by
  rcases good with ⟨small, zeros, fits⟩
  have host : Host (line.ip .server) net.server := talking.hosts.server
  rcases talking.named with nobody | named
  · exact send_unnamed nobody talking.talks
  by_cases empty : buf = []
  · subst empty
    rcases talking.serverEnd.client with ⟨sk, there, -⟩
    exact send_refused named ⟨0, Int.le_refl 0, send_empty there⟩ talking.talks
  by_cases early : state ≠ .connected ∨ cs.status ≠ .established
  · exact send_refused named (tcpSocketSend_early talking.serverEnd early) talking.talks
  rw [not_or, not_not, not_not] at early
  rcases early with ⟨rfl, serverUp⟩
  rcases tcpSocketSend_end talking.serverEnd serverUp (host.wired found) empty small with
    ⟨mac, sends⟩
  have left := talking.serverEnd.setConnection (sentConnection cs buf) rfl rfl rfl
  have downward := talking.downward.pushSend host found mac small zeros fits
    (net.server.tables.setConnection ps.conn (sentConnection cs buf))
  generalize dataSend (net.server.env found) line .server cs mac buf = s at sends downward
  refine ⟨⟨buf.length, [s], []⟩, net.put .server { net.server with
    tables := net.server.tables.setConnection ps.conn (sentConnection cs buf) } [s], ?_, pc, ps, cc,
    sentConnection cs buf, .connected, fpc, fps, up, down ++ [s], wc, ws, ?_⟩
  · simp only [step, Parties.named, named, Network.kernel]
    rw [sends]
    rfl
  · refine ⟨⟨talking.hosts.client, talking.hosts.server.withTables _, talking.hosts.allowed⟩,
      talking.clientPlaces, talking.serverPlaces, talking.clientEnd, left, talking.clientUp,
      .inl serverUp, ?_, ?_, ?_, talking.clientReads, talking.holds, .inr named⟩
    · rw [note_sent, behindSide_other _ _ (by decide)]
      exact talking.upward
    · rw [note_sent, behindSide_self]
      exact downward
    · rw [note_sent, behindSide_other _ _ (by decide)]
      exact talking.serverReads

theorem Talking.recv_client (talking : Talking line p i j record net pc ps cc cs state fpc fps up
    down wc ws) (len : Nat) : Moves p record net (.recv .client len) (Talks line p i j) := by
  -- The client's end is open only once the server has closed, and it never does.
  have shut : ¬Open cc := by
    have role : cc.isLocalServer = false := talking.clientEnd.role
    rw [Open, role, talking.clientUp]
    decide
  have refused := tcpSocketRecv_shut talking.clientEnd shut len
  rw [talking.clientPlaces.1] at refused
  exact recv_refused rfl refused talking.talks

theorem Talking.recv_server (talking : Talking line p i j record net pc ps cc cs state fpc fps up
    down wc ws) (len : Nat) : Moves p record net (.recv .server len) (Talks line p i j) := by
  rcases talking.named with nobody | named
  · exact recv_unnamed nobody talking.talks
  rcases talking.serverReads with ⟨reader, below, front⟩
  rcases tcpSocketRecv_end talking.serverEnd talking.upward.holding reader below
    talking.upward.settled len with ⟨out, fp', m, served, handed⟩
  refine ⟨out.1, net.put .server { net.server with tables := out.2 } out.1.sent, ?_, pc, ps, cc,
    cs, state, fpc, fp', up, down, wc, ws, ?_⟩
  · simp only [step, Parties.named, named, Network.kernel]
    rw [served]
    rfl
  · refine ⟨⟨talking.hosts.client, talking.hosts.server.withTables _, talking.hosts.allowed⟩,
      talking.clientPlaces, talking.serverPlaces, talking.clientEnd, handed.left, talking.clientUp,
      talking.serverUp, ?_, ?_, ?_, ?_, ?_, .inr named⟩
    · have upward := talking.upward
      refine ⟨upward.stream, upward.framed, upward.pieces, handed.holding, ?_, ?_, upward.bounded⟩
      · intro start
        rw [handed.kept.1]
        apply upward.settled
        rw [upward.holding.position, ← handed.holding.position, start]
      · rw [handed.kept.2]
        exact upward.size
    · have downward := talking.downward
      simpa [note, handed.silent, framesOf_nil, Network.put, Network.setKernel, Network.setWire,
        Network.wire, Side.other] using downward
    · have length : ((record.handed .server) ++
          ((record.sent .client).drop (record.handed .server).length).take m).length =
            (record.handed .server).length + m := by
        have long := talking.upward.holding.sent
        have inside := handed.inside
        rw [List.length_append, List.length_take, List.length_drop]
        omega
      refine ⟨?_, ?_, ?_⟩
      · simpa only [note, behindSide_self, handed.bytes, length] using handed.reader
      · simpa only [note, behindSide_self, handed.bytes, length] using handed.inside
      · simp only [note, behindSide_self, handed.bytes, length]
        rw [List.take_add, ← front]
    · simpa [note, behindSide] using talking.clientReads
    · rcases talking.holds with ⟨sk, there, backlogged⟩
      exact ⟨sk, by rw [← there]; exact congrArg (·[ps.server]?) handed.sockets, backlogged⟩

theorem arrive_step {frame : List UInt8} {rest : List (List UInt8)} {found : Arrival}
    {sent : List TcpSend} {k : Kernel} (first : net.wire side = frame :: rest)
    (received : receiveSending (net.kernel side) { found with frame := frame } = .ok (sent, k)) :
    step p net (.arrive side found) = .ok (.just 0, (net.setWire rest side).put side k sent) := by
  simp only [step, first]
  rw [received]
  rfl

theorem piece_answer (mac : Mac) (found : Arrival) {s : TcpSend} (host : Host (line.ip side) k)
    (there : OnLine line side.other s) (small : s.data.length ≤ 1398) (seq ack : UInt32) :
    Piece line side
      (answer ((savedFrom k mac s).env found) (segmentOf s small) seq ack thAck) := by
  have back : side.other.other = side := by cases side <;> rfl
  refine ⟨⟨host.own, there.sourceIp, ?_, there.sourcePort⟩, .inl rfl, Nat.zero_le _, rfl⟩
  exact there.targetPort.trans (by rw [back])

theorem Talking.arrive_client (talking : Talking line p i j record net pc ps cc cs state fpc fps up
    down wc ws) (found : Arrival) :
    Moves p record net (.arrive .client found) (Talks line p i j) := by
  have host : Host (line.ip .client) net.client := talking.hosts.client
  cases down with
  -- Nothing is on the line.
  | nil =>
      have empty : net.wire .client = [] := by
        have framed := talking.downward.framed
        cases wire : net.toClient with
        | nil => exact wire
        | cons frame rest =>
            rw [wire] at framed
            cases framed
      exact arrive_nothing empty talking.talks
  | cons s later =>
      have piece := talking.downward.pieces s List.mem_cons_self
      rcases talking.downward.pop talking.clientEnd.valid with
        ⟨order, mac, rest, wire, fp', stores, valid, reader, downward⟩
      have peer := fromPeer_segmentOf .client piece.toOnLine
        (talking.hosts.allowed .client) piece.small
      have wired : ((savedFrom net.client mac s).env found).wired = true :=
        (host.savedFrom mac s).wired found
      rcases established_end talking.clientEnd peer (acks_segmentOf piece.acks piece.small)
        talking.clientUp order stores valid wired with ⟨t', handled, left, -⟩
      have port : allowThisPort s.targetPort = true := by
        rw [piece.targetPort]
        exact talking.hosts.allowed .client
      obtain ⟨ack, named⟩ : ∃ ack, ack = answer ((savedFrom net.client mac s).env found)
        (segmentOf s piece.small) cc.sndNxt (cc.rcvNxt + (segmentOf s piece.small).dataLen)
          thAck := ⟨_, rfl⟩
      have replied : reply ((savedFrom net.client mac s).env found) (segmentOf s piece.small) cc
          .client = [ack] := by
        rw [named]
        rfl
      rw [replied] at handled
      have received : receiveSending net.client { found with frame := tcpFrame mac s } =
          .ok ([ack], { savedFrom net.client mac s with tables := t' }) := by
        rw [receiveSending_frame host.ready port piece.small piece.zeros]
        exact congrArg (Except.map _) handled
      rcases (host.savedFrom mac s).nic with ⟨nic, there⟩
      have acked : Piece line .client ack := by
        rw [named]
        exact piece_answer mac found host piece.toOnLine piece.small _ _
      have number : ack.seq = cc.sndNxt := by
        rw [named]
        rfl
      have empty : ack.data = [] := by
        rw [named]
        rfl
      have framed := framesOf_wired (k := { savedFrom net.client mac s with tables := t' }) there
        [ack]
      have upward := talking.upward.push acked number framed
        (by rw [empty]; exact talking.upward.bounded)
      have none : cc.sndNxt + UInt32.ofNat ([] : List UInt8).length = cc.sndNxt :=
        UInt32.add_zero _
      rw [empty, none, List.append_nil] at upward
      refine ⟨.just 0, _, arrive_step wire received, pc, ps,
        passed .client cc (segmentOf s piece.small), cs,
        state, fp', fps, up ++ [ack], later, wc + s.data.length, ws, ?_⟩
      exact ⟨⟨(host.savedFrom mac s).withTables t', talking.hosts.server, talking.hosts.allowed⟩,
        talking.clientPlaces, talking.serverPlaces, left, talking.serverEnd, talking.clientUp,
        talking.serverUp.imp_right fun waits => ⟨waits.1, waits.2.append _⟩, upward, downward,
        talking.serverReads, ⟨talking.clientReads.1, reader.trans talking.clientReads.2⟩,
        talking.holds, talking.named⟩

theorem Talking.arrive_server (talking : Talking line p i j record net pc ps cc cs state fpc fps up
    down wc ws) (found : Arrival) :
    Moves p record net (.arrive .server found) (Talks line p i j) := by
  have host : Host (line.ip .server) net.server := talking.hosts.server
  cases up with
  -- Nothing is on the line.
  | nil =>
      have empty : net.wire .server = [] := by
        have framed := talking.upward.framed
        cases wire : net.toServer with
        | nil => exact wire
        | cons frame rest =>
            rw [wire] at framed
            cases framed
      exact arrive_nothing empty talking.talks
  | cons s later =>
      have piece := talking.upward.pieces s List.mem_cons_self
      rcases talking.upward.pop talking.serverEnd.valid with
        ⟨order, mac, rest, wire, fp', stores, valid, reader, upward⟩
      have peer := fromPeer_segmentOf .server piece.toOnLine
        (talking.hosts.allowed .server) piece.small
      have acks := acks_segmentOf piece.acks piece.small
      have wired : ((savedFrom net.server mac s).env found).wired = true :=
        (host.savedFrom mac s).wired found
      have port : allowThisPort s.targetPort = true := by
        rw [piece.targetPort]
        exact talking.hosts.allowed .server
      -- Whatever the handler does with the segment, the frame brings it there and nothing is
      -- answered.
      have received : ∀ t', Tcp.networkHandleTcp ((savedFrom net.server mac s).env found)
          net.server.tables (segmentOf s piece.small) = .ok ([], t') →
            receiveSending net.server { found with frame := tcpFrame mac s } =
              .ok ([], { savedFrom net.server mac s with tables := t' }) := by
        intro t' handled
        rw [receiveSending_frame host.ready port piece.small piece.zeros]
        exact congrArg (Except.map _) handled
      have quiet : ∀ t',
          net.toClient ++ framesOf { savedFrom net.server mac s with tables := t' } [] =
          net.toClient := by
        intro t'
        rw [framesOf_nil, List.append_nil]
      have longer : ws + s.data.length ≤ (record.sent .client).length := upward.holding.sent
      have reads : ReadsFront (record.sent .client) (record.handed .server) fp'
          (ws + s.data.length) :=
        ⟨reader.trans talking.serverReads.1, Nat.le_add_right_of_le talking.serverReads.2.1,
          talking.serverReads.2.2⟩
      rcases talking.serverUp with established | ⟨waits, ack, later', split, empty, acknowledged⟩
      · -- The connection is open: the bytes go to the file.
        rcases established_end talking.serverEnd peer acks established order stores valid wired with
          ⟨t', handled, left, kept⟩
        refine ⟨.just 0, _, arrive_step wire (received t' handled), pc, ps, cc,
          passed .server cs (segmentOf s piece.small), .connected, fpc, fp', later, down, wc,
          ws + s.data.length, ?_⟩
        refine ⟨⟨talking.hosts.client, (host.savedFrom mac s).withTables t', talking.hosts.allowed⟩,
          talking.clientPlaces, talking.serverPlaces, talking.clientEnd, left, talking.clientUp,
          .inl established, upward, ?_, reads, talking.clientReads, ?_, talking.named⟩
        · have downward := talking.downward
          rw [← quiet t'] at downward
          exact downward
        · rcases talking.holds with ⟨sk, there, backlogged⟩
          exact ⟨sk, kept.trans there, backlogged⟩
      · -- The last segment of the opening brings no bytes.
        cases split
        have same : fp' = fps := by
          rw [empty, storePayload_nil] at stores
          cases stores
          rfl
        subst same
        rcases confirmed_end ((savedFrom net.server mac s).env found) talking.serverEnd peer
          acks waits acknowledged with ⟨t', handled, left, kept⟩
        refine ⟨.just 0, _, arrive_step wire (received t' handled), pc, ps, cc,
          confirmedConnection cs (segmentOf s piece.small), state, fpc, fp', later, down, wc,
          ws + s.data.length, ?_⟩
        refine ⟨⟨talking.hosts.client, (host.savedFrom mac s).withTables t', talking.hosts.allowed⟩,
          talking.clientPlaces, talking.serverPlaces, talking.clientEnd, left, talking.clientUp,
          .inl rfl, ?_, ?_, reads, talking.clientReads, ?_, talking.named⟩
        · rw [← order] at upward
          exact upward
        · have downward := talking.downward
          rw [← quiet t'] at downward
          exact downward
        · rcases talking.holds with ⟨sk, there, backlogged⟩
          exact ⟨sk, by rw [← there, ← kept]; rfl, backlogged⟩

/-- Once the client is connected, whatever happens leaves the talk going on. -/
theorem Talks.moves (talks : Talks line p i j record net) {act : Act}
    (good : Good record net act) : Moves p record net act (Talks line p i j) := by
  rcases talks with ⟨pc, ps, cc, cs, state, fpc, fps, up, down, wc, ws, talking⟩
  cases act with
  | connect found =>
      exact connect_refused talking.clientEnd talking.clientPlaces.1 (by decide) talking.talks
  | accept => exact talking.accept
  | send side found buf =>
      cases side with
      | client => exact talking.send_client good
      | server => exact talking.send_server good
  | recv side len =>
      cases side with
      | client => exact talking.recv_client len
      | server => exact talking.recv_server len
  | arrive side found =>
      cases side with
      | client => exact talking.arrive_client found
      | server => exact talking.arrive_server found

end Talks

end Gramado.Net.Conversation
