/-
Two kernels on one wire: a process connects to a listener on the other machine,
and the two send and receive in any order while the frames are under way. What
one kernel sends the other one reads byte by byte from the frames that were
built for it.
-/
import Gramado.Net.FramePanics
import Gramado.Net.Talks

namespace Gramado.Net.Conversation

open Gramado.Ke Gramado.Lib.Bytes Gramado.Lib.Fallible Gramado.Lib.Machine
open Gramado.Net.Parse Gramado.Net.Tcp Gramado.Net.Calls Gramado.Net.Reception
open Gramado.Net.FrameRoundTrip Gramado.Net.Ends Gramado.Net.Opening

section Statement

/-- What a kernel has stored for a connection: the front of the file of its
    client's socket. -/
def stored (t : Tables) (i : Nat) : List UInt8 :=
  match ((t.connectionList[i]?.bind Connection.clientSocket).bind (t.sockets[·]?)).bind
      fun sk => sk.privateFile.bind (t.files[·]?) with
  | none => []
  | some fp => fp.base.take fp.w.toNat

/-- The connection was established on this side. -/
def EstablishedAt (t : Tables) (i : Nat) : Prop :=
  ∃ c, t.connectionList[i]? = some c ∧ c.status = .established

/-- What holds at every moment of a conversation over the connections `i` of the
    client and `j` of the server. -/
structure Agree (i j : Nat) (record : Record) (net : Network) : Prop where
  server_reads : record.handed .server <+: record.sent .client
  client_reads : record.handed .client = []
  nothing_lost : record.sent .client = stored net.server.tables j ++ underWay net.toServer
  nothing_lost_back : record.sent .server = stored net.client.tables i ++ underWay net.toClient
  order : EstablishedAt net.server.tables j → EstablishedAt net.client.tables i
  numbers : ∀ c d, net.client.tables.connectionList[i]? = some c →
    net.server.tables.connectionList[j]? = some d → c.status = .established →
      d.status = .established →
        c.sndNxt = d.rcvNxt + UInt32.ofNat (underWay net.toServer).length ∧
          d.sndNxt = c.rcvNxt + UInt32.ofNat (underWay net.toClient).length
  settled : net.toServer = [] → net.toClient = [] →
    (EstablishedAt net.client.tables i ∧ EstablishedAt net.server.tables j) ∨
      (i = net.client.tables.connectionList.length ∧
        j = net.server.tables.connectionList.length)

/-- Both kernels are up, the client's process has a new socket and the server's
    has one that it listens on, and the wire is empty. -/
structure Start (line : Line) (p : Parties) (net : Network) : Prop where
  usable : Usable line
  address : p.ip = line.serverIp ∧ p.port = line.serverPort
  clientHost : Host line.clientIp net.client
  serverHost : Host line.serverIp net.server
  client : ∃ f, Connectable line p.socket f net.client.tables
  server : Listens line p.listener net.server.tables
  quiet : net.toServer = [] ∧ net.toClient = [] ∧ net.accepted = none

end Statement

section Stages

variable {line : Line} {p : Parties} {i j : Nat} {record : Record} {net : Network}
  {pc ps : Places} {cc cs : Connection} {state : SocketState}

structure Idle (line : Line) (p : Parties) (i j : Nat) (record : Record) (net : Network) :
    Prop where
  hosts : Hosts line net
  client : ∃ f, Connectable line p.socket f net.client.tables
  server : Listens line p.listener net.server.tables
  quiet : net.toServer = [] ∧ net.toClient = [] ∧ net.accepted = none
  last : i = net.client.tables.connectionList.length ∧ j = net.server.tables.connectionList.length
  blank : record = Record.blank

structure Opens (line : Line) (side : Side) (flags : UInt16) (s : TcpSend) : Prop
    extends OnLine line side s where
  flags : s.flags = flags
  empty : s.data = []

structure Called (line : Line) (p : Parties) (i j : Nat) (record : Record) (net : Network)
    (pc : Places) (cc : Connection) : Prop where
  hosts : Hosts line net
  clientPlaces : pc.client = p.socket ∧ pc.conn = i
  clientEnd : End .client line pc net.client.tables cc .connecting (blankFile 1024)
  waits : cc.status = .synSent
  server : Listens line p.listener net.server.tables
  calls : ∃ mac s, net.toServer = [tcpFrame mac s] ∧ Opens line .client thSyn s ∧ s.seq = cc.iss
  quiet : net.toClient = [] ∧ net.accepted = none
  last : j = net.server.tables.connectionList.length
  blank : record = Record.blank

structure Answered (line : Line) (p : Parties) (i j : Nat) (record : Record) (net : Network)
    (pc ps : Places) (cc cs : Connection) (state : SocketState) : Prop where
  hosts : Hosts line net
  clientPlaces : pc.client = p.socket ∧ pc.conn = i
  serverPlaces : ps.server = p.listener ∧ ps.conn = j
  clientEnd : End .client line pc net.client.tables cc .connecting (blankFile 1024)
  serverEnd : End .server line ps net.server.tables cs state (blankFile 1024)
  waits : cc.status = .synSent ∧ cs.status = .synReceived
  numbers : cs.rcvNxt = cc.iss + 1
  answers : ∃ mac s, net.toClient = [tcpFrame mac s] ∧ Opens line .server (thSyn ||| thAck) s ∧
    s.seq + 1 = cs.sndNxt ∧ s.ack = cs.rcvNxt
  quiet : net.toServer = []
  holds : Holds ps.server ps.client net.server.tables
  named : net.accepted = none ∨ net.accepted = some ps.client
  blank : record = Record.blank

/-- How far the two have come. -/
inductive Stage (line : Line) (p : Parties) (i j : Nat) (record : Record) (net : Network) : Prop
  | idle (stage : Idle line p i j record net)
  | called (pc : Places) (cc : Connection) (stage : Called line p i j record net pc cc)
  | answered (pc ps : Places) (cc cs : Connection) (state : SocketState)
      (stage : Answered line p i j record net pc ps cc cs state)
  | talks (stage : Talks line p i j record net)

theorem Start.idle (start : Start line p net) :
    Idle line p net.client.tables.connectionList.length net.server.tables.connectionList.length
      Record.blank net := by
  refine ⟨⟨start.clientHost, start.serverHost, ?_⟩, start.client, start.server, start.quiet,
    ⟨rfl, rfl⟩, rfl⟩
  intro side
  cases side with
  | client =>
      rcases start.client with ⟨f, able⟩
      exact ephemeralPort_allowed able
  | server => exact start.usable.allowed

theorem calling_segmentOf {side : Side} {s : TcpSend} (opens : Opens line side thSyn s)
    (small : s.data.length ≤ 1398) : Calling (segmentOf s small) := by
  have flags : (segmentOf s small).flags = 0x5000 ||| s.flags := rfl
  constructor <;>
    simp only [Segment.fin, Segment.syn, Segment.rst, Segment.isAck, flags, opens.flags] <;> decide

theorem accepting_segmentOf {side : Side} {s : TcpSend}
    (opens : Opens line side (thSyn ||| thAck) s)
    (small : s.data.length ≤ 1398) : Accepting (segmentOf s small) := by
  have flags : (segmentOf s small).flags = 0x5000 ||| s.flags := rfl
  constructor <;>
    simp only [Segment.fin, Segment.syn, Segment.rst, Segment.isAck, flags, opens.flags] <;> decide

theorem Idle.connect (idle : Idle line p i j record net) (usable : Usable line)
    (address : p.ip = line.serverIp ∧ p.port = line.serverPort) {found : Arrival}
    (memory : 8 ≤ found.heap.left) : Moves p record net (.connect found) (Stage line p i j) := by
  rcases idle.client with ⟨f, able⟩
  rcases able.socket with ⟨sk, there, family, unconnected, own⟩
  have host : Host line.clientIp net.client := idle.hosts.client
  have sends := connectInet_calling usable able there unconnected (host.wired found) memory host.own
  have left := calling_end (net.client.env found) usable able there family own
  rcases host.nic with ⟨nic, wired⟩
  rw [← address.1, ← address.2] at sends
  generalize calling (net.client.env found) net.client.tables p.socket sk line = t' at sends left
  obtain ⟨syn, named⟩ : ∃ s, s = connectSyn (net.client.env found) line.clientPort p.ip p.port :=
    ⟨_, rfl⟩
  have opens : Opens line .client thSyn syn ∧ syn.seq = found.isn := by
    rw [named]
    exact ⟨⟨⟨host.own, address.1, rfl, address.2⟩, rfl, rfl⟩, rfl⟩
  rw [← named] at sends
  refine ⟨⟨0, [syn], []⟩, net.put .client { net.client with tables := t' } [syn], ?_, ?_⟩
  · simp only [step]
    rw [sends]
    rfl
  refine .called _ _ ⟨⟨host.withTables t', idle.hosts.server, idle.hosts.allowed⟩,
    ⟨rfl, idle.last.1.symm⟩, left, rfl, idle.server, ⟨nic.mac, syn, ?_, opens⟩, idle.quiet.2,
    idle.last.2, idle.blank⟩
  simp only [Network.put, Network.setKernel, Network.setWire, Side.other, Network.wire,
    idle.quiet.1, framesOf, wired]
  rfl

/-- An accept with nobody in the backlog leaves a listener that listens. -/
theorem accept_nobody (listens : Listens line p.listener net.server.tables)
    {inv : Record → Network → Prop}
    (kept : ∀ t', Listens line p.listener t' →
      t'.connectionList = net.server.tables.connectionList →
        inv record { net with server := { net.server with tables := t' } }) :
    Moves p record net .accept inv := by
  rcases sysAccept_nobody listens with ⟨t', served, still, same⟩
  refine ⟨.just (-1), { net with server := { net.server with tables := t' } }, ?_,
    kept t' still same⟩
  rw [step, served]
  rfl

theorem Idle.moves (idle : Idle line p i j record net) (usable : Usable line)
    (address : p.ip = line.serverIp ∧ p.port = line.serverPort) {act : Act}
    (good : Good record net act) : Moves p record net act (Stage line p i j) := by
  rcases idle.client with ⟨f, able⟩
  rcases able.socket with ⟨sk, there, -, unconnected, -⟩
  have away : sk.state ≠ .connected := by
    rw [unconnected]
    decide
  cases act with
  | connect found => exact idle.connect usable address good
  | accept =>
      apply accept_nobody idle.server
      intro t' still same
      exact .idle ⟨⟨idle.hosts.client, idle.hosts.server.withTables t', idle.hosts.allowed⟩,
        idle.client, still, idle.quiet, ⟨idle.last.1, by rw [idle.last.2]; rw [same]⟩, idle.blank⟩
  | send side found buf =>
      cases side with
      | client =>
          exact send_refused rfl (tcpSocketSend_unconnected there away) (.idle idle)
      | server => exact send_unnamed idle.quiet.2.2 (.idle idle)
  | recv side len =>
      cases side with
      | client => exact recv_refused rfl (tcpSocketRecv_unconnected there away len) (.idle idle)
      | server => exact recv_unnamed idle.quiet.2.2 (.idle idle)
  | arrive side found =>
      cases side with
      | client => exact arrive_nothing idle.quiet.2.1 (.idle idle)
      | server => exact arrive_nothing idle.quiet.1 (.idle idle)

theorem Called.arrive (called : Called line p i j record net pc cc) (usable : Usable line)
    {found : Arrival} (good : Good record net (.arrive .server found)) :
    Moves p record net (.arrive .server found) (Stage line p i j) := by
  rcases called.calls with ⟨mac, s, wire, opens, seq⟩
  rcases called.server.socket with ⟨sk, there, -⟩
  have host : Host line.serverIp net.server := called.hosts.server
  have small : s.data.length ≤ 1398 := by
    rw [opens.empty]
    exact Nat.zero_le _
  have zeros : ZeroTail s.data := by
    rw [opens.empty]
    rfl
  have port : allowThisPort s.targetPort = true := by
    rw [opens.targetPort]
    exact called.hosts.allowed .server
  have peer := fromPeer_segmentOf .server opens.toOnLine (called.hosts.allowed .server) small
  have saved := host.savedFrom mac s
  obtain ⟨env, here⟩ : ∃ env, env = (savedFrom net.server mac s).env found := ⟨_, rfl⟩
  have wired : env.wired = true := by
    rw [here]
    exact saved.wired found
  have memory : 8 ≤ env.heap.left := by
    rw [here]
    exact good.1
  have clear : env.fsizeThere = 0 := by
    rw [here]
    exact good.2
  have handled := networkHandleTcp_calling called.server there peer
    (calling_segmentOf opens small) wired memory
  -- The server makes a connection of the SYN and answers with SYN|ACK.
  have left := answering_end called.server usable there peer clear
  have holds := answering_holds env called.server there (segmentOf s small)
  obtain ⟨ack, named⟩ : ∃ a, a = synAck env (segmentOf s small) := ⟨_, rfl⟩
  have answers : Opens line .server (thSyn ||| thAck) ack := by
    rw [named, here]
    exact ⟨⟨host.own, opens.sourceIp, opens.targetPort, opens.sourcePort⟩, rfl, rfl⟩
  have seqs : ack.seq + 1 = listenerISN + 1 ∧ ack.ack = s.seq + 1 := by
    rw [named]
    exact ⟨rfl, rfl⟩
  rw [← named] at handled
  generalize answering env net.server.tables (segmentOf s small) p.listener sk line = t'
    at handled left holds
  have received : receiveSending net.server { found with frame := tcpFrame mac s } =
      .ok ([ack], { savedFrom net.server mac s with tables := t' }) := by
    rw [receiveSending_frame host.ready port small zeros, ← here, handled]
    rfl
  rcases saved.nic with ⟨nic, card⟩
  refine ⟨.just 0, _, arrive_step wire received,
    .answered pc (answeringPlaces net.server.tables p.listener) cc
      (answeringConnection (segmentOf s small) env.saved.callerMac net.server.tables.sockets.length
        p.listener) .connecting ?_⟩
  refine ⟨⟨called.hosts.client, saved.withTables t', called.hosts.allowed⟩, called.clientPlaces,
    ⟨rfl, called.last.symm⟩, called.clientEnd, left, ⟨called.waits, rfl⟩, ?_,
    ⟨nic.mac, ack, ?_, answers, seqs⟩, rfl, holds, .inl called.quiet.2, called.blank⟩
  · rw [← seq]
    rfl
  · simp only [Network.put, Network.setKernel, Network.setWire, Side.other, Network.wire,
      called.quiet.1, framesOf, card]
    rfl

theorem Called.moves (called : Called line p i j record net pc cc) (usable : Usable line)
    {act : Act} (good : Good record net act) : Moves p record net act (Stage line p i j) := by
  have still : Stage line p i j record net := .called pc cc called
  have socket : pc.client = p.socket := called.clientPlaces.1
  rcases called.clientEnd.client with ⟨sk, there, -, connecting, -⟩
  have away : sk.state ≠ .connected := by
    rw [connecting]
    decide
  rw [socket] at there
  cases act with
  | connect found => exact connect_refused called.clientEnd socket (by decide) still
  | accept =>
      apply accept_nobody called.server
      intro t' listens same
      exact .called pc cc ⟨⟨called.hosts.client, called.hosts.server.withTables t',
        called.hosts.allowed⟩, called.clientPlaces, called.clientEnd, called.waits, listens,
        called.calls, called.quiet, by rw [called.last]; rw [same], called.blank⟩
  | send side found buf =>
      cases side with
      | client => exact send_refused rfl (tcpSocketSend_unconnected there away) still
      | server => exact send_unnamed called.quiet.2 still
  | recv side len =>
      cases side with
      | client => exact recv_refused rfl (tcpSocketRecv_unconnected there away len) still
      | server => exact recv_unnamed called.quiet.2 still
  | arrive side found =>
      cases side with
      | client => exact arrive_nothing called.quiet.1 still
      | server => exact called.arrive usable good

/-- The answer connects the client, and its acknowledgement is the first piece of
    the talk. -/
theorem Answered.arrive (answered : Answered line p i j record net pc ps cc cs state)
    {found : Arrival} (good : Good record net (.arrive .client found)) :
    Moves p record net (.arrive .client found) (Stage line p i j) := by
  rcases answered.answers with ⟨mac, s, wire, opens, seq, acked⟩
  have host : Host (line.ip .client) net.client := answered.hosts.client
  have small : s.data.length ≤ 1398 := by
    rw [opens.empty]
    exact Nat.zero_le _
  have zeros : ZeroTail s.data := by
    rw [opens.empty]
    rfl
  have port : allowThisPort s.targetPort = true := by
    rw [opens.targetPort]
    exact answered.hosts.allowed .client
  have peer := fromPeer_segmentOf .client opens.toOnLine (answered.hosts.allowed .client) small
  have saved := host.savedFrom mac s
  -- The client takes the SYN|ACK and answers with an ACK.
  rcases accepted_end answered.clientEnd peer (accepting_segmentOf opens small) answered.waits.1
    (saved.wired found) good.1 with ⟨t', handled, left⟩
  have piece := piece_answer mac found host opens.toOnLine small s.ack (s.seq + 1)
  obtain ⟨ack, named⟩ : ∃ a, a = answer ((savedFrom net.client mac s).env found) (segmentOf s small)
      s.ack (s.seq + 1) thAck := ⟨_, rfl⟩
  have numbers : ack.seq = cc.iss + 1 ∧ ack.ack = cs.sndNxt ∧ ack.data = [] := by
    rw [named]
    exact ⟨acked.trans answered.numbers, seq, rfl⟩
  rw [← named] at piece
  have received : receiveSending net.client { found with frame := tcpFrame mac s } =
      .ok ([ack], { savedFrom net.client mac s with tables := t' }) := by
    rw [receiveSending_frame host.ready port small zeros, named]
    exact congrArg (Except.map _) handled
  rcases saved.nic with ⟨nic, card⟩
  have wired := framesOf_wired (k := { savedFrom net.client mac s with tables := t' }) card [ack]
  -- That ACK is the first segment upward, and brings no bytes.
  have upward := (Direction.start line .client (cc.iss + 1)).push piece numbers.1 wired
    (by rw [numbers.2.2]; exact Nat.zero_le _)
  have downward := Direction.start line .server cs.sndNxt
  have none : cc.iss + 1 + UInt32.ofNat ([] : List UInt8).length = cc.iss + 1 := UInt32.add_zero _
  rw [numbers.2.2, none] at upward
  have toServer : ((net.setWire [] .client).put .client
      { savedFrom net.client mac s with tables := t' } [ack]).toServer =
        [] ++ framesOf { savedFrom net.client mac s with tables := t' } [ack] := by
    rw [← answered.quiet]
    rfl
  refine ⟨.just 0, _, arrive_step wire received, .talks ⟨pc, ps,
    openedConnection cc (segmentOf s small), cs, state, blankFile 5120, blankFile 1024, [ack],
      [], 0,
    0, ?_⟩⟩
  refine ⟨⟨saved.withTables t', answered.hosts.server, answered.hosts.allowed⟩,
    answered.clientPlaces, answered.serverPlaces, left, answered.serverEnd, rfl,
    .inr ⟨answered.waits.2, ack, [], rfl, numbers.2.2, numbers.2.1⟩, ?_, ?_, ?_, ?_, answered.holds,
    answered.named⟩
  · rw [toServer, answered.blank, answered.numbers]
    exact upward
  · rw [answered.blank]
    rw [← seq] at downward
    rw [← seq]
    exact downward
  · rw [answered.blank]
    exact ⟨rfl, Nat.le_refl 0, rfl⟩
  · rw [answered.blank]
    exact ⟨rfl, rfl⟩

theorem Answered.moves (answered : Answered line p i j record net pc ps cc cs state) {act : Act}
    (good : Good record net act) : Moves p record net act (Stage line p i j) := by
  have still : Stage line p i j record net := .answered pc ps cc cs state answered
  have socket : pc.client = p.socket := answered.clientPlaces.1
  -- The server still waits for the ACK of its SYN.
  have shut : ¬Open cs := by
    have role : cs.isLocalServer = true := answered.serverEnd.role
    rw [Open, role, answered.waits.2]
    decide
  have early : cs.status ≠ .established := by
    rw [answered.waits.2]
    decide
  cases act with
  | connect found => exact connect_refused answered.clientEnd socket (by decide) still
  | accept =>
      rcases sysAccept_end answered.serverEnd answered.holds with
        ⟨rv, state', t', served, left, holds, outcome⟩
      rw [answered.serverPlaces.1] at served outcome
      refine ⟨_, _, by rw [step, served]; rfl, .answered pc ps cc cs state' ?_⟩
      refine ⟨⟨answered.hosts.client, answered.hosts.server.withTables t',
        answered.hosts.allowed⟩, answered.clientPlaces, answered.serverPlaces, answered.clientEnd,
        left, answered.waits, answered.numbers, answered.answers, answered.quiet, holds, ?_,
        answered.blank⟩
      exact named_accept answered.named outcome
  | send side found buf =>
      cases side with
      | client =>
          have away : SocketState.connecting ≠ .connected := by decide
          have refused : ∃ rv ≤ 0, tcpSocketSend (net.client.env found) net.client.tables pc.client
              buf = .ok (.just rv, net.client.tables) :=
            tcpSocketSend_early answered.clientEnd (.inl away)
          rw [socket] at refused
          exact send_refused rfl refused still
      | server =>
          rcases answered.named with nobody | named
          · exact send_unnamed nobody still
          · exact send_refused named (tcpSocketSend_early answered.serverEnd (.inr early)) still
  | recv side len =>
      cases side with
      | client =>
          rcases answered.clientEnd.client with ⟨sk, there, -, connecting, -⟩
          rw [socket] at there
          exact recv_refused rfl
            (tcpSocketRecv_unconnected there (by rw [connecting]; decide) len) still
      | server =>
          rcases answered.named with nobody | named
          · exact recv_unnamed nobody still
          · exact recv_refused named (tcpSocketRecv_shut answered.serverEnd shut len) still
  | arrive side found =>
      cases side with
      | client => exact answered.arrive good
      | server => exact arrive_nothing answered.quiet still

theorem Stage.moves (stage : Stage line p i j record net) (usable : Usable line)
    (address : p.ip = line.serverIp ∧ p.port = line.serverPort) {act : Act}
    (good : Good record net act) : Moves p record net act (Stage line p i j) := by
  cases stage with
  | idle stage => exact stage.moves usable address good
  | called pc cc stage => exact stage.moves usable good
  | answered pc ps cc cs state stage => exact stage.moves good
  | talks stage =>
      rcases stage.moves good with ⟨answer, net', served, kept⟩
      exact ⟨answer, net', served, .talks kept⟩

end Stages

section Agreement

variable {line : Line} {p : Parties} {i j : Nat} {record : Record} {net : Network} {t : Tables}
  {pl pc ps : Places} {cc cs c : Connection} {state : SocketState} {fp fpc fps : SocketFile}
  {up down : List TcpSend} {wc ws : Nat} {side origin : Side}

theorem stored_end (e : End side line pl t c state fp) :
    stored t pl.conn = fp.base.take fp.w.toNat := by
  rcases e.client with ⟨sk, found, -, -, own, -⟩
  simp only [stored, e.listed, Option.bind_some, e.clientSocket, found, own, e.file]

theorem stored_unlisted (t : Tables) : stored t t.connectionList.length = [] := by
  simp [stored]

theorem not_establishedAt_length (t : Tables) : ¬EstablishedAt t t.connectionList.length := by
  rintro ⟨c, listed, -⟩
  rw [List.getElem?_eq_none (Nat.le_refl _)] at listed
  cases listed

theorem not_establishedAt {status : Status} (listed : t.connectionList[i]? = some c)
    (now : c.status = status) (other : status ≠ .established) : ¬EstablishedAt t i := by
  rintro ⟨c', listed', established⟩
  cases listed.symm.trans listed'
  exact other (now.symm.trans established)

/-- What was sent is what the other end has in its file and, behind it, what is on
    the wire. -/
theorem Direction.sent_eq {n m : UInt32} {sent : List UInt8} {frames : List (List UInt8)}
    {segs : List TcpSend} {w : Nat}
    (direction : Direction line origin n m fp sent frames segs w)
    (e : End side line pl t c state fp) : sent = stored t pl.conn ++ underWay frames := by
  have holding := direction.holding
  rw [stored_end e, holding.position, Int.toNat_natCast, holding.same,
    underWay_framed direction.framed]
  exact direction.stream.whole

theorem Idle.agrees (idle : Idle line p i j record net) : Agree i j record net := by
  rcases idle with ⟨-, -, -, ⟨toServer, toClient, -⟩, ⟨rfl, rfl⟩, rfl⟩
  refine ⟨List.nil_prefix, rfl, ?_, ?_, ?_, ?_, fun _ _ => .inr ⟨rfl, rfl⟩⟩
  · rw [stored_unlisted, toServer]
    rfl
  · rw [stored_unlisted, toClient]
    rfl
  · intro established
    exact absurd established (not_establishedAt_length _)
  · intro c d listed _ up
    exact absurd ⟨c, listed, up⟩ (not_establishedAt_length _)

theorem Called.agrees (called : Called line p i j record net pc cc) : Agree i j record net := by
  rcases called with ⟨-, ⟨-, rfl⟩, clientEnd, waits, -, ⟨mac, s, wire, opens, -⟩, ⟨quiet, -⟩,
    rfl, rfl⟩
  have payload : underWay net.toServer = [] := by
    rw [wire]
    exact (List.append_nil s.data).trans opens.empty
  have calling := not_establishedAt clientEnd.listed waits (by decide)
  refine ⟨List.nil_prefix, rfl, ?_, ?_, ?_, ?_, ?_⟩
  · rw [stored_unlisted, payload]
    rfl
  · rw [stored_end clientEnd, quiet]
    rfl
  · intro established
    exact absurd established (not_establishedAt_length _)
  · intro c d listed _ up
    exact absurd ⟨c, listed, up⟩ calling
  · intro empty
    rw [wire] at empty
    cases empty

theorem Answered.agrees (answered : Answered line p i j record net pc ps cc cs state) :
    Agree i j record net := by
  rcases answered with ⟨-, ⟨-, rfl⟩, ⟨-, rfl⟩, clientEnd, serverEnd, ⟨calling, answering⟩, -,
    ⟨mac, s, wire, opens, -⟩, quiet, -, -, rfl⟩
  have payload : underWay net.toClient = [] := by
    rw [wire]
    exact (List.append_nil s.data).trans opens.empty
  have waits := not_establishedAt clientEnd.listed calling (by decide)
  refine ⟨List.nil_prefix, rfl, ?_, ?_, ?_, ?_, ?_⟩
  · rw [stored_end serverEnd, quiet]
    rfl
  · rw [stored_end clientEnd, payload]
    rfl
  · intro established
    exact absurd established (not_establishedAt serverEnd.listed answering (by decide))
  · intro c d listed _ up
    exact absurd ⟨c, listed, up⟩ waits
  · intro _ empty
    rw [wire] at empty
    cases empty

theorem Talking.agrees (talking : Talking line p i j record net pc ps cc cs state fpc fps up down
    wc ws) : Agree i j record net := by
  have clientListed := talking.clientEnd.listed
  have serverListed := talking.serverEnd.listed
  have upward := talking.upward.sent_eq talking.serverEnd
  have downward := talking.downward.sent_eq talking.clientEnd
  rw [talking.clientPlaces.2] at clientListed downward
  rw [talking.serverPlaces.2] at serverListed upward
  have connected : EstablishedAt net.client.tables i := ⟨cc, clientListed, talking.clientUp⟩
  refine ⟨?_, talking.clientReads.1, upward, downward, fun _ => connected, ?_, ?_⟩
  · rw [talking.serverReads.2.2]
    exact List.take_prefix _ _
  · intro c d listed listed' _ _
    cases clientListed.symm.trans listed
    cases serverListed.symm.trans listed'
    exact ⟨talking.upward.numbers, talking.downward.numbers⟩
  · intro empty _
    rcases talking.serverUp with established | ⟨-, s, later, split, -⟩
    · exact .inl ⟨connected, cs, serverListed, established⟩
    · have framed := talking.upward.framed
      rw [empty, split] at framed
      cases framed

theorem Stage.agrees (stage : Stage line p i j record net) : Agree i j record net := by
  cases stage with
  | idle stage => exact stage.agrees
  | called pc cc stage => exact stage.agrees
  | answered pc ps cc cs state stage => exact stage.agrees
  | talks stage =>
      rcases stage with ⟨pc, ps, cc, cs, state, fpc, fps, up, down, wc, ws, talking⟩
      exact talking.agrees

end Agreement

section Example

def home : Line :=
  ⟨0xC0A8010C, 32768, 0xC0A80114, 22888⟩

/-- A kernel whose process has a new socket. -/
def caller : Kernel :=
  { FramePanics.host with
    tables := { Tables.initial with
      sockets := [{ createSocketObject with family := .inet, privateFile := some 0 }]
      files := [blankFile 1024] } }

/-- A kernel whose process listens on the port 22888. -/
def callee : Kernel :=
  { FramePanics.host with
    dhcpInfo := { FramePanics.host.dhcpInfo with yourIpv4 := home.serverIp }
    tables := { Tables.initial with
      sockets := [{ createSocketObject with
        family := .inet, state := .listening, privateFile := some 0
        ipIpv4 := home.serverIp, port := home.serverPort, backlogMax := 1 }]
      files := [blankFile 1024]
      serverList := [⟨home.serverPort, 0⟩] } }

def parties : Parties :=
  ⟨0, 0, home.serverIp, home.serverPort⟩

def beginning : Network :=
  ⟨caller, callee, [], [], none⟩

/-- The client says two bytes, before the server's kernel knows that it is
    connected, and the server's process reads them. -/
def hello : List Act :=
  let found := FramePanics.arrival []
  [.connect found, .arrive .server found, .arrive .client found, .send .client found [104, 105],
    .arrive .server found, .accept, .arrive .server found, .recv .server 10]

set_option maxRecDepth 8192 in
example : (run (observe note (step parties)) (Record.blank, beginning) hello).toOption.map
    (fun out => out.2.1.handed .server) = some [104, 105] := by
  rfl

theorem beginning_starts : Start home parties beginning where
  usable := ⟨by decide, by decide, by decide, by decide⟩
  address := ⟨rfl, rfl⟩
  clientHost := ⟨⟨rfl, rfl⟩, ⟨_, rfl⟩, rfl⟩
  serverHost := ⟨⟨rfl, rfl⟩, ⟨_, rfl⟩, rfl⟩
  client := by
    refine ⟨0, ⟨_, rfl, rfl, rfl, rfl⟩, rfl, by decide, by decide, by decide, rfl, ?_⟩
    intro c there
    cases there
  server := by
    refine ⟨⟨_, rfl, ⟨.inl rfl, by decide, by decide, by decide, by decide⟩, fun _ => rfl, rfl,
      .inl rfl⟩, rfl, by decide, ?_⟩
    intro c there
    cases there
  quiet := ⟨rfl, rfl, rfl⟩

theorem hello_good : Guarded (observe note (step parties)) (fun seen act => Good seen.1 seen.2 act)
    (Record.blank, beginning) hello := by
  have memory : 8 ≤ (FramePanics.arrival []).heap.left := by decide
  refine ⟨memory, fun _ seen connected => ⟨⟨memory, rfl⟩, fun _ seen' answered =>
    ⟨⟨memory, rfl⟩, fun _ seen'' accepted => ⟨?_, fun _ _ _ => ⟨⟨memory, rfl⟩, fun _ _ _ =>
      ⟨trivial, fun _ _ _ => ⟨⟨memory, rfl⟩, fun _ _ _ => ⟨trivial, fun _ _ _ => trivial⟩⟩⟩⟩⟩⟩⟩⟩
  have blank : seen''.1 = Record.blank := by
    rw [(observe_ok accepted).2]
    exact (observe_ok answered).2.trans (observe_ok connected).2
  have room : (seen''.1.sent .client).length + 2 ≤ room .client := by
    rw [blank]
    decide
  exact ⟨by decide, rfl, room⟩

end Example

end Gramado.Net.Conversation
