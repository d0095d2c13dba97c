/-
One end of a conversation: a connection of the tables with its two sockets and
the file that its data goes to. The lookups find it by the addresses of the
line, and what the calls and the handlers do to an established connection is
said here in terms of the end alone.
-/
import Gramado.Net.InOrder

namespace Gramado.Net.Ends

open Gramado.Ke Gramado.Lib.Bytes Gramado.Lib.Fallible
open Gramado.Net.Parse Gramado.Net.Tcp Gramado.Net.Calls Gramado.Net.InOrder

/-- The addresses of the two ends. -/
structure Line where
  clientIp : UInt32
  clientPort : UInt16
  serverIp : UInt32
  serverPort : UInt16
  deriving DecidableEq, Repr

inductive Side where
  | client
  | server
  deriving DecidableEq, Repr

def Line.ip (line : Line) : Side → UInt32
  | .client => line.clientIp
  | .server => line.serverIp

def Line.port (line : Line) : Side → UInt16
  | .client => line.clientPort
  | .server => line.serverPort

def Side.other : Side → Side
  | .client => .server
  | .server => .client

/-- Where the parts of an end are in the tables of its kernel. -/
structure Places where
  conn : Nat
  client : Nat
  server : Nat
  file : Nat

def SocketAt (t : Tables) (k : Nat) (ip : UInt32) (port : UInt16) : Prop :=
  ∃ sk, t.sockets[k]? = some sk ∧ sk.ipIpv4 = ip ∧ sk.port = port

/-- The client's socket of an end; on the server's side it stands for the remote
    client, and is what accept hands out. -/
def ClientSocket (line : Line) (p : Places) (t : Tables) (state : SocketState) : Prop :=
  ∃ sk, t.sockets[p.client]? = some sk ∧ sk.family = .inet ∧ sk.state = state ∧
    sk.privateFile = some p.file ∧ sk.conn = some p.conn ∧
      sk.ipIpv4 = line.clientIp ∧ sk.port = line.clientPort

/-- How the handler of a side gets to the connection. -/
def Reached (line : Line) (p : Places) (t : Tables) : Side → Prop
  | .client => isItALocalServer t line.clientPort = false ∧
      tcpFindConnectionByRemotePeer t line.serverIp line.serverPort = some p.conn
  | .server => isItALocalServer t line.serverPort = true

structure End (side : Side) (line : Line) (p : Places) (t : Tables) (c : Connection)
    (state : SocketState) (fp : SocketFile) : Prop where
  listed : t.connectionList[p.conn]? = some c
  role : c.isLocalServer = decide (side = .server)
  clientSocket : c.clientSocket = some p.client
  serverSocket : c.serverSocket = some p.server
  client : ClientSocket line p t state
  server : SocketAt t p.server line.serverIp line.serverPort
  apart : p.client ≠ p.server
  file : t.files[p.file]? = some fp
  valid : fp.valid = true
  byBoth : tcpFindConnectionServerSide t line.serverIp line.serverPort line.clientIp
    line.clientPort = some p.conn
  bySocket : tcpFindConnectionByLocalSocket t p.client = some p.conn
  reached : Reached line p t side

section Lookups

variable {t : Tables} {i k : Nat} {c c' : Connection} {state : SocketState}

theorem findIdx?_set_same {α : Type} {p : α → Bool} {list : List α} {a b : α}
    (there : list[i]? = some a) (same : p b = p a) :
    (list.set i b).findIdx? p = list.findIdx? p := by
  induction list generalizing i with
  | nil => rfl
  | cons x rest ih =>
      cases i with
      | zero =>
          cases there
          rw [List.set_cons_zero, List.findIdx?_cons, List.findIdx?_cons, same]
      | succ i =>
          rw [List.set_cons_succ, List.findIdx?_cons, List.findIdx?_cons, ih there]

theorem socketIs_setState (other : Option Nat) (ip : UInt32) (port : UInt16) :
    socketIs (t.setState k state) other ip port = socketIs t other ip port := by
  cases other with
  | none => rfl
  | some j =>
      simp only [socketIs, Tables.setState, Option.bind_some, List.getElem?_modify]
      by_cases same : k = j
      · cases t.sockets[j]? <;> simp [same]
      · simp [same]

theorem socketIs_setSocket {sk sk' : Socket} (found : t.sockets[k]? = some sk)
    (ip : sk'.ipIpv4 = sk.ipIpv4) (port : sk'.port = sk.port) (other : Option Nat) (a : UInt32)
    (b : UInt16) : socketIs (t.setSocket k sk') other a b = socketIs t other a b := by
  have inside : k < t.sockets.length := (List.getElem?_eq_some_iff.mp found).1
  cases other with
  | none => rfl
  | some j =>
      simp only [socketIs, Tables.setSocket, Option.bind_some]
      by_cases same : k = j
      · subst same
        simp [List.getElem?_set_self inside, found, ip, port]
      · rw [List.getElem?_set_ne same]

theorem socketIs_of_at {ip : UInt32} {port : UInt16} (there : SocketAt t k ip port) :
    socketIs t (some k) ip port = true := by
  rcases there with ⟨sk, found, rfl, rfl⟩
  simp [socketIs, found]

end Lookups

section Updates

variable {side : Side} {line : Line} {p : Places} {t : Tables} {c c' : Connection}
  {state state' : SocketState} {fp fp' : SocketFile}

theorem End.setConnection (e : End side line p t c state fp) (c' : Connection)
    (role : c'.isLocalServer = c.isLocalServer) (client : c'.clientSocket = c.clientSocket)
    (server : c'.serverSocket = c.serverSocket) :
    End side line p (t.setConnection p.conn c') c' state fp := by
  have inside : p.conn < t.connectionList.length := (List.getElem?_eq_some_iff.mp e.listed).1
  constructor
  · simp [Tables.setConnection, inside]
  · exact role.trans e.role
  · exact client.trans e.clientSocket
  · exact server.trans e.serverSocket
  · exact e.client
  · exact e.server
  · exact e.apart
  · exact e.file
  · exact e.valid
  · refine Eq.trans ?_ e.byBoth
    apply findIdx?_set_same e.listed
    rw [client, server]
  · refine Eq.trans ?_ e.bySocket
    apply findIdx?_set_same e.listed
    rw [client]
  · have reached := e.reached
    cases side with
    | client =>
        refine ⟨reached.1, Eq.trans ?_ reached.2⟩
        apply findIdx?_set_same e.listed
        rw [server]
    | server => exact reached

theorem socketAt_setState {k j : Nat} {ip : UInt32} {port : UInt16}
    (there : SocketAt t k ip port) : SocketAt (t.setState j state) k ip port := by
  rcases there with ⟨sk, found, addresses⟩
  by_cases same : j = k
  · exact ⟨{ sk with state := state }, by simp [Tables.setState, same, found], addresses⟩
  · exact ⟨sk, by simp [Tables.setState, same, found], addresses⟩

theorem reached_setState {k : Nat} (reached : Reached line p t side) :
    Reached line p (t.setState k state') side := by
  cases side with
  | client =>
      refine ⟨reached.1, Eq.trans ?_ reached.2⟩
      simp only [tcpFindConnectionByRemotePeer, socketIs_setState, Tables.connectionList_setState]
  | server => exact reached

theorem End.withState (e : End side line p t c state fp) {k : Nat} {after : SocketState}
    (client : ClientSocket line p (t.setState k after) state') :
    End side line p (t.setState k after) c state' fp where
  listed := e.listed
  role := e.role
  clientSocket := e.clientSocket
  serverSocket := e.serverSocket
  client := client
  server := socketAt_setState e.server
  apart := e.apart
  file := e.file
  valid := e.valid
  byBoth := by
    have byBoth := e.byBoth
    simpa only [tcpFindConnectionServerSide, socketIs_setState, Tables.connectionList_setState]
      using byBoth
  bySocket := e.bySocket
  reached := reached_setState e.reached

theorem End.setState_client (e : End side line p t c state fp) (state' : SocketState) :
    End side line p (t.setState p.client state') c state' fp := by
  apply e.withState
  rcases e.client with ⟨sk, found, family, -, rest⟩
  exact ⟨{ sk with state := state' }, by simp [Tables.setState, found], family, rfl, rest⟩

theorem End.setState_server (e : End side line p t c state fp) (state' : SocketState) :
    End side line p (t.setState p.server state') c state fp := by
  apply e.withState
  rcases e.client with ⟨sk, found, rest⟩
  exact ⟨sk, by simp [Tables.setState, found, e.apart.symm], rest⟩

theorem End.setSocket_server (e : End side line p t c state fp) {sk : Socket}
    (found : t.sockets[p.server]? = some sk) (sk' : Socket) (ip : sk'.ipIpv4 = sk.ipIpv4)
    (port : sk'.port = sk.port) : End side line p (t.setSocket p.server sk') c state fp := by
  have inside : p.server < t.sockets.length := (List.getElem?_eq_some_iff.mp found).1
  have same := socketIs_setSocket found ip port
  refine ⟨e.listed, e.role, e.clientSocket, e.serverSocket, ?_, ?_, e.apart, e.file, e.valid, ?_,
    e.bySocket, ?_⟩
  · rcases e.client with ⟨client, met, rest⟩
    exact ⟨client, by simpa [Tables.setSocket, e.apart.symm] using met, rest⟩
  · rcases e.server with ⟨server, met, serverIp, serverPort⟩
    cases found.symm.trans met
    exact ⟨sk', by simp [Tables.setSocket, inside], ip.trans serverIp, port.trans serverPort⟩
  · have byBoth := e.byBoth
    simpa only [tcpFindConnectionServerSide, same, Tables.connectionList_setSocket] using byBoth
  · have reached := e.reached
    cases side with
    | client =>
        refine ⟨reached.1, ?_⟩
        have byPeer := reached.2
        simpa only [tcpFindConnectionByRemotePeer, same, Tables.connectionList_setSocket]
          using byPeer
    | server => exact reached

theorem End.setFile (e : End side line p t c state fp) (fp' : SocketFile)
    (valid : fp'.valid = true) :
    End side line p (t.setFile p.file fp') c state fp' := by
  have inside : p.file < t.files.length := (List.getElem?_eq_some_iff.mp e.file).1
  exact ⟨e.listed, e.role, e.clientSocket, e.serverSocket, e.client, e.server, e.apart,
    by simp [Tables.setFile, inside], valid, e.byBoth, e.bySocket, e.reached⟩

end Updates

section Segments

variable {env : Env} {side : Side} {line : Line} {p : Places} {t : Tables} {c c' : Connection}
  {state : SocketState} {fp fp' : SocketFile} {seg : Segment}

/-- A segment from the other end. -/
structure FromPeer (side : Side) (line : Line) (seg : Segment) : Prop where
  sourceIp : seg.sIpv4 = line.ip side.other
  sourcePort : seg.sport = line.port side.other
  targetIp : seg.dIpv4 = line.ip side
  targetPort : seg.dport = line.port side
  allowed : allowThisPort (line.port side) = true

/-- An acknowledgement, with data or without. -/
structure Acks (seg : Segment) : Prop where
  fin : seg.fin = false
  syn : seg.syn = false
  rst : seg.rst = false
  ack : seg.isAck = true

theorem not_kdPort {port : UInt16} (allowed : allowThisPort port = true) : port ≠ kdPort := by
  rintro rfl
  exact absurd allowed (by decide)

theorem not_ignored (peer : FromPeer side line seg) (acks : Acks seg) : ignored seg = false := by
  simp [ignored, peer.targetPort, peer.allowed, dropped, acks.fin, acks.syn, acks.rst, acks.ack]

def blockOf (env : Env) (t : Tables) (c : Connection) (seg : Segment) : Side → Except Stop Handled
  | .client => nonLocalServers env t c seg
  | .server => localServers env t c seg

theorem networkHandleTcp_end (e : End side line p t c state fp) (peer : FromPeer side line seg)
    (acks : Acks seg) :
    Tcp.networkHandleTcp env t seg = (blockOf env t c seg side).map (writeBack p.conn) := by
  have listed := e.listed
  have away : ¬seg.dport = kdPort := by
    rw [peer.targetPort]
    exact not_kdPort peer.allowed
  have passes := not_ignored peer acks
  have reached := e.reached
  have here : ∀ body : Connection → Except Stop Handled,
      onConnection t p.conn body = (body c).map (writeBack p.conn) := by
    intro body
    rw [onConnection, listed]
    rfl
  cases side with
  | client =>
      have found : lookupNonLocalServers t seg = some p.conn := by
        rw [lookupNonLocalServers, acks.syn, peer.sourceIp, peer.sourcePort]
        exact reached.2
      have foreign : isItALocalServer t seg.dport = false := by
        rw [peer.targetPort]
        exact reached.1
      rw [Tcp.networkHandleTcp, if_neg away, foreign, handleTcpForNonLocalServers, passes, found]
      exact here _
  | server =>
      have found : tcpFindConnectionServerSide t seg.dIpv4 seg.dport seg.sIpv4 seg.sport =
          some p.conn := by
        rw [peer.sourceIp, peer.sourcePort, peer.targetIp, peer.targetPort]
        exact e.byBoth
      have registered : isItALocalServer t seg.dport = true := by
        rw [peer.targetPort]
        exact reached
      rw [Tcp.networkHandleTcp, if_neg away, registered, handleTcpForLocalServers, passes, acks.syn,
        found]
      exact here _

theorem sendTcp_sent {s : TcpSend} (wired : env.wired = true) (fits : s.data.length ≤ 1398) :
    sendTcp env s = .ok [s] := by
  have short : 54 + s.data.length ≤ txBufferSize := by
    have size : txBufferSize = 8192 := rfl
    omega
  rw [Env.wired, Option.isSome_iff_exists] at wired
  rcases wired with ⟨mac, nic⟩
  simp [sendTcp, networkSendTcp, transmit, nic, short, Except.map]

/-- What is behind a payload in order: only the client answers it. -/
def passed (side : Side) (c : Connection) (seg : Segment) : Connection :=
  { acknowledged c seg with
    rcvNxt := c.rcvNxt + seg.dataLen
    packetsSent := match side with
      | .client => c.packetsSent + 1
      | .server => c.packetsSent }

@[simp] theorem isLocalServer_passed : (passed side c seg).isLocalServer = c.isLocalServer := rfl

@[simp] theorem clientSocket_passed : (passed side c seg).clientSocket = c.clientSocket := rfl

theorem behind_acknowledged (acks : Acks seg) :
    behind (acknowledged c seg) seg = passed .server c seg := by
  simp [behind, passed, acknowledged, acks.fin]

theorem ok_bind {α β : Type} (a : α) (next : α → Except Stop β) :
    ((Except.ok a : Except Stop α) >>= next) = next a := rfl

theorem privateFile_end {u : Tables} {sk : Socket} {null validation : Stop}
    (own : sk.privateFile = some p.file) (file : u.files[p.file]? = some fp)
    (valid : fp.valid = true) : privateFile u sk null validation = .ok (p.file, fp) := by
  simp only [privateFile, own, need, file, ok_bind, valid, if_true]
  rfl

theorem receivePayload_end {u : Tables} {k : Nat} {sk : Socket}
    (own : sk.privateFile = some p.file) (file : u.files[p.file]? = some fp)
    (valid : fp.valid = true) (more : seg.fin = false)
    (stored : storePayload fp seg.payload = .ok fp') :
    receivePayload u k sk seg = .ok (u.setFile p.file fp') := by
  rw [receivePayload, privateFile_end own file valid, ok_bind]
  simp only [stored, ok_bind, more, Bool.false_eq_true, if_false]
  rfl

/-- A segment in order on the client's side is stored and acknowledged. -/
theorem client_takes (e : End .client line p t c state fp) (acks : Acks seg)
    (established : c.status = .established) (order : seg.seq = c.rcvNxt)
    (stored : storePayload fp seg.payload = .ok fp') (wired : env.wired = true) :
    nonLocalServers env t c seg =
      .ok ⟨[answer env seg c.sndNxt (c.rcvNxt + seg.dataLen) thAck], passed .client c seg,
        t.setFile p.file fp'⟩ := by
  have role : c.isLocalServer = false := e.role
  rcases e.client with ⟨sk, found, -, -, own, -⟩
  have taken : inOrderNonLocalServers t (acknowledged c seg) seg =
      .ok (passed .server c seg, t.setFile p.file fp') := by
    have saves := receivePayload_end (k := p.client) own e.file e.valid acks.fin stored
    rw [inOrderNonLocalServers, if_pos (show seg.seq = (acknowledged c seg).rcvNxt from order)]
    simp only [behind_acknowledged acks]
    simp only [isLocalServer_passed, role, Bool.false_eq_true, if_false, clientSocket_passed,
      e.clientSocket, need, found, ok_bind, saves]
    rfl
  have sent : sendTcp env (answer env seg c.sndNxt (c.rcvNxt + seg.dataLen) thAck) =
      .ok [answer env seg c.sndNxt (c.rcvNxt + seg.dataLen) thAck] :=
    sendTcp_sent wired (Nat.zero_le _)
  have block : nonLocalServers env t c seg = establishedNonLocalServers env t c seg := by
    rw [nonLocalServers, established]
  rw [block, establishedNonLocalServers]
  simp only [acks.rst, acks.syn, acks.ack, acks.fin, Bool.false_eq_true, if_false,
    not_true_eq_false, taken, ok_bind]
  simp only [passed, acknowledged, sent, ok_bind, List.cons_ne_nil, if_false]
  rfl

/-- On the server's side it is stored without an answer, and the socket of the
    remote client is marked. -/
theorem server_takes (e : End .server line p t c state fp) (acks : Acks seg)
    (established : c.status = .established) (order : seg.seq = c.rcvNxt)
    (stored : storePayload fp seg.payload = .ok fp') :
    localServers env t c seg =
      .ok ⟨[], passed .server c seg, (t.setState p.client .connected).setFile p.file fp'⟩ := by
  have role : c.isLocalServer = true := e.role
  rcases e.client with ⟨sk, found, -, -, own, -⟩
  have taken : inOrderLocalServers t (acknowledged c seg) seg =
      .ok (passed .server c seg, (t.setState p.client .connected).setFile p.file fp') := by
    have saves := receivePayload_end (u := t.setState p.client .connected) (k := p.client) own
      e.file e.valid acks.fin stored
    rw [inOrderLocalServers, if_pos (show seg.seq = (acknowledged c seg).rcvNxt from order)]
    simp only [behind_acknowledged acks]
    simp only [isLocalServer_passed, role, not_true_eq_false, if_false, clientSocket_passed,
      e.clientSocket, need, found, ok_bind, saves]
    rfl
  have block : localServers env t c seg = establishedLocalServers t c seg := by
    rw [localServers, established]
  rw [block, establishedLocalServers]
  simp only [acks.rst, acks.syn, acks.ack, acks.fin, Bool.false_eq_true, if_false,
    not_true_eq_false, taken, ok_bind]
  rfl

/-- What an end answers to a segment in order. -/
def reply (env : Env) (seg : Segment) (c : Connection) : Side → List TcpSend
  | .client => [answer env seg c.sndNxt (c.rcvNxt + seg.dataLen) thAck]
  | .server => []

/-- The state that the client's socket is in behind it. -/
def marked (state : SocketState) : Side → SocketState
  | .client => state
  | .server => .connected

theorem established_end (e : End side line p t c state fp) (peer : FromPeer side line seg)
    (acks : Acks seg) (established : c.status = .established) (order : seg.seq = c.rcvNxt)
    (stored : storePayload fp seg.payload = .ok fp') (valid : fp'.valid = true)
    (wired : env.wired = true) :
    ∃ t', Tcp.networkHandleTcp env t seg = .ok (reply env seg c side, t') ∧
      End side line p t' (passed side c seg) (marked state side) fp' ∧
        t'.sockets[p.server]? = t.sockets[p.server]? := by
  rw [networkHandleTcp_end e peer acks]
  cases side with
  | client =>
      rw [blockOf, client_takes e acks established order stored wired]
      exact ⟨_, rfl, (e.setFile fp' valid).setConnection (passed .client c seg) rfl rfl rfl, rfl⟩
  | server =>
      rw [blockOf, server_takes e acks established order stored]
      have stored := (e.setState_client .connected).setFile fp' valid
      refine ⟨_, rfl, stored.setConnection (passed .server c seg) rfl rfl rfl, ?_⟩
      simp [Tables.setConnection, Tables.setFile, Tables.setState, e.apart]

end Segments

section Processes

variable {env : Env} {side : Side} {line : Line} {p : Places} {t : Tables} {c : Connection}
  {state : SocketState} {fp : SocketFile} {buf stream : List UInt8} {r w : Nat}

/-- The segment of a `tcp_socket_send`. -/
def dataSend (env : Env) (line : Line) (side : Side) (c : Connection) (mac : Mac)
    (buf : List UInt8) : TcpSend where
  sourceIp := env.yourIpv4
  targetIp := line.ip side.other
  targetMac := mac
  sourcePort := line.port side
  targetPort := line.port side.other
  seq := c.sndNxt
  ack := c.rcvNxt
  flags := thAck ||| thPush
  data := buf

theorem tcpSocketSend_end (e : End side line p t c .connected fp)
    (established : c.status = .established) (wired : env.wired = true) (some : buf ≠ [])
    (fits : buf.length ≤ 1398) :
    ∃ mac, tcpSocketSend env t p.client buf =
      .ok (⟨buf.length, [dataSend env line side c mac buf], []⟩,
        t.setConnection p.conn (sentConnection c buf)) := by
  rcases e.client with ⟨client, found, family, connected, -, -, clientIp, clientPort⟩
  rcases e.server with ⟨server, found', serverIp, serverPort⟩
  have long : ¬buf.length = 0 := fun none => some (List.length_eq_zero_iff.mp none)
  have role := e.role
  have sends : ∀ s : TcpSend, s.data = buf → sendTcp env s = .ok [s] := by
    rintro s rfl
    exact sendTcp_sent wired fits
  have bySocket := e.bySocket
  have listed := e.listed
  have owns := e.clientSocket
  have faces := e.serverSocket
  rw [tcpSocketSend]
  simp only [need, found, ok_bind, long, if_false, family, ne_eq, not_true_eq_false, connected,
    bySocket, listed]
  rw [if_neg (not_not.mpr established)]
  simp only [owns, faces, Option.bind_some, found, found', ok_bind]
  cases side with
  | client =>
      rw [if_neg (by rw [role]; decide)]
      simp only
      refine ⟨?_, ?body⟩
      case body =>
        rw [sends _ rfl, ok_bind, if_neg (List.cons_ne_nil _ _), serverIp, serverPort, clientPort,
          sentConnection, owns, faces]
        rfl
  | server =>
      rw [if_pos (by rw [role]; decide)]
      simp only
      refine ⟨?_, ?body⟩
      case body =>
        rw [sends _ rfl, ok_bind, if_neg (List.cons_ne_nil _ _), clientIp, clientPort, serverPort,
          sentConnection, owns, faces]
        rfl

theorem tcpSocketSend_unconnected {k : Nat} {sk : Socket} (found : t.sockets[k]? = some sk)
    (away : sk.state ≠ .connected) :
    ∃ rv ≤ 0, tcpSocketSend env t k buf = .ok (.just rv, t) := by
  rw [tcpSocketSend]
  simp only [need, found, ok_bind]
  by_cases none : buf.length = 0
  · exact ⟨0, Int.le_refl _, if_pos none⟩
  rw [if_neg none]
  by_cases family : sk.family ≠ .inet
  · exact ⟨eafnosupport, by decide, if_pos family⟩
  · exact ⟨enotconn, by decide, by rw [if_neg family, if_pos away]; rfl⟩

theorem tcpSocketRecv_unconnected {k : Nat} {sk : Socket} (found : t.sockets[k]? = some sk)
    (away : sk.state ≠ .connected) (len : Nat) : ∃ rv,
    tcpSocketRecv t k len = .ok (.just rv, t) := by
  rw [tcpSocketRecv]
  simp only [need, found, ok_bind]
  by_cases none : len = 0
  · exact ⟨0, if_pos none⟩
  · exact ⟨enotconn, by rw [if_neg none, if_pos away]; rfl⟩

/-- The status in which a call of `tcp_socket_recv` gets to the file. -/
def Open (c : Connection) : Prop :=
  c.status = if c.isLocalServer then .established else .closeWait

theorem tcpSocketRecv_shut (e : End side line p t c state fp) (shut : ¬Open c) (len : Nat) :
    ∃ rv, tcpSocketRecv t p.client len = .ok (.just rv, t) := by
  rcases e.client with ⟨client, found, -, -, own, conn, -⟩
  by_cases away : client.state ≠ .connected
  · exact tcpSocketRecv_unconnected found away len
  rw [tcpSocketRecv]
  simp only [need, found, ok_bind]
  by_cases none : len = 0
  · exact ⟨0, if_pos none⟩
  rw [if_neg none, if_neg away]
  simp only [conn, own, e.listed, e.file, ok_bind]
  exact ⟨_, if_pos shut⟩

theorem tcpSocketSend_early (e : End side line p t c state fp)
    (early : state ≠ .connected ∨ c.status ≠ .established) :
    ∃ rv ≤ 0, tcpSocketSend env t p.client buf = .ok (.just rv, t) := by
  rcases e.client with ⟨client, found, family, rfl, -⟩
  by_cases away : client.state ≠ .connected
  · exact tcpSocketSend_unconnected found away
  have waits : c.status ≠ .established := early.resolve_left away
  rw [tcpSocketSend]
  simp only [need, found, ok_bind]
  by_cases none : buf.length = 0
  · exact ⟨0, Int.le_refl _, if_pos none⟩
  refine ⟨enotconn, by decide, ?_⟩
  rw [if_neg none, if_neg (not_not.mpr family), if_neg away]
  simp only [e.bySocket, e.listed, ok_bind, waits, ne_eq, not_false_eq_true, if_true]
  rfl

theorem readFile_answers (holding : Holding stream fp w) (reader : fp.r = r) (below : r ≤ w)
    (settled : fp.w = 0 → fp.fsize = 0) (len : Nat) : Answers (readFile fp len) := by
  have fsize : fp.fsize = w := by
    by_cases none : w = 0
    · subst none
      exact settled holding.position
    · exact holding.filled none
  have inside := holding.inside
  have size := holding.size
  have read : Answers (readBuffer fp (if (len : Int) < fp.fsize - fp.r then (len : Int) else
      fp.fsize - fp.r)) := by
    refine answers_ite.mpr ⟨fun _ => answers_ok, fun _ => ?_⟩
    refine answers_ite.mpr ⟨fun _ => answers_ok, fun outside => absurd ?_ outside⟩
    rw [fsize, reader] at *
    split <;> omega
  rcases read with ⟨bytes, read⟩
  rw [readFile]
  simp only [read]
  exact answers_ite.mpr ⟨fun _ => answers_pure, fun _ => answers_pure⟩

theorem readFile_rest (len : Nat) : Returns (readFile fp len) fun out =>
    out.2.valid = fp.valid ∧ out.2.fsize = fp.fsize ∧ out.2.base = fp.base := by
  refine returns_bind.mpr fun bytes _ => ?_
  exact returns_ite.mpr ⟨fun _ => returns_pure.mpr ⟨rfl, rfl, rfl⟩,
    fun _ => returns_pure.mpr ⟨rfl, rfl, rfl⟩⟩

/-- What a call of `tcp_socket_recv` hands over, and what it leaves. -/
structure Handed (side : Side) (line : Line) (p : Places) (c : Connection) (state : SocketState)
    (stream : List UInt8) (r w : Nat) (fp : SocketFile) (t : Tables) (out : Answer × Tables)
    (fp' : SocketFile) (m : Nat) : Prop where
  silent : out.1.sent = []
  sockets : out.2.sockets = t.sockets
  kept : fp'.fsize = fp.fsize ∧ fp'.base = fp.base
  bytes : out.1.bytes = (stream.drop r).take m
  inside : r + m ≤ w
  left : End side line p out.2 c state fp'
  holding : Holding stream fp' w
  reader : fp'.r = ((r + m : Nat) : Int)

theorem tcpSocketRecv_end (e : End side line p t c state fp) (holding : Holding stream fp w)
    (reader : fp.r = r) (below : r ≤ w) (settled : fp.w = 0 → fp.fsize = 0) (len : Nat) :
    ∃ out fp' m, tcpSocketRecv t p.client len = .ok out ∧
      Handed side line p c state stream r w fp t out fp' m := by
  have idle : ∀ rv, Handed side line p c state stream r w fp t (.just rv, t) fp 0 := fun rv =>
    ⟨rfl, rfl, ⟨rfl, rfl⟩, rfl, below, e, holding, reader⟩
  by_cases shut : ¬Open c
  · rcases tcpSocketRecv_shut e shut len with ⟨rv, served⟩
    exact ⟨_, fp, 0, served, idle rv⟩
  rcases e.client with ⟨client, found, -, connected, own, conn, -⟩
  by_cases away : client.state ≠ .connected
  · rcases tcpSocketRecv_unconnected found away len with ⟨rv, served⟩
    exact ⟨_, fp, 0, served, idle rv⟩
  rw [tcpSocketRecv]
  simp only [need, found, ok_bind]
  by_cases none : len = 0
  · exact ⟨_, _, 0, if_pos none, idle 0⟩
  rw [if_neg none, if_neg away]
  simp only [conn, own, e.listed, e.file, ok_bind]
  have reads : c.status = if c.isLocalServer then .established else .closeWait := not_not.mp shut
  rw [if_neg (not_not.mpr reads)]
  rcases readFile_answers holding reader below settled len with ⟨⟨bytes, fp'⟩, read⟩
  rcases readFile_held holding reader below settled _ read with ⟨m, rfl, inside, held, moved⟩
  have rest := readFile_rest len _ read
  refine ⟨(⟨((stream.drop r).take m).length, [], (stream.drop r).take m⟩,
    t.setFile p.file fp'), fp',
    m, ?_, ⟨rfl, rfl, rest.2, rfl, inside, e.setFile fp' (rest.1.trans e.valid), held, moved⟩⟩
  rw [read]
  rfl

end Processes

end Gramado.Net.Ends
