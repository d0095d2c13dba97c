/-
How the two ends of a conversation come about: the connect of the client, the
answer of the server's kernel to the SYN, and the two segments behind it. Each
part is said for any tables that know nothing of the line yet.
-/
import Gramado.Net.Backlog
import Gramado.Net.Effects
import Gramado.Net.Ends

namespace Gramado.Net.Opening

open Gramado.Ke Gramado.Lib.Bytes Gramado.Lib.Fallible
open Gramado.Net.Parse Gramado.Net.Tcp Gramado.Net.Calls Gramado.Net.Ends
open Gramado.Net.Effects (ephemeralPort)

/-- A file of a socket that holds nothing yet. -/
def blankFile (size : Nat) : SocketFile :=
  ⟨true, List.replicate size 0, 0, 0, size, 0⟩

/-- A line that a connect of an application can be for: the two canonical ports
    are not among those that `tcp_client_connect` gets to. -/
structure Usable (line : Line) : Prop where
  apart : line.clientIp ≠ line.serverIp
  address : ¬(line.serverIp = 0xFFFFFFFF ∨ line.serverIp = 0)
  allowed : allowThisPort line.serverPort = true
  plain : line.serverPort ≠ 4040 ∧ line.serverPort ≠ 4041

section Allocation

variable {heap : Heap} {n m : Nat}

theorem kmalloc_enough (enough : m ≤ heap.left) (below : n < m) : kmalloc heap n = .ok true :=
  if_pos (by omega)

theorem kmallocOr_enough {stop : Stop} (enough : m ≤ heap.left) (below : n < m) :
    kmallocOr stop heap n = .ok () := by
  rw [kmallocOr, kmalloc_enough enough below]
  rfl

theorem createConnection_enough (enough : m ≤ heap.left) (below : 1 < m) :
    createConnection heap = .ok true := by
  rw [createConnection, kmalloc_enough enough (by omega : 0 < m)]
  exact kmalloc_enough enough below

end Allocation

theorem modify_set_append {α : Type} {list rest : List α} {k : Nat} {a : α} (f : α → α)
    (inside : k < list.length) :
    (list.set k a ++ rest).modify k f = list.set k (f a) ++ rest := by
  apply List.ext_getElem?
  intro j
  rw [List.getElem?_modify, List.getElem?_append, List.getElem?_append, List.getElem?_set,
    List.getElem?_set, List.length_set, List.length_set]
  by_cases same : k = j
  · subst same
    simp [inside]
  · simp [same]

theorem getElem?_set_append {α : Type} {list rest : List α} {k : Nat} {a : α}
    (inside : k < list.length) : (list.set k a ++ rest)[k]? = some a := by
  rw [List.getElem?_append_left (by rwa [List.length_set]), List.getElem?_set_self inside]

theorem getElem?_set_append_ne {α : Type} {list rest : List α} {k j : Nat} {a : α}
    (inside : j < list.length) (other : k ≠ j) : (list.set k a ++ rest)[j]? = list[j]? := by
  rw [List.getElem?_append_left (by rwa [List.length_set]), List.getElem?_set_ne other]

theorem findIdx?_last {α : Type} {p : α → Bool} {list : List α} {a : α}
    (others : ∀ x ∈ list, p x = false) (here : p a = true) :
    (list ++ [a]).findIdx? p = some list.length := by
  have before : list.findIdx? p = none := List.findIdx?_eq_none_iff.mpr others
  simp [List.findIdx?_append, before, here]

section Client

variable {env : Env} {line : Line} {t : Tables} {k f : Nat}

/-- The client's kernel before the connect: a socket as `sys_socket` leaves it,
    which no connection has, and no connection with the server. -/
structure Connectable (line : Line) (k f : Nat) (t : Tables) : Prop where
  socket : ∃ sk, t.sockets[k]? = some sk ∧ sk.family = .inet ∧ sk.state = .unconnected ∧
    sk.privateFile = some f
  file : t.files[f]? = some (blankFile 1024)
  room : t.connectionList.length < maxConnections
  counter : firstEphemeralPort ≤ t.newClientPortNumber
  port : ephemeralPort t = line.clientPort
  foreign : isItALocalServer t line.clientPort = false
  strangers : ∀ c ∈ t.connectionList, c.clientSocket ≠ some k ∧ ∀ j, c.serverSocket = some j →
    ∃ sk, t.sockets[j]? = some sk ∧ ¬(sk.ipIpv4 = line.serverIp ∧ sk.port = line.serverPort)

theorem nextEphemeralPort_eq (counter : firstEphemeralPort ≤ t.newClientPortNumber) :
    nextEphemeralPort t = .ok (ephemeralPort t) := by
  rw [nextEphemeralPort, if_neg (UInt16.not_lt.mpr counter), ephemeralPort]
  split <;> rfl

theorem ephemeralPort_allowed (able : Connectable line k f t) :
    allowThisPort line.clientPort = true := by
  have counter := able.counter
  rw [← able.port, ephemeralPort, allowThisPort]
  split
  · rfl
  · rename_i inside
    simp [counter, UInt16.not_lt.mp inside]

/-- The connection of a connect whose SYN went out. -/
def callingConnection (isn : UInt32) (k server : Nat) : Connection :=
  { connectingConnection isn k server with status := .synSent }

/-- The tables that the connect leaves. -/
def calling (env : Env) (t : Tables) (k : Nat) (sk : Socket) (line : Line) : Tables :=
  let id := t.connectionList.length
  { t with
    connectionList := t.connectionList ++ [callingConnection env.isn k t.sockets.length]
    sockets := t.sockets.set k
        { sk with
          conn := some id, ipIpv4 := line.clientIp, port := line.clientPort,
            state := .connecting } ++
      [remoteServerSocket line.serverIp line.serverPort id]
    newClientPortNumber := line.clientPort + 1
    connectPortNumber := t.connectPortNumber + 1 }

theorem connectInet_calling (usable : Usable line) (able : Connectable line k f t) {sk : Socket}
    (found : t.sockets[k]? = some sk) (idle : sk.state = .unconnected) (wired : env.wired = true)
    (memory : 8 ≤ env.heap.left) (own : env.yourIpv4 = line.clientIp) :
    connectInet env t k none line.serverIp line.serverPort =
      .ok (⟨0, [connectSyn env line.clientPort line.serverIp line.serverPort], []⟩,
        calling env t k sk line) := by
  have inside : k < t.sockets.length := (List.getElem?_eq_some_iff.mp found).1
  have remote : ¬((line.serverPort = 4040 ∨ line.serverPort = 4041) ∧
      line.serverIp = inaddrLoopback) :=
      fun canonical => canonical.1.elim usable.plain.1 usable.plain.2
  have good : ¬(line.serverIp = 0xFFFFFFFF ∨ line.serverIp = 0 ∨ line.serverPort = 0) := by
    rintro (bad | bad | bad)
    · exact usable.address (.inl bad)
    · exact usable.address (.inr bad)
    · have allowed := usable.allowed
      rw [bad] at allowed
      exact absurd allowed (by decide)
  have gives : ∀ n, n < 8 → kmalloc env.heap n = .ok true :=
    fun n below => kmalloc_enough memory below
  have creates := createConnection_enough memory (by decide)
  have counter : ephemeralPort t = line.clientPort := able.port
  have numbers : ∀ u : Tables, u.newClientPortNumber = t.newClientPortNumber →
      nextEphemeralPort u = .ok line.clientPort := by
    intro u same
    rw [← counter, ← nextEphemeralPort_eq able.counter, nextEphemeralPort, nextEphemeralPort, same]
  have sent : sendTcp env (connectSyn env line.clientPort line.serverIp line.serverPort) =
      .ok [connectSyn env line.clientPort line.serverIp line.serverPort] :=
    sendTcp_sent wired (Nat.zero_le _)
  rw [connectInet, if_neg remote, connectInetRemote]
  simp only [need, found, idle, ne_eq, not_true_eq_false, if_false, ok_bind]
  rw [if_pos usable.plain, tcpClientConnect, if_neg good, creates]
  simp [connectionRegister, Tables.setSocket, able.room, gives, need, inside, numbers, sent, own,
    Tables.setConnection, Tables.setState, calling, callingConnection, bind, Except.bind, pure,
    Except.pure, modify_set_append]

theorem connectInet_again {server : Option Nat} {ip : UInt32} {port : UInt16} {sk : Socket}
    (found : t.sockets[k]? = some sk) (busy : sk.state ≠ .unconnected) :
    connectInet env t k server ip port = .ok (.just (-1), t) := by
  rw [connectInet, connectLocal, connectInetRemote]
  simp only [need, found, ok_bind, busy, ne_eq, not_false_eq_true, if_true]
  exact ite_self _

theorem calling_end (env : Env) (usable : Usable line) (able : Connectable line k f t) {sk : Socket}
    (found : t.sockets[k]? = some sk) (family : sk.family = .inet)
    (own : sk.privateFile = some f) :
    End .client line ⟨t.connectionList.length, k, t.sockets.length, f⟩ (calling env t k sk line)
      (callingConnection env.isn k t.sockets.length) .connecting (blankFile 1024) := by
  have inside : k < t.sockets.length := (List.getElem?_eq_some_iff.mp found).1
  have client : ClientSocket line ⟨t.connectionList.length, k, t.sockets.length, f⟩
      (calling env t k sk line) .connecting :=
    ⟨{ sk with
        conn := some t.connectionList.length
        ipIpv4 := line.clientIp
        port := line.clientPort
        state := .connecting }, getElem?_set_append inside, family, rfl, own, rfl, rfl, rfl⟩
  have server : SocketAt (calling env t k sk line) t.sockets.length line.serverIp line.serverPort :=
    ⟨remoteServerSocket line.serverIp line.serverPort t.connectionList.length,
      by simp [calling], rfl, rfl⟩
  have here : SocketAt (calling env t k sk line) k line.clientIp line.clientPort := by
    rcases client with ⟨sk', found', -, -, -, -, address⟩
    exact ⟨sk', found', address⟩
  -- The sockets of the other connections are not the server's.
  have strange : ∀ c ∈ t.connectionList,
      socketIs (calling env t k sk line) c.serverSocket line.serverIp line.serverPort = false := by
    intro c there
    cases faces : c.serverSocket with
    | none => rfl
    | some j =>
        rcases (able.strangers c there).2 j faces with ⟨other, met, away⟩
        have below : j < t.sockets.length := (List.getElem?_eq_some_iff.mp met).1
        by_cases same : k = j
        · subst same
          simp [socketIs, calling, getElem?_set_append below, usable.apart]
        · simp only [socketIs, calling, Option.bind_some, getElem?_set_append_ne below same, met]
          simpa using away
  refine ⟨by simp [calling], rfl, rfl, rfl, client, server, by simp; omega, able.file, rfl, ?_, ?_,
    able.foreign, ?_⟩
  · apply findIdx?_last
    · intro c there
      rw [strange c there, Bool.and_false]
    · exact Bool.and_eq_true_iff.mpr ⟨socketIs_of_at here, socketIs_of_at server⟩
  · apply findIdx?_last
    · intro c there
      simpa using (able.strangers c there).1
    · simp [callingConnection, connectingConnection]
  · apply findIdx?_last strange
    exact socketIs_of_at server

structure Accepting (seg : Segment) : Prop where
  syn : seg.syn = true
  ack : seg.isAck = true
  fin : seg.fin = false
  rst : seg.rst = false

/-- The connection behind the answer to its SYN. -/
def openedConnection (c : Connection) (seg : Segment) : Connection :=
  { c with
    packetsSent := c.packetsSent + 1
    sndUna := c.iss + 1
    sndNxt := c.iss + 1
    irs := seg.seq
    rcvNxt := seg.seq + 1
    status := .established }

theorem tcpChangeSocketBuffer_blank {u : Tables} {sk : Socket} {size : Nat} (desired : Nat)
    (own : sk.privateFile = some f) (file : u.files[f]? = some (blankFile size))
    (larger : size < desired) (enough : 1024 ≤ desired) (memory : 8 ≤ env.heap.left) :
    tcpChangeSocketBuffer env u sk desired = .ok (u.setFile f (blankFile desired)) := by
  have length : (blankFile size).base.length = size := List.length_replicate
  have big : ¬desired < 1024 := by omega
  have grows : ¬(¬(blankFile size).valid = true ∨ desired ≤ (blankFile size).base.length) := by
    rw [length]
    rintro (bad | small)
    · exact bad rfl
    · omega
  rw [tcpChangeSocketBuffer]
  simp only [own, need, file, ok_bind, big, if_false, grows,
    kmalloc_enough memory (by decide : 0 < 8), if_true]
  rfl

theorem accepted_end {p : Places} {c : Connection} {seg : Segment}
    (e : End .client line p t c .connecting (blankFile 1024)) (peer : FromPeer .client line seg)
    (accepting : Accepting seg) (waits : c.status = .synSent) (wired : env.wired = true)
    (memory : 8 ≤ env.heap.left) :
    ∃ t', Tcp.networkHandleTcp env t seg =
        .ok ([answer env seg seg.ack (seg.seq + 1) thAck], t') ∧
      End .client line p t' (openedConnection c seg) .connected (blankFile 5120) := by
  rcases e.client with ⟨sk, found, -, -, own, -⟩
  have away : ¬seg.dport = kdPort := by
    rw [peer.targetPort]
    exact not_kdPort peer.allowed
  have passes : ignored seg = false := by
    simp [ignored, peer.targetPort, peer.allowed, dropped, accepting.fin, accepting.syn,
      accepting.rst]
  have foreign : isItALocalServer t seg.dport = false := by
    rw [peer.targetPort]
    exact e.reached.1
  have looked : lookupNonLocalServers t seg = some p.conn := by
    rw [lookupNonLocalServers, accepting.syn, accepting.ack, peer.sourceIp, peer.sourcePort,
      peer.targetIp, peer.targetPort]
    exact e.byBoth
  have sent : sendTcp env (answer env seg seg.ack (seg.seq + 1) thAck) =
      .ok [answer env seg seg.ack (seg.seq + 1) thAck] :=
    sendTcp_sent wired (Nat.zero_le _)
  have connected := (e.setState_client .connected).setState_server .connected
  have grown := (connected.setFile (blankFile 5120) rfl).setConnection (openedConnection c seg)
    rfl rfl rfl
  refine ⟨_, ?_, grown⟩
  -- The client gets a buffer of 5 KB in place of its first one.
  have enlarges : connectClient env t { c with
      packetsSent := c.packetsSent + 1,
      sndUna := c.iss + 1, sndNxt := c.iss + 1, irs := seg.seq, rcvNxt := seg.seq + 1 } =
      .ok (((t.setState p.client .connected).setState p.server .connected).setFile p.file
        (blankFile 5120)) := by
    have changed := tcpChangeSocketBuffer_blank
      (u := connectSockets t p.client p.server) (5 * 1024) own e.file (by decide)
      (by decide) memory
    rw [connectClient]
    simp only [e.clientSocket, e.serverSocket, need, found, ok_bind]
    rw [privateFile_end own e.file rfl, ok_bind]
    exact changed
  have block : nonLocalServers env t c seg =
      .ok ⟨[answer env seg seg.ack (seg.seq + 1) thAck], openedConnection c seg,
        ((t.setState p.client .connected).setState p.server .connected).setFile p.file
          (blankFile 5120)⟩ := by
    rw [nonLocalServers, waits]
    simp only [synSentNonLocalServers, accepting.rst, accepting.syn, accepting.ack, accepting.fin,
      Bool.false_eq_true, if_false, not_true_eq_false, or_self, sent, ok_bind, enlarges]
    rfl
  rw [Tcp.networkHandleTcp, if_neg away, foreign, handleTcpForNonLocalServers, passes, looked]
  simp only [Bool.false_eq_true, if_false, onConnection, need, e.listed, ok_bind, block]
  rfl

end Client

section Server

variable {env : Env} {line : Line} {t : Tables} {l : Nat} {seg : Segment}

/-- A socket whose backlog holds `client`, or nobody. -/
structure Backlogged (client : Nat) (sk : Socket) : Prop where
  bounded : Backlog.Bounded sk
  only : ∀ i other, sk.pendingClientEndpoints i = some other → other = client

/-- The server's kernel before the SYN: a socket that was bound to the line's
    address, or to the loopback address, and listened on, with an empty backlog,
    and no connection with the client. -/
structure Listens (line : Line) (l : Nat) (t : Tables) : Prop where
  socket : ∃ sk, t.sockets[l]? = some sk ∧ Backlog.Bounded sk ∧
    (∀ i, sk.pendingClientEndpoints i = none) ∧ sk.port = line.serverPort ∧
      (sk.ipIpv4 = line.serverIp ∨ sk.ipIpv4 = 0x7F000001)
  registered : socketGetTcpserverSocketByPort t line.serverPort = some l
  room : t.connectionList.length < maxConnections
  strangers : ∀ c ∈ t.connectionList, ∀ j, c.clientSocket = some j →
    ∃ sk, t.sockets[j]? = some sk ∧ ¬(sk.ipIpv4 = line.clientIp ∧ sk.port = line.clientPort)

structure Calling (seg : Segment) : Prop where
  syn : seg.syn = true
  ack : seg.isAck = false
  fin : seg.fin = false
  rst : seg.rst = false

theorem isItALocalServer_registered {port : UInt16}
    (registered : socketGetTcpserverSocketByPort t port = some l) :
    isItALocalServer t port = true := by
  rw [socketGetTcpserverSocketByPort, Option.map_eq_some_iff] at registered
  rcases registered with ⟨srv, found, -⟩
  have same := List.find?_some found
  exact List.any_eq_true.mpr ⟨srv, List.mem_of_find?_eq_some found, same⟩

/-- The connection of a SYN with its two sockets. -/
def answeringConnection (seg : Segment) (mac : Mac) (client l : Nat) : Connection :=
  { synReceivedConnection seg mac with
    clientSocket := some client
    serverSocket := some l
    packetsSent := 1 }

/-- The listener with the client in its backlog. -/
def answeringListener (line : Line) (sk : Socket) (client id : Nat) : Socket :=
  { Backlog.enqueued sk (Backlog.synSlot sk) client with
    conn := some id, ipIpv4 := line.serverIp, port := line.serverPort }

/-- The tables that a SYN leaves. -/
def answering (env : Env) (t : Tables) (seg : Segment) (l : Nat) (sk : Socket) (line : Line) :
    Tables :=
  let id := t.connectionList.length
  let client := t.sockets.length
  { t with
    connectionList := t.connectionList ++
      [answeringConnection seg env.saved.callerMac client l]
    sockets := t.sockets.set l (answeringListener line sk client id) ++
      [remoteClientSocket seg id (some t.files.length)]
    files := t.files ++ [remoteClientFile env] }

theorem synBacklog_enqueued {sk : Socket} (bounded : Backlog.Bounded sk) (client : Nat) :
    synBacklog sk client = .ok (Backlog.enqueued sk (Backlog.synSlot sk) client) := by
  have served := Backlog.syn_served bounded client
  rw [Backlog.serve] at served
  cases stored : synBacklog sk client with
  | error stop =>
      rw [stored] at served
      cases served
  | ok after =>
      rw [stored] at served
      cases served
      rfl

theorem updateListener_answering {sk : Socket} (client id : Nat) (peer : FromPeer .server line seg)
    (port : sk.port = line.serverPort)
    (address : sk.ipIpv4 = line.serverIp ∨ sk.ipIpv4 = 0x7F000001) :
    (if (Backlog.enqueued sk (Backlog.synSlot sk) client).ipIpv4 = 0x7F000001 then
        { Backlog.enqueued sk (Backlog.synSlot sk) client with
          conn := some id, ipIpv4 := seg.dIpv4, port := seg.dport }
      else { Backlog.enqueued sk (Backlog.synSlot sk) client with conn := some id }) =
      answeringListener line sk client id := by
  have targetIp : seg.dIpv4 = line.serverIp := peer.targetIp
  have targetPort : seg.dport = line.serverPort := peer.targetPort
  have bound : (Backlog.enqueued sk (Backlog.synSlot sk) client).ipIpv4 = sk.ipIpv4 := rfl
  rw [bound]
  by_cases loopback : sk.ipIpv4 = 0x7F000001
  · rw [if_pos loopback, targetIp, targetPort]
    rfl
  · have ip := address.resolve_right loopback
    rw [if_neg loopback]
    simp [answeringListener, Backlog.enqueued, ip, port]

theorem remoteClientSentSyn_answering (listens : Listens line l t) {sk : Socket}
    (found : t.sockets[l]? = some sk) (peer : FromPeer .server line seg)
    (wired : env.wired = true) (memory : 8 ≤ env.heap.left) :
    remoteClientSentSyn env t seg = .ok ([synAck env seg], answering env t seg l sk line) := by
  have inside : l < t.sockets.length := (List.getElem?_eq_some_iff.mp found).1
  rcases listens.socket with ⟨sk', found', bounded, -, port, address⟩
  cases found.symm.trans found'
  have ports : ¬(seg.dport = 443 ∨ seg.dport = 80) := by
    have allowed := peer.allowed
    rw [← peer.targetPort] at allowed
    exact Reactions.allowed_ports allowed
  have sent : sendTcp env (synAck env seg) = .ok [synAck env seg] :=
    sendTcp_sent wired (Nat.zero_le _)
  have registered : (t.serverList.find? fun srv => srv.port == seg.dport).map Server.socket =
      some l := by
    rw [peer.targetPort]
    exact listens.registered
  have loopback := updateListener_answering t.sockets.length t.connectionList.length peer port
    address
  rw [remoteClientSentSyn, if_neg ports, createConnection_enough memory (by decide)]
  simp only [ok_bind, not_true_eq_false, if_false, connectionRegister, listens.room, if_true,
    plugRemoteClient, kmalloc_enough memory (by decide : 2 < 8),
    kmallocOr_enough memory (by decide : 3 < 8), kmallocOr_enough memory (by decide : 4 < 8),
    kmallocOr_enough memory (by decide : 5 < 8), kmallocOr_enough memory (by decide : 6 < 8),
    kmallocOr_enough memory (by decide : 7 < 8), socketGetTcpserverSocketByPort, registered, need,
    enqueueClient, List.getElem?_append_left inside, found, synBacklog_enqueued bounded]
  simp only [pure, Except.pure, bind, Except.bind, sent]
  simp only [updateListener, Tables.setSocket, Tables.setConnection, List.set_append, inside,
    if_true, modify_set_append _ inside, Nat.lt_irrefl, if_false, Nat.sub_self, List.set_cons_zero]
  rw [loopback]
  rfl

/-- The parts of the server's end in the tables that a SYN leaves. -/
def answeringPlaces (t : Tables) (l : Nat) : Places :=
  ⟨t.connectionList.length, t.sockets.length, l, t.files.length⟩

theorem answering_end (listens : Listens line l t) {sk : Socket} (usable : Usable line)
    (found : t.sockets[l]? = some sk) (peer : FromPeer .server line seg)
    (clear : env.fsizeThere = 0) :
    End .server line (answeringPlaces t l) (answering env t seg l sk line)
      (answeringConnection seg env.saved.callerMac t.sockets.length l) .connecting
      (blankFile 1024) := by
  have inside : l < t.sockets.length := (List.getElem?_eq_some_iff.mp found).1
  have client : ClientSocket line (answeringPlaces t l) (answering env t seg l sk line)
      .connecting :=
    ⟨remoteClientSocket seg t.connectionList.length (some t.files.length),
      by simp [answering, answeringPlaces], rfl, rfl, rfl, rfl, peer.sourceIp, peer.sourcePort⟩
  have server : SocketAt (answering env t seg l sk line) l line.serverIp line.serverPort :=
    ⟨_, getElem?_set_append inside, rfl, rfl⟩
  have remote : SocketAt (answering env t seg l sk line) t.sockets.length line.clientIp
      line.clientPort := by
    rcases client with ⟨sk', found', -, -, -, -, address⟩
    exact ⟨sk', found', address⟩
  -- The sockets of the other connections are not the client's.
  have strange : ∀ c ∈ t.connectionList,
      socketIs (answering env t seg l sk line) c.clientSocket line.clientIp line.clientPort =
        false := by
    intro c there
    cases faces : c.clientSocket with
    | none => rfl
    | some j =>
        rcases listens.strangers c there j faces with ⟨other, met, away⟩
        have below : j < t.sockets.length := (List.getElem?_eq_some_iff.mp met).1
        by_cases same : l = j
        · subst same
          simp [socketIs, answering, getElem?_set_append below, answeringListener,
            usable.apart.symm]
        · simp only [socketIs, answering, Option.bind_some, getElem?_set_append_ne below same, met]
          simpa using away
  have file : remoteClientFile env = blankFile 1024 := by
    rw [remoteClientFile, clear]
    rfl
  refine ⟨by simp [answering, answeringPlaces], rfl, rfl, rfl, client, server,
    (Nat.ne_of_lt inside).symm, by simp [answering, answeringPlaces, file], rfl, ?_, ?_,
    isItALocalServer_registered listens.registered⟩
  · apply findIdx?_last
    · intro c there
      rw [strange c there, Bool.false_and]
    · exact Bool.and_eq_true_iff.mpr ⟨socketIs_of_at remote, socketIs_of_at server⟩
  · apply findIdx?_last
    · intro c there
      cases faces : c.clientSocket with
      | none => simp
      | some j =>
          rcases listens.strangers c there j faces with ⟨other, met, -⟩
          have below : j < t.sockets.length := (List.getElem?_eq_some_iff.mp met).1
          simp [answeringPlaces]
          omega
    · simp [answeringConnection, answeringPlaces]

theorem networkHandleTcp_calling (listens : Listens line l t) {sk : Socket}
    (found : t.sockets[l]? = some sk) (peer : FromPeer .server line seg) (syn : Calling seg)
    (wired : env.wired = true) (memory : 8 ≤ env.heap.left) :
    Tcp.networkHandleTcp env t seg =
      .ok ([synAck env seg], answering env t seg l sk line) := by
  have away : ¬seg.dport = kdPort := by
    rw [peer.targetPort]
    exact not_kdPort peer.allowed
  have passes : ignored seg = false := by
    simp [ignored, peer.targetPort, peer.allowed, dropped, syn.syn, syn.fin, syn.rst]
  have here : isItALocalServer t seg.dport = true := by
    rw [peer.targetPort]
    exact isItALocalServer_registered listens.registered
  rw [Tcp.networkHandleTcp, if_neg away, here, handleTcpForLocalServers, passes, syn.syn, syn.ack]
  exact remoteClientSentSyn_answering listens found peer wired memory

/-- The connection behind the acknowledgement of its SYN and ACK. -/
def confirmedConnection (c : Connection) (seg : Segment) : Connection :=
  { c with
    sndUna := seg.ack
    rcvNxt := seg.seq + seg.dataLen
    packetsReceived := c.packetsReceived + 1
    status := .established }

theorem confirmed_end (env : Env) {p : Places} {c : Connection} {state : SocketState}
    {fp : SocketFile}
    (e : End .server line p t c state fp) (peer : FromPeer .server line seg) (acks : Acks seg)
    (waits : c.status = .synReceived) (acknowledged : seg.ack = c.sndNxt) :
    ∃ t', Tcp.networkHandleTcp env t seg = .ok ([], t') ∧
      End .server line p t' (confirmedConnection c seg) state fp ∧ t'.sockets = t.sockets := by
  refine ⟨_, ?_, e.setConnection (confirmedConnection c seg) rfl rfl rfl, rfl⟩
  have block : localServers env t c seg = .ok ⟨[], confirmedConnection c seg, t⟩ := by
    rw [localServers, waits]
    simp only [onSynReceived, acks.rst, acks.syn, acks.ack, Bool.false_eq_true, if_false, if_true,
      acknowledged, ne_eq, not_true_eq_false]
    rw [confirmedConnection, acknowledged]
    rfl
  rw [networkHandleTcp_end e peer acks, blockOf, block]
  rfl

theorem probe_pending {slots : Nat → Option Nat} {i left client : Nat}
    (probed : probePending slots i left = .ok (some client)) : ∃ j, slots j = some client := by
  induction left generalizing i with
  | zero => cases probed
  | succ left ih =>
      rw [probePending] at probed
      split at probed
      · cases hit : slots i with
        | none =>
            rw [hit] at probed
            exact ih probed
        | some found =>
            rw [hit] at probed
            cases probed
            exact ⟨i, hit⟩
      · cases probed

theorem acceptBacklog_served {sk : Socket} (bounded : Backlog.Bounded sk) :
    ∃ found, acceptBacklog sk = .ok (found, Backlog.accepted sk found) ∧
      Backlog.Bounded (Backlog.accepted sk found) ∧
        ∀ client, found = some client → ∃ j, sk.pendingClientEndpoints j = some client := by
  rcases Backlog.accept_probes bounded with ⟨found, probed⟩
  have served : acceptBacklog sk = .ok (found, Backlog.accepted sk found) :=
    Backlog.accept_served bounded probed
  rcases Backlog.bounded_step bounded .accept with ⟨found', next, again, kept⟩
  cases served.symm.trans again
  refine ⟨found, served, kept, ?_⟩
  rintro client rfl
  exact probe_pending probed

theorem sysAccept_nobody (listens : Listens line l t) :
    ∃ t', sysAccept t l = .ok (.just (-1), t') ∧ Listens line l t' ∧
      t'.connectionList = t.connectionList := by
  rcases listens.socket with ⟨sk, found, bounded, empty, port, address⟩
  have inside : l < t.sockets.length := (List.getElem?_eq_some_iff.mp found).1
  rcases acceptBacklog_served bounded with ⟨client, served, kept, pending⟩
  have nobody : client = none := by
    cases client with
    | none => rfl
    | some client =>
        rcases pending client rfl with ⟨j, there⟩
        rw [empty j] at there
        cases there
  subst nobody
  refine ⟨t.setSocket l (Backlog.accepted sk none), ?_, ?_, rfl⟩
  · rw [sysAccept]
    simp only [need, found, ok_bind, served]
    rfl
  · refine ⟨⟨_, by simp [Tables.setSocket, inside], kept, empty, port, address⟩,
      listens.registered, listens.room, ?_⟩
    intro c there j faces
    rcases listens.strangers c there j faces with ⟨other, met, away⟩
    by_cases same : l = j
    · subst same
      cases found.symm.trans met
      exact ⟨Backlog.accepted sk none, by simp [Tables.setSocket, inside], away⟩
    · exact ⟨other, by simpa [Tables.setSocket, same] using met, away⟩

/-- The socket of the listener, when the client of an end is all that its
    backlog can hold. -/
def Holds (l client : Nat) (t : Tables) : Prop :=
  ∃ sk, t.sockets[l]? = some sk ∧ Backlogged client sk

/-- The socket that an accept is about to give a descriptor for. -/
def chosen (t : Tables) (l : Nat) : Option Nat :=
  (t.sockets[l]?.bind fun sk => (acceptBacklog sk).toOption).bind Prod.fst

theorem answering_holds (env : Env) (listens : Listens line l t) {sk : Socket}
    (found : t.sockets[l]? = some sk) (seg : Segment) :
    Holds (answeringPlaces t l).server (answeringPlaces t l).client
      (answering env t seg l sk line) := by
  have inside : l < t.sockets.length := (List.getElem?_eq_some_iff.mp found).1
  rcases listens.socket with ⟨sk', found', bounded, empty, -⟩
  cases found.symm.trans found'
  rcases Backlog.bounded_step bounded (.syn t.sockets.length) with ⟨client, next, served, kept⟩
  cases (Backlog.syn_served bounded t.sockets.length).symm.trans served
  refine ⟨_, getElem?_set_append inside, ⟨kept.accepts, kept.some_room, kept.max_small,
    kept.head_lt, kept.count_le⟩, ?_⟩
  intro i other there
  simp only [answeringListener, Backlog.enqueued] at there
  split at there
  · cases there
    rfl
  · rw [empty i] at there
    cases there

theorem sysAccept_end {p : Places} {c : Connection} {state : SocketState} {fp : SocketFile}
    (e : End .server line p t c state fp) (holds : Holds p.server p.client t) :
    ∃ rv state' t', sysAccept t p.server = .ok (.just rv, t') ∧
      End .server line p t' c state' fp ∧ Holds p.server p.client t' ∧
        ((rv = -1 ∧ state' = state) ∨
          (rv = 31 ∧ state' = .connected ∧ chosen t p.server = some p.client)) := by
  rcases holds with ⟨sk, found, backlogged⟩
  have inside : p.server < t.sockets.length := (List.getElem?_eq_some_iff.mp found).1
  rcases acceptBacklog_served backlogged.bounded with ⟨client, served, kept, pending⟩
  have still := e.setSocket_server found (Backlog.accepted sk client) rfl rfl
  have after : Backlogged p.client (Backlog.accepted sk client) := ⟨kept, backlogged.only⟩
  have there : (t.setSocket p.server (Backlog.accepted sk client)).sockets[p.server]? =
      some (Backlog.accepted sk client) := by
    simp [Tables.setSocket, inside]
  cases client with
  | none =>
      refine ⟨-1, state, _, ?_, still, ⟨_, there, after⟩, .inl ⟨rfl, rfl⟩⟩
      rw [sysAccept]
      simp only [need, found, ok_bind, served]
      rfl
  | some client =>
      have same : client = p.client := by
        rcases pending client rfl with ⟨j, waiting⟩
        exact backlogged.only j client waiting
      subst same
      rcases still.client with ⟨remote, met, -, -, own, -⟩
      refine ⟨31, .connected, _, ?_, still.setState_client .connected,
        ⟨_, ?_, after⟩, .inr ⟨rfl, rfl, ?_⟩⟩
      · rw [sysAccept]
        simp only [need, found, ok_bind, served, met, own]
        rfl
      · rw [← there]
        simp [Tables.setState, e.apart]
      · rw [chosen, found, Option.bind_some, served]
        rfl

end Server

end Gramado.Net.Opening
