/-
tcp.c: the three handlers that `network_handle_tcp` chooses from, the answer to
a SYN, and the calls that connect, send and receive. A handler works on one
connection; here it works on a copy of the record, which is written back at its
end. `cur_conn` is left out, because every handler sets it before it looks at
it. What the calls do after a write through NULL or outside an object is not
modelled: they stop with a fault.
-/
import Gramado.Gramnet.Http
import Gramado.Net.Connection

namespace Gramado.Net.Tcp

open Gramado.Ke Gramado.Lib.Bytes Gramado.Lib.Fallible
open Gramado.Net.Parse

/-- What a call finds outside the tables. `fsizeThere` is what lies at `_fsize`
    in memory that `kmalloc` returns, and `isn` the next `__generate_ISN`. -/
structure Env where
  currentNIC : Option Mac
  yourIpv4 : UInt32
  saved : NetworkSaved
  isn : UInt32
  heap : Heap
  fsizeThere : Int
  deriving DecidableEq, Repr

def Env.wired (env : Env) : Bool :=
  env.currentNIC.isSome

/-- `network_send_tcp`, with what it puts on the wire: nothing where it
    returns -1. -/
def sendTcp (env : Env) (s : TcpSend) : Except Stop (List TcpSend) :=
  (networkSendTcp env.currentNIC s).map fun frame => if frame.isSome then [s] else []

/-- A segment without data back to where `seg` came from. -/
def answer (env : Env) (seg : Segment) (seq ack : UInt32) (flags : UInt16) : TcpSend where
  sourceIp := env.yourIpv4
  targetIp := env.saved.callerIpv4
  targetMac := env.saved.callerMac
  sourcePort := seg.dport
  targetPort := seg.sport
  seq := seq
  ack := ack
  flags := flags
  data := []

/-- What a handler leaves behind: the segments it sent, its connection and the
    tables around it. -/
structure Handled where
  sent : List TcpSend
  conn : Connection
  tables : Tables

def writeBack (i : Nat) (handled : Handled) : List TcpSend × Tables :=
  (handled.sent, handled.tables.setConnection i handled.conn)

def onConnection (t : Tables) (i : Nat) (body : Connection → Except Stop Handled) :
    Except Stop (List TcpSend × Tables) := do
  let conn ← need t.connectionList[i]? (.fault "cur_conn")
  let handled ← body conn
  pure (writeBack i handled)

section Files

/-- `sk->private_file` with the tests and texts of the receive path. -/
def privateFile (t : Tables) (sk : Socket) (null : Stop) (validation : Stop) :
    Except Stop (Nat × SocketFile) := do
  let f ← need sk.privateFile null
  let fp ← need t.files[f]? null
  if fp.valid then
    pure (f, fp)
  else
    .error validation

def invalidSk : Stop := .panic "TCP: invalid sk\n"

def invalidFp : Stop := .panic "TCP: invalid fp\n"

def fpValidation : Stop := .panic "TCP: fp validation\n"

/-- The client's socket and file, as they are looked up after a FIN and for a
    closed connection; the socket gets its new state in between. -/
def clientFile (t : Tables) (c : Connection) (state : SocketState) : Except Stop Tables := do
  let k ← need c.clientSocket invalidSk
  let sk ← need t.sockets[k]? invalidSk
  let _ ← privateFile t sk invalidFp fpValidation
  pure (t.setState k state)

/-- The copy of the payload behind what the file holds already. Without room
    for all of it nothing is copied. -/
def storePayload (fp : SocketFile) (payload : List UInt8) : Except Stop SocketFile :=
  let room := fp.cnt.toNat
  if room < payload.length then
    pure fp
  else if payload.length = 0 then
    pure fp
  else if 0 ≤ fp.w ∧ fp.w.toNat + payload.length ≤ fp.base.length then
    let w := fp.w + payload.length
    pure { fp with
      base := poke fp.base fp.w.toNat payload
      w := w
      fsize := w
      cnt := fp.base.length - w }
  else
    .error (.fault "fp->_base")

/-- The end of the in-order branch: store, and with a FIN start the reading
    over and mark the socket. -/
def receivePayload (t : Tables) (k : Nat) (sk : Socket) (seg : Segment) :
    Except Stop Tables := do
  let (f, fp) ← privateFile t sk invalidFp fpValidation
  let fp ← storePayload fp seg.payload
  let fp := if seg.fin then { fp with r := 0 } else fp
  let t := t.setFile f fp
  pure (if seg.fin then t.setState k .connected else t)

/-- `tcp_change_socket_buffer`: the contents are not kept, and `_fsize` stays. -/
def tcpChangeSocketBuffer (env : Env) (t : Tables) (sk : Socket) (desiredSize : Nat) :
    Except Stop Tables := do
  let newSize := if desiredSize < 1024 then 1024 else desiredSize
  match sk.privateFile with
  | none => pure t
  | some f =>
      let fp ← need t.files[f]? (.fault "fp")
      if ¬fp.valid ∨ newSize ≤ fp.base.length then
        pure t
      else if ← kmalloc env.heap 0 then
        pure (t.setFile f
          { fp with base := List.replicate newSize 0, r := 0, w := 0, cnt := newSize })
      else
        pure t

end Files

section Opening

/-- `tcp_seq seq = 1000`: `__generate_ISN` is commented out on this side. -/
def listenerISN : UInt32 := 1000

/-- The connection of a received SYN, before it has its endpoints. -/
def synReceivedConnection (seg : Segment) (peerMac : Mac) : Connection where
  status := .synReceived
  isLocalServer := true
  iss := listenerISN
  sndUna := listenerISN
  sndNxt := listenerISN + 1
  sndWnd := seg.window.toUInt32
  irs := seg.seq
  rcvNxt := seg.seq + 1
  rcvWnd := 0
  packetsSent := 0
  packetsReceived := 1
  peerMac := peerMac
  clientSocket := none
  serverSocket := none

/-- `sk_client`, the socket of the remote client. -/
def remoteClientSocket (seg : Segment) (conn : Nat) (file : Option Nat) : Socket :=
  { createSocketObject with
    family := .inet
    state := .connecting
    privateFile := file
    conn := some conn
    ipIpv4 := seg.sIpv4
    port := seg.sport
    backlogMax := 0 }

/-- `fp_client` is not cleared, and `_fsize` is the one number not set. -/
def remoteClientFile (env : Env) : SocketFile where
  valid := true
  base := List.replicate 1024 0
  r := 0
  w := 0
  cnt := 1024
  fsize := env.fsizeThere

/-- The listener gets the client into its backlog and is given the connection. -/
def enqueueClient (t : Tables) (listener client conn : Nat) : Except Stop Tables := do
  let skListener ← need t.sockets[listener]? (.fault "sk_listener")
  let skListener ← synBacklog skListener client
  pure (t.setSocket listener { skListener with conn := some conn })

/-- `if (sk_listener->ip_ipv4 == 0x7F000001) update_socket(..)` -/
def updateListener (t : Tables) (listener : Nat) (seg : Segment) : Tables :=
  { t with sockets := t.sockets.modify listener fun sk =>
      if sk.ipIpv4 = 0x7F000001 then { sk with ipIpv4 := seg.dIpv4, port := seg.dport }
      else sk }

def synAck (env : Env) (seg : Segment) : TcpSend :=
  answer env seg listenerISN (seg.seq + 1) (thSyn ||| thAck)

/-- The registered connection gets its endpoints. Before this the allocations
    were two for the connection; they go on with the pair, the client's
    endpoint, socket, file and buffer, and the server's endpoint. -/
def plugRemoteClient (env : Env) (t : Tables) (seg : Segment) (id : Nat) (conn : Connection) :
    Except Stop (List TcpSend × Tables) := do
  if ¬(← kmalloc env.heap 2) then
    pure ([], t)
  else
    kmallocOr (.fault "client_ep") env.heap 3
    kmallocOr (.panic "TCP: on sk_client\n") env.heap 4
    kmallocOr (.panic "SYN: fp_client") env.heap 5
    kmallocOr (.panic "SYN: fp_client->_base") env.heap 6
    kmallocOr (.fault "server_ep") env.heap 7
    let client := t.sockets.length
    let t := { t with
      sockets := t.sockets ++ [remoteClientSocket seg id (some t.files.length)]
      files := t.files ++ [remoteClientFile env] }
    let listener ← need (socketGetTcpserverSocketByPort t seg.dport)
      (.panic "TCP: Invalid sk_listener")
    let t ← enqueueClient t listener client id
    let t := updateListener t listener seg
    let conn := { conn with clientSocket := some client, serverSocket := some listener }
    let sent ← sendTcp env (synAck env seg)
    pure (sent, t.setConnection id { conn with packetsSent := conn.packetsSent + 1 })

/-- `__remote_client_sent_syn`, which is called for a SYN without ACK only. -/
def remoteClientSentSyn (env : Env) (t : Tables) (seg : Segment) :
    Except Stop (List TcpSend × Tables) := do
  if seg.dport = 443 ∨ seg.dport = 80 then
    pure ([], t)
  else if ¬(← createConnection env.heap) then
    pure ([], t)
  else
    let conn := synReceivedConnection seg env.saved.callerMac
    match connectionRegister t conn with
    | none => pure ([], t)
    | some registered => plugRemoteClient env registered seg t.connectionList.length conn

/-- The backlog of the listener, where there is one. -/
def enqueueKdClient (t : Tables) (listener : Option Nat) (client conn : Nat) :
    Except Stop Tables :=
  match listener with
  | none => pure t
  | some listener => enqueueClient t listener client conn

/-- The same as `plugRemoteClient` for the kernel debugger: the client has no
    file, and there need not be a listener. -/
def plugKdClient (env : Env) (t : Tables) (seg : Segment) (id : Nat) (conn : Connection) :
    Except Stop (List TcpSend × Tables) := do
  if ¬(← kmalloc env.heap 2) then
    pure ([], t)
  else
    kmallocOr (.fault "client_ep") env.heap 3
    kmallocOr (.panic "TCP: on sk_client\n") env.heap 4
    kmallocOr (.fault "server_ep") env.heap 5
    let client := t.sockets.length
    let t := { t with sockets := t.sockets ++ [remoteClientSocket seg id none] }
    let listener := socketGetTcpserverSocketByPort t kdPort
    let t ← enqueueKdClient t listener client id
    let conn := { conn with clientSocket := some client, serverSocket := listener }
    let sent ← sendTcp env (synAck env seg)
    pure (sent, t.setConnection id { conn with packetsSent := conn.packetsSent + 1 })

/-- The answer to a SYN in the kernel debugger's handler. -/
def kdClientSentSyn (env : Env) (t : Tables) (seg : Segment) :
    Except Stop (List TcpSend × Tables) := do
  if ¬(← createConnection env.heap) then
    pure ([], t)
  else
    let conn := synReceivedConnection seg ⟨0, 0, 0, 0, 0, 0⟩
    match connectionRegister t conn with
    | none => pure ([], t)
    | some registered => plugKdClient env registered seg t.connectionList.length conn

end Opening

section Blocks

/-- The flags that two of the handlers drop a segment for. -/
def dropped (seg : Segment) : Bool :=
  (!seg.syn && !seg.isAck && !seg.fin && !seg.rst && !seg.push && !seg.urg) ||
    (seg.syn && seg.fin) || (seg.syn && seg.rst) || (seg.fin && seg.rst) ||
    (seg.fin && !seg.isAck)

/-- The first tests of these two handlers. -/
def ignored (seg : Segment) : Bool :=
  !allowThisPort seg.dport || dropped seg

/-- SYN_RECEIVED, the same in the two handlers: the acknowledgement and the
    sequence number are taken over before they are looked at. -/
def onSynReceived (c : Connection) (seg : Segment) : Connection :=
  if seg.rst then
    { c with status := .closed }
  else if seg.syn then
    c
  else if seg.isAck then
    let c := { c with sndUna := seg.ack, rcvNxt := seg.seq + seg.dataLen }
    if seg.ack ≠ c.sndNxt then
      c
    else
      { c with status := .established, packetsReceived := c.packetsReceived + 1 }
  else
    c

/-- The next expected sequence number behind a segment in order. It moves on
    whether or not the payload finds room in the file. -/
def behind (c : Connection) (seg : Segment) : Connection :=
  let rcvNxt := c.rcvNxt + seg.dataLen
  { c with rcvNxt := if seg.fin then rcvNxt + 1 else rcvNxt }

/-- CLOSED, the same in the two handlers. -/
def onClosed (env : Env) (t : Tables) (c : Connection) (seg : Segment) :
    Except Stop Handled :=
  if seg.rst then
    pure ⟨[], c, t⟩
  else if seg.isAck && !seg.syn && !seg.fin && !seg.rst then
    pure ⟨[], c, t⟩
  else do
    let sent ← sendTcp env (answer env seg c.sndNxt c.rcvNxt (thRst ||| thAck))
    if sent = [] then
      pure ⟨[], c, t⟩
    else
      let t ← clientFile t c .unconnected
      pure ⟨sent, c, t⟩

/-- The segment in order, in the handler for local servers. -/
def inOrderLocalServers (t : Tables) (c : Connection) (seg : Segment) :
    Except Stop (Connection × Tables) :=
  if seg.seq = c.rcvNxt then
    let c := behind c seg
    if ¬c.isLocalServer then
      .error (.panic "TCP: handler invoked but not local server")
    else do
      let k ← need c.clientSocket invalidSk
      let sk ← need t.sockets[k]? invalidSk
      let t ← receivePayload (t.setState k .connected) k sk seg
      pure (c, t)
  else
    pure (c, t)

/-- The same in the handler for the others: the socket is the local one, and it
    gets its state with a FIN only. -/
def inOrderNonLocalServers (t : Tables) (c : Connection) (seg : Segment) :
    Except Stop (Connection × Tables) :=
  if seg.seq = c.rcvNxt then do
    let c := behind c seg
    let k ← need (if c.isLocalServer then c.serverSocket else c.clientSocket) invalidSk
    let sk ← need t.sockets[k]? invalidSk
    let t ← receivePayload t k sk seg
    pure (c, t)
  else
    pure (c, t)

/-- What every acknowledgement leaves in an established connection. -/
def acknowledged (c : Connection) (seg : Segment) : Connection :=
  { c with sndUna := seg.ack, packetsReceived := c.packetsReceived + 1 }

section Fields

variable (c : Connection) (seg : Segment)

@[simp] theorem rcvNxt_acknowledged : (acknowledged c seg).rcvNxt = c.rcvNxt := rfl

@[simp] theorem isLocalServer_acknowledged :
    (acknowledged c seg).isLocalServer = c.isLocalServer := rfl

@[simp] theorem clientSocket_acknowledged :
    (acknowledged c seg).clientSocket = c.clientSocket := rfl

end Fields

/-- ESTABLISHED of the handler for local servers. Nothing is acknowledged, and
    a FIN is taken in whatever its sequence number is. -/
def establishedLocalServers (t : Tables) (c : Connection) (seg : Segment) :
    Except Stop Handled :=
  if seg.rst then
    pure ⟨[], { c with status := .closed }, t⟩
  else if seg.syn then
    pure ⟨[], c, t⟩
  else if ¬seg.isAck then
    pure ⟨[], c, t⟩
  else do
    let (c, t) ← inOrderLocalServers t (acknowledged c seg) seg
    if seg.fin then
      let t ← clientFile t c .connected
      pure ⟨[], { c with status := .closeWait }, t⟩
    else
      pure ⟨[], c, t⟩

/-- ESTABLISHED of the handler for the others, where a FIN is taken in only if
    the acknowledgement can be sent. -/
def establishedNonLocalServers (env : Env) (t : Tables) (c : Connection) (seg : Segment) :
    Except Stop Handled :=
  if seg.rst then
    pure ⟨[], { c with status := .closed }, t⟩
  else if seg.syn then
    pure ⟨[], c, t⟩
  else if ¬seg.isAck then
    pure ⟨[], c, t⟩
  else do
    let (c, t) ← inOrderNonLocalServers t (acknowledged c seg) seg
    let sent ← sendTcp env (answer env seg c.sndNxt c.rcvNxt thAck)
    if sent = [] then
      pure ⟨[], c, t⟩
    else
      let c := { c with packetsSent := c.packetsSent + 1 }
      if seg.fin then
        let t ← clientFile t c .connected
        pure ⟨sent, { c with status := .closeWait }, t⟩
      else
        pure ⟨sent, c, t⟩

/-- Both sockets become connected where the connection has both. -/
def connectSockets (t : Tables) (client server : Nat) : Tables :=
  (t.setState client .connected).setState server .connected

/-- The same with the tests of the client's file and its larger buffer. -/
def connectClient (env : Env) (t : Tables) (c : Connection) : Except Stop Tables :=
  match c.clientSocket, c.serverSocket with
  | some client, some server => do
      let sk ← need t.sockets[client]? (.fault "c_sock")
      let _ ← privateFile t sk (.panic "TCP step 2: invalid fp\n")
        (.panic "TCP step 2: fp validation\n")
      tcpChangeSocketBuffer env (connectSockets t client server) sk (5 * 1024)
  | _, _ => pure t

/-- SYN_SENT of the handler for the others. The acknowledgement number is
    repeated to the peer and not compared with anything. -/
def synSentNonLocalServers (env : Env) (t : Tables) (c : Connection) (seg : Segment) :
    Except Stop Handled :=
  if seg.rst then
    pure ⟨[], { c with status := .closed }, t⟩
  else if ¬seg.syn ∨ ¬seg.isAck then
    pure ⟨[], c, t⟩
  else if seg.fin then
    pure ⟨[], c, t⟩
  else do
    let sent ← sendTcp env (answer env seg seg.ack (seg.seq + 1) thAck)
    let c := { c with
      packetsSent := c.packetsSent + 1
      sndUna := c.iss + 1
      sndNxt := c.iss + 1
      irs := seg.seq
      rcvNxt := seg.seq + 1 }
    let t ← connectClient env t c
    pure ⟨sent, { c with status := .established }, t⟩

/-- SYN_SENT of the kernel debugger's handler, which asks for SYN and ACK only
    and takes both of its numbers from the segment. -/
def synSentKd (env : Env) (t : Tables) (c : Connection) (seg : Segment) :
    Except Stop Handled :=
  if ¬seg.syn ∨ ¬seg.isAck then
    pure ⟨[], c, t⟩
  else do
    let sent ← sendTcp env (answer env seg seg.ack (seg.seq + 1) thAck)
    let c := { c with
      packetsSent := c.packetsSent + 1
      sndUna := seg.ack
      sndNxt := seg.ack
      rcvNxt := seg.seq + 1 }
    let t := match c.clientSocket, c.serverSocket with
      | some client, some server => connectSockets t client server
      | _, _ => t
    pure ⟨sent, { c with status := .established }, t⟩

/-- `rcv_nxt += data_len` and `packets_received++`, whatever the sequence number is. -/
def counted (c : Connection) (seg : Segment) : Connection :=
  { c with rcvNxt := c.rcvNxt + seg.dataLen, packetsReceived := c.packetsReceived + 1 }

/-- The bytes of a request are taken off the window too, which is never sent. -/
def requested (c : Connection) (seg : Segment) : Connection :=
  { counted c seg with rcvWnd := c.rcvWnd - seg.dataLen }

/-- `gramnet_handle_http`: the page goes out with a FIN behind it. -/
def gramnetHandleHttp (env : Env) (t : Tables) (c : Connection) (seg : Segment) :
    Except Stop Handled :=
  match Gramnet.Http.httpResponse seg.payload c.sndWnd.toUInt16 with
  | none => pure ⟨[], c, t⟩
  | some resp => do
      let sent ← sendTcp env { answer env seg c.sndNxt c.rcvNxt (thAck ||| thPush ||| thFin) with
        sourcePort := kdPort, data := resp }
      if sent = [] then
        pure ⟨[], c, t⟩
      else
        let c := { c with
          sndNxt := c.sndNxt + (UInt32.ofNat resp.length + 1)
          packetsSent := c.packetsSent + 1
          status := .finWait1 }
        pure ⟨sent, c, t⟩

/-- FIN_WAIT1 of the kernel debugger's handler: the peer's FIN is answered with
    another FIN at the same sequence number, and the connection is closed. -/
def finWait1Kd (env : Env) (t : Tables) (c : Connection) (seg : Segment) :
    Except Stop Handled :=
  if seg.fin then do
    let c := { c with rcvNxt := c.rcvNxt + 1, packetsReceived := c.packetsReceived + 1 }
    let sent ← sendTcp env (answer env seg c.sndNxt c.rcvNxt (thAck ||| thFin))
    if sent = [] then
      pure ⟨[], c, t⟩
    else
      pure ⟨sent, { c with packetsSent := c.packetsSent + 1, status := .closed }, t⟩
  else if seg.payload.length > 0 then
    pure ⟨[], counted c seg, t⟩
  else
    pure ⟨[], c, t⟩

/-- The kernel debugger's handler on the connection of the client. -/
def kdServer (env : Env) (t : Tables) (c : Connection) (seg : Segment) :
    Except Stop Handled :=
  if c.status = .synReceived ∧ ¬seg.syn ∧ seg.isAck then
    let c := { c with rcvNxt := seg.seq + seg.dataLen }
    if seg.ack ≠ c.sndNxt then
      pure ⟨[], c, t⟩
    else
      let c := { c with
        sndUna := seg.ack
        packetsReceived := c.packetsReceived + 1
        status := .established }
      pure ⟨[], c, t⟩
  else if seg.rst then
    pure ⟨[], c, t⟩
  else
    match c.status with
    | .established => gramnetHandleHttp env t (requested c seg) seg
    | .finWait1 => finWait1Kd env t c seg
    | _ => pure ⟨[], c, t⟩

/-- The blocks of the handler for local servers, in their order. -/
def localServers (env : Env) (t : Tables) (c : Connection) (seg : Segment) :
    Except Stop Handled :=
  match c.status with
  | .synReceived => pure ⟨[], onSynReceived c seg, t⟩
  | .established => establishedLocalServers t c seg
  | .closed => onClosed env t c seg
  | _ => pure ⟨[], c, t⟩

/-- The blocks of the handler for the others, in their order. -/
def nonLocalServers (env : Env) (t : Tables) (c : Connection) (seg : Segment) :
    Except Stop Handled :=
  match c.status with
  | .closed => onClosed env t c seg
  | .synSent => synSentNonLocalServers env t c seg
  | .established => establishedNonLocalServers env t c seg
  | .synReceived => pure ⟨[], onSynReceived c seg, t⟩
  | _ => pure ⟨[], c, t⟩

end Blocks

section Handlers

/-- The connection that the lookups by two addresses find; a connection to the
    same remote peer comes first where it waits for the answer to its SYN. -/
def handleTcpForKdServer (env : Env) (t : Tables) (seg : Segment) :
    Except Stop (List TcpSend × Tables) :=
  match tcpFindConnectionByClient t seg.sIpv4 seg.sport with
  | none => if seg.syn && !seg.isAck then kdClientSentSyn env t seg else pure ([], t)
  | some client => do
      let peer := (tcpFindConnectionByRemotePeer t seg.sIpv4 seg.sport).getD client
      let conn ← need t.connectionList[peer]? (.fault "cur_conn")
      if conn.status = .synSent then
        onConnection t peer fun c => synSentKd env t c seg
      else
        onConnection t client fun c => kdServer env t c seg

def handleTcpForLocalServers (env : Env) (t : Tables) (seg : Segment) :
    Except Stop (List TcpSend × Tables) :=
  if ignored seg then
    pure ([], t)
  else if seg.syn && seg.isAck then
    pure ([], t)
  else if seg.syn then
    -- There is no lookup before a connection is created.
    remoteClientSentSyn env t seg
  else
    match tcpFindConnectionServerSide t seg.dIpv4 seg.dport seg.sIpv4 seg.sport with
    | none => pure ([], t)
    | some i => onConnection t i fun c => localServers env t c seg

/-- The lookup of the handler for the others: by four addresses for a SYN, by
    the remote peer's two for every other segment. -/
def lookupNonLocalServers (t : Tables) (seg : Segment) : Option Nat :=
  if seg.syn && seg.isAck then
    tcpFindConnectionClientSide t seg.dIpv4 seg.dport seg.sIpv4 seg.sport
  else if seg.syn then
    tcpFindConnectionServerSide t seg.dIpv4 seg.dport seg.sIpv4 seg.sport
  else
    tcpFindConnectionByRemotePeer t seg.sIpv4 seg.sport

def handleTcpForNonLocalServers (env : Env) (t : Tables) (seg : Segment) :
    Except Stop (List TcpSend × Tables) :=
  if ignored seg then
    pure ([], t)
  else
    match lookupNonLocalServers t seg with
    | none => if seg.syn && !seg.isAck then remoteClientSentSyn env t seg else pure ([], t)
    | some i => onConnection t i fun c => nonLocalServers env t c seg

/-- The choice of `network_handle_tcp`. -/
def networkHandleTcp (env : Env) (t : Tables) (seg : Segment) :
    Except Stop (List TcpSend × Tables) :=
  if seg.dport = kdPort then
    handleTcpForKdServer env t seg
  else if isItALocalServer t seg.dport then
    handleTcpForLocalServers env t seg
  else
    handleTcpForNonLocalServers env t seg

end Handlers

end Gramado.Net.Tcp
