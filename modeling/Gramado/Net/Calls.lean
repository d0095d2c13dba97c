/-
The local calls that reach the tables: the AF_INET half of socket.c and the
calls of tcp.c behind it. A call names its socket; the descriptor, the process
and the address structure that it is taken from are left out, and so are the
pointers of the caller that are only tested for NULL.
-/
import Gramado.Net.Tcp

namespace Gramado.Net.Calls

open Gramado.Ke Gramado.Lib.Bytes Gramado.Lib.Fallible
open Gramado.Net.Parse Gramado.Net.Tcp

/-- The value returned, what went out on the wire, and the bytes handed to the
    caller. -/
structure Answer where
  rv : Int
  sent : List TcpSend
  bytes : List UInt8
  deriving DecidableEq, Repr

def Answer.just (rv : Int) : Answer := ⟨rv, [], []⟩

/-- `sys_socket` for AF_INET: socket, endpoint, buffer and file. -/
def sysSocket (env : Env) (t : Tables) : Except Stop (Answer × Tables) := do
  if ¬(← kmalloc env.heap 0) then
    pure (.just (-1), t)
  else
    kmallocOr (.panic "sys_socket: ep\n") env.heap 1
    let sk := { createSocketObject with family := .inet }
    if ¬(← kmalloc env.heap 2) then
      pure (.just (-1), { t with sockets := t.sockets ++ [sk] })
    else if ¬(← kmalloc env.heap 3) then
      pure (.just (-1), { t with sockets := t.sockets ++ [sk] })
    else
      let fp : SocketFile := ⟨true, List.replicate 1024 0, 0, 0, 1024, 0⟩
      pure (.just t.sockets.length, { t with
        sockets := t.sockets ++ [{ sk with privateFile := some t.files.length }]
        files := t.files ++ [fp] })

/-- `sys_bind` for AF_INET. The address is stored, and the state reset, before
    the port is looked at; without a free slot the call succeeds as well. -/
def sysBind (env : Env) (t : Tables) (k : Nat) (ip : UInt32) (port : UInt16) :
    Except Stop (Answer × Tables) := do
  let sk ← need t.sockets[k]? (.fault "s")
  let t := t.setSocket k { sk with ipIpv4 := ip, port := port, state := .unconnected }
  if port = 0 then
    pure (.just (-1), t)
  else if t.serverList.length < serverCountMax then
    kmallocOr (.fault "srv") env.heap 0
    pure (.just 0, { t with serverList := t.serverList ++ [⟨port, k⟩] })
  else
    pure (.just 0, t)

def sysListen (t : Tables) (k : Nat) (backlog : Int32) : Except Stop (Answer × Tables) := do
  let sk ← need t.sockets[k]? (.fault "server_socket")
  pure (.just 0, t.setSocket k (listenImp sk backlog))

/-- `__accept_imp`; the answer is the descriptor 31. -/
def sysAccept (t : Tables) (k : Nat) : Except Stop (Answer × Tables) := do
  let sk ← need t.sockets[k]? (.fault "listening_socket")
  let (found, sk) ← acceptBacklog sk
  let t := t.setSocket k sk
  match found with
  | none => pure (.just (-1), t)
  | some client => do
      let pending ← need t.sockets[client]? (.fault "ep1_pending_socket")
      let _ ← need pending.privateFile (.fault "ep1_pending_fp")
      pure (.just 31, t.setState client .connected)

/-- The port of `tcp_client_connect`: it starts over behind the last one. -/
def nextEphemeralPort (t : Tables) : Except Stop UInt16 :=
  if t.newClientPortNumber < firstEphemeralPort then
    .error (.panic "__new_client_port_number <")
  else if lastEphemeralPort < t.newClientPortNumber then
    .ok firstEphemeralPort
  else
    .ok t.newClientPortNumber

/-- The connection as `create_connection` clears it. -/
def blankConnection : Connection where
  status := .closed
  isLocalServer := false
  iss := 0
  sndUna := 0
  sndNxt := 0
  sndWnd := 0
  irs := 0
  rcvNxt := 0
  rcvWnd := 0
  packetsSent := 0
  packetsReceived := 0
  peerMac := ⟨0, 0, 0, 0, 0, 0⟩
  clientSocket := none
  serverSocket := none

/-- The connection of `tcp_client_connect` when its SYN is about to be sent. -/
def connectingConnection (isn : UInt32) (client server : Nat) : Connection :=
  { blankConnection with
    iss := isn
    sndUna := isn
    sndNxt := isn + 1
    clientSocket := some client
    serverSocket := some server }

def remoteServerSocket (dstIp : UInt32) (dstPort : UInt16) (conn : Nat) : Socket :=
  { createSocketObject with
    family := .inet
    conn := some conn
    ipIpv4 := dstIp
    port := dstPort }

def connectSyn (env : Env) (sourcePort : UInt16) (dstIp : UInt32) (dstPort : UInt16) :
    TcpSend where
  sourceIp := env.yourIpv4
  targetIp := dstIp
  targetMac := env.saved.gatewayMac
  sourcePort := sourcePort
  targetPort := dstPort
  seq := env.isn
  ack := 0
  flags := thSyn
  data := []

/-- The allocations are a connection of two, the pair, the local endpoint, the
    remote endpoint and its socket. -/
def tcpClientConnect (env : Env) (t : Tables) (k : Nat) (dstIp : UInt32) (dstPort : UInt16) :
    Except Stop (Answer × Tables) := do
  if dstIp = 0xFFFFFFFF ∨ dstIp = 0 ∨ dstPort = 0 then
    pure (.just einval, t)
  else if ¬(← createConnection env.heap) then
    pure (.just enomem, t)
  else
    let id := t.connectionList.length
    match connectionRegister t blankConnection with
    | none => pure (.just (-1), t)
    | some t =>
        if ¬(← kmalloc env.heap 2) then
          pure (.just enomem, t)
        else if ¬(← kmalloc env.heap 3) then
          pure (.just enomem, t)
        else
          let sk ← need t.sockets[k]? (.fault "sk_local")
          let port ← nextEphemeralPort t
          let sk := { sk with conn := some id, ipIpv4 := env.yourIpv4, port := port }
          let t := { t.setSocket k sk with newClientPortNumber := port + 1 }
          if ¬(← kmalloc env.heap 4) then
            pure (.just enomem, t)
          else if ¬(← kmalloc env.heap 5) then
            pure (.just enomem, t)
          else
            let conn := connectingConnection env.isn k t.sockets.length
            let t := { t with sockets := t.sockets ++ [remoteServerSocket dstIp dstPort id] }
            let sent ← sendTcp env (connectSyn env port dstIp dstPort)
            if sent = [] then
              pure (.just (-1), t.setConnection id conn)
            else
              let conn := { conn with status := .synSent }
              pure (⟨0, sent, []⟩, (t.setConnection id conn).setState k .connecting)

/-- `__connect_inet_remote`, where every port is a valid one. Of the two
    canonical ports it knows no more than that they are: it goes on to a server
    process that it did not look up. -/
def connectInetRemote (env : Env) (t : Tables) (k : Nat) (dstIp : UInt32) (dstPort : UInt16) :
    Except Stop (Answer × Tables) := do
  let sk ← need t.sockets[k]? (.fault "client_socket")
  if sk.state ≠ .unconnected then
    pure (.just (-1), t)
  else
    let number := t.connectPortNumber + 1
    let t := { t.setSocket k { sk with port := number } with connectPortNumber := number }
    if dstPort ≠ 4040 ∧ dstPort ≠ 4041 then
      tcpClientConnect env t k dstIp dstPort
    else
      .error (.fault "sProcess")

/-- `__connect_inet_local`, and `__connect_af_gramado` as well: `server` is the
    socket of the process that is registered for the port. -/
def connectLocal (t : Tables) (k : Nat) (server : Option Nat) :
    Except Stop (Answer × Tables) := do
  let sk ← need t.sockets[k]? (.fault "client_socket")
  if sk.state ≠ .unconnected then
    pure (.just (-1), t)
  else
    let number := t.connectPortNumber + 1
    let t := { t.setSocket k { sk with port := number } with connectPortNumber := number }
    match server with
    | none => pure (.just (-1), t)
    | some server =>
        let t := t.setState k .connecting
        let serverSocket ← need t.sockets[server]? (.fault "server_socket")
        let serverSocket ← connectBacklog serverSocket k
        pure (.just 0, t.setSocket server serverSocket)

def inaddrLoopback : UInt32 := 0x7F000001

def connectInet (env : Env) (t : Tables) (k : Nat) (server : Option Nat) (dstIp : UInt32)
    (dstPort : UInt16) : Except Stop (Answer × Tables) :=
  if (dstPort = 4040 ∨ dstPort = 4041) ∧ dstIp = inaddrLoopback then
    connectLocal t k server
  else
    connectInetRemote env t k dstIp dstPort

/-- `__is_same_subnet` with the mask 255.255.255.0. -/
def isSameSubnet (ip1 ip2 : UInt32) : Bool :=
  ip1 &&& 0xFFFFFF00 == ip2 &&& 0xFFFFFF00

/-- What is sent takes up sequence numbers. -/
def sentConnection (c : Connection) (buf : List UInt8) : Connection :=
  { c with sndNxt := c.sndNxt + UInt32.ofNat buf.length, packetsSent := c.packetsSent + 1 }

@[simp] theorem status_sentConnection (c : Connection) (buf : List UInt8) :
    (sentConnection c buf).status = c.status := rfl

def tcpSocketSend (env : Env) (t : Tables) (k : Nat) (buf : List UInt8) :
    Except Stop (Answer × Tables) := do
  let sk ← need t.sockets[k]? (.fault "sk")
  if buf.length = 0 then
    pure (.just 0, t)
  else if sk.family ≠ .inet then
    pure (.just eafnosupport, t)
  else if sk.state ≠ .connected then
    pure (.just enotconn, t)
  else
    match tcpFindConnectionByLocalSocket t k with
    | none => pure (.just enotconn, t)
    | some i =>
        let conn ← need t.connectionList[i]? (.fault "conn")
        if conn.status ≠ .established then
          pure (.just enotconn, t)
        else
          -- `ep_pair->s_ep->socket->port` is read before the test of the socket.
          let server ← need (conn.serverSocket.bind (t.sockets[·]?)) (.fault "s_ep->socket")
          let client ← need (conn.clientSocket.bind (t.sockets[·]?)) (.fault "c_ep->socket")
          let (remote, here) := if conn.isLocalServer then (client, server) else (server, client)
          let mac :=
            if isSameSubnet env.yourIpv4 remote.ipIpv4 then conn.peerMac
            else env.saved.gatewayMac
          let sent ← sendTcp env
            { sourceIp := env.yourIpv4, targetIp := remote.ipIpv4, targetMac := mac,
              sourcePort := here.port, targetPort := remote.port, seq := conn.sndNxt,
              ack := conn.rcvNxt, flags := thAck ||| thPush, data := buf }
          if sent = [] then
            pure (.just (-1), t)
          else
            pure (⟨buf.length, sent, []⟩, t.setConnection i (sentConnection conn buf))

/-- The bytes that a `memcpy` takes out of the buffer. A size below zero is a very large one
    for it. -/
def readBuffer (fp : SocketFile) (n : Int) : Except Stop (List UInt8) :=
  if n = 0 then
    .ok []
  else if 0 < n ∧ 0 ≤ fp.r ∧ fp.r + n ≤ fp.base.length then
    .ok (peek fp.base fp.r.toNat n.toNat)
  else
    .error (.fault "fp->_base")

/-- The end of `tcp_socket_recv`, whose sizes are signed: `size_t` is `int` in the kernel. -/
def readFile (fp : SocketFile) (len : Nat) : Except Stop (List UInt8 × SocketFile) := do
  let available := fp.fsize - fp.r
  let toCopy : Int := if len < available then len else available
  let bytes ← readBuffer fp toCopy
  let r := fp.r + toCopy
  if fp.fsize ≤ r then
    pure (bytes, { fp with r := fp.fsize, w := fp.fsize })
  else
    pure (bytes, { fp with r := r })

def tcpSocketRecv (t : Tables) (k : Nat) (len : Nat) : Except Stop (Answer × Tables) := do
  let sk ← need t.sockets[k]? (.fault "sk")
  if len = 0 then
    pure (.just 0, t)
  else if sk.state ≠ .connected then
    pure (.just enotconn, t)
  else
    match sk.conn with
    | none => pure (.just enotconn, t)
    | some i =>
        let conn ← need t.connectionList[i]? (.fault "conn")
        if conn.status ≠ (if conn.isLocalServer then .established else .closeWait) then
          pure (.just enotconn, t)
        else
          match sk.privateFile with
          | none => pure (.just enotconn, t)
          | some f =>
              let fp ← need t.files[f]? (.fault "fp")
              let (bytes, fp) ← readFile fp len
              pure (⟨bytes.length, [], bytes⟩, t.setFile f fp)

/-- `sys_socket_shutdown`; `how` is not looked at. -/
def sysSocketShutdown (t : Tables) (k : Nat) : Except Stop (Answer × Tables) := do
  let _ ← need t.sockets[k]? (.fault "s")
  pure (.just 0, t.setState k .shutdown)

/-- `k_fclose` on the file that `sys_dup2` or `sys_dup3` finds in the slot of the
    new descriptor. -/
def kFclose (t : Tables) (f : Nat) : Except Stop (Answer × Tables) := do
  let fp ← need t.files[f]? (.fault "f")
  if fp.valid then
    pure (.just 0, t.setFile f { fp with valid := false })
  else
    pure (.just (-1), t)

/-- What reaches the tables: a received segment, or a call of a process. -/
inductive Call where
  | segment (env : Env) (seg : Segment)
  | socket (env : Env)
  | bind (env : Env) (k : Nat) (ip : UInt32) (port : UInt16)
  | listen (k : Nat) (backlog : Int32)
  | accept (k : Nat)
  | connect (env : Env) (k : Nat) (server : Option Nat) (dstIp : UInt32) (dstPort : UInt16)
  | connectGramado (k : Nat) (server : Option Nat)
  | send (env : Env) (k : Nat) (buf : List UInt8)
  | recv (k : Nat) (len : Nat)
  | shutdown (k : Nat)
  | close (k : Nat)
  | fclose (f : Nat)

def serve (t : Tables) : Call → Except Stop (Answer × Tables)
  | .segment env seg => do
      let (sent, t) ← networkHandleTcp env t seg
      pure (⟨0, sent, []⟩, t)
  | .socket env => sysSocket env t
  | .bind env k ip port => sysBind env t k ip port
  | .listen k backlog => sysListen t k backlog
  | .accept k => sysAccept t k
  | .connect env k server dstIp dstPort => connectInet env t k server dstIp dstPort
  | .connectGramado k server => connectLocal t k server
  | .send env k buf => tcpSocketSend env t k buf
  | .recv k len => tcpSocketRecv t k len
  | .shutdown k => sysSocketShutdown t k
  | .close k => do
      let (rv, t) ← socketClose t k
      pure (.just rv, t)
  | .fclose f => kFclose t f

/-- An environment with a NIC and enough memory. -/
def wiredEnv : Env where
  currentNIC := some ⟨2, 0, 0, 0, 0, 1⟩
  yourIpv4 := 0xC0A80102
  saved := ⟨0xC0A80101, ⟨2, 0, 0, 0, 0, 2⟩, 0xC0A80107, ⟨2, 0, 0, 0, 0, 3⟩, 0xC0A80102⟩
  isn := 5000
  heap := ⟨100, false⟩
  fsizeThere := 0

end Gramado.Net.Calls
