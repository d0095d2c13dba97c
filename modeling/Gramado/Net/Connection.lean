/-
`struct connection_d` with its `tcp_conn` and its endpoint pair, the file that
holds a socket's data, and the tables of the network code: connectionList,
serverList and, as lists, the sockets and files that are never freed. A pointer
is an index into one of them. Of a connection the buffers, the
timers and the second status in `tcp_conn` are left out, since no function reads
them and that status moves where the first one does only; of a file what only
the scheduler of reads and writes looks at. The lookups of sockint.c are scans
from the first slot on.
-/
import Gramado.Net.Parse
import Gramado.Net.Socket
import Gramado.Lib.Fallible

namespace Gramado.Net

open Gramado.Ke Gramado.Lib.Fallible
open Gramado.Net.Parse

/-- `CONN_STATUS_*`, which are the `TCP_*` of net.h; `CONN_STATUS_NONE` is
    `TCP_CLOSED` too. -/
inductive Status where
  | closed
  | listen
  | synSent
  | synReceived
  | established
  | finWait1
  | finWait2
  | closeWait
  | closing
  | lastAck
  | timeWait
  deriving DecidableEq, Repr

/-- `clientSocket` is `ep_pair->c_ep->socket`, and NULL where there is no pair;
    `serverSocket` is `ep_pair->s_ep->socket`. -/
@[ext]
structure Connection where
  status : Status
  isLocalServer : Bool
  iss : UInt32
  sndUna : UInt32
  sndNxt : UInt32
  sndWnd : UInt32
  irs : UInt32
  rcvNxt : UInt32
  rcvWnd : UInt32
  packetsSent : UInt32
  packetsReceived : UInt32
  peerMac : Mac
  clientSocket : Option Nat
  serverSocket : Option Nat
  deriving DecidableEq, Repr

/-- `struct file_d` of a socket. `_lbfsize` is the length of `_base`, and
    `valid` stands for the magic number. -/
structure SocketFile where
  valid : Bool
  base : List UInt8
  r : Int
  w : Int
  cnt : Int
  fsize : Int
  deriving DecidableEq, Repr

structure Server where
  port : UInt16
  socket : Nat
  deriving DecidableEq, Repr

/-- Each of tcp.c and socket.c has a `__new_client_port_number` of its own. -/
structure Tables where
  sockets : List Socket
  files : List SocketFile
  connectionList : List Connection
  serverList : List Server
  newClientPortNumber : UInt16
  connectPortNumber : UInt16

def maxConnections : Nat := 256

def serverCountMax : Nat := 32

/-- The tables after `netInitialize`. -/
def Tables.initial : Tables where
  sockets := []
  files := []
  connectionList := []
  serverList := []
  newClientPortNumber := firstEphemeralPort
  connectPortNumber := 11000

namespace Tables

def setConnection (t : Tables) (i : Nat) (c : Connection) : Tables :=
  { t with connectionList := t.connectionList.set i c }

def setSocket (t : Tables) (k : Nat) (sk : Socket) : Tables :=
  { t with sockets := t.sockets.set k sk }

def setState (t : Tables) (k : Nat) (state : SocketState) : Tables :=
  { t with sockets := t.sockets.modify k fun sk => { sk with state := state } }

def setFile (t : Tables) (f : Nat) (file : SocketFile) : Tables :=
  { t with files := t.files.set f file }

section Fields

variable (t : Tables) (i : Nat) (c : Connection) (sk : Socket) (state : SocketState)
  (file : SocketFile)

@[simp] theorem connectionList_setConnection :
    (t.setConnection i c).connectionList = t.connectionList.set i c := rfl

@[simp] theorem connectionList_setSocket :
    (t.setSocket i sk).connectionList = t.connectionList := rfl

@[simp] theorem connectionList_setState :
    (t.setState i state).connectionList = t.connectionList := rfl

@[simp] theorem connectionList_setFile :
    (t.setFile i file).connectionList = t.connectionList := rfl

end Fields

end Tables

def thFin : UInt16 := 1

def thSyn : UInt16 := 2

def thRst : UInt16 := 4

def thPush : UInt16 := 8

def thAck : UInt16 := 16

def thUrg : UInt16 := 32

def has (flags flag : UInt16) : Bool :=
  flags &&& flag != 0

def Parse.Segment.fin (seg : Segment) : Bool := has seg.flags thFin

def Parse.Segment.syn (seg : Segment) : Bool := has seg.flags thSyn

def Parse.Segment.rst (seg : Segment) : Bool := has seg.flags thRst

def Parse.Segment.push (seg : Segment) : Bool := has seg.flags thPush

/-- `fACK` -/
def Parse.Segment.isAck (seg : Segment) : Bool := has seg.flags thAck

def Parse.Segment.urg (seg : Segment) : Bool := has seg.flags thUrg

/-- `data_len`, as it is added to a sequence number. -/
def Parse.Segment.dataLen (seg : Segment) : UInt32 :=
  UInt32.ofNat seg.payload.length

/-- `srv->port == target_port` for a registered server. -/
def isItALocalServer (t : Tables) (targetPort : UInt16) : Bool :=
  t.serverList.any fun srv => srv.port == targetPort

def socketGetTcpserverSocketByPort (t : Tables) (port : UInt16) : Option Nat :=
  (t.serverList.find? fun srv => srv.port == port).map Server.socket

/-- The test that the lookups make of a socket they reach. -/
def socketIs (t : Tables) (k : Option Nat) (ip : UInt32) (port : UInt16) : Bool :=
  match k.bind (t.sockets[·]?) with
  | some sk => sk.ipIpv4 == ip && sk.port == port
  | none => false

def tcpFindConnectionClientSide (t : Tables) (localIp : UInt32) (localPort : UInt16)
    (remoteIp : UInt32) (remotePort : UInt16) : Option Nat :=
  t.connectionList.findIdx? fun c =>
    socketIs t c.clientSocket localIp localPort &&
      socketIs t c.serverSocket remoteIp remotePort

def tcpFindConnectionServerSide (t : Tables) (localIp : UInt32) (localPort : UInt16)
    (remoteIp : UInt32) (remotePort : UInt16) : Option Nat :=
  t.connectionList.findIdx? fun c =>
    socketIs t c.clientSocket remoteIp remotePort &&
      socketIs t c.serverSocket localIp localPort

def tcpFindConnectionByRemotePeer (t : Tables) (remoteIp : UInt32) (remotePort : UInt16) :
    Option Nat :=
  t.connectionList.findIdx? fun c => socketIs t c.serverSocket remoteIp remotePort

def tcpFindConnectionByClient (t : Tables) (remoteIp : UInt32) (remotePort : UInt16) :
    Option Nat :=
  t.connectionList.findIdx? fun c => socketIs t c.clientSocket remoteIp remotePort

def tcpFindConnectionByLocalSocket (t : Tables) (k : Nat) : Option Nat :=
  t.connectionList.findIdx? fun c => c.clientSocket == some k

/-- `connection_register`: the slots are never freed, so the first free one is
    behind the last. -/
def connectionRegister (t : Tables) (conn : Connection) : Option Tables :=
  if t.connectionList.length < maxConnections then
    some { t with connectionList := t.connectionList ++ [conn] }
  else
    none

/-- The kernel heap during one call: the allocations that succeed before one
    gives NULL, or stops the kernel in `x_panic`. -/
structure Heap where
  left : Nat
  panics : Bool
  deriving DecidableEq, Repr

/-- The allocation number `n` of a call, counted from 0. -/
def kmalloc (heap : Heap) (n : Nat) : Except Stop Bool :=
  if n < heap.left then
    .ok true
  else if heap.panics then
    .error (.panic "kmalloc")
  else
    .ok false

/-- An allocation whose failure stops the kernel, one way or the other. -/
def kmallocOr (stop : Stop) (heap : Heap) (n : Nat) : Except Stop Unit := do
  if ← kmalloc heap n then
    pure ()
  else
    .error stop

/-- `create_connection` allocates the connection and its `tcp_conn`. -/
def createConnection (heap : Heap) : Except Stop Bool := do
  if ← kmalloc heap 0 then
    kmalloc heap 1
  else
    pure false

def einval : Int := -22

def enomem : Int := -12

def enotconn : Int := -107

def eafnosupport : Int := -97

/-- `socket_close`. The two statuses of the closing handshake are written and
    then overwritten: the code does not wait for the peer. -/
def socketClose (t : Tables) (k : Nat) : Except Stop (Int × Tables) := do
  let sk ← need t.sockets[k]? (.fault "sk")
  match sk.conn with
  | none => pure (enotconn, t)
  | some i =>
      let conn ← need t.connectionList[i]? (.fault "conn")
      let conn :=
        if conn.status = .closeWait then { conn with status := .lastAck }
        else if conn.status = .established then { conn with status := .finWait1 }
        else conn
      let conn := { conn with status := .closed }
      pure (0, (t.setConnection i conn).setState k .closed)

end Gramado.Net
