/-
`struct socket_d` and the backlog of a listening socket. The backlog code of
socket.c and tcp.c stands in the middle of longer functions; here it is cut out
of them, and the longer functions are built from these pieces. A socket has
more fields than these: what only the console prints, and what only the file
system or the window server reads, is left out.
-/
import Gramado.Ke
import Gramado.Lib.Ring

namespace Gramado.Net

open Gramado.Ke

/-- `SS_*` of sockint.h; `shutdown` is the 216 that `sys_socket_shutdown` leaves. -/
inductive SocketState where
  | listening
  | unconnected
  | connecting
  | connected
  | disconnecting
  | closed
  | shutdown
  deriving DecidableEq, Repr

inductive Family where
  | unspec
  | gramado
  | unix
  | inet
  deriving DecidableEq, Repr

/-- Pointers are indices into the tables of the kernel, and NULL is `none`. -/
structure Socket where
  family : Family
  state : SocketState
  privateFile : Option Nat
  conn : Option Nat
  ipIpv4 : UInt32
  port : UInt16
  pendingClientEndpoints : Nat → Option Nat
  pendingClientCount : Nat
  backlogMax : Nat
  backlogHead : Nat

def createSocketObject : Socket where
  family := .unspec
  state := .unconnected
  privateFile := none
  conn := none
  ipIpv4 := 0
  port := 0
  pendingClientEndpoints := fun _ => none
  pendingClientCount := 0
  backlogMax := 4
  backlogHead := 0

def desiredBacklog (backlog : Int32) : Int32 :=
  let desired := if backlog < 1 then 1 else backlog
  if 31 < desired then 31 else desired

/-- What `__listen_imp` does to the socket. The head of the backlog stays. -/
def listenImp (serverSocket : Socket) (backlog : Int32) : Socket :=
  { serverSocket with
    backlogMax := (desiredBacklog backlog).toNatClampNeg
    pendingClientEndpoints := fun _ => none
    pendingClientCount := 0
    state := .listening }

theorem desiredBacklog_range (backlog : Int32) :
    0 < (desiredBacklog backlog).toNatClampNeg ∧
      (desiredBacklog backlog).toNatClampNeg ≤ 31 := by
  simp only [desiredBacklog, ← Int32.toNat_toInt]
  by_cases low : backlog < 1
  · simp [low]
  · by_cases high : 31 < backlog
    · simp [low, high]
    · rw [Int32.lt_iff_toInt_lt] at low high
      simp only [Int32.lt_iff_toInt_lt, low, high, if_false]
      have one : (1 : Int32).toInt = 1 := rfl
      have most : (31 : Int32).toInt = 31 := rfl
      omega

/-- `pending_client_endpoints[BacklogTail] = client_socket`, an array of 32. -/
def storePending (socket : Socket) (backlogTail client : Nat) : Except Stop Socket :=
  if backlogTail < 32 then
    .ok { socket with
      pendingClientCount := backlogTail
      pendingClientEndpoints := fun i =>
        if i = backlogTail then some client else socket.pendingClientEndpoints i }
  else
    .error (.fault "pending_client_endpoints")

/-- The enqueue of `__connect_af_gramado` and `__connect_inet_local`. -/
def connectBacklog (serverSocket : Socket) (clientSocket : Nat) : Except Stop Socket :=
  let serverSocket := { serverSocket with state := .connecting }
  let count := serverSocket.pendingClientCount + 1
  let count := if count ≥ serverSocket.backlogMax then 0 else count
  storePending serverSocket count clientSocket

/-- The enqueue of `__remote_client_sent_syn`, with the other limit test. -/
def synBacklog (skListener : Socket) (skClient : Nat) : Except Stop Socket :=
  let count := skListener.pendingClientCount + 1
  let count := if count > skListener.backlogMax then 0 else count
  match storePending skListener count skClient with
  | .error stop => .error stop
  | .ok skListener => .ok { skListener with state := .connecting }

/-- The probe of `__accept_imp`: `left` slots are looked at from `i` on. -/
def probePending (slots : Nat → Option Nat) : Nat → Nat → Except Stop (Option Nat)
  | _, 0 => .ok none
  | i, left + 1 =>
      if i < 32 then
        match slots i with
        | some client => .ok (some client)
        | none => probePending slots (i + 1) left
      else
        .error (.fault "pending_client_endpoints")

/-- The choice of a pending client in `__accept_imp`. Neither the slot of the
    chosen client nor the count is touched, and without a client only the old
    state is put back. -/
def acceptBacklog (listeningSocket : Socket) :
    Except Stop (Option Nat × Socket) :=
  match listeningSocket.state with
  | .listening | .connecting | .connected =>
      let head := listeningSocket.backlogHead + 1
      let head := if head ≥ listeningSocket.backlogMax then 0 else head
      if head ≥ listeningSocket.backlogMax then
        .error (.panic "__accept_imp: Backlog limits\n")
      else
        let rounded := { listeningSocket with backlogHead := head }
        match probePending rounded.pendingClientEndpoints head
            (rounded.backlogMax + 1 - head) with
        | .error stop => .error stop
        | .ok none => .ok (none, rounded)
        | .ok (some client) => .ok (some client, { rounded with state := .connected })
  | _ => .ok (none, listeningSocket)

end Gramado.Net
