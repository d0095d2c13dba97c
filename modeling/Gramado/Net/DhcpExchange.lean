/-
The DHCP exchange over whole runs: datagrams from anyone and discover calls, in
any order. What was transmitted is read off the wire into a history; the saved
lease is meant to follow an acknowledgement of the last request, and it follows
any datagram that has the right byte at one place.
-/
import Gramado.Lib.Fallible
import Gramado.Lib.Machine
import Gramado.Net.Dhcp

namespace Gramado.Net.Dhcp

open Gramado.Ke Gramado.Lib.BigEndian
open Gramado.Lib.Fallible
open Gramado.Lib.Machine

/-- A datagram on the client's port with the memory behind it, or a local call;
    both at some tick. -/
inductive Request where
  | datagram (payload behind : List UInt8) (jiffies : UInt32)
  | discover (stack : List UInt8) (jiffies : Fin 5 → UInt32)

/-- The output is what was transmitted. -/
def serve (client : DhcpClient) : Request → Except Stop (List UdpSend × DhcpClient)
  | .datagram payload behind jiffies => networkHandleDhcp client (payload ++ behind) jiffies
  | .discover stack jiffies => networkInitializeDhcp client stack jiffies

/-- The transaction number of the last message that was transmitted, and
    whether a REQUEST ever was. -/
structure Exchange where
  lastXid : Option UInt32
  requested : Bool
  deriving DecidableEq, Repr

def Exchange.none : Exchange := ⟨Option.none, false⟩

def Exchange.sent (exchange : Exchange) (send : UdpSend) : Exchange :=
  ⟨some (word32 send.data 4), exchange.requested || byteAt send.data 242 == DORA_R⟩

def note (exchange : Exchange) (_ : DhcpClient) (_ : Request)
    (out : List UdpSend × DhcpClient) : Exchange :=
  out.1.foldl Exchange.sent exchange

/-- The value of an option in the options of a message: code, length, value,
    where code 0 is padding and code 255 the end. -/
def findOption (code : UInt8) : Nat → List UInt8 → Option (List UInt8)
  | 0, _ => .none
  | _ + 1, [] => .none
  | _ + 1, [_] => .none
  | fuel + 1, first :: length :: rest =>
      if first = 0 then
        findOption code fuel (length :: rest)
      else if first = 255 then
        .none
      else if first = code then
        some (rest.take length.toNat)
      else
        findOption code fuel (rest.drop length.toNat)

/-- The datagram is a BOOTP reply of message type ACK. -/
def IsAck (payload : List UInt8) : Prop :=
  byteAt payload 0 = 2 ∧ word32 payload 236 = dhcpMagicCookie ∧
    findOption 53 payload.length (payload.drop 240) = some [DORA_A]

/-- The acknowledgement that the client waits for: of its last message, after a
    REQUEST was sent. -/
def Expected (exchange : Exchange) (payload : List UInt8) : Prop :=
  IsAck payload ∧ exchange.lastXid = some (word32 payload 4) ∧ exchange.requested = true

/-- The saved addresses, the initialized flag and the online state. -/
def lease (client : DhcpClient) : UInt32 × UInt32 × UInt32 × Bool × Bool :=
  (client.info.yourIpv4, client.info.serverIpv4, client.info.yourIpv4Int,
    client.info.initialized, client.isOnline)

/-- What is asked of a call: the lease stays, or the acknowledgement is here. -/
def Safe (exchange : Exchange) (client : DhcpClient) (request : Request)
    (out : List UdpSend × DhcpClient) : Prop :=
  lease out.2 = lease client ∨
    ∃ payload behind jiffies, request = .datagram payload behind jiffies ∧
      Expected exchange payload

/-- The lease that a message would save. -/
def offered (buffer : List UInt8) : UInt32 × UInt32 × UInt32 × Bool × Bool :=
  (yiaddr buffer, siaddr buffer, yiaddr buffer, true, true)

/-- The condition under which a call does what is asked. -/
def Harmless (exchange : Exchange) (client : DhcpClient) : Request → Prop
  | .datagram payload behind _ =>
      option2 (payload ++ behind) = DORA_A →
        Expected exchange payload ∨ lease client = offered (payload ++ behind)
  | .discover _ _ => client.info.initialized = false

section Calls

variable {client : DhcpClient}

@[simp] theorem lease_saveXid (xid : UInt32) : lease (client.saveXid xid) = lease client := rfl

@[simp] theorem lease_saveMac (mac : Mac) : lease (client.saveMac mac) = lease client := rfl

@[simp] theorem lease_setStep (step : Nat) : lease (client.setStep step) = lease client := rfl

/-- A send writes the transaction number, the step and the address of the NIC. -/
theorem networkDhcpSend_lease (buffer : List UInt8) (messageType : UInt8)
    (sourceIp targetIp : UInt32) (sport dport : UInt16) (jiffies : UInt32) :
    Returns (networkDhcpSend client buffer messageType sourceIp targetIp sport dport jiffies)
      fun out => lease out.2.2 = lease client := by
  unfold networkDhcpSend
  split
  · exact returns_ok.mpr (lease_saveXid _)
  · split
    · exact returns_ok.mpr (by rw [lease_saveMac, lease_saveXid])
    · rw [returns_bind]
      intro _ _
      exact returns_pure.mpr (by rw [lease_setStep, lease_saveMac, lease_saveXid])

theorem sendDiscovers_lease (buffer : List UInt8) (ticks : List UInt32) :
    Returns (sendDiscovers client buffer ticks) fun out => lease out.2 = lease client := by
  induction ticks generalizing client buffer with
  | nil => exact returns_ok.mpr rfl
  | cons jiffies rest ih =>
      refine returns_of_bind (networkDhcpSend_lease buffer DORA_D 0 0xFFFFFFFF 68 67 jiffies) ?_
      rintro ⟨sent, buffer', client'⟩ here
      refine returns_of_bind (ih buffer') ?_
      rintro ⟨later, client''⟩ there
      exact returns_pure.mpr (there.trans here)

theorem discover_lease (stack : List UInt8) (jiffies : Fin 5 → UInt32) :
    Returns (networkInitializeDhcp client stack jiffies) fun out =>
      lease out.2 = (client.info.yourIpv4, client.info.serverIpv4, client.info.yourIpv4Int,
        false, client.isOnline) := by
  intro out called
  unfold networkInitializeDhcp at called
  dsimp only at called
  split at called
  · cases called
    rfl
  · split at called
    · cases called
      rfl
    · split at called
      · cases called
        rfl
      · split at called
        · cases called
          rfl
        · exact sendDiscovers_lease _ _ _ called

@[simp] theorem lease_saveLease (buffer : List UInt8) :
    lease (client.saveLease (yiaddr buffer) (siaddr buffer)) = offered buffer := rfl

theorem handle_lease (buffer : List UInt8) (jiffies : UInt32) :
    Returns (networkHandleDhcp client buffer jiffies) fun out =>
      lease out.2 = if option2 buffer = DORA_A then offered buffer else lease client := by
  unfold networkHandleDhcp
  by_cases offer : option2 buffer = DORA_O
  · have other : option2 buffer ≠ DORA_A := by
      rw [offer]
      decide
    rw [if_pos offer]
    refine returns_of_bind (networkDhcpSend_lease buffer DORA_R _ _ 68 67 jiffies) ?_
    rintro ⟨sent, buffer', client'⟩ here
    rw [if_neg other]
    exact returns_pure.mpr (here.trans (lease_setStep 2))
  · rw [if_neg offer]
    by_cases ack : option2 buffer = DORA_A
    · rw [if_pos ack, if_pos ack]
      exact returns_ok.mpr (lease_saveLease buffer)
    · rw [if_neg ack, if_neg ack]
      exact returns_ok.mpr rfl

theorem safe_iff {exchange : Exchange} {request : Request} {out : List UdpSend × DhcpClient}
    (served : serve client request = .ok out) :
    Safe exchange client request out ↔ Harmless exchange client request := by
  cases request with
  | datagram payload behind jiffies =>
      have after := handle_lease _ _ _ served
      have expected : (∃ p b j, Request.datagram payload behind jiffies = .datagram p b j ∧
          Expected exchange p) ↔ Expected exchange payload := by
        constructor
        · rintro ⟨p, b, j, same, expects⟩
          cases same
          exact expects
        · intro expects
          exact ⟨payload, behind, jiffies, rfl, expects⟩
      unfold Safe Harmless
      rw [after, expected]
      by_cases ack : option2 (payload ++ behind) = DORA_A
      · rw [if_pos ack]
        constructor
        · rintro (same | expects) _
          · exact Or.inr same.symm
          · exact Or.inl expects
        · intro harmless
          rcases harmless ack with expects | same
          · exact Or.inr expects
          · exact Or.inl same.symm
      · rw [if_neg ack]
        exact iff_of_true (Or.inl rfl) fun hit => absurd hit ack
  | discover stack jiffies =>
      have after := discover_lease _ _ _ served
      unfold Safe Harmless
      rw [after]
      constructor
      · rintro (same | ⟨p, b, j, other, -⟩)
        · simp only [lease, Prod.mk.injEq, true_and, and_true] at same
          exact same.symm
        · cases other
      · intro fresh
        left
        rw [lease, fresh]

end Calls

/-- In every run of datagrams and discover calls, from any state of the client,
    the lease changes only on the acknowledgement that the client waits for if
    and only if each call of the run is harmless. -/
theorem lease_safe_iff (client : DhcpClient) (requests : List Request) :
    Along (observe note serve)
        (fun seen request out => Safe seen.1 seen.2 request (out.1, out.2.2))
        (Exchange.none, client) requests ↔
      Along (observe note serve) (fun seen request _ => Harmless seen.1 seen.2 request)
        (Exchange.none, client) requests := by
  have exact : ∀ (seen : Exchange × DhcpClient) request out, True →
      observe note serve seen request = .ok out →
      (Safe seen.1 seen.2 request (out.1, out.2.2) ↔ Harmless seen.1 seen.2 request) :=
    fun _ _ _ _ served => safe_iff (observe_ok served).1
  exact along_iff exact (fun _ _ _ _ _ _ => trivial) requests trivial

/-- A client that has done nothing yet. -/
def freshClient : DhcpClient where
  info := ⟨false, 0, 0, ⟨0, 0, 0, 0, 0, 0⟩, 0, 0, 0⟩
  isOnline := false
  networkStatus := true
  currentNIC := some ⟨1234, true, ⟨2, 0, 0, 0, 0, 1⟩⟩
  nodename := [103, 114, 97, 109, 97, 100, 111]

/-- Zero bytes with a 5 behind them, before anything was sent: the client takes
    the address 0.0.0.0 and is online. -/
theorem forged_ack_is_saved :
    ∃ out, serve freshClient (.datagram (List.replicate 242 0 ++ [5]) [] 0) = .ok out ∧
      ¬Safe Exchange.none freshClient (.datagram (List.replicate 242 0 ++ [5]) [] 0) out := by
  refine ⟨_, rfl, ?_⟩
  rintro (same | ⟨payload, behind, jiffies, -, -, -, requested⟩)
  · exact absurd same (by decide)
  · cases requested

end Gramado.Net.Dhcp
