/-
What each call does to the list of connections: nothing, one connection changed
in one of three ways, or one connection more. Everything that is said about
connections over whole runs is derived from this.
-/
import Gramado.Lib.Machine
import Gramado.Lib.Slots
import Gramado.Net.Reactions

namespace Gramado.Net.Effects

open Gramado.Ke Gramado.Lib.Fallible Gramado.Lib.Machine Gramado.Lib.Slots
open Gramado.Net.Parse Gramado.Net.Tcp Gramado.Net.Calls Gramado.Net.Reactions

/-- A connection before and after a call that works on it, and the sequence
    numbers that the call puts on the wire for it. -/
inductive Moves (t : Tables) : Call → Nat → Connection → Connection → Nat → Prop where
  | react {env : Env} {seg : Segment} {handler : Handler} {i : Nat} (c : Connection)
      (acts : acting t seg = some (handler, i)) :
      Moves t (.segment env seg) i c (react handler env.wired c seg)
        (spent handler env.wired c seg)
  | send {env : Env} {k : Nat} {buf : List UInt8} {i : Nat} (c : Connection)
      (found : tcpFindConnectionByLocalSocket t k = some i)
      (established : c.status = .established) :
      Moves t (.send env k buf) i c (sentConnection c buf) buf.length
  | close {k : Nat} {i : Nat} (c : Connection)
      (found : t.sockets[k]?.bind Socket.conn = some i) :
      Moves t (.close k) i c { c with status := .closed } 0

/-- A connect gets as far as its SYN: a good address, memory, a free slot and a
    NIC. -/
def reachesPeer (env : Env) (t : Tables) (dstIp : UInt32) (dstPort : UInt16) : Bool :=
  decide (¬(dstIp = 0xFFFFFFFF ∨ dstIp = 0 ∨ dstPort = 0)) && decide (5 < env.heap.left) &&
    decide (t.connectionList.length < maxConnections) && env.wired

def connects (env : Env) (t : Tables) (k : Nat) (dstIp : UInt32) (dstPort : UInt16) : Bool :=
  t.sockets[k]?.map Socket.state == some .unconnected && decide (dstPort ≠ 4040 ∧ dstPort ≠ 4041) &&
    reachesPeer env t dstIp dstPort

/-- A connection that a call appends to the list, with the same number. -/
inductive Creates (t : Tables) : Call → Connection → Nat → Prop where
  | syn {env : Env} {seg : Segment} (mac : Mac) (client server : Option Nat) (sent : UInt32)
      (opening : opens t seg) (room : roomFor env t) :
      Creates t (.segment env seg)
        { synReceivedConnection seg mac with
          clientSocket := client, serverSocket := server, packetsSent := sent }
        (if answered env then 1 else 0)
  | connect {env : Env} {k : Nat} {server : Option Nat} {dstIp : UInt32} {dstPort : UInt16}
      (remote : Nat) (starts : connects env t k dstIp dstPort) :
      Creates t (.connect env k server dstIp dstPort)
        { connectingConnection env.isn k remote with status := .synSent } 1
  | failed {env : Env} {k : Nat} {server : Option Nat} {dstIp : UInt32} {dstPort : UInt16}
      {c : Connection} (closed : c.status = .closed)
      (fails : ¬connects env t k dstIp dstPort) :
      Creates t (.connect env k server dstIp dstPort) c 0

/-- A segment or a close that finds no connection, and opens none. -/
def Idle (t : Tables) : Call → Prop
  | .segment env seg => acting t seg = none ∧ (opens t seg → ¬roomFor env t)
  | .connect env k _ dstIp dstPort => ¬connects env t k dstIp dstPort
  | .close k => t.sockets[k]?.bind Socket.conn = none
  | _ => True

inductive Effect (t : Tables) (call : Call) : List Connection → Nat → Prop where
  | still (idle : Idle t call) : Effect t call t.connectionList 0
  | moved {i : Nat} {c c' : Connection} {n : Nat} (found : t.connectionList[i]? = some c)
      (moves : Moves t call i c c' n) : Effect t call (t.connectionList.set i c') n
  | created {c : Connection} {n : Nat} (creates : Creates t call c n) :
      Effect t call (t.connectionList ++ [c]) n

section Local

variable {env : Env} {t : Tables}

/-- A call that leaves the connections alone and sends nothing. -/
def Quiet (t : Tables) (call : Except Stop (Answer × Tables)) : Prop :=
  Returns call fun out => out.2.connectionList = t.connectionList ∧ out.1.sent = []

theorem quiet_pure {rv : Int} {tables : Tables}
    (same : tables.connectionList = t.connectionList) :
    Quiet t (pure (.just rv, tables)) :=
  returns_pure.mpr ⟨same, rfl⟩

theorem sysSocket_quiet : Quiet t (sysSocket env t) := by
  refine returns_bind.mpr fun _ _ => returns_ite.mpr ⟨fun _ => quiet_pure rfl, fun _ => ?_⟩
  refine returns_bind.mpr fun _ _ => returns_bind.mpr fun _ _ => ?_
  refine returns_ite.mpr ⟨fun _ => quiet_pure rfl, fun _ => ?_⟩
  refine returns_bind.mpr fun _ _ => ?_
  exact returns_ite.mpr ⟨fun _ => quiet_pure rfl, fun _ => quiet_pure rfl⟩

theorem sysBind_quiet (k : Nat) (ip : UInt32) (port : UInt16) :
    Quiet t (sysBind env t k ip port) := by
  refine returns_bind.mpr fun sk _ => returns_ite.mpr ⟨fun _ => quiet_pure rfl, fun _ => ?_⟩
  refine returns_ite.mpr ⟨fun _ => ?_, fun _ => quiet_pure rfl⟩
  exact returns_bind.mpr fun _ _ => quiet_pure rfl

theorem sysListen_quiet (k : Nat) (backlog : Int32) : Quiet t (sysListen t k backlog) :=
  returns_bind.mpr fun _ _ => quiet_pure rfl

theorem sysAccept_quiet (k : Nat) : Quiet t (sysAccept t k) := by
  refine returns_bind.mpr fun sk _ => returns_bind.mpr fun accepted _ => ?_
  rcases accepted with ⟨_ | client, after⟩
  · exact quiet_pure rfl
  · exact returns_bind.mpr fun _ _ => returns_bind.mpr fun _ _ => quiet_pure rfl

theorem connectLocal_quiet (k : Nat) (server : Option Nat) :
    Quiet t (connectLocal t k server) := by
  refine returns_bind.mpr fun sk _ => returns_ite.mpr ⟨fun _ => quiet_pure rfl, fun _ => ?_⟩
  cases server with
  | none => exact quiet_pure rfl
  | some server => exact returns_bind.mpr fun _ _ => returns_bind.mpr fun _ _ => quiet_pure rfl

theorem tcpSocketRecv_quiet (k len : Nat) : Quiet t (tcpSocketRecv t k len) := by
  refine returns_bind.mpr fun sk _ => ?_
  refine returns_ite.mpr ⟨fun _ => quiet_pure rfl, fun _ => ?_⟩
  refine returns_ite.mpr ⟨fun _ => quiet_pure rfl, fun _ => ?_⟩
  cases sk.conn with
  | none => exact quiet_pure rfl
  | some i =>
      refine returns_bind.mpr fun conn _ => returns_ite.mpr ⟨fun _ => quiet_pure rfl, fun _ => ?_⟩
      cases sk.privateFile with
      | none => exact quiet_pure rfl
      | some f =>
          refine returns_bind.mpr fun fp _ => returns_bind.mpr fun read _ => ?_
          exact returns_pure.mpr ⟨rfl, rfl⟩

theorem sysSocketShutdown_quiet (k : Nat) : Quiet t (sysSocketShutdown t k) :=
  returns_bind.mpr fun _ _ => quiet_pure rfl

theorem kFclose_quiet (f : Nat) : Quiet t (kFclose t f) := by
  refine returns_bind.mpr fun _ _ => ?_
  exact returns_ite.mpr ⟨fun _ => quiet_pure rfl, fun _ => quiet_pure rfl⟩

/-- The effect of what a call returns. -/
def Affects (t : Tables) (call : Call) (served : Except Stop (Answer × Tables)) : Prop :=
  Returns served fun out => Effect t call out.2.connectionList (wireLength out.1.sent)

theorem affects_of_quiet {call : Call} {served : Except Stop (Answer × Tables)}
    (idle : Idle t call) (quiet : Quiet t served) : Affects t call served := by
  refine quiet.mono ?_
  rintro out ⟨same, silent⟩
  rw [same, silent]
  exact .still idle

theorem segment_affects (env : Env) (t : Tables) (seg : Segment) :
    Affects t (.segment env seg) (serve t (.segment env seg)) := by
  refine returns_of_bind (segment_effect env t seg) ?_
  intro out effect
  refine returns_pure.mpr ?_
  unfold Reactions.Effect at effect
  cases acts : acting t seg with
  | some found =>
      rcases found with ⟨handler, i⟩
      simp only [acts] at effect
      rcases effect with ⟨c, found, list, length⟩
      rw [list, length]
      exact .moved found (.react c acts)
  | none =>
      simp only [acts] at effect
      by_cases opening : opens t seg
      · simp only [opening, if_true, Opening] at effect
        by_cases room : roomFor env t
        · simp only [room, if_true] at effect
          rcases effect with ⟨mac, client, server, sent, list, length⟩
          rw [list, length]
          exact .created (.syn mac client server sent opening room)
        · simp only [room] at effect
          rw [effect.1, effect.2]
          exact .still ⟨acts, fun _ => room⟩
      · simp only [opening] at effect
        rw [effect.1, effect.2]
        exact .still ⟨acts, fun other => absurd other opening⟩

theorem send_affects (env : Env) (t : Tables) (k : Nat) (buf : List UInt8) :
    Affects t (.send env k buf) (tcpSocketSend env t k buf) := by
  have quiet : ∀ rv, Affects t (.send env k buf) (pure (.just rv, t)) :=
    fun rv => affects_of_quiet trivial (quiet_pure rfl)
  refine returns_bind.mpr fun sk _ => ?_
  refine returns_ite.mpr ⟨fun _ => quiet 0, fun _ => ?_⟩
  refine returns_ite.mpr ⟨fun _ => quiet eafnosupport, fun _ => ?_⟩
  refine returns_ite.mpr ⟨fun _ => quiet enotconn, fun _ => ?_⟩
  cases found : tcpFindConnectionByLocalSocket t k with
  | none => exact quiet enotconn
  | some i =>
      refine returns_bind.mpr (returns_need.mpr fun conn listed => ?_)
      refine returns_ite.mpr ⟨fun _ => quiet enotconn, fun waits => ?_⟩
      have established : conn.status = .established := not_not.mp waits
      refine returns_bind.mpr (returns_need.mpr fun server _ => ?_)
      refine returns_bind.mpr (returns_need.mpr fun client _ => ?_)
      -- Whichever end is the remote one, the data goes out once or not at all.
      split
      refine returns_bind.mpr (returns_sendTcp ?_)
      cases env.wired with
      | false => exact quiet (-1)
      | true =>
          refine returns_pure.mpr ?_
          have flags : has (thAck ||| thPush) thSyn = false ∧
              has (thAck ||| thPush) thFin = false := by decide
          have moves : Moves t (.send env k buf) i conn _ _ := .send conn found established
          simpa [consumed, flags] using Effect.moved listed moves

section Connect

variable {k : Nat} {server : Option Nat} {dstIp : UInt32} {dstPort : UInt16}

/-- Once the connection is registered, every failure leaves it closed. -/
theorem connect_failed {rv : Int} {tables : Tables} {c : Connection}
    (fails : ¬connects env t k dstIp dstPort)
    (list : tables.connectionList = t.connectionList ++ [c]) (closed : c.status = .closed) :
    Affects t (.connect env k server dstIp dstPort) (pure (.just rv, tables)) := by
  refine returns_pure.mpr ?_
  rw [list]
  exact .created (.failed closed fails)

theorem short_of {env : Env} {n : Nat} (small : ¬decide (n < env.heap.left) = true)
    (few : n ≤ 5) : ¬reachesPeer env t dstIp dstPort := by
  have less : ¬5 < env.heap.left := by
    simp only [decide_eq_true_eq] at small
    omega
  simp [reachesPeer, less]

theorem tcpClientConnect_affects {before : Tables}
    (same : before.connectionList = t.connectionList)
    (starts : connects env t k dstIp dstPort = reachesPeer env t dstIp dstPort) :
    Affects t (.connect env k server dstIp dstPort)
      (tcpClientConnect env before k dstIp dstPort) := by
  have quiet : ∀ rv, ¬reachesPeer env t dstIp dstPort →
      Affects t (.connect env k server dstIp dstPort) (pure (.just rv, before)) :=
    fun rv stuck => affects_of_quiet (by rwa [Idle, starts]) (quiet_pure same)
  have failed : ∀ {rv : Int} {tables : Tables} {c : Connection},
      ¬reachesPeer env t dstIp dstPort → tables.connectionList = t.connectionList ++ [c] →
      c.status = .closed →
      Affects t (.connect env k server dstIp dstPort) (pure (.just rv, tables)) :=
    fun stuck list closed => connect_failed (by rwa [starts]) list closed
  refine returns_ite.mpr ⟨fun bad => quiet einval ?_, fun good => ?_⟩
  · have refused : decide (¬(dstIp = 0xFFFFFFFF ∨ dstIp = 0 ∨ dstPort = 0)) = false :=
      decide_eq_false (not_not.mpr bad)
    rw [reachesPeer, refused]
    exact Bool.false_ne_true
  refine returns_of_bind (createConnection_returns env.heap) ?_
  rintro created rfl
  refine returns_ite.mpr ⟨fun short => quiet enomem (short_of short (by decide)), fun _ => ?_⟩
  -- From here on the connection is in the list, so that a failure leaves a closed one.
  cases registered : connectionRegister before blankConnection with
  | none =>
      refine quiet (-1) ?_
      have full : ¬t.connectionList.length < maxConnections := by
        unfold connectionRegister at registered
        rw [← same]
        grind
      simp [reachesPeer, full]
  | some blank =>
      have list : blank.connectionList = t.connectionList ++ [blankConnection] := by
        rw [connectionRegister_some registered, same]
      have slot : t.connectionList.length < maxConnections := by
        unfold connectionRegister at registered
        rw [← same]
        grind
      refine returns_of_bind (kmalloc_returns env.heap 2) ?_
      rintro second rfl
      refine returns_ite.mpr ⟨fun short => failed (short_of short (by decide)) list rfl,
        fun _ => ?_⟩
      refine returns_of_bind (kmalloc_returns env.heap 3) ?_
      rintro third rfl
      refine returns_ite.mpr ⟨fun short => failed (short_of short (by decide)) list rfl,
        fun _ => ?_⟩
      refine returns_bind.mpr fun sk _ => returns_bind.mpr fun port _ => ?_
      refine returns_of_bind (kmalloc_returns env.heap 4) ?_
      rintro fourth rfl
      refine returns_ite.mpr ⟨fun short => failed (short_of short (by decide)) list rfl,
        fun _ => ?_⟩
      refine returns_of_bind (kmalloc_returns env.heap 5) ?_
      rintro fifth rfl
      refine returns_ite.mpr ⟨fun short => failed (short_of short (by decide)) list rfl,
        fun enough => ?_⟩
      have written : ∀ c, (t.connectionList ++ [blankConnection]).set before.connectionList.length
          c = t.connectionList ++ [c] := by
        simp [same]
      refine returns_bind.mpr (returns_sendTcp ?_)
      -- Without a card the SYN is not sent, and the connection stays as it was made.
      cases wired : env.wired with
      | false =>
          refine failed (c := connectingConnection env.isn k blank.sockets.length) ?_ ?_ rfl
          · simp [reachesPeer, wired]
          · simp [list, written, Tables.setSocket]
      | true =>
          refine returns_pure.mpr ?_
          have flags : has thSyn thSyn = true ∧ has thSyn thFin = false := by decide
          have reaches : reachesPeer env t dstIp dstPort := by
            have memory : 5 < env.heap.left := by simpa using enough
            simp only [reachesPeer, memory, slot, wired, decide_eq_true good, decide_true,
              Bool.and_self]
          have creates : Effect t (.connect env k server dstIp dstPort) _ _ :=
            .created (.connect blank.sockets.length (starts.trans reaches))
          simpa [list, written, Tables.setSocket, connectSyn, consumed, flags] using creates

theorem connect_affects :
    Affects t (.connect env k server dstIp dstPort) (connectInet env t k server dstIp dstPort) := by
  refine returns_ite.mpr ⟨fun here => ?_, fun _ => ?_⟩
  · refine affects_of_quiet ?_ (connectLocal_quiet k server)
    rcases here.1 with port | port <;> simp [Idle, connects, port]
  · refine returns_bind.mpr (returns_need.mpr fun sk socket => ?_)
    refine returns_ite.mpr ⟨fun busy => affects_of_quiet ?_ (quiet_pure rfl), fun free => ?_⟩
    · simp [Idle, connects, socket, busy]
    · have unconnected : sk.state = .unconnected := not_not.mp free
      refine returns_ite.mpr ⟨fun remote => ?_, fun _ => returns_error.mpr trivial⟩
      exact tcpClientConnect_affects rfl (by simp [connects, socket, unconnected, remote])

end Connect

theorem close_affects (t : Tables) (k : Nat) :
    Affects t (.close k) (serve t (.close k)) := by
  simp only [Affects, serve, socketClose, returns_bind, returns_need]
  intro sk socket
  cases conn : sk.conn with
  | none => exact returns_pure.mpr (returns_pure.mpr (.still (by simp [Idle, socket, conn])))
  | some i =>
      refine returns_bind.mpr (returns_need.mpr fun c found => ?_)
      refine returns_pure.mpr (returns_pure.mpr ?_)
      have moves : Moves t (.close k) i c _ _ := .close c (by simp [socket, conn])
      have moved := Effect.moved found moves
      by_cases waits : c.status = .closeWait
      · simpa [waits, Answer.just] using moved
      · by_cases established : c.status = .established
        · simpa [established, Answer.just] using moved
        · simpa [waits, established, Answer.just] using moved

theorem serve_affects (t : Tables) (call : Call) : Affects t call (serve t call) := by
  cases call with
  | segment env seg => exact segment_affects env t seg
  | socket env => exact affects_of_quiet trivial sysSocket_quiet
  | bind env k ip port => exact affects_of_quiet trivial (sysBind_quiet k ip port)
  | listen k backlog => exact affects_of_quiet trivial (sysListen_quiet k backlog)
  | accept k => exact affects_of_quiet trivial (sysAccept_quiet k)
  | connect env k server dstIp dstPort => exact connect_affects
  | connectGramado k server => exact affects_of_quiet trivial (connectLocal_quiet k server)
  | send env k buf => exact send_affects env t k buf
  | recv k len => exact affects_of_quiet trivial (tcpSocketRecv_quiet k len)
  | shutdown k => exact affects_of_quiet trivial (sysSocketShutdown_quiet k)
  | close k => exact close_affects t k
  | fclose f => exact affects_of_quiet trivial (kFclose_quiet f)

end Local

section Addresses

structure FourTuple where
  localIp : UInt32
  localPort : UInt16
  remoteIp : UInt32
  remotePort : UInt16
  deriving DecidableEq, Repr

def addressed (seg : Segment) : FourTuple :=
  ⟨seg.dIpv4, seg.dport, seg.sIpv4, seg.sport⟩

/-- The local port that `tcp_client_connect` is about to give. -/
def ephemeralPort (t : Tables) : UInt16 :=
  if lastEphemeralPort < t.newClientPortNumber then
    firstEphemeralPort
  else
    t.newClientPortNumber

/-- The addresses of the SYN, received or sent, that a connection starts with. -/
def synAddresses (t : Tables) : Call → FourTuple
  | .segment _ seg => addressed seg
  | .connect env _ _ dstIp dstPort => ⟨env.yourIpv4, ephemeralPort t, dstIp, dstPort⟩
  | _ => ⟨0, 0, 0, 0⟩

/-- The four-tuples of the connections, in the order of their creation. A
    connection keeps none itself: it has the addresses of its two sockets,
    which later calls may change. -/
def noteAddresses (born : List FourTuple) (t : Tables) (call : Call) (out : Answer × Tables) :
    List FourTuple :=
  if t.connectionList.length < out.2.connectionList.length then
    born ++ [synAddresses t call]
  else
    born

section Wire

variable {env : Env} {t : Tables} {k : Nat} {server : Option Nat} {dstIp : UInt32}
  {dstPort : UInt16}

/-- Nothing on the wire, or the SYN with the addresses of the call. -/
def SynOnly (env : Env) (port : UInt16) (dstIp : UInt32) (dstPort : UInt16)
    (out : Answer × Tables) : Prop :=
  out.1.sent = [] ∨ out.1.sent = [connectSyn env port dstIp dstPort]

theorem nextEphemeralPort_returns :
    Returns (nextEphemeralPort t) fun port => port = ephemeralPort t := by
  unfold nextEphemeralPort ephemeralPort
  refine returns_ite.mpr ⟨fun _ => returns_error.mpr trivial, fun _ => ?_⟩
  split <;> exact returns_ok.mpr rfl

theorem tcpClientConnect_syn :
    Returns (tcpClientConnect env t k dstIp dstPort)
      (SynOnly env (ephemeralPort t) dstIp dstPort) := by
  have silent : ∀ rv tables, Returns (pure (.just rv, tables) : Except Stop (Answer × Tables))
      (SynOnly env (ephemeralPort t) dstIp dstPort) :=
    fun rv tables => returns_pure.mpr (Or.inl rfl)
  refine returns_ite.mpr ⟨fun _ => silent _ _, fun _ => ?_⟩
  refine returns_bind.mpr fun _ _ => returns_ite.mpr ⟨fun _ => silent _ _, fun _ => ?_⟩
  cases registered : connectionRegister t blankConnection with
  | none => exact silent _ _
  | some blank =>
      have counter : ephemeralPort blank = ephemeralPort t := by
        rw [connectionRegister_some registered]
        rfl
      refine returns_bind.mpr fun _ _ => returns_ite.mpr ⟨fun _ => silent _ _, fun _ => ?_⟩
      refine returns_bind.mpr fun _ _ => returns_ite.mpr ⟨fun _ => silent _ _, fun _ => ?_⟩
      refine returns_bind.mpr fun sk _ => ?_
      refine returns_of_bind nextEphemeralPort_returns ?_
      rintro port rfl
      refine returns_bind.mpr fun _ _ => returns_ite.mpr ⟨fun _ => silent _ _, fun _ => ?_⟩
      refine returns_bind.mpr fun _ _ => returns_ite.mpr ⟨fun _ => silent _ _, fun _ => ?_⟩
      refine returns_bind.mpr (returns_sendTcp ?_)
      rw [counter]
      cases env.wired with
      | false => exact silent _ _
      | true => exact returns_pure.mpr (Or.inr rfl)

/-- The SYN that a connect sends has the addresses that are noted for it. -/
theorem connectInet_syn :
    Returns (connectInet env t k server dstIp dstPort)
      (SynOnly env (ephemeralPort t) dstIp dstPort) := by
  refine returns_ite.mpr ⟨fun _ => ?_, fun _ => ?_⟩
  · exact (connectLocal_quiet k server).mono fun out quiet => Or.inl quiet.2
  · refine returns_bind.mpr fun sk _ => ?_
    refine returns_ite.mpr ⟨fun _ => returns_pure.mpr (Or.inl rfl), fun _ => ?_⟩
    exact returns_ite.mpr ⟨fun _ => tcpClientConnect_syn, fun _ => returns_error.mpr trivial⟩

end Wire

end Addresses

end Gramado.Net.Effects
