/-
What a segment does to a connection, apart from sockets, files and stops: a
function of the connection, the segment and whether there is a NIC. The blocks
of tcp.c refine it, and the facts about statuses and sequence numbers are facts
about it.
-/
import Gramado.Net.Calls

namespace Gramado.Net.Reactions

open Gramado.Ke Gramado.Lib.Fallible
open Gramado.Net.Parse Gramado.Net.Tcp Gramado.Net.Calls

/-- The sequence numbers that a segment takes up on the wire. -/
def consumed (s : TcpSend) : Nat :=
  s.data.length + (if has s.flags thSyn then 1 else 0) + (if has s.flags thFin then 1 else 0)

def wireLength (sent : List TcpSend) : Nat :=
  (sent.map consumed).sum

@[simp] theorem wireLength_nil : wireLength [] = 0 := rfl

@[simp] theorem wireLength_singleton (s : TcpSend) : wireLength [s] = consumed s := by
  simp [wireLength]

/-- The blocks that work on a connection they have looked up. -/
inductive Handler where
  | synSentKd
  | kdServer
  | localServers
  | nonLocalServers
  deriving DecidableEq, Repr

def advanced (c : Connection) (seg : Segment) : Connection :=
  if seg.seq = c.rcvNxt then behind c seg else c

def replied (answers : Bool) (c : Connection) : Connection :=
  if answers then { c with packetsSent := c.packetsSent + 1 } else c

/-- ESTABLISHED in the two handlers. One never answers and takes a FIN in all
    the same, the other takes it in only if it could answer. -/
def reactEstablished (answers closes : Bool) (c : Connection) (seg : Segment) : Connection :=
  if seg.rst then
    { c with status := .closed }
  else if seg.syn then
    c
  else if ¬seg.isAck then
    c
  else
    let c := replied answers (advanced (acknowledged c seg) seg)
    if seg.fin then
      if closes then { c with status := .closeWait } else c
    else
      c

def reactSynSent (c : Connection) (seg : Segment) : Connection :=
  if seg.rst then
    { c with status := .closed }
  else if ¬seg.syn ∨ ¬seg.isAck then
    c
  else if seg.fin then
    c
  else
    { c with
      packetsSent := c.packetsSent + 1
      sndUna := c.iss + 1
      sndNxt := c.iss + 1
      irs := seg.seq
      rcvNxt := seg.seq + 1
      status := .established }

def reactSynSentKd (c : Connection) (seg : Segment) : Connection :=
  if ¬seg.syn ∨ ¬seg.isAck then
    c
  else
    { c with
      packetsSent := c.packetsSent + 1
      sndUna := seg.ack
      sndNxt := seg.ack
      rcvNxt := seg.seq + 1
      status := .established }

def reactSynReceivedKd (c : Connection) (seg : Segment) : Connection :=
  let c := { c with rcvNxt := seg.seq + seg.dataLen }
  if seg.ack = c.sndNxt then
    { c with
      sndUna := seg.ack
      packetsReceived := c.packetsReceived + 1
      status := .established }
  else
    c

def reactHttp (wired : Bool) (c : Connection) (seg : Segment) : Connection :=
  let c := requested c seg
  match Gramnet.Http.httpResponse seg.payload c.sndWnd.toUInt16 with
  | none => c
  | some resp =>
      if wired then
        { c with
          sndNxt := c.sndNxt + (UInt32.ofNat resp.length + 1)
          packetsSent := c.packetsSent + 1
          status := .finWait1 }
      else
        c

def reactFinWait1Kd (wired : Bool) (c : Connection) (seg : Segment) : Connection :=
  if seg.fin then
    let c := { c with rcvNxt := c.rcvNxt + 1, packetsReceived := c.packetsReceived + 1 }
    if wired then { c with packetsSent := c.packetsSent + 1, status := .closed } else c
  else if seg.payload.length > 0 then
    counted c seg
  else
    c

def reactKd (wired : Bool) (c : Connection) (seg : Segment) : Connection :=
  if c.status = .synReceived ∧ ¬seg.syn ∧ seg.isAck then
    reactSynReceivedKd c seg
  else if seg.rst then
    c
  else
    match c.status with
    | .established => reactHttp wired c seg
    | .finWait1 => reactFinWait1Kd wired c seg
    | _ => c

def react (handler : Handler) (wired : Bool) (c : Connection) (seg : Segment) : Connection :=
  match handler with
  | .synSentKd => reactSynSentKd c seg
  | .kdServer => reactKd wired c seg
  | .localServers =>
      match c.status with
      | .synReceived => onSynReceived c seg
      | .established => reactEstablished false true c seg
      | _ => c
  | .nonLocalServers =>
      match c.status with
      | .synSent => reactSynSent c seg
      | .established => reactEstablished wired wired c seg
      | .synReceived => onSynReceived c seg
      | _ => c

def spentHttp (wired : Bool) (c : Connection) (seg : Segment) : Nat :=
  match Gramnet.Http.httpResponse seg.payload c.sndWnd.toUInt16 with
  | none => 0
  | some resp => if wired then resp.length + 1 else 0

def spentFinWait1Kd (wired : Bool) (seg : Segment) : Nat :=
  if seg.fin then if wired then 1 else 0 else 0

/-- The sequence numbers that the reaction puts on the wire. -/
def spent (handler : Handler) (wired : Bool) (c : Connection) (seg : Segment) : Nat :=
  if handler = .kdServer ∧ ¬seg.rst then
    match c.status with
    | .established => spentHttp wired c seg
    | .finWait1 => spentFinWait1Kd wired seg
    | _ => 0
  else
    0

section Statuses

variable {handler : Handler} {wired : Bool} {c : Connection} {seg : Segment}

/-- What a reaction can make of a status. -/
inductive Turns (handler : Handler) (wired : Bool) (seg : Segment) : Status → Status → Prop where
  | stays (s : Status) : Turns handler wired seg s s
  | reset (s : Status) (rst : seg.rst) : Turns handler wired seg s .closed
  | synAcked : Turns handler wired seg .synSent .established
  | acked : Turns handler wired seg .synReceived .established
  | fin : Turns handler wired seg .established .closeWait
  | page : Turns handler wired seg .established .finWait1
  | dropped (kd : handler = .kdServer) (sent : wired) (fin : seg.fin) (rst : ¬seg.rst) :
      Turns handler wired seg .finWait1 .closed

theorem onSynReceived_turns (waits : c.status = .synReceived) :
    Turns handler wired seg c.status (onSynReceived c seg).status := by
  unfold onSynReceived
  split
  · rename_i rst
    exact .reset _ rst
  · split
    · exact .stays _
    · split
      · simp only
        split
        · exact .stays _
        · rw [waits]
          exact .acked
      · exact .stays _

theorem advanced_status : (advanced c seg).status = c.status := by
  unfold advanced behind
  split <;> rfl

theorem replied_status {answers : Bool} : (replied answers c).status = c.status := by
  cases answers <;> rfl

theorem reactEstablished_turns (answers closes : Bool) (established : c.status = .established) :
    Turns handler wired seg c.status (reactEstablished answers closes c seg).status := by
  unfold reactEstablished
  split
  · rename_i rst
    exact .reset _ rst
  · split
    · exact .stays _
    · split
      · exact .stays _
      · have same : (replied answers (advanced (acknowledged c seg) seg)).status = c.status :=
          replied_status.trans advanced_status
        by_cases fin : seg.fin ∧ closes
        · simp only [fin, if_true, established]
          exact .fin
        · have stays : (if seg.fin then
              if closes then
                { replied answers (advanced (acknowledged c seg) seg) with status := .closeWait }
              else replied answers (advanced (acknowledged c seg) seg)
            else replied answers (advanced (acknowledged c seg) seg)).status = c.status := by
            grind
          rw [stays]
          exact .stays _

theorem reactSynSent_turns (waits : c.status = .synSent) :
    Turns handler wired seg c.status (reactSynSent c seg).status := by
  unfold reactSynSent
  split
  · rename_i rst
    exact .reset _ rst
  · split
    · exact .stays _
    · split
      · exact .stays _
      · rw [waits]
        exact .synAcked

theorem reactSynSentKd_turns (waits : c.status = .synSent) :
    Turns handler wired seg c.status (reactSynSentKd c seg).status := by
  unfold reactSynSentKd
  split
  · exact .stays _
  · rw [waits]
    exact .synAcked

theorem reactHttp_turns (established : c.status = .established) :
    Turns handler wired seg c.status (reactHttp wired c seg).status := by
  unfold reactHttp
  simp only
  split
  · exact .stays _
  · split
    · rw [established]
      exact .page
    · exact .stays _

theorem reactFinWait1Kd_turns (waits : c.status = .finWait1) (kd : handler = .kdServer)
    (rst : ¬seg.rst) : Turns handler wired seg c.status (reactFinWait1Kd wired c seg).status := by
  unfold reactFinWait1Kd
  split
  · rename_i fin
    simp only
    split
    · rename_i sent
      rw [waits]
      exact .dropped kd sent fin rst
    · exact .stays _
  · split <;> exact .stays _

theorem react_turns (peer : handler = .synSentKd → c.status = .synSent) :
    Turns handler wired seg c.status (react handler wired c seg).status := by
  cases handler with
  | synSentKd => exact reactSynSentKd_turns (peer rfl)
  | kdServer =>
      unfold react reactKd
      simp only
      split
      · rename_i waits
        unfold reactSynReceivedKd
        simp only
        split
        · rw [waits.1]
          exact .acked
        · exact .stays _
      · split
        · exact .stays _
        · rename_i rst
          split
          · rename_i established
            exact reactHttp_turns established
          · rename_i waits
            exact reactFinWait1Kd_turns waits rfl rst
          · exact .stays _
  | localServers =>
      unfold react
      simp only
      split
      · rename_i waits
        exact onSynReceived_turns waits
      · rename_i established
        exact reactEstablished_turns false true established
      · exact .stays _
  | nonLocalServers =>
      unfold react
      simp only
      split
      · rename_i waits
        exact reactSynSent_turns waits
      · rename_i established
        exact reactEstablished_turns wired wired established
      · rename_i waits
        exact onSynReceived_turns waits
      · exact .stays _

theorem react_closed (closed : c.status = .closed)
    (peer : handler = .synSentKd → c.status = .synSent) : react handler wired c seg = c := by
  cases handler with
  | synSentKd => exact absurd (closed.symm.trans (peer rfl)) (by decide)
  | kdServer => simp [react, reactKd, closed]
  | localServers => simp [react, closed]
  | nonLocalServers => simp [react, closed]

end Statuses

section Blocks

variable {env : Env} {t : Tables} {c : Connection} {seg : Segment}

/-- A block leaves the reaction in the connection, and the other connections
    alone. -/
def Follows (block : Except Stop Handled) (t : Tables) (after : Connection) (spent : Nat) : Prop :=
  Returns block fun handled =>
    handled.conn = after ∧ handled.tables.connectionList = t.connectionList ∧
      wireLength handled.sent = spent

theorem sendTcp_returns (s : TcpSend) :
    Returns (sendTcp env s) fun sent => sent = if env.wired then [s] else [] := by
  intro sent ok
  unfold sendTcp networkSendTcp transmit at ok
  unfold Env.wired
  cases nic : env.currentNIC with
  | none =>
      simp only [nic, Except.map, Option.isSome_none] at ok
      cases ok
      rfl
  | some mac =>
      simp only [nic] at ok
      split at ok
      · cases ok
        rfl
      · cases ok

@[simp] theorem returns_sendTcp {s : TcpSend} {post : List TcpSend → Prop}
    (holds : post (if env.wired then [s] else [])) : Returns (sendTcp env s) post :=
  (sendTcp_returns s).mono fun _ sent => sent ▸ holds

/-- A step that works on sockets and files only. -/
def Keeps (t : Tables) (step : Except Stop Tables) : Prop :=
  Returns step fun after => after.connectionList = t.connectionList

theorem clientFile_keeps (c : Connection) (state : SocketState) :
    Keeps t (clientFile t c state) := by
  simp only [Keeps, clientFile, returns_bind, returns_need, returns_pure,
    Tables.connectionList_setState]
  exact fun _ _ _ _ _ _ => trivial

theorem receivePayload_keeps (k : Nat) (sk : Socket) (seg : Segment) :
    Keeps t (receivePayload t k sk seg) := by
  simp only [Keeps, receivePayload, returns_bind, returns_pure]
  intro found _ stored _
  split <;> rfl

theorem tcpChangeSocketBuffer_keeps (env : Env) (sk : Socket) (size : Nat) :
    Keeps t (tcpChangeSocketBuffer env t sk size) := by
  unfold tcpChangeSocketBuffer
  cases sk.privateFile with
  | none => exact returns_pure.mpr rfl
  | some f =>
      simp only [Keeps, returns_bind, returns_need, returns_ite, returns_pure,
        Tables.connectionList_setFile]
      exact fun _ _ => ⟨fun _ => trivial, fun _ _ _ => ⟨fun _ => trivial, fun _ => trivial⟩⟩

theorem connectClient_keeps (env : Env) (c : Connection) : Keeps t (connectClient env t c) := by
  unfold connectClient
  split
  · rename_i client server _ _
    refine returns_bind.mpr fun sk _ => returns_bind.mpr fun _ _ => ?_
    have keeps : Keeps (connectSockets t client server) _ :=
      tcpChangeSocketBuffer_keeps env sk (5 * 1024)
    exact keeps
  · exact returns_pure.mpr rfl

theorem follows_pure {after : Connection} : Follows (pure ⟨[], after, t⟩) t after 0 :=
  returns_pure.mpr ⟨rfl, rfl, rfl⟩

theorem follows_ite {p : Prop} [Decidable p] {yes no : Except Stop Handled}
    {after other : Connection} {n : Nat} (first : p → Follows yes t after n)
    (second : ¬p → Follows no t other n) :
    Follows (if p then yes else no) t (if p then after else other) n := by
  by_cases holds : p
  · simpa [holds] using first holds
  · simpa [holds] using second holds

theorem follows_send {s : TcpSend} {next : List TcpSend → Except Stop Handled}
    {after : Connection} {n : Nat} (unsent : env.wired = false → Follows (next []) t after n)
    (sent : env.wired = true → Follows (next [s]) t after n) :
    Follows (sendTcp env s >>= next) t after n := by
  refine returns_bind.mpr (returns_sendTcp ?_)
  cases wired : env.wired with
  | false => exact unsent wired
  | true => exact sent wired

theorem follows_tables {tables : Tables} {step : Except Stop Tables} {sent : List TcpSend}
    {after : Connection} {n : Nat} (keeps : Keeps tables step)
    (same : tables.connectionList = t.connectionList) (length : wireLength sent = n) :
    Follows (do let t ← step; pure ⟨sent, after, t⟩) t after n :=
  returns_of_bind keeps fun _ kept => returns_pure.mpr ⟨rfl, kept.trans same, length⟩

theorem quiet_answer {flags : UInt16} (quiet : has flags thSyn = false ∧ has flags thFin = false)
    (env : Env) (seg : Segment) (seq ack : UInt32) :
    wireLength [answer env seg seq ack flags] = 0 := by
  simp [consumed, answer, quiet]

theorem quiet_ack (env : Env) (seg : Segment) (seq ack : UInt32) :
    wireLength [answer env seg seq ack thAck] = 0 :=
  quiet_answer (by decide) env seg seq ack

theorem onClosed_follows : Follows (onClosed env t c seg) t c 0 := by
  have quiet : has (thRst ||| thAck) thSyn = false ∧ has (thRst ||| thAck) thFin = false := by
    decide
  unfold onClosed
  split
  · exact follows_pure
  · split
    · exact follows_pure
    · refine follows_send (fun _ => follows_pure) fun _ => ?_
      exact follows_tables (clientFile_keeps c .unconnected) rfl
        (quiet_answer quiet env seg _ _)

theorem inOrderLocalServers_returns :
    Returns (inOrderLocalServers t c seg) fun out =>
      out.1 = advanced c seg ∧ out.2.connectionList = t.connectionList := by
  unfold inOrderLocalServers advanced
  simp only [returns_ite, returns_error, returns_bind, returns_need, returns_pure]
  refine ⟨fun order => ⟨fun _ => trivial, fun _ k _ sk _ => ?_⟩, fun gap => ?_⟩
  · rw [if_pos order]
    exact (receivePayload_keeps k sk seg).mono fun _ kept => ⟨rfl, kept⟩
  · rw [if_neg gap]
    exact ⟨rfl, trivial⟩

theorem inOrderNonLocalServers_returns :
    Returns (inOrderNonLocalServers t c seg) fun out =>
      out.1 = advanced c seg ∧ out.2.connectionList = t.connectionList := by
  unfold inOrderNonLocalServers advanced
  simp only [returns_ite, returns_bind, returns_need, returns_pure]
  refine ⟨fun order k _ sk _ => ?_, fun gap => ?_⟩
  · rw [if_pos order]
    exact (receivePayload_keeps k sk seg).mono fun _ kept => ⟨rfl, kept⟩
  · rw [if_neg gap]
    exact ⟨rfl, trivial⟩

theorem establishedLocalServers_follows :
    Follows (establishedLocalServers t c seg) t (reactEstablished false true c seg) 0 := by
  refine follows_ite (fun _ => follows_pure) fun _ => ?_
  refine follows_ite (fun _ => follows_pure) fun _ => ?_
  refine follows_ite (fun _ => follows_pure) fun _ => ?_
  refine returns_of_bind inOrderLocalServers_returns ?_
  rintro ⟨c', t'⟩ ⟨rfl, kept⟩
  exact follows_ite (fun _ => follows_tables (clientFile_keeps _ .connected) kept rfl)
    fun _ => returns_pure.mpr ⟨rfl, kept, rfl⟩

theorem establishedNonLocalServers_follows :
    Follows (establishedNonLocalServers env t c seg) t
      (reactEstablished env.wired env.wired c seg) 0 := by
  refine follows_ite (fun _ => follows_pure) fun _ => ?_
  refine follows_ite (fun _ => follows_pure) fun _ => ?_
  refine follows_ite (fun _ => follows_pure) fun _ => ?_
  refine returns_of_bind inOrderNonLocalServers_returns ?_
  rintro ⟨c', t'⟩ ⟨rfl, kept⟩
  refine follows_send (fun unsent => ?_) fun sent => ?_
  · refine returns_pure.mpr ⟨?_, kept, rfl⟩
    simp [unsent, replied]
  · rw [if_neg (List.cons_ne_nil _ _), sent]
    exact follows_ite
      (fun _ => follows_tables (clientFile_keeps _ .connected) kept (quiet_ack env seg _ _))
      fun _ => returns_pure.mpr ⟨rfl, kept, quiet_ack env seg _ _⟩

theorem synSentNonLocalServers_follows :
    Follows (synSentNonLocalServers env t c seg) t (reactSynSent c seg) 0 := by
  refine follows_ite (fun _ => follows_pure) fun _ => ?_
  refine follows_ite (fun _ => follows_pure) fun _ => ?_
  refine follows_ite (fun _ => follows_pure) fun _ => ?_
  -- The acknowledgement is sent or not; the connection does not depend on it.
  exact follows_send (fun _ => follows_tables (connectClient_keeps env _) rfl rfl)
    fun _ => follows_tables (connectClient_keeps env _) rfl (quiet_ack env seg _ _)

theorem synSentKd_follows : Follows (synSentKd env t c seg) t (reactSynSentKd c seg) 0 := by
  refine follows_ite (fun _ => follows_pure) fun _ => ?_
  refine follows_send (fun _ => returns_pure.mpr ⟨rfl, ?_, rfl⟩)
    fun _ => returns_pure.mpr ⟨rfl, ?_, quiet_ack env seg _ _⟩
  all_goals split <;> rfl

theorem gramnetHandleHttp_follows :
    Follows (gramnetHandleHttp env t (requested c seg) seg) t (reactHttp env.wired c seg)
      (spentHttp env.wired c seg) := by
  unfold gramnetHandleHttp reactHttp spentHttp
  simp only [requested, counted]
  cases Gramnet.Http.httpResponse seg.payload c.sndWnd.toUInt16 with
  | none => exact follows_pure
  | some resp =>
      refine follows_send (fun unsent => ?_) fun sent => ?_
      · simpa [unsent] using follows_pure
      · have flags : has (thAck ||| thPush ||| thFin) thSyn = false ∧
            has (thAck ||| thPush ||| thFin) thFin = true := by decide
        refine returns_pure.mpr ⟨?_, rfl, ?_⟩
        · simp [sent]
        · simp [sent, consumed, answer, flags]

theorem finWait1Kd_follows :
    Follows (finWait1Kd env t c seg) t (reactFinWait1Kd env.wired c seg)
      (spentFinWait1Kd env.wired seg) := by
  unfold finWait1Kd reactFinWait1Kd spentFinWait1Kd
  by_cases fin : seg.fin
  · simp only [fin, if_true]
    refine follows_send (fun unsent => ?_) fun sent => ?_
    · simpa [unsent] using follows_pure
    · have flags : has (thAck ||| thFin) thSyn = false ∧ has (thAck ||| thFin) thFin = true := by
        decide
      refine returns_pure.mpr ⟨?_, rfl, ?_⟩
      · simp [sent]
      · simp [sent, consumed, answer, flags]
  · simp only [fin, Bool.false_eq_true, if_false]
    exact follows_ite (fun _ => follows_pure) fun _ => follows_pure

theorem kdServer_follows :
    Follows (kdServer env t c seg) t (react .kdServer env.wired c seg)
      (spent .kdServer env.wired c seg) := by
  unfold kdServer react reactKd spent
  by_cases waits : c.status = .synReceived ∧ ¬seg.syn ∧ seg.isAck
  · simp only [waits, reactSynReceivedKd]
    by_cases acked : seg.ack = c.sndNxt
    · simp [acked, Follows]
    · simp [acked, Follows]
  · simp only [waits, if_false, true_and]
    by_cases rst : seg.rst
    · simpa [rst] using follows_pure
    · simp only [rst, Bool.false_eq_true, if_false, not_false_eq_true, if_true]
      cases status : c.status with
      | established => exact gramnetHandleHttp_follows
      | finWait1 => exact finWait1Kd_follows
      | _ => exact follows_pure

theorem localServers_follows :
    Follows (localServers env t c seg) t (react .localServers env.wired c seg)
      (spent .localServers env.wired c seg) := by
  unfold localServers react
  cases c.status with
  | synReceived => exact follows_pure
  | established => exact establishedLocalServers_follows
  | closed => exact onClosed_follows
  | _ => exact follows_pure

theorem nonLocalServers_follows :
    Follows (nonLocalServers env t c seg) t (react .nonLocalServers env.wired c seg)
      (spent .nonLocalServers env.wired c seg) := by
  unfold nonLocalServers react
  cases c.status with
  | closed => exact onClosed_follows
  | synSent => exact synSentNonLocalServers_follows
  | established => exact establishedNonLocalServers_follows
  | synReceived => exact follows_pure
  | _ => exact follows_pure

end Blocks

/-- A block works on a connection of the list and writes it back. -/
def block (handler : Handler) (env : Env) (t : Tables) (c : Connection) (seg : Segment) :
    Except Stop Handled :=
  match handler with
  | .synSentKd => synSentKd env t c seg
  | .kdServer => kdServer env t c seg
  | .localServers => localServers env t c seg
  | .nonLocalServers => nonLocalServers env t c seg

theorem block_follows (handler : Handler) (env : Env) (t : Tables) (c : Connection)
    (seg : Segment) :
    Follows (block handler env t c seg) t (react handler env.wired c seg)
      (spent handler env.wired c seg) := by
  cases handler with
  | synSentKd => exact synSentKd_follows
  | kdServer => exact kdServer_follows
  | localServers => exact localServers_follows
  | nonLocalServers => exact nonLocalServers_follows

/-- The block that a segment reaches, and the connection that it finds there. -/
def acting (t : Tables) (seg : Segment) : Option (Handler × Nat) :=
  if seg.dport = kdPort then
    match tcpFindConnectionByClient t seg.sIpv4 seg.sport with
    | none => none
    | some client =>
        let peer := (tcpFindConnectionByRemotePeer t seg.sIpv4 seg.sport).getD client
        if (t.connectionList[peer]?.map Connection.status) = some .synSent then
          some (.synSentKd, peer)
        else
          some (.kdServer, client)
  else if ignored seg then
    none
  else if isItALocalServer t seg.dport then
    if seg.syn then
      none
    else
      (tcpFindConnectionServerSide t seg.dIpv4 seg.dport seg.sIpv4 seg.sport).map
        (Handler.localServers, ·)
  else
    (lookupNonLocalServers t seg).map (Handler.nonLocalServers, ·)

theorem acting_synSentKd {t : Tables} {seg : Segment} {i : Nat} {c : Connection}
    (acts : acting t seg = some (.synSentKd, i)) (found : t.connectionList[i]? = some c) :
    c.status = .synSent := by
  unfold acting at acts
  grind [Option.map_eq_some_iff]

/-- A SYN that no connection is looked up for, or found. -/
def opens (t : Tables) (seg : Segment) : Bool :=
  seg.syn && !seg.isAck && (acting t seg).isNone &&
    (seg.dport == kdPort || !ignored seg)

theorem opens_alone {t : Tables} {seg : Segment} (opening : opens t seg) :
    acting t seg = none := by
  simp only [opens, Bool.and_eq_true, Option.isNone_iff_eq_none] at opening
  exact opening.1.2

section Dispatch

variable {env : Env} {t : Tables} {seg : Segment}

theorem onConnection_returns (handler : Handler) (env : Env) (t : Tables) (seg : Segment)
    (i : Nat) :
    Returns (onConnection t i fun c => block handler env t c seg) fun out =>
      ∃ c, t.connectionList[i]? = some c ∧
        out.2.connectionList = t.connectionList.set i (react handler env.wired c seg) ∧
        wireLength out.1 = spent handler env.wired c seg := by
  simp only [onConnection, returns_bind, returns_need, returns_pure]
  intro c found
  refine (block_follows handler env t c seg).mono ?_
  rintro handled ⟨after, same, length⟩
  exact ⟨c, found, by simp [writeBack, after, same], by simp [writeBack, length]⟩

theorem enqueueClient_keeps (listener client conn : Nat) :
    Keeps t (enqueueClient t listener client conn) := by
  simp only [Keeps, enqueueClient, returns_bind, returns_pure, Tables.connectionList_setSocket]
  exact fun _ _ _ _ => trivial

theorem connectionRegister_some {conn : Connection} {after : Tables}
    (registered : connectionRegister t conn = some after) :
    after = { t with connectionList := t.connectionList ++ [conn] } := by
  unfold connectionRegister at registered
  split at registered
  · exact (Option.some.inj registered).symm
  · cases registered

theorem kmalloc_returns (heap : Heap) (n : Nat) :
    Returns (kmalloc heap n) fun given => given = decide (n < heap.left) := by
  refine returns_ite.mpr ⟨fun enough => returns_ok.mpr (by simp [enough]), fun short => ?_⟩
  refine returns_ite.mpr ⟨fun _ => returns_error.mpr trivial, fun _ => ?_⟩
  exact returns_ok.mpr (by simp [short])

theorem createConnection_returns (heap : Heap) :
    Returns (createConnection heap) fun created => created = decide (1 < heap.left) := by
  refine returns_of_bind (kmalloc_returns heap 0) ?_
  rintro first rfl
  refine returns_ite.mpr ⟨fun _ => kmalloc_returns heap 1, fun none => returns_pure.mpr ?_⟩
  simp only [decide_eq_true_eq] at none
  exact (decide_eq_false (by omega)).symm

/-- There is memory for a connection, and a slot. -/
def roomFor (env : Env) (t : Tables) : Bool :=
  decide (1 < env.heap.left) && decide (t.connectionList.length < maxConnections)

/-- There is memory for the endpoints as well, and the answer can be sent. -/
def answered (env : Env) : Bool :=
  decide (2 < env.heap.left) && env.wired

/-- What a SYN comes to: nothing, or a connection that is answered or not. -/
def Opening (env : Env) (t : Tables) (seg : Segment) (out : List TcpSend × Tables) : Prop :=
  if roomFor env t then
    ∃ mac client server sent,
      out.2.connectionList = t.connectionList ++ [{ synReceivedConnection seg mac with
        clientSocket := client, serverSocket := server, packetsSent := sent }] ∧
      wireLength out.1 = if answered env then 1 else 0
  else
    out.2.connectionList = t.connectionList ∧ out.1 = []

theorem synAck_returns (env : Env) (seg : Segment) :
    Returns (sendTcp env (synAck env seg)) fun sent =>
      wireLength sent = if env.wired then 1 else 0 := by
  have flags : has (thSyn ||| thAck) thSyn = true ∧ has (thSyn ||| thAck) thFin = false := by
    decide
  refine returns_sendTcp ?_
  cases env.wired with
  | false => rfl
  | true => simp [synAck, answer, consumed, flags]

/-- A connection is created and registered, and then given its endpoints. -/
theorem opening_of_plugged {conn : Connection}
    {plug : Tables → Except Stop (List TcpSend × Tables)}
    (plugged : roomFor env t →
      Returns (plug { t with connectionList := t.connectionList ++ [conn] }) (Opening env t seg)) :
    Returns (do
      if ¬(← createConnection env.heap) then
        pure ([], t)
      else
        match connectionRegister t conn with
        | none => pure ([], t)
        | some registered => plug registered) (Opening env t seg) := by
  refine returns_of_bind (createConnection_returns env.heap) ?_
  rintro created rfl
  have nothing : ¬roomFor env t → Returns (pure ([], t) : Except Stop (List TcpSend × Tables))
      (Opening env t seg) := by
    intro full
    exact returns_pure.mpr (by simp [Opening, full])
  refine returns_ite.mpr ⟨fun short => nothing ?_, fun enough => ?_⟩
  · have small : ¬1 < env.heap.left := by simpa using short
    simp [roomFor, small]
  · have memory : 1 < env.heap.left := by simpa using enough
    unfold connectionRegister
    by_cases slot : t.connectionList.length < maxConnections
    · simpa only [slot, if_true] using plugged (by simp [roomFor, memory, slot])
    · simpa only [slot, if_false] using nothing (by simp [roomFor, slot])

theorem plugRemoteClient_opening {mac : Mac} (room : roomFor env t) :
    Returns (plugRemoteClient env
        { t with connectionList := t.connectionList ++ [synReceivedConnection seg mac] } seg
        t.connectionList.length (synReceivedConnection seg mac))
      (Opening env t seg) := by
  unfold Opening
  simp only [room, if_true]
  refine returns_of_bind (kmalloc_returns env.heap 2) ?_
  rintro paired rfl
  refine returns_ite.mpr ⟨fun short => returns_pure.mpr ?_, fun enough => ?_⟩
  · have small : ¬2 < env.heap.left := by simpa using short
    exact ⟨mac, none, none, 0, rfl, by simp [answered, small]⟩
  · have memory : 2 < env.heap.left := by simpa using enough
    simp only [returns_bind]
    intro _ _ _ _ _ _ _ _ _ _ listener _
    refine (enqueueClient_keeps listener t.sockets.length t.connectionList.length).mono ?_
    intro t' same
    refine (synAck_returns env seg).mono fun sent length => returns_pure.mpr ?_
    refine ⟨mac, some t.sockets.length, some listener, 1, ?_, ?_⟩
    · simp [updateListener, same, synReceivedConnection]
    · simpa [answered, memory] using length

theorem remoteClientSentSyn_opening (ports : ¬(seg.dport = 443 ∨ seg.dport = 80)) :
    Returns (remoteClientSentSyn env t seg) (Opening env t seg) := by
  unfold remoteClientSentSyn
  rw [if_neg ports]
  exact opening_of_plugged plugRemoteClient_opening

theorem enqueueKdClient_keeps (listener : Option Nat) (client conn : Nat) :
    Keeps t (enqueueKdClient t listener client conn) := by
  cases listener with
  | none => exact returns_pure.mpr rfl
  | some listener => exact enqueueClient_keeps listener client conn

theorem plugKdClient_opening {mac : Mac} (room : roomFor env t) :
    Returns (plugKdClient env
        { t with connectionList := t.connectionList ++ [synReceivedConnection seg mac] } seg
        t.connectionList.length (synReceivedConnection seg mac))
      (Opening env t seg) := by
  unfold Opening
  simp only [room, if_true]
  refine returns_of_bind (kmalloc_returns env.heap 2) ?_
  rintro paired rfl
  refine returns_ite.mpr ⟨fun short => returns_pure.mpr ?_, fun enough => ?_⟩
  · have small : ¬2 < env.heap.left := by simpa using short
    exact ⟨mac, none, none, 0, rfl, by simp [answered, small]⟩
  · have memory : 2 < env.heap.left := by simpa using enough
    simp only [returns_bind]
    intro _ _ _ _ _ _
    refine (enqueueKdClient_keeps _ t.sockets.length t.connectionList.length).mono ?_
    intro t' same
    refine (synAck_returns env seg).mono fun sent length => returns_pure.mpr ?_
    refine ⟨mac, some t.sockets.length, socketGetTcpserverSocketByPort t kdPort, 1, ?_, ?_⟩
    · simp [same, socketGetTcpserverSocketByPort, synReceivedConnection]
    · simpa [answered, memory] using length

theorem kdClientSentSyn_opening : Returns (kdClientSentSyn env t seg) (Opening env t seg) :=
  opening_of_plugged plugKdClient_opening

/-- What a segment does to the connections. -/
def Effect (t : Tables) (env : Env) (seg : Segment) (out : List TcpSend × Tables) : Prop :=
  match acting t seg with
  | some (handler, i) =>
      ∃ c, t.connectionList[i]? = some c ∧
        out.2.connectionList = t.connectionList.set i (react handler env.wired c seg) ∧
        wireLength out.1 = spent handler env.wired c seg
  | none =>
      if opens t seg then
        Opening env t seg out
      else
        out.2.connectionList = t.connectionList ∧ out.1 = []

theorem findIdx?_listed {list : List Connection} {p : Connection → Bool} {i : Nat}
    (found : list.findIdx? p = some i) : ∃ c, list[i]? = some c := by
  rcases List.findIdx?_eq_some_iff_getElem.mp found with ⟨inside, -⟩
  exact ⟨list[i], List.getElem?_eq_getElem inside⟩

/-- The peer that the kernel debugger's handler looks at is in the list. -/
theorem kdPeer_listed {client : Nat}
    (found : tcpFindConnectionByClient t seg.sIpv4 seg.sport = some client) :
    ∃ c, t.connectionList[(tcpFindConnectionByRemotePeer t seg.sIpv4 seg.sport).getD client]? =
      some c := by
  cases peer : tcpFindConnectionByRemotePeer t seg.sIpv4 seg.sport with
  | none => exact findIdx?_listed found
  | some i => exact findIdx?_listed peer

theorem networkHandleTcp_acting (env : Env) {handler : Handler} {i : Nat}
    (acts : acting t seg = some (handler, i)) :
    Tcp.networkHandleTcp env t seg = onConnection t i fun c => block handler env t c seg := by
  unfold acting at acts
  unfold Tcp.networkHandleTcp
  by_cases kd : seg.dport = kdPort
  · simp only [kd, if_true] at acts ⊢
    unfold handleTcpForKdServer
    cases found : tcpFindConnectionByClient t seg.sIpv4 seg.sport with
    | none => simp [found] at acts
    | some client =>
        rcases kdPeer_listed found with ⟨c, listed⟩
        simp only [found, listed, Option.map_some, Option.some.injEq] at acts ⊢
        by_cases waits : c.status = .synSent
        · simp only [waits, if_true, Option.some.injEq, Prod.mk.injEq] at acts
          rcases acts with ⟨rfl, rfl⟩
          simp [need, waits, block, bind, Except.bind]
        · simp only [waits, if_false, Option.some.injEq, Prod.mk.injEq] at acts
          rcases acts with ⟨rfl, rfl⟩
          simp [need, waits, block, bind, Except.bind]
  · simp only [kd, if_false] at acts ⊢
    by_cases out : ignored seg
    · simp [out] at acts
    · simp only [out, Bool.false_eq_true, if_false] at acts
      by_cases registered : isItALocalServer t seg.dport
      · simp only [registered, if_true] at acts ⊢
        by_cases syn : seg.syn
        · simp [syn] at acts
        · simp only [syn, Bool.false_eq_true, if_false, Option.map_eq_some_iff,
            Prod.mk.injEq] at acts
          rcases acts with ⟨j, found, rfl, rfl⟩
          simp [handleTcpForLocalServers, out, syn, found, block]
      · simp only [registered, Bool.false_eq_true, if_false, Option.map_eq_some_iff,
          Prod.mk.injEq] at acts ⊢
        rcases acts with ⟨j, found, rfl, rfl⟩
        simp [handleTcpForNonLocalServers, out, found, block]

theorem networkHandleTcp_idle (env : Env) (acts : acting t seg = none) :
    Tcp.networkHandleTcp env t seg =
      if opens t seg then
        if seg.dport = kdPort then kdClientSentSyn env t seg else remoteClientSentSyn env t seg
      else
        pure ([], t) := by
  have alone : opens t seg =
      (seg.syn && !seg.isAck && (seg.dport == kdPort || !ignored seg)) := by
    simp [opens, acts]
  unfold acting at acts
  unfold Tcp.networkHandleTcp
  rw [alone]
  by_cases kd : seg.dport = kdPort
  · simp only [kd, if_true] at acts ⊢
    unfold handleTcpForKdServer
    cases found : tcpFindConnectionByClient t seg.sIpv4 seg.sport with
    | none => simp
    | some client =>
        simp only [found] at acts
        split at acts <;> cases acts
  · simp only [kd, if_false] at acts ⊢
    by_cases out : ignored seg
    · have silent : (seg.dport == kdPort) = false := by simpa using kd
      simp [out, silent, handleTcpForLocalServers, handleTcpForNonLocalServers]
    · simp only [out, Bool.false_eq_true, if_false] at acts
      by_cases registered : isItALocalServer t seg.dport
      · simp only [registered, if_true] at acts ⊢
        by_cases syn : seg.syn
        · by_cases ack : seg.isAck
          · simp [handleTcpForLocalServers, out, syn, ack]
          · simp [handleTcpForLocalServers, out, syn, ack]
        · simp only [syn, Bool.false_eq_true, if_false, Option.map_eq_none_iff] at acts
          simp [handleTcpForLocalServers, out, syn, acts]
      · simp only [registered, Bool.false_eq_true, if_false, Option.map_eq_none_iff] at acts ⊢
        simp [handleTcpForNonLocalServers, out, acts]

theorem allowed_ports (allowed : allowThisPort seg.dport) :
    ¬(seg.dport = 443 ∨ seg.dport = 80) := by
  rintro (port | port) <;> simp [port, allowThisPort, firstEphemeralPort] at allowed

theorem segment_effect (env : Env) (t : Tables) (seg : Segment) :
    Returns (Tcp.networkHandleTcp env t seg) (Effect t env seg) := by
  unfold Effect
  cases acts : acting t seg with
  | some found =>
      rcases found with ⟨handler, i⟩
      rw [networkHandleTcp_acting env acts]
      exact onConnection_returns handler env t seg i
  | none =>
      rw [networkHandleTcp_idle env acts]
      by_cases opening : opens t seg
      · simp only [opening, if_true]
        refine returns_ite.mpr ⟨fun _ => kdClientSentSyn_opening, fun other => ?_⟩
        refine remoteClientSentSyn_opening (allowed_ports ?_)
        by_contra refused
        simp [opens, other, ignored, refused] at opening
      · simp only [opening]
        exact returns_pure.mpr ⟨rfl, rfl⟩

end Dispatch

end Gramado.Net.Reactions
