/-
Which TCP segments stop the kernel in a panic. They meet a connection whose
socket has lost its file, a port without a server, or a heap that is used up.
The condition is read off the tables before the segment and the segment, and it
is exact.
-/
import Gramado.Net.Reactions

namespace Gramado.Net.SegmentPanics

open Gramado.Ke Gramado.Lib.Fallible
open Gramado.Net.Parse Gramado.Net.Tcp Gramado.Net.Reactions

section FatalSegments

/-- The file of a socket, as far as it passes the tests of the receive path. -/
def socketFile (t : Tables) (sk : Socket) : Option SocketFile :=
  sk.privateFile.bind fun f => t.files[f]?.filter SocketFile.valid

def fileOf (t : Tables) (socket : Option Nat) : Option SocketFile :=
  (socket.bind (t.sockets[·]?)).bind (socketFile t)

/-- The answer to a SYN runs out of memory, and the heap panics or the code does:
    `needed` allocations are made, and NULL is a panic for those that are `tested`.
    Without a free slot there are only the two of the connection. -/
def Starved (env : Env) (t : Tables) (needed : Nat) (tested : List Nat) : Prop :=
  if t.connectionList.length < maxConnections then
    env.heap.left < needed ∧ (env.heap.panics = true ∨ env.heap.left ∈ tested)
  else
    env.heap.left < 2 ∧ env.heap.panics = true

/-- A SYN that opens a connection. For any port but the kernel debugger's there
    has to be a server. -/
def FatalOpening (env : Env) (t : Tables) (seg : Segment) : Prop :=
  if seg.dport = kdPort then
    Starved env t 6 [4]
  else
    Starved env t 8 [4, 5, 6] ∨
      (8 ≤ env.heap.left ∧ t.connectionList.length < maxConnections ∧
        isItALocalServer t seg.dport = false)

/-- CLOSED: what is answered with a RST needs the client's file. -/
def FatalClosed (env : Env) (t : Tables) (c : Connection) (seg : Segment) : Prop :=
  seg.rst = false ∧ ¬(seg.isAck = true ∧ seg.syn = false ∧ seg.fin = false) ∧
    env.wired = true ∧ fileOf t c.clientSocket = none

/-- The segments that ESTABLISHED goes into. -/
def Acknowledges (seg : Segment) : Prop :=
  seg.rst = false ∧ seg.syn = false ∧ seg.isAck = true

def FatalEstablishedLocal (t : Tables) (c : Connection) (seg : Segment) : Prop :=
  Acknowledges seg ∧
    ((seg.seq = c.rcvNxt ∧ c.isLocalServer = false) ∨
      ((seg.seq = c.rcvNxt ∨ seg.fin = true) ∧ fileOf t c.clientSocket = none))

/-- The socket that the handler for the others stores a payload for. -/
def localSocket (c : Connection) : Option Nat :=
  if c.isLocalServer then c.serverSocket else c.clientSocket

/-- The payload is not copied past the end of the file's buffer. -/
def Copied (fp : SocketFile) (payload : List UInt8) : Prop :=
  fp.cnt.toNat < payload.length ∨ payload.length = 0 ∨
    (0 ≤ fp.w ∧ fp.w.toNat + payload.length ≤ fp.base.length)

def FatalEstablishedNonLocal (env : Env) (t : Tables) (c : Connection) (seg : Segment) : Prop :=
  Acknowledges seg ∧
    ((seg.seq = c.rcvNxt ∧ fileOf t (localSocket c) = none) ∨
      (env.wired = true ∧ seg.fin = true ∧ fileOf t c.clientSocket = none ∧
        (seg.seq = c.rcvNxt → ∃ fp, fileOf t (localSocket c) = some fp ∧ Copied fp seg.payload)))

/-- SYN_SENT: the client's file is needed, and memory where its buffer is to grow. -/
def FatalSynSent (env : Env) (t : Tables) (c : Connection) (seg : Segment) : Prop :=
  (seg.rst = false ∧ seg.syn = true ∧ seg.isAck = true ∧ seg.fin = false) ∧
    ∃ client, c.clientSocket = some client ∧ c.serverSocket.isSome ∧ client < t.sockets.length ∧
      ∀ fp, fileOf t (some client) = some fp →
        fp.base.length < 5 * 1024 ∧ env.heap.left = 0 ∧ env.heap.panics = true

/-- The two blocks of the kernel debugger's handler look at no file. -/
def FatalBlock (handler : Handler) (env : Env) (t : Tables) (c : Connection) (seg : Segment) :
    Prop :=
  match handler, c.status with
  | .localServers, .closed => FatalClosed env t c seg
  | .localServers, .established => FatalEstablishedLocal t c seg
  | .nonLocalServers, .closed => FatalClosed env t c seg
  | .nonLocalServers, .synSent => FatalSynSent env t c seg
  | .nonLocalServers, .established => FatalEstablishedNonLocal env t c seg
  | _, _ => False

def FatalSegment (env : Env) (t : Tables) (seg : Segment) : Prop :=
  match acting t seg with
  | some (handler, i) => ∃ c, t.connectionList[i]? = some c ∧ FatalBlock handler env t c seg
  | none => opens t seg = true ∧ FatalOpening env t seg

end FatalSegments

def Panics {α : Type} (call : Except Stop α) : Prop :=
  Fails call Stop.IsPanic

section Memory

variable {heap : Heap} {n : Nat} {stop : Stop} {post : Bool → Prop} {after : Unit → Prop}

theorem panics_kmalloc : Panics (kmalloc heap n) ↔ heap.left ≤ n ∧ heap.panics = true := by
  simp only [Panics, kmalloc, fails_ite, fails_ok, fails_error, isPanic_panic]
  grind

theorem meets_kmalloc : Meets (kmalloc heap n) post ↔
    (n < heap.left ∧ post true) ∨ (heap.left ≤ n ∧ heap.panics = false ∧ post false) := by
  simp only [kmalloc, meets_ite, meets_ok, meets_error]
  grind

theorem panics_kmallocOr : Panics (kmallocOr stop heap n) ↔
    heap.left ≤ n ∧ (heap.panics = true ∨ stop.IsPanic) := by
  have memory := @panics_kmalloc heap n
  simp only [Panics, kmallocOr, fails_bind, meets_kmalloc, fails_ite, fails_pure,
    fails_error] at memory ⊢
  grind

theorem meets_kmallocOr : Meets (kmallocOr stop heap n) after ↔ n < heap.left ∧ after () := by
  simp only [kmallocOr, meets_bind, meets_kmalloc, meets_ite, meets_pure, meets_error]
  grind

theorem panics_createConnection :
    Panics (createConnection heap) ↔ heap.left < 2 ∧ heap.panics = true := by
  have first := @panics_kmalloc heap 0
  have second := @panics_kmalloc heap 1
  simp only [Panics, createConnection, fails_bind, meets_kmalloc, fails_ite,
    fails_pure] at first second ⊢
  grind

theorem meets_createConnection : Meets (createConnection heap) post ↔
    (1 < heap.left ∧ post true) ∨ (heap.left ≤ 1 ∧ heap.panics = false ∧ post false) := by
  simp only [createConnection, meets_bind, meets_kmalloc, meets_ite, meets_pure]
  grind

end Memory

section Files

variable {env : Env} {t : Tables} {sk : Socket} {fp : SocketFile} {payload : List UInt8}

theorem socketFile_none : socketFile t sk = none ↔
    ∀ f, sk.privateFile = some f → ∀ fp, t.files[f]? = some fp → fp.valid = false := by
  cases file : sk.privateFile <;> simp [socketFile, file]

theorem socketFile_some : socketFile t sk = some fp ↔
    ∃ f, sk.privateFile = some f ∧ t.files[f]? = some fp ∧ fp.valid = true := by
  cases file : sk.privateFile <;> simp [socketFile, file, Option.filter_eq_some_iff]

theorem fileOf_none {socket : Option Nat} : fileOf t socket = none ↔
    ∀ k, socket = some k → ∀ sk, t.sockets[k]? = some sk → socketFile t sk = none := by
  cases socket <;> simp [fileOf]

theorem panics_sendTcp (env : Env) (s : TcpSend) : ¬Panics (sendTcp env s) := by
  rintro ⟨stop, stopped, panics⟩
  unfold sendTcp networkSendTcp transmit at stopped
  split at stopped
  · cases stopped
  · split at stopped
    · cases stopped
    · cases stopped
      exact panics

theorem sendTcp_answer (env : Env) (seg : Segment) (seq ack : UInt32) (flags : UInt16) :
    sendTcp env (answer env seg seq ack flags) =
      .ok (if env.wired then [answer env seg seq ack flags] else []) := by
  have short : 54 ≤ txBufferSize := by decide
  unfold sendTcp networkSendTcp transmit Env.wired
  cases env.currentNIC <;> simp [answer, short, Except.map]

theorem meets_privateFile {null validation : Stop} {post : Nat × SocketFile → Prop} :
    Meets (privateFile t sk null validation) post ↔
      ∃ f fp, sk.privateFile = some f ∧ t.files[f]? = some fp ∧ fp.valid = true ∧ post (f, fp) := by
  simp only [privateFile, meets_bind, meets_need, meets_ite, meets_pure, meets_error]
  grind

theorem panics_privateFile {null validation : Stop} (first : null.IsPanic)
    (second : validation.IsPanic) :
    Panics (privateFile t sk null validation) ↔ socketFile t sk = none := by
  rw [socketFile_none]
  simp only [Panics, privateFile, fails_bind, fails_need, meets_need, fails_ite, fails_pure,
    fails_error]
  cases sk.privateFile with
  | none => simp [first]
  | some f =>
      cases file : t.files[f]? with
      | none => simp [first, List.getElem?_eq_none_iff.mp file]
      | some fp =>
          have inside := Nat.not_le.mpr (List.getElem?_eq_some_iff.mp file).1
          simp [second, file, inside]

/-- A socket and its file are looked up, and each of them has to be there. -/
theorem panics_lookup {α : Type} {socket : Option Nat} {next : Nat → Socket → Except Stop α}
    (file : ∀ k sk, Panics (next k sk) ↔ socketFile t sk = none) :
    Panics (do
      let k ← need socket invalidSk
      let sk ← need t.sockets[k]? invalidSk
      next k sk) ↔ fileOf t socket = none := by
  have null : invalidSk.IsPanic := trivial
  simp only [Panics] at file ⊢
  rw [fileOf_none]
  simp only [fails_bind, fails_need, meets_need, file, null]
  cases socket with
  | none => simp
  | some k =>
      cases there : t.sockets[k]? with
      | none => simp [List.getElem?_eq_none_iff.mp there]
      | some sk =>
          have inside := Nat.not_le.mpr (List.getElem?_eq_some_iff.mp there).1
          simp [there, inside]

theorem panics_clientFile (c : Connection) (state : SocketState) :
    Panics (clientFile t c state) ↔ fileOf t c.clientSocket = none := by
  refine panics_lookup fun k sk => ?_
  have file : Panics (privateFile t sk invalidFp fpValidation) ↔ _ :=
    panics_privateFile trivial trivial
  simp only [Panics] at file ⊢
  simp only [fails_bind, file, fails_pure, meets_false, or_false]

theorem panics_storePayload : ¬Panics (storePayload fp payload) := by
  simp [Panics, storePayload]

theorem answers_storePayload : Answers (storePayload fp payload) ↔ Copied fp payload := by
  simp [storePayload, Copied]
  grind

theorem fileOf_setState (t : Tables) (k : Nat) (state : SocketState) (socket : Option Nat) :
    fileOf (t.setState k state) socket = fileOf t socket := by
  have files : socketFile (t.setState k state) = socketFile t := rfl
  have sockets : (t.setState k state).sockets =
      t.sockets.modify k fun sk => { sk with state := state } := rfl
  cases socket with
  | none => rfl
  | some j =>
      simp only [fileOf, files, sockets, Option.bind_some, List.getElem?_modify]
      by_cases here : k = j
      · subst here
        simp only [if_true]
        cases t.sockets[k]? <;> rfl
      · simp [here]

theorem fileOf_setFile {f : Nat} {file : SocketFile} (found : t.files[f]? = some fp)
    (valid : fp.valid = true) (kept : file.valid = true) (socket : Option Nat) :
    fileOf (t.setFile f file) socket = none ↔ fileOf t socket = none := by
  have inside : f < t.files.length := (List.getElem?_eq_some_iff.mp found).1
  have same (sk : Socket) : socketFile (t.setFile f file) sk = none ↔ socketFile t sk = none := by
    simp only [socketFile_none, Tables.setFile]
    constructor
    · intro lost g wired old there
      by_cases here : f = g
      · subst here
        have kept' := lost f wired file (List.getElem?_set_self inside)
        exact absurd (kept.symm.trans kept') Bool.noConfusion
      · exact lost g wired old ((List.getElem?_set_ne here).trans there)
    · intro lost g wired new there
      by_cases here : f = g
      · subst here
        exact absurd (valid.symm.trans (lost f wired fp found)) Bool.noConfusion
      · exact lost g wired new ((List.getElem?_set_ne here).symm.trans there)
  have sockets : (t.setFile f file).sockets = t.sockets := rfl
  simp only [fileOf_none, sockets, same]

theorem storePayload_valid : Returns (storePayload fp payload) fun stored =>
    stored.valid = fp.valid := by
  simp [storePayload]

/-- What is stored leaves every socket with a file or without, as before. -/
theorem receivePayload_files (k : Nat) (sk : Socket) (seg : Segment) :
    Returns (receivePayload t k sk seg) fun after =>
      ∀ socket, fileOf after socket = none ↔ fileOf t socket = none := by
  have opened : Returns (privateFile t sk invalidFp fpValidation) fun found =>
      t.files[found.1]? = some found.2 ∧ found.2.valid = true := by
    intro found ok
    obtain ⟨f, fp, -, there, valid, same⟩ := meets_privateFile.mp ⟨found, ok, Eq.refl found⟩
    exact same ▸ ⟨there, valid⟩
  refine returns_of_bind opened ?_
  rintro ⟨f, fp⟩ ⟨there, valid⟩
  refine returns_of_bind storePayload_valid ?_
  intro stored kept
  refine returns_pure.mpr fun socket => ?_
  have rewound : ({ stored with r := 0 } : SocketFile).valid = true := kept.trans valid
  by_cases fin : seg.fin
  · simpa [fin, fileOf_setState] using fileOf_setFile there valid rewound socket
  · simpa [fin] using fileOf_setFile there valid (kept.trans valid) socket

theorem answers_receivePayload (k : Nat) (sk : Socket) (seg : Segment) :
    Answers (receivePayload t k sk seg) ↔
      ∃ fp, socketFile t sk = some fp ∧ Copied fp seg.payload := by
  simp only [receivePayload, answers_bind, answers_pure, and_true, socketFile_some]
  constructor
  · rintro ⟨⟨f, fp⟩, opened, stored⟩
    obtain ⟨g, file, wired, there, valid, same⟩ := meets_privateFile.mp ⟨_, opened, Eq.refl _⟩
    cases same
    exact ⟨fp, ⟨f, wired, there, valid⟩, answers_storePayload.mp stored⟩
  · rintro ⟨fp, ⟨f, wired, there, valid⟩, copied⟩
    obtain ⟨found, opened, same⟩ := meets_privateFile.mpr ⟨f, fp, wired, there, valid, Eq.refl _⟩
    exact ⟨found, opened, same ▸ answers_storePayload.mpr copied⟩

theorem panics_receivePayload (k : Nat) (sk : Socket) (seg : Segment) :
    Panics (receivePayload t k sk seg) ↔ socketFile t sk = none := by
  have file : Panics (privateFile t sk invalidFp fpValidation) ↔ _ :=
    panics_privateFile trivial trivial
  have stored (fp : SocketFile) := @panics_storePayload fp seg.payload
  simp only [Panics] at file stored ⊢
  simp only [receivePayload, fails_bind, file, stored, fails_pure, meets_false, or_false]

end Files

section Blocks

variable {env : Env} {t : Tables} {c : Connection} {seg : Segment}

theorem panics_onClosed : Panics (onClosed env t c seg) ↔ FatalClosed env t c seg := by
  have file := @panics_clientFile t c .unconnected
  simp only [Panics] at file ⊢
  simp only [onClosed, sendTcp_answer, fails_ite, fails_pure, fails_bind, fails_ok, meets_ok, file,
    meets_false, or_false, false_or, FatalClosed]
  cases seg.rst <;> cases env.wired <;> simp

theorem fileOf_some {socket : Option Nat} {fp : SocketFile} : fileOf t socket = some fp ↔
    ∃ k, socket = some k ∧ ∃ sk, t.sockets[k]? = some sk ∧ socketFile t sk = some fp := by
  cases socket <;> simp [fileOf, Option.bind_eq_some_iff]

section Store

variable {u : Nat → Tables} {socket : Option Nat} {after : Connection}

/-- The in-order part of the two handlers: what `before` makes of the tables is
    written to the file of the socket. -/
def store (t : Tables) (u : Nat → Tables) (socket : Option Nat) (seg : Segment)
    (after : Connection) : Except Stop (Connection × Tables) := do
  let k ← need socket invalidSk
  let sk ← need t.sockets[k]? invalidSk
  let t ← receivePayload (u k) k sk seg
  pure (after, t)

theorem panics_store (same : ∀ k, socketFile (u k) = socketFile t) :
    Panics (store t u socket seg after) ↔ fileOf t socket = none := by
  refine panics_lookup fun k sk => ?_
  have received := @panics_receivePayload (u k) k sk seg
  simp only [Panics] at received ⊢
  simp only [fails_bind, received, fails_pure, meets_false, or_false, same]

theorem answers_store (same : ∀ k, socketFile (u k) = socketFile t) :
    Answers (store t u socket seg after) ↔
      ∃ fp, fileOf t socket = some fp ∧ Copied fp seg.payload := by
  have received (k : Nat) (sk : Socket) := @answers_receivePayload (u k) k sk seg
  simp only [Answers] at received
  simp only [store, answers_bind, need_ok, answers_pure, and_true, received, same, fileOf_some]
  constructor
  · rintro ⟨k, wired, sk, there, fp, file, copied⟩
    exact ⟨fp, ⟨k, wired, sk, there, file⟩, copied⟩
  · rintro ⟨fp, ⟨k, wired, sk, there, file⟩, copied⟩
    exact ⟨k, wired, sk, there, fp, file, copied⟩

theorem store_files (same : ∀ k other, fileOf (u k) other = fileOf t other) :
    Returns (store t u socket seg after) fun out =>
      out.1 = after ∧ ∀ other, fileOf out.2 other = none ↔ fileOf t other = none := by
  simp only [store, returns_bind, returns_need, returns_pure]
  intro k _ sk _
  refine (receivePayload_files k sk seg).mono fun out kept => ⟨trivial, fun other => ?_⟩
  rw [kept, same]

end Store

theorem inOrderLocalServers_eq : inOrderLocalServers t c seg =
    if seg.seq = c.rcvNxt then
      if ¬c.isLocalServer then
        .error (.panic "TCP: handler invoked but not local server")
      else
        store t (fun k => t.setState k .connected) c.clientSocket seg (behind c seg)
    else
      pure (c, t) := rfl

theorem inOrderNonLocalServers_eq : inOrderNonLocalServers t c seg =
    if seg.seq = c.rcvNxt then store t (fun _ => t) (localSocket c) seg (behind c seg)
    else pure (c, t) := rfl

theorem panics_inOrderLocalServers : Panics (inOrderLocalServers t c seg) ↔
    seg.seq = c.rcvNxt ∧ (c.isLocalServer = false ∨ fileOf t c.clientSocket = none) := by
  have stored := @panics_store t seg (fun k => t.setState k .connected) c.clientSocket
    (behind c seg) fun _ => rfl
  simp only [Panics] at stored ⊢
  simp only [inOrderLocalServers_eq, fails_ite, fails_error, isPanic_panic, stored, fails_pure]
  cases c.isLocalServer <;> simp

theorem panics_inOrderNonLocalServers : Panics (inOrderNonLocalServers t c seg) ↔
    seg.seq = c.rcvNxt ∧ fileOf t (localSocket c) = none := by
  have stored := @panics_store t seg (fun _ => t) (localSocket c) (behind c seg) fun _ => rfl
  simp only [Panics] at stored ⊢
  simp only [inOrderNonLocalServers_eq, fails_ite, stored, fails_pure, and_false, or_false]

theorem answers_inOrderLocalServers : Answers (inOrderLocalServers t c seg) ↔
    (seg.seq = c.rcvNxt → c.isLocalServer = true ∧
      ∃ fp, fileOf t c.clientSocket = some fp ∧ Copied fp seg.payload) := by
  have stored := @answers_store t seg (fun k => t.setState k .connected) c.clientSocket
    (behind c seg) fun _ => rfl
  simp only [inOrderLocalServers_eq, answers_ite, answers_error, stored, answers_pure]
  cases c.isLocalServer <;> simp

theorem answers_inOrderNonLocalServers : Answers (inOrderNonLocalServers t c seg) ↔
    (seg.seq = c.rcvNxt →
      ∃ fp, fileOf t (localSocket c) = some fp ∧ Copied fp seg.payload) := by
  have stored := @answers_store t seg (fun _ => t) (localSocket c) (behind c seg) fun _ => rfl
  simp only [inOrderNonLocalServers_eq, answers_ite, stored, answers_pure, implies_true, and_true]

/-- What the in-order part leaves for the FIN: the client's socket and its file. -/
def KeepsClient (t : Tables) (c : Connection) (part : Except Stop (Connection × Tables)) : Prop :=
  Returns part fun out => fileOf out.2 out.1.clientSocket = none ↔ fileOf t c.clientSocket = none

theorem keepsClient_store {u : Nat → Tables} {socket : Option Nat}
    (same : ∀ k other, fileOf (u k) other = fileOf t other) :
    KeepsClient t c (store t u socket seg (behind c seg)) := by
  refine (store_files same).mono ?_
  rintro out ⟨after, kept⟩
  rw [after]
  exact kept (behind c seg).clientSocket

theorem keepsClient_inOrderLocalServers : KeepsClient t c (inOrderLocalServers t c seg) := by
  rw [inOrderLocalServers_eq]
  refine returns_ite.mpr ⟨fun _ => returns_ite.mpr ⟨fun _ => returns_error.mpr trivial, ?_⟩, ?_⟩
  · intro _
    exact keepsClient_store fun k other => fileOf_setState t k .connected other
  · intro _
    exact returns_pure.mpr Iff.rfl

theorem keepsClient_inOrderNonLocalServers : KeepsClient t c (inOrderNonLocalServers t c seg) := by
  rw [inOrderNonLocalServers_eq]
  refine returns_ite.mpr ⟨fun _ => keepsClient_store fun _ _ => rfl, fun _ => ?_⟩
  exact returns_pure.mpr Iff.rfl

theorem panics_establishedLocalServers :
    Panics (establishedLocalServers t c seg) ↔ FatalEstablishedLocal t c seg := by
  have order := @panics_inOrderLocalServers t (acknowledged c seg) seg
  have ends := @answers_inOrderLocalServers t (acknowledged c seg) seg
  have rest : Meets (inOrderLocalServers t (acknowledged c seg) seg)
      (fun out => seg.fin = true ∧ fileOf out.2 out.1.clientSocket = none) ↔ _ ∧
        (seg.fin = true ∧ fileOf t c.clientSocket = none) :=
    meets_of_same (keepsClient_inOrderLocalServers.mono fun out kept => and_congr_right
      fun _ => kept)
  have file (out : Connection × Tables) := @panics_clientFile out.2 out.1 .connected
  simp only [Panics] at order file ⊢
  simp only [establishedLocalServers, fails_ite, fails_pure, fails_bind, order, file, meets_false,
    and_false, or_false, false_or, rest, ends, rcvNxt_acknowledged, isLocalServer_acknowledged,
    clientSocket_acknowledged, FatalEstablishedLocal, Acknowledges]
  grind

theorem panics_establishedNonLocalServers :
    Panics (establishedNonLocalServers env t c seg) ↔ FatalEstablishedNonLocal env t c seg := by
  have order := @panics_inOrderNonLocalServers t (acknowledged c seg) seg
  have ends := @answers_inOrderNonLocalServers t (acknowledged c seg) seg
  have file (out : Connection × Tables) :=
    @panics_clientFile out.2 { out.1 with packetsSent := out.1.packetsSent + 1 } .connected
  have same : localSocket (acknowledged c seg) = localSocket c := rfl
  simp only [Panics] at order file ⊢
  simp only [establishedNonLocalServers, sendTcp_answer, fails_ite, fails_pure, fails_bind,
    fails_ok,
    meets_ok, order, file, meets_false, and_false, or_false, false_or, FatalEstablishedNonLocal,
    Acknowledges]
  cases env.wired with
  | false =>
      simp only [Bool.false_eq_true, if_false, not_true_eq_false, false_and, meets_false, same,
        rcvNxt_acknowledged]
      grind
  | true =>
      have rest : Meets (inOrderNonLocalServers t (acknowledged c seg) seg)
          (fun out => seg.fin = true ∧ fileOf out.2 out.1.clientSocket = none) ↔ _ ∧
            (seg.fin = true ∧ fileOf t c.clientSocket = none) :=
        meets_of_same
          (keepsClient_inOrderNonLocalServers.mono fun out kept => and_congr_right fun _ => kept)
      simp only [if_true, List.cons_ne_nil, not_false_eq_true, true_and, rest, ends, same,
        rcvNxt_acknowledged]
      grind

theorem panics_tcpChangeSocketBuffer {u : Tables} {sk : Socket} (files : u.files = t.files)
    {fp : SocketFile} (file : socketFile t sk = some fp) :
    Panics (tcpChangeSocketBuffer env u sk (5 * 1024)) ↔
      fp.base.length < 5 * 1024 ∧ env.heap.left = 0 ∧ env.heap.panics = true := by
  obtain ⟨f, wired, there, valid⟩ := socketFile_some.mp file
  have memory := @panics_kmalloc env.heap 0
  simp only [Panics] at memory ⊢
  simp only [tcpChangeSocketBuffer, wired]
  simp only [fails_bind, fails_need, meets_need, files, there, fails_ite, fails_pure, meets_kmalloc,
    memory, Option.some.injEq, exists_eq_left', valid]
  grind

theorem panics_connectClient : Panics (connectClient env t c) ↔
    ∃ client, c.clientSocket = some client ∧ c.serverSocket.isSome ∧ client < t.sockets.length ∧
      ∀ fp, fileOf t (some client) = some fp →
        fp.base.length < 5 * 1024 ∧ env.heap.left = 0 ∧ env.heap.panics = true := by
  unfold connectClient
  cases c.clientSocket with
  | none => simp [Panics]
  | some client =>
      cases c.serverSocket with
      | none => simp [Panics]
      | some server =>
          simp only [Panics, fails_bind, fails_need, meets_need, isPanic_fault, and_false, false_or,
            Option.some.injEq, exists_eq_left', Option.isSome_some, true_and]
          cases there : t.sockets[client]? with
          | none =>
              have outside := Nat.not_lt.mpr (List.getElem?_eq_none_iff.mp there)
              simp only [reduceCtorEq, false_and, exists_false, outside]
          | some sk =>
              have inside := (List.getElem?_eq_some_iff.mp there).1
              have same : fileOf t (some client) = socketFile t sk := by simp [fileOf, there]
              have opened : Panics (privateFile t sk (.panic "TCP step 2: invalid fp\n")
                  (.panic "TCP step 2: fp validation\n")) ↔ _ := panics_privateFile trivial trivial
              simp only [Panics] at opened
              simp only [Option.some.injEq, exists_eq_left', inside, true_and, same, opened]
              cases found : socketFile t sk with
              | none => simp
              | some fp =>
                  obtain ⟨f, wired, file, valid⟩ := socketFile_some.mp found
                  have grown : Panics (tcpChangeSocketBuffer env (connectSockets t client server) sk
                      (5 * 1024)) ↔ _ := panics_tcpChangeSocketBuffer rfl found
                  simp only [Panics] at grown
                  simp only [meets_privateFile, wired, grown, reduceCtorEq, false_or,
                    Option.some.injEq, forall_eq']
                  constructor
                  · rintro ⟨-, -, -, -, -, starved⟩
                    exact starved
                  · intro starved
                    exact ⟨f, fp, rfl, file, valid, starved⟩

theorem panics_synSentNonLocalServers :
    Panics (synSentNonLocalServers env t c seg) ↔ FatalSynSent env t c seg := by
  have connected (c : Connection) := @panics_connectClient env t c
  simp only [Panics] at connected ⊢
  simp only [synSentNonLocalServers, sendTcp_answer, fails_ite, fails_pure, fails_bind, fails_ok,
    meets_ok, connected, meets_false, FatalSynSent]
  grind

theorem panics_gramnetHandleHttp : ¬Panics (gramnetHandleHttp env t c seg) := by
  have sent (s : TcpSend) := panics_sendTcp env s
  unfold gramnetHandleHttp
  simp only [Panics] at sent ⊢
  split
  · exact fails_pure
  · simp [sent, meets_false]

theorem panics_synSentKd : ¬Panics (synSentKd env t c seg) := by
  simp [Panics, synSentKd, sendTcp_answer]

theorem panics_kdServer : ¬Panics (kdServer env t c seg) := by
  have page := @panics_gramnetHandleHttp env t (requested c seg) seg
  have closing : ¬Panics (finWait1Kd env t c seg) := by
    simp only [Panics, finWait1Kd, sendTcp_answer, fails_ite, fails_pure, fails_bind, fails_ok,
      meets_ok]
    grind
  unfold kdServer
  simp only [Panics] at page closing ⊢
  cases c.status with
  | established => simp [page]
  | finWait1 => simp [closing]
  | _ => simp

theorem panics_block {handler : Handler} :
    Panics (block handler env t c seg) ↔ FatalBlock handler env t c seg := by
  have quiet (handled : Handled) : ¬Panics (pure handled) := fails_pure
  cases handler with
  | synSentKd => exact iff_of_false panics_synSentKd id
  | kdServer => exact iff_of_false panics_kdServer id
  | localServers =>
      unfold block localServers FatalBlock
      cases c.status with
      | established => exact panics_establishedLocalServers
      | closed => exact panics_onClosed
      | _ => exact iff_of_false (quiet _) id
  | nonLocalServers =>
      unfold block nonLocalServers FatalBlock
      cases c.status with
      | closed => exact panics_onClosed
      | synSent => exact panics_synSentNonLocalServers
      | established => exact panics_establishedNonLocalServers
      | _ => exact iff_of_false (quiet _) id

end Blocks

section Openings

variable {env : Env} {t : Tables} {seg : Segment}

theorem server_none (t : Tables) (port : UInt16) :
    socketGetTcpserverSocketByPort t port = none ↔ isItALocalServer t port = false := by
  simp [socketGetTcpserverSocketByPort, isItALocalServer]

theorem panics_enqueueClient (listener client conn : Nat) :
    ¬Panics (enqueueClient t listener client conn) := by
  have stored (sk : Socket) : ¬Panics (synBacklog sk client) := by
    unfold synBacklog storePending
    simp only [Panics]
    split_ifs <;> simp
  simp only [Panics] at stored ⊢
  simp only [enqueueClient, fails_bind, fails_need, stored, fails_pure, isPanic_fault,
    meets_false, and_false, or_false, not_false_eq_true]

theorem panics_plugKdClient {id : Nat} {conn : Connection} :
    Panics (plugKdClient env t seg id conn) ↔
      env.heap.left < 6 ∧ (env.heap.panics = true ∨ env.heap.left = 4) := by
  have taken (listener : Option Nat) (client : Nat) (u : Tables) :
      ¬Panics (enqueueKdClient u listener client id) := by
    cases listener with
    | none => exact fails_pure
    | some listener => exact panics_enqueueClient listener client id
  have sent (s : TcpSend) := panics_sendTcp env s
  have pair := @panics_kmalloc env.heap 2
  have memory (n : Nat) (stop : Stop) := @panics_kmallocOr env.heap n stop
  simp only [Panics] at taken sent pair memory ⊢
  simp only [plugKdClient, fails_bind, fails_ite, fails_pure, pair, memory, meets_kmalloc,
    meets_kmallocOr, taken, sent, meets_false, isPanic_fault, isPanic_panic, or_false, false_or,
    and_false, not_true_eq_false, Bool.false_eq_true, not_false_eq_true, false_and]
  grind

theorem panics_plugRemoteClient {id : Nat} {conn : Connection} :
    Panics (plugRemoteClient env t seg id conn) ↔
      (env.heap.left < 8 ∧ (env.heap.panics = true ∨ env.heap.left ∈ [4, 5, 6])) ∨
        (8 ≤ env.heap.left ∧ isItALocalServer t seg.dport = false) := by
  have taken (listener client : Nat) (u : Tables) := @panics_enqueueClient u listener client id
  have sent (s : TcpSend) := panics_sendTcp env s
  have pair := @panics_kmalloc env.heap 2
  have memory (n : Nat) (stop : Stop) := @panics_kmallocOr env.heap n stop
  have missing (sockets : List Socket) (files : List SocketFile) :
      socketGetTcpserverSocketByPort { t with sockets := sockets, files := files }
        seg.dport = none ↔
        isItALocalServer t seg.dport = false := server_none _ _
  simp only [Panics] at taken sent pair memory ⊢
  simp only [plugRemoteClient, fails_bind, fails_need, fails_ite, fails_pure, pair, memory,
    meets_kmalloc, meets_kmallocOr, taken, sent, meets_false, isPanic_fault, isPanic_panic,
    or_false, false_or, and_false, not_true_eq_false, Bool.false_eq_true, not_false_eq_true,
    false_and, and_true, List.mem_cons, List.not_mem_nil, missing]
  grind

/-- A connection is created and registered before the rest of an opening. -/
def openWith (env : Env) (t : Tables) (conn : Connection)
    (plug : Tables → Except Stop (List TcpSend × Tables)) :
    Except Stop (List TcpSend × Tables) := do
  if ¬(← createConnection env.heap) then
    pure ([], t)
  else
    match connectionRegister t conn with
    | none => pure ([], t)
    | some registered => plug registered

theorem panics_openWith {conn : Connection} {plug : Tables → Except Stop (List TcpSend × Tables)}
    {bad : Prop}
    (plugged : Panics (plug { t with connectionList := t.connectionList ++ [conn] }) ↔ bad) :
    Panics (openWith env t conn plug) ↔ (env.heap.left < 2 ∧ env.heap.panics = true) ∨
      (2 ≤ env.heap.left ∧ t.connectionList.length < maxConnections ∧ bad) := by
  have created := @panics_createConnection env.heap
  unfold openWith connectionRegister
  by_cases slot : t.connectionList.length < maxConnections
  · simp only [Panics] at plugged created ⊢
    simp only [slot, if_true, fails_bind, fails_ite, fails_pure, meets_createConnection, created,
      plugged]
    grind
  · simp only [Panics] at created ⊢
    simp only [slot, if_false, fails_bind, fails_ite, fails_pure, meets_createConnection, created]
    grind

theorem panics_kdClientSentSyn :
    Panics (kdClientSentSyn env t seg) ↔ Starved env t 6 [4] := by
  have opened : kdClientSentSyn env t seg =
      openWith env t (synReceivedConnection seg ⟨0, 0, 0, 0, 0, 0⟩) fun registered =>
        plugKdClient env registered seg t.connectionList.length
          (synReceivedConnection seg ⟨0, 0, 0, 0, 0, 0⟩) := rfl
  rw [opened, panics_openWith panics_plugKdClient, Starved]
  grind

theorem panics_remoteClientSentSyn (ports : ¬(seg.dport = 443 ∨ seg.dport = 80)) :
    Panics (remoteClientSentSyn env t seg) ↔ Starved env t 8 [4, 5, 6] ∨
      (8 ≤ env.heap.left ∧ t.connectionList.length < maxConnections ∧
        isItALocalServer t seg.dport = false) := by
  have opened : remoteClientSentSyn env t seg =
      openWith env t (synReceivedConnection seg env.saved.callerMac) fun registered =>
        plugRemoteClient env registered seg t.connectionList.length
          (synReceivedConnection seg env.saved.callerMac) := if_neg ports
  rw [opened, panics_openWith panics_plugRemoteClient, Starved]
  grind [isItALocalServer]

theorem panics_networkHandleTcp (env : Env) (t : Tables) (seg : Segment) :
    Panics (Tcp.networkHandleTcp env t seg) ↔ FatalSegment env t seg := by
  unfold FatalSegment
  cases acts : acting t seg with
  | some found =>
      rcases found with ⟨handler, i⟩
      rw [networkHandleTcp_acting env acts]
      have blocked (c : Connection) := @panics_block env t c seg handler
      simp only [Panics] at blocked ⊢
      simp only [onConnection, fails_bind, fails_need, meets_need, blocked, fails_pure,
        isPanic_fault,
        meets_false, and_false, false_or, or_false]
  | none =>
      rw [networkHandleTcp_idle env acts]
      by_cases opening : opens t seg
      · by_cases kd : seg.dport = kdPort
        · simp only [opening, kd, if_true, FatalOpening, true_and]
          exact panics_kdClientSentSyn
        · have allowed : allowThisPort seg.dport := by
            by_contra refused
            simp [opens, kd, ignored, refused] at opening
          simp only [opening, kd, if_true, if_false, FatalOpening, true_and]
          exact panics_remoteClientSentSyn (allowed_ports allowed)
      · simp [opening, Panics]

end Openings

end Gramado.Net.SegmentPanics
