/-
What a process reads from an established connection, over whole runs of
received segments and `tcp_socket_recv` calls: a prefix of what the peer sent.
The file of the socket holds what was received from its first byte on; nothing
is ever taken out of it.
-/
import Gramado.Lib.Machine
import Gramado.Net.Reactions

namespace Gramado.Net.InOrder

open Gramado.Ke Gramado.Lib.Bytes Gramado.Lib.Fallible Gramado.Lib.Machine Gramado.Lib.Traced
open Gramado.Net.Parse Gramado.Net.Tcp Gramado.Net.Calls Gramado.Net.Reactions

/-- What `copyTcpPayload` leaves of the bytes behind the header. -/
def copied (wire : List UInt8) : List UInt8 :=
  cut wire (min wire.length 1398)

/-- A segment with the bytes that lie behind its header of 20 bytes. -/
structure Arrival where
  seg : Segment
  wire : List UInt8
  copy : seg.payload = copied wire

inductive Event where
  | segment (env : Env) (arrival : Arrival)
  | recv (len : Nat)

/-- A segment that the handler takes to the connection, or a call of the
    process on its socket. -/
def take (handler : Handler) (i k : Nat) (t : Tables) : Event → Except Stop (List UInt8 × Tables)
  | .segment env arrival => do
      let (_, t) ← onConnection t i fun c => block handler env t c arrival.seg
      pure ([], t)
  | .recv len => do
      let (answer, t) ← tcpSocketRecv t k len
      pure (answer.bytes, t)

/-- The handlers act on the data of a segment. -/
def takes (c : Connection) (seg : Segment) : Bool :=
  c.status = .established && !seg.rst && !seg.syn && seg.isAck && seg.seq == c.rcvNxt

/-- What was handed to the process, and whether a FIN was taken in order. -/
structure Seen where
  handed : List UInt8
  finished : Bool

def note (i : Nat) (seen : Seen) (t : Tables) (event : Event) (out : List UInt8 × Tables) :
    Seen where
  handed := seen.handed ++ out.1
  finished := seen.finished ||
    match event with
    | .segment _ arrival =>
        arrival.seg.fin && (t.connectionList[i]?.map (takes · arrival.seg)).getD false
    | .recv _ => false

/-- The place in the stream that a sequence number names. -/
def place (c : Connection) (seq : UInt32) : Nat :=
  (seq - (c.irs + 1)).toNat

/-- The byte of the stream is in the file, at its place. -/
def Stored (stream : List UInt8) (fp : SocketFile) (b : Nat) : Prop :=
  (b : Int) < fp.w ∧ b < fp.base.length ∧ fp.base[b]? = stream[b]?

/-- All of the first `n` numbers are of stored bytes, or of the FIN behind the
    last one. -/
def Passed (stream : List UInt8) (fp : SocketFile) (finished : Bool) (n : Nat) : Prop :=
  ∀ b < n, Stored stream fp b ∨ (b = stream.length ∧ finished)

/-- The claim in one state: the process has got a prefix of the stream, no more
    than was received in order, and `rcv_nxt` has passed nothing that is not
    stored. -/
def Delivered (stream : List UInt8) (seen : Seen) (c : Connection) (fp : SocketFile) : Prop :=
  seen.handed <+: stream ∧ seen.handed.length ≤ place c c.rcvNxt ∧
    Passed stream fp seen.finished (place c c.rcvNxt)

def DeliveredAt (stream : List UInt8) (i f : Nat) (seen : Seen) (t : Tables) : Prop :=
  ∀ c fp, t.connectionList[i]? = some c → t.files[f]? = some fp → Delivered stream seen c fp

/-- What a segment has to be like to go on at the place `n` of the stream:
    there is room for all of it, and a FIN stands at the end. -/
def Continues (stream : List UInt8) (fp : SocketFile) (n : Nat) (payload : List UInt8)
    (fin : Bool) : Prop :=
  payload.length ≤ fp.cnt.toNat ∧ payload <+: stream.drop n ∧
    (fin → n + payload.length = stream.length)

/-- A call that gets as far as the file. -/
def Reads (c : Connection) (sk : Socket) (len : Nat) : Prop :=
  len ≠ 0 ∧ sk.state = .connected ∧
    c.status = if c.isLocalServer then .established else .closeWait

/-- The condition on an event: what is copied of a segment that is taken goes on
    where its sequence number says, and where nothing was received yet, `_fsize`
    is zero when the file is read. -/
def Proper (stream : List UInt8) (i k f : Nat) (t : Tables) (event : Event) : Prop :=
  ∀ c sk fp, t.connectionList[i]? = some c → t.sockets[k]? = some sk → t.files[f]? = some fp →
    match event with
    | .segment _ arrival => takes c arrival.seg →
        Continues stream fp (place c arrival.seg.seq) (copied arrival.wire) arrival.seg.fin
    | .recv len => Reads c sk len → fp.w = 0 → fp.fsize = 0

section Files

variable {env : Env} {t : Tables} {c : Connection} {seg : Segment} {i k f : Nat}
  {sk : Socket} {fp : SocketFile}

def rewound (fin : Bool) (fp : SocketFile) : SocketFile :=
  if fin then { fp with r := 0 } else fp

/-- What a segment in order makes of the file. -/
def receiveFile (fp : SocketFile) (seg : Segment) : Except Stop SocketFile := do
  let fp ← storePayload fp seg.payload
  pure (rewound seg.fin fp)

/-- The socket of the connection, and its file. -/
def Owns (t : Tables) (i k f : Nat) : Prop :=
  ∃ sk, t.sockets[k]? = some sk ∧ sk.conn = some i ∧ sk.privateFile = some f

theorem owns_setState {j : Nat} {state : SocketState} (owns : Owns t i k f) :
    Owns (t.setState j state) i k f := by
  rcases owns with ⟨sk, found, conn, file⟩
  by_cases same : j = k
  · subst same
    exact ⟨{ sk with state := state }, by simp [Tables.setState, found], conn, file⟩
  · exact ⟨sk, by simp [Tables.setState, same, found], conn, file⟩

/-- The tables after a segment that is taken, or not. -/
def Received (taken : Prop) (i k f : Nat) (fp : SocketFile) (seg : Segment) (after : Tables) :
    Prop :=
  Owns after i k f ∧
    ((taken ∧ ∃ fp', receiveFile fp seg = .ok fp' ∧ after.files[f]? = some fp') ∨
      (¬taken ∧ after.files[f]? = some fp))

theorem clientFile_received {taken : Prop} {state : SocketState}
    (received : Received taken i k f fp seg t) :
    Returns (clientFile t c state) (Received taken i k f fp seg) := by
  simp only [clientFile, returns_bind, returns_need, returns_pure]
  intro _ _ _ _ _ _
  exact ⟨owns_setState received.1, received.2⟩

theorem receivePayload_received (owns : Owns t i k f) (file : t.files[f]? = some fp)
    (own : sk.privateFile = some f) :
    Returns (receivePayload t k sk seg) (Received True i k f fp seg) := by
  refine returns_bind.mpr ?_
  rintro ⟨f', fp₀⟩ looked
  refine returns_bind.mpr fun stored stores => returns_pure.mpr ?_
  have same : f' = f ∧ fp₀ = fp := by
    simp only [privateFile, own, need, file, bind, Except.bind] at looked
    split at looked
    · cases looked
      exact ⟨rfl, rfl⟩
    · cases looked
  rcases same with ⟨rfl, rfl⟩
  have inside : f' < t.files.length := (List.getElem?_eq_some_iff.mp file).1
  have received : receiveFile fp₀ seg = .ok (rewound seg.fin stored) := by
    rw [receiveFile, stores]
    rfl
  by_cases fin : seg.fin
  · simp only [fin, rewound, if_true] at received ⊢
    refine ⟨owns_setState owns, Or.inl ⟨trivial, _, received, ?_⟩⟩
    simp [Tables.setState, Tables.setFile, inside]
  · simp only [fin, rewound] at received ⊢
    refine ⟨owns, Or.inl ⟨trivial, _, received, ?_⟩⟩
    simp [Tables.setFile, inside]

theorem not_received (taken : Prop) (not : ¬taken) (owns : Owns t i k f)
    (file : t.files[f]? = some fp) : Received taken i k f fp seg t :=
  ⟨owns, Or.inr ⟨not, file⟩⟩

theorem received_order {after : Tables} (order : seg.seq = c.rcvNxt)
    (received : Received True i k f fp seg after) :
    Received (seg.seq = c.rcvNxt) i k f fp seg after := by
  simpa only [order] using received

theorem inOrderLocalServers_received (owns : Owns t i k f) (file : t.files[f]? = some fp)
    (client : c.clientSocket = some k) :
    Returns (inOrderLocalServers t c seg) fun out =>
      Received (seg.seq = c.rcvNxt) i k f fp seg out.2 := by
  refine returns_ite.mpr ⟨fun order => ?_, fun gap => ?_⟩
  · refine returns_ite.mpr ⟨fun _ => returns_error.mpr trivial, fun _ => ?_⟩
    refine returns_bind.mpr (returns_need.mpr fun j found => ?_)
    cases client.symm.trans found
    refine returns_bind.mpr (returns_need.mpr fun sk socket => ?_)
    have own : sk.privateFile = some f := by
      rcases owns with ⟨sk', socket', -, own⟩
      cases socket'.symm.trans socket
      exact own
    refine returns_of_bind (receivePayload_received (owns_setState owns) file own) ?_
    exact fun _ received => returns_pure.mpr (received_order order received)
  · exact returns_pure.mpr (not_received _ gap owns file)

theorem inOrderNonLocalServers_received (owns : Owns t i k f) (file : t.files[f]? = some fp)
    (client : c.clientSocket = some k) (role : c.isLocalServer = false) :
    Returns (inOrderNonLocalServers t c seg) fun out =>
      Received (seg.seq = c.rcvNxt) i k f fp seg out.2 := by
  refine returns_ite.mpr ⟨fun order => ?_, fun gap => ?_⟩
  · refine returns_bind.mpr (returns_need.mpr fun j found => ?_)
    have here : (behind c seg).clientSocket = some j := by
      simpa [behind, role] using found
    cases client.symm.trans here
    refine returns_bind.mpr (returns_need.mpr fun sk socket => ?_)
    have own : sk.privateFile = some f := by
      rcases owns with ⟨sk', socket', -, own⟩
      cases socket'.symm.trans socket
      exact own
    refine returns_of_bind (receivePayload_received owns file own) ?_
    exact fun _ received => returns_pure.mpr (received_order order received)
  · exact returns_pure.mpr (not_received _ gap owns file)

theorem takes_iff (established : c.status = .established) : takes c seg ↔
    ¬seg.rst ∧ ¬seg.syn ∧ seg.isAck ∧ seg.seq = c.rcvNxt := by
  simp [takes, established]
  grind

theorem established_received {handler : Handler} (owns : Owns t i k f)
    (file : t.files[f]? = some fp) (client : c.clientSocket = some k)
    (which : handler = .localServers ∨ (handler = .nonLocalServers ∧ c.isLocalServer = false))
    (established : c.status = .established) :
    Returns (block handler env t c seg) fun handled =>
      Received (takes c seg) i k f fp seg handled.tables := by
  have refused : ∀ conn, ¬takes c seg → Returns (pure ⟨[], conn, t⟩ : Except Stop Handled)
      fun handled => Received (takes c seg) i k f fp seg handled.tables :=
    fun _ out => returns_pure.mpr (not_received _ out owns file)
  have acts : takes c seg ↔ ¬seg.rst ∧ ¬seg.syn ∧ seg.isAck ∧ seg.seq = c.rcvNxt :=
    takes_iff established
  rcases which with rfl | ⟨rfl, role⟩
  · simp only [block, localServers, established]
    refine returns_ite.mpr ⟨fun rst => refused _ (by simp [acts, rst]), fun rst => ?_⟩
    refine returns_ite.mpr ⟨fun syn => refused _ (by simp [acts, syn]), fun syn => ?_⟩
    refine returns_ite.mpr ⟨fun plain => refused _ (by simp [acts, plain]), fun ack => ?_⟩
    have order : takes c seg ↔ seg.seq = (acknowledged c seg).rcvNxt := by
      rw [acts]
      simp [acknowledged, rst, syn, not_not.mp ack]
    refine returns_of_bind (inOrderLocalServers_received owns file client) ?_
    rintro ⟨c', t'⟩ received
    rw [← order] at received
    refine returns_ite.mpr ⟨fun _ => ?_, fun _ => returns_pure.mpr received⟩
    exact returns_of_bind (clientFile_received received) fun _ after => returns_pure.mpr after
  · simp only [block, nonLocalServers, established]
    refine returns_ite.mpr ⟨fun rst => refused _ (by simp [acts, rst]), fun rst => ?_⟩
    refine returns_ite.mpr ⟨fun syn => refused _ (by simp [acts, syn]), fun syn => ?_⟩
    refine returns_ite.mpr ⟨fun plain => refused _ (by simp [acts, plain]), fun ack => ?_⟩
    have order : takes c seg ↔ seg.seq = (acknowledged c seg).rcvNxt := by
      rw [acts]
      simp [acknowledged, rst, syn, not_not.mp ack]
    refine returns_of_bind (inOrderNonLocalServers_received owns file client role) ?_
    rintro ⟨c', t'⟩ received
    rw [← order] at received
    refine returns_bind.mpr fun sent _ => ?_
    refine returns_ite.mpr ⟨fun _ => returns_pure.mpr received, fun _ => ?_⟩
    refine returns_ite.mpr ⟨fun _ => ?_, fun _ => returns_pure.mpr received⟩
    exact returns_of_bind (clientFile_received received) fun _ after => returns_pure.mpr after

/-- What the blocks do to the file of a connection that is established, or was. -/
theorem block_received {handler : Handler} (owns : Owns t i k f) (file : t.files[f]? = some fp)
    (client : c.clientSocket = some k)
    (which : handler = .localServers ∨ (handler = .nonLocalServers ∧ c.isLocalServer = false))
    (status : c.status = .established ∨ c.status = .closeWait ∨ c.status = .closed) :
    Returns (block handler env t c seg) fun handled =>
      Received (takes c seg) i k f fp seg handled.tables := by
  by_cases established : c.status = .established
  · exact established_received owns file client which established
  · have still : Received (takes c seg) i k f fp seg t :=
      not_received _ (by simp [takes, established]) owns file
    have closed : Returns (onClosed env t c seg) fun handled =>
        Received (takes c seg) i k f fp seg handled.tables := by
      refine returns_ite.mpr ⟨fun _ => returns_pure.mpr still, fun _ => ?_⟩
      refine returns_ite.mpr ⟨fun _ => returns_pure.mpr still, fun _ => ?_⟩
      refine returns_bind.mpr fun sent _ => ?_
      refine returns_ite.mpr ⟨fun _ => returns_pure.mpr still, fun _ => ?_⟩
      exact returns_of_bind (clientFile_received still) fun _ after => returns_pure.mpr after
    rcases status with open_ | waits | past
    · exact absurd open_ established
    · rcases which with rfl | ⟨rfl, -⟩
      · simp only [block, localServers, waits]
        exact returns_pure.mpr still
      · simp only [block, nonLocalServers, waits]
        exact returns_pure.mpr still
    · rcases which with rfl | ⟨rfl, -⟩
      · simpa only [block, localServers, past] using closed
      · simpa only [block, nonLocalServers, past] using closed

end Files

section Storing

variable {stream payload : List UInt8} {fp : SocketFile} {w n : Nat} {fin finished : Bool}

/-- The file holds the first `w` bytes of the stream. -/
structure Holding (stream : List UInt8) (fp : SocketFile) (w : Nat) : Prop where
  position : fp.w = w
  inside : w ≤ fp.base.length
  size : fp.base.length < 2 ^ 31
  room : fp.cnt = (fp.base.length : Int) - w
  sent : w ≤ stream.length
  same : fp.base.take w = stream.take w
  filled : w ≠ 0 → fp.fsize = w

theorem Holding.room_eq (holding : Holding stream fp w) :
    fp.cnt.toNat = fp.base.length - w := by
  have inside := holding.inside
  rw [holding.room]
  omega

theorem Holding.stored {b : Nat} (holding : Holding stream fp w) (below : b < w) :
    Stored stream fp b := by
  have inside := holding.inside
  refine ⟨by rw [holding.position]; exact_mod_cast below, by omega, ?_⟩
  rw [← List.getElem?_take_of_lt below, holding.same, List.getElem?_take_of_lt below]

/-- The file with a payload behind what it holds. -/
def extended (fp : SocketFile) (w : Nat) (payload : List UInt8) : SocketFile :=
  { fp with
    base := poke fp.base w payload
    w := w + payload.length
    fsize := w + payload.length
    cnt := fp.base.length - (w + payload.length) }

theorem storePayload_full (full : fp.cnt.toNat < payload.length) :
    storePayload fp payload = .ok fp :=
  if_pos full

theorem storePayload_nil : storePayload fp [] = .ok fp := by
  simp [storePayload]
  rfl

theorem storePayload_extended (holding : Holding stream fp w)
    (fits : payload.length ≤ fp.cnt.toNat) (some : payload ≠ []) :
    storePayload fp payload = .ok (extended fp w payload) := by
  have nonempty : payload.length ≠ 0 := fun none => some (List.length_eq_zero_iff.mp none)
  have inside : (0 : Int) ≤ w ∧ ((w : Int)).toNat + payload.length ≤ fp.base.length := by
    have left := holding.inside
    rw [holding.room_eq] at fits
    omega
  simp only [storePayload, Nat.not_lt.mpr fits, if_false, nonempty, holding.position, inside,
    and_self, if_true]
  rfl

theorem take_poke {base : List UInt8} (inside : w ≤ base.length) :
    (poke base w payload).take (w + payload.length) = base.take w ++ payload := by
  have front : (base.take w ++ payload).length = w + payload.length := by
    rw [List.length_append, List.length_take, Nat.min_eq_left inside]
  rw [poke, ← front, List.take_left']
  rfl

theorem extended_holding (holding : Holding stream fp w) (fits : payload.length ≤ fp.cnt.toNat)
    (continues : payload <+: stream.drop w) :
    Holding stream (extended fp w payload) (w + payload.length) := by
  have left := holding.inside
  rw [holding.room_eq] at fits
  have there : w + payload.length ≤ fp.base.length := by omega
  have long := continues.length_le
  have start := holding.sent
  rw [List.length_drop] at long
  constructor
  · simp [extended]
  · simpa [extended, length_poke there] using there
  · simpa [extended, length_poke there] using holding.size
  · simp [extended, length_poke there]
  · omega
  · rw [extended, take_poke left, holding.same]
    rcases continues with ⟨rest, whole⟩
    have split : stream = stream.take w ++ (payload ++ rest) := by
      rw [whole, List.take_append_drop]
    have front : (stream.take w ++ payload).length = w + payload.length := by
      rw [List.length_append, List.length_take, Nat.min_eq_left start]
    conv_rhs => rw [split, ← List.append_assoc, ← front, List.take_left']
  · simp [extended]

/-- `rcv_nxt` stands behind what is stored, or behind the FIN that follows. -/
def Numbered (stream : List UInt8) (finished : Bool) (w n : Nat) : Prop :=
  (n = w ∧ finished = false) ∨ (n = w + 1 ∧ w = stream.length ∧ finished = true)

theorem passed_of_numbered (holding : Holding stream fp w)
    (numbered : Numbered stream finished w n) : Passed stream fp finished n := by
  intro b below
  rcases numbered with ⟨rfl, -⟩ | ⟨rfl, last, done⟩
  · exact Or.inl (holding.stored below)
  · by_cases inside : b < w
    · exact Or.inl (holding.stored inside)
    · exact Or.inr ⟨by omega, done⟩

theorem rewound_holding (holding : Holding stream fp w) : Holding stream (rewound fin fp) w := by
  cases fin with
  | false => exact holding
  | true => exact ⟨holding.position, holding.inside, holding.size, holding.room, holding.sent,
      holding.same, holding.filled⟩

theorem stored_rewound {b : Nat} : Stored stream (rewound fin fp) b ↔ Stored stream fp b := by
  cases fin <;> exact Iff.rfl

theorem receiveFile_cases {seg : Segment} {fp' : SocketFile} (holding : Holding stream fp w)
    (received : receiveFile fp seg = .ok fp') :
    (fp.cnt.toNat < seg.payload.length ∧ fp' = rewound seg.fin fp) ∨
      (seg.payload = [] ∧ fp' = rewound seg.fin fp) ∨
      (seg.payload.length ≤ fp.cnt.toNat ∧ seg.payload ≠ [] ∧
        fp' = rewound seg.fin (extended fp w seg.payload)) := by
  have result : ∀ {stores}, storePayload fp seg.payload = .ok stores →
      fp' = rewound seg.fin stores := by
    intro stores stored
    rw [receiveFile, stored] at received
    cases received
    rfl
  by_cases full : fp.cnt.toNat < seg.payload.length
  · exact Or.inl ⟨full, result (storePayload_full full)⟩
  · by_cases empty : seg.payload = []
    · refine Or.inr (Or.inl ⟨empty, result ?_⟩)
      rw [empty]
      exact storePayload_nil
    · have fits := Nat.not_lt.mp full
      exact Or.inr (Or.inr ⟨fits, empty, result (storePayload_extended holding fits empty)⟩)

/-- The sequence numbers that a segment takes up. -/
def spans (seg : Segment) : Nat :=
  seg.payload.length + if seg.fin then 1 else 0

theorem continues_keeps {seg : Segment} {fp' : SocketFile} (holding : Holding stream fp w)
    (numbered : Numbered stream finished w n) (received : receiveFile fp seg = .ok fp')
    (continues : Continues stream fp n seg.payload seg.fin) :
    ∃ w', w ≤ w' ∧ Holding stream fp' w' ∧
      Numbered stream (finished || seg.fin) w' (n + spans seg) := by
  rcases continues with ⟨fits, next, last⟩
  unfold spans
  rcases receiveFile_cases holding received with ⟨full, -⟩ | ⟨empty, rfl⟩ | ⟨-, some, rfl⟩
  · omega
  · refine ⟨w, Nat.le_refl w, rewound_holding holding, ?_⟩
    rw [empty] at last ⊢
    unfold Numbered at numbered ⊢
    cases fin : seg.fin with
    | false => simpa using numbered
    | true =>
        have ends := last fin
        rcases numbered with ⟨rfl, -⟩ | ⟨rfl, done, -⟩
        · exact Or.inr ⟨by simp, by simpa using ends, by simp⟩
        · simp only [List.length_nil] at ends
          omega
  · rcases numbered with ⟨rfl, fresh⟩ | ⟨rfl, done, -⟩
    · refine ⟨n + seg.payload.length, by omega,
        rewound_holding (extended_holding holding fits next), ?_⟩
      cases fin : seg.fin with
      | false => exact Or.inl ⟨by simp, by simp [fresh]⟩
      | true => exact Or.inr ⟨rfl, last fin, by simp⟩
    · rw [List.drop_eq_nil_of_le (by omega)] at next
      exact absurd (List.prefix_nil.mp next) some

theorem getElem?_poke {base : List UInt8} {j : Nat} (inside : w ≤ base.length)
    (below : j < payload.length) : (poke base w payload)[w + j]? = payload[j]? := by
  have front : (base.take w).length = w := by
    rw [List.length_take, Nat.min_eq_left inside]
  rw [poke, List.append_assoc, List.getElem?_append_right (by omega), front,
    Nat.add_sub_cancel_left,
    List.getElem?_append_left below]

/-- Where a taken segment is not like that, `rcv_nxt` passes a byte that is not
    stored. -/
theorem continues_of_passed {seg : Segment} {fp' : SocketFile} (holding : Holding stream fp w)
    (numbered : Numbered stream finished w n) (received : receiveFile fp seg = .ok fp')
    (passed : Passed stream fp' (finished || seg.fin) (n + spans seg)) :
    Continues stream fp n seg.payload seg.fin := by
  -- A number behind the stored bytes is the FIN's, and there is only one.
  have beyond : ∀ b : Nat, fp'.w ≤ (b : Int) → b < n + spans seg →
      b = stream.length ∧ (finished || seg.fin) := by
    intro b above below
    rcases passed b below with stored | last
    · exact absurd stored.1 (Int.not_lt.mpr above)
    · exact last
  have kept : ∀ fp, (rewound seg.fin fp).w = fp.w := by
    intro fp
    unfold rewound
    split <;> rfl
  unfold spans at beyond
  rcases receiveFile_cases holding received with ⟨full, rfl⟩ | ⟨empty, rfl⟩ | ⟨fits, some, rfl⟩
  · rw [kept, holding.position] at beyond
    rcases numbered with ⟨rfl, fresh⟩ | ⟨rfl, done, -⟩
    · have first := beyond n (by omega) (by omega)
      have fin : seg.fin := by simpa [fresh] using first.2
      have second := beyond (n + 1) (by omega) (by rw [if_pos fin]; omega)
      omega
    · have next := beyond (w + 1) (by omega) (by omega)
      omega
  · rw [kept, holding.position] at beyond
    refine ⟨by simp [empty], by simp [empty], fun fin => ?_⟩
    rw [if_pos fin] at beyond
    rw [empty, List.length_nil] at beyond ⊢
    rcases numbered with ⟨rfl, -⟩ | ⟨rfl, done, -⟩
    · exact (beyond n (by omega) (by omega)).1
    · have next := beyond (w + 1) (by omega) (by omega)
      omega
  · have behind : (rewound seg.fin (extended fp w seg.payload)).w = w + seg.payload.length := kept _
    rw [behind] at beyond
    have nonempty : 0 < seg.payload.length := List.length_pos_iff.mpr some
    rcases numbered with ⟨rfl, fresh⟩ | ⟨rfl, done, -⟩
    · have fin_last : seg.fin → n + seg.payload.length = stream.length := by
        intro fin
        rw [if_pos fin] at beyond
        exact (beyond (n + seg.payload.length) (by omega) (by omega)).1
      refine ⟨fits, ?_, fin_last⟩
      rw [List.prefix_iff_getElem?]
      intro j below
      rw [List.getElem?_drop]
      rcases passed (n + j) (by unfold spans; omega) with stored | ⟨last, fin⟩
      · have same := (stored_rewound.mp stored).2.2
        rw [extended, getElem?_poke holding.inside below] at same
        rw [← same, List.getElem?_eq_getElem below]
      · have ends := fin_last (by simpa [fresh] using fin)
        omega
    · rcases passed (w + 1) (by unfold spans; omega) with stored | ⟨last, -⟩
      · rcases stored_rewound.mp stored with ⟨-, inside, same⟩
        rw [List.getElem?_eq_getElem inside, List.getElem?_eq_none (by omega)] at same
        cases same
      · omega

end Storing

section Reading

variable {stream : List UInt8} {fp : SocketFile} {r w len : Nat}

theorem Holding.slice {m : Nat} (holding : Holding stream fp w) (inside : r + m ≤ w) :
    peek fp.base r m = (stream.drop r).take m := by
  have left := holding.inside
  have part : ∀ list : List UInt8, (list.drop r).take m = ((list.take w).drop r).take m := by
    intro list
    rw [List.drop_take, List.take_take, Nat.min_eq_left (by omega)]
  rw [peek_eq_take_drop (by omega), part, holding.same, ← part]

theorem readFile_held (holding : Holding stream fp w) (reader : fp.r = r) (below : r ≤ w)
    (settled : fp.w = 0 → fp.fsize = 0) :
    Returns (readFile fp len) fun out => ∃ m, out.1 = (stream.drop r).take m ∧ r + m ≤ w ∧
      Holding stream out.2 w ∧ out.2.r = ((r + m : Nat) : Int) := by
  have fsize : fp.fsize = w := by
    by_cases none : w = 0
    · subst none
      exact settled holding.position
    · exact holding.filled none
  have size := holding.size
  have inside := holding.inside
  have available : fp.fsize - fp.r = ((w - r : Nat) : Int) := by
    rw [fsize, reader]
    omega
  have copied : ∃ m : Nat, (if (len : Int) < ((w - r : Nat) : Int) then (len : Int) else
      ((w - r : Nat) : Int)) = (m : Int) ∧ r + m ≤ w := by
    split
    · exact ⟨len, rfl, by omega⟩
    · exact ⟨w - r, rfl, by omega⟩
  rcases copied with ⟨m, copy, short⟩
  simp only [readFile, available, copy]
  refine returns_bind.mpr fun bytes reads => ?_
  have slice : bytes = (stream.drop r).take m := by
    unfold readBuffer at reads
    split at reads
    · rename_i none
      cases reads
      simp [Int.ofNat_eq_zero.mp none]
    · split at reads
      · cases reads
        rw [reader]
        exact holding.slice short
      · cases reads
  subst slice
  have moved : ∀ x y : Int, y = w → Holding stream { fp with r := x, w := y } w := by
    rintro x y rfl
    exact ⟨rfl, inside, size, holding.room, holding.sent, holding.same, holding.filled⟩
  refine returns_ite.mpr ⟨fun ends => returns_pure.mpr ?_, fun more => returns_pure.mpr ?_⟩
  · refine ⟨m, rfl, short, moved _ _ fsize, ?_⟩
    rw [fsize, reader] at ends
    simp only [fsize]
    omega
  · refine ⟨m, rfl, short, ?_, by simp [reader]⟩
    simpa [← holding.position] using moved (fp.r + m) fp.w holding.position

/-- Where `_fsize` was never set, something is handed over that was never
    received. -/
theorem readFile_early (empty : fp.r = 0) (unset : fp.fsize ≠ 0) (some : len ≠ 0) :
    Returns (readFile fp len) fun out => out.1 ≠ [] := by
  simp only [readFile]
  generalize copy : (if (len : Int) < fp.fsize - fp.r then (len : Int) else
    fp.fsize - fp.r) = n
  have moved : n ≠ 0 := by
    split at copy <;> omega
  refine returns_bind.mpr fun bytes reads => ?_
  have nonempty : bytes ≠ [] := by
    unfold readBuffer at reads
    rw [if_neg moved] at reads
    split at reads
    · rename_i inside
      cases reads
      intro none
      have long := congrArg List.length none
      rw [length_peek, List.length_nil] at long
      omega
    · cases reads
  exact returns_ite.mpr ⟨fun _ => returns_pure.mpr nonempty, fun _ => returns_pure.mpr nonempty⟩

end Reading

section Runs

variable {stream : List UInt8} {handler : Handler} {i k f : Nat} {seen : Seen} {t : Tables}
  {c : Connection} {fp : SocketFile} {w : Nat} {env : Env} {seg : Segment} {wired : Bool}

/-- The data of a connection are handed to the process in these statuses. -/
def Open (c : Connection) : Prop :=
  c.status = .established ∨ (c.status = .closeWait ∧ c.isLocalServer = false)

/-- The connection, its file and what was seen of the run, as they go together
    in every state. -/
structure Receiving (stream : List UInt8) (handler : Handler) (i k f : Nat) (seen : Seen)
    (t : Tables) (c : Connection) (fp : SocketFile) (w : Nat) : Prop where
  conn : t.connectionList[i]? = some c
  file : t.files[f]? = some fp
  owns : Owns t i k f
  client : c.clientSocket = some k
  which : handler = .localServers ∨ (handler = .nonLocalServers ∧ c.isLocalServer = false)
  status : c.status = .established ∨ c.status = .closeWait ∨ c.status = .closed
  holding : Holding stream fp w
  numbered : Numbered stream seen.finished w (place c c.rcvNxt)
  handed : seen.handed = stream.take seen.handed.length
  below : seen.handed.length ≤ w
  reader : Open c → fp.r = seen.handed.length
  waiting : c.isLocalServer = false → c.status = .established → seen.handed = []

/-- A connection that was just established, with an empty file. -/
structure Fresh (handler : Handler) (i k f : Nat) (t : Tables) (c : Connection)
    (fp : SocketFile) : Prop where
  conn : t.connectionList[i]? = some c
  file : t.files[f]? = some fp
  owns : Owns t i k f
  client : c.clientSocket = some k
  which : handler = .localServers ∨ (handler = .nonLocalServers ∧ c.isLocalServer = false)
  status : c.status = .established
  position : fp.w = 0
  reader : fp.r = 0
  room : fp.cnt = fp.base.length
  size : fp.base.length < 2 ^ 31

theorem Receiving.delivered (receiving : Receiving stream handler i k f seen t c fp w) :
    DeliveredAt stream i f seen t := by
  intro c' fp' conn file
  cases receiving.conn.symm.trans conn
  cases receiving.file.symm.trans file
  have small := receiving.below
  refine ⟨?_, ?_, passed_of_numbered receiving.holding receiving.numbered⟩
  · rw [receiving.handed]
    exact List.take_prefix _ stream
  · rcases receiving.numbered with ⟨same, -⟩ | ⟨next, -⟩ <;> omega

theorem advanced_receives : (advanced c seg).irs = c.irs ∧
    (advanced c seg).clientSocket = c.clientSocket ∧
    (advanced c seg).isLocalServer = c.isLocalServer ∧
    (advanced c seg).rcvNxt = if seg.seq = c.rcvNxt then
      (if seg.fin then c.rcvNxt + seg.dataLen + 1 else c.rcvNxt + seg.dataLen) else c.rcvNxt := by
  unfold advanced behind
  split <;> exact ⟨rfl, rfl, rfl, rfl⟩

/-- What a taken segment leaves of the connection, and `rcv_nxt` behind it. -/
def ReceivesInto (seg : Segment) (c c' : Connection) : Prop :=
  c'.irs = c.irs ∧ c'.clientSocket = c.clientSocket ∧ c'.isLocalServer = c.isLocalServer ∧
    c'.rcvNxt = if takes c seg then
      (if seg.fin then c.rcvNxt + seg.dataLen + 1 else c.rcvNxt + seg.dataLen) else c.rcvNxt

theorem reactEstablished_receives (answers closes : Bool) (established : c.status = .established) :
    ReceivesInto seg c (reactEstablished answers closes c seg) := by
  have moved : (advanced (acknowledged c seg) seg).irs = c.irs ∧
      (advanced (acknowledged c seg) seg).clientSocket = c.clientSocket ∧
      (advanced (acknowledged c seg) seg).isLocalServer = c.isLocalServer ∧
      (advanced (acknowledged c seg) seg).rcvNxt = if seg.seq = c.rcvNxt then
        (if seg.fin then c.rcvNxt + seg.dataLen + 1 else c.rcvNxt + seg.dataLen)
      else c.rcvNxt := advanced_receives
  have acts : takes c seg ↔ ¬seg.rst ∧ ¬seg.syn ∧ seg.isAck ∧ seg.seq = c.rcvNxt :=
    takes_iff established
  unfold ReceivesInto reactEstablished replied
  grind

theorem receivesInto_self (idle : c.status ≠ .established) : ReceivesInto seg c c := by
  have not : takes c seg = false := by simp [takes, idle]
  exact ⟨rfl, rfl, rfl, by simp [not]⟩

theorem react_receives
    (which : handler = .localServers ∨ (handler = .nonLocalServers ∧ c.isLocalServer = false))
    (status : c.status = .established ∨ c.status = .closeWait ∨ c.status = .closed) :
    ReceivesInto seg c (react handler wired c seg) := by
  rcases which with rfl | ⟨rfl, -⟩
  · rcases status with status | status | status
    · simpa only [react, status] using reactEstablished_receives false true status
    · simpa only [react, status] using receivesInto_self (by simp [status])
    · simpa only [react, status] using receivesInto_self (by simp [status])
  · rcases status with status | status | status
    · simpa only [react, status] using reactEstablished_receives wired wired status
    · simpa only [react, status] using receivesInto_self (by simp [status])
    · simpa only [react, status] using receivesInto_self (by simp [status])

theorem react_fin (established : c.status = .established) (taken : takes c seg) (fin : seg.fin) :
    (react .localServers wired c seg).status = .closeWait := by
  have acts := (takes_iff established).mp taken
  simp [react, established, reactEstablished, acts, fin]

theorem place_moved {irs rcvNxt : UInt32} (short : (rcvNxt - irs).toNat + 1399 < 2 ^ 32) :
    ((if seg.fin then rcvNxt + seg.dataLen + 1 else rcvNxt + seg.dataLen) - irs).toNat =
      (rcvNxt - irs).toNat + spans seg := by
  have small := seg.fits
  have step : (if seg.fin then rcvNxt + seg.dataLen + 1 else rcvNxt + seg.dataLen) - irs =
      (rcvNxt - irs) + UInt32.ofNat (spans seg) := by
    unfold spans Segment.dataLen
    cases seg.fin with
    | true =>
        simp only [if_true, UInt32.ofNat_add]
        show _ = rcvNxt - irs + (UInt32.ofNat seg.payload.length + 1)
        grind
    | false =>
        show rcvNxt + UInt32.ofNat seg.payload.length - irs = _
        grind
  have bound : spans seg ≤ 1399 := by
    unfold spans
    split <;> omega
  have fits : spans seg < 2 ^ 32 := by omega
  rw [step, UInt32.toNat_add, UInt32.toNat_ofNat_of_lt' fits, Nat.mod_eq_of_lt (by omega)]

theorem reactEstablished_status (answers closes : Bool) (established : c.status = .established) :
    (reactEstablished answers closes c seg).status = .established ∨
      (reactEstablished answers closes c seg).status = .closeWait ∨
      (reactEstablished answers closes c seg).status = .closed := by
  have same : (advanced (acknowledged c seg) seg).status = c.status := advanced_status
  unfold reactEstablished replied
  grind

theorem react_status
    (which : handler = .localServers ∨ (handler = .nonLocalServers ∧ c.isLocalServer = false))
    (status : c.status = .established ∨ c.status = .closeWait ∨ c.status = .closed) :
    (react handler wired c seg).status = c.status ∨ (c.status = .established ∧
      ((react handler wired c seg).status = .closeWait ∨
        (react handler wired c seg).status = .closed)) := by
  rcases which with rfl | ⟨rfl, -⟩
  · rcases status with status | status | status
    · simpa only [react, status, true_and] using reactEstablished_status false true status
    · simp only [react, status, true_or]
    · simp only [react, status, true_or]
  · rcases status with status | status | status
    · simpa only [react, status, true_and] using reactEstablished_status wired wired status
    · simp only [react, status, true_or]
    · simp only [react, status, true_or]

theorem segment_received {arrival : Arrival}
    (receiving : Receiving stream handler i k f seen t c fp w) :
    Returns (take handler i k t (.segment env arrival)) fun out =>
      out.1 = [] ∧ out.2.connectionList =
          t.connectionList.set i (react handler env.wired c arrival.seg) ∧
        Received (takes c arrival.seg) i k f fp arrival.seg out.2 := by
  have follows := block_follows handler env t c arrival.seg
  have received : Returns (block handler env t c arrival.seg) fun handled =>
      Received (takes c arrival.seg) i k f fp arrival.seg handled.tables :=
    block_received receiving.owns receiving.file receiving.client receiving.which receiving.status
  simp only [take, onConnection, need, receiving.conn]
  refine returns_bind.mpr (returns_bind.mpr (returns_ok.mpr (returns_bind.mpr ?_)))
  intro handled blocks
  rcases follows handled blocks with ⟨after, same, -⟩
  refine returns_pure.mpr (returns_pure.mpr ⟨rfl, ?_, received handled blocks⟩)
  simp [writeBack, after, same]

theorem receiveFile_reader {fp' : SocketFile} (holding : Holding stream fp w)
    (received : receiveFile fp seg = .ok fp') : fp'.r = if seg.fin then 0 else fp.r := by
  have rewind : ∀ fp, (rewound seg.fin fp).r = if seg.fin then 0 else fp.r := by
    intro fp
    unfold rewound
    split <;> rfl
  rcases receiveFile_cases holding received with ⟨-, rfl⟩ | ⟨-, rfl⟩ | ⟨-, -, rfl⟩
  · exact rewind fp
  · exact rewind fp
  · exact rewind _

theorem receiving_segment {arrival : Arrival} {after : Tables} {seen' : Seen} {fp' : SocketFile}
    {w' : Nat} (receiving : Receiving stream handler i k f seen t c fp w)
    (list : after.connectionList =
      t.connectionList.set i (react handler env.wired c arrival.seg))
    (file : after.files[f]? = some fp') (owns : Owns after i k f) (holding : Holding stream fp' w')
    (numbered : Numbered stream seen'.finished w' (place (react handler env.wired c arrival.seg)
      (react handler env.wired c arrival.seg).rcvNxt))
    (handed : seen'.handed = seen.handed) (more : w ≤ w')
    (reader : fp'.r = if takes c arrival.seg ∧ arrival.seg.fin then 0 else fp.r) :
    Receiving stream handler i k f seen' after (react handler env.wired c arrival.seg) fp' w' := by
  have into : ReceivesInto arrival.seg c (react handler env.wired c arrival.seg) :=
    react_receives receiving.which receiving.status
  have turns : (react handler env.wired c arrival.seg).status = c.status ∨ _ :=
    react_status receiving.which receiving.status
  rcases into with ⟨irs, client, role, -⟩
  have below : seen'.handed.length ≤ w' := by
    rw [handed]
    exact Nat.le_trans receiving.below more
  have acted : takes c arrival.seg → c.status = .established := by
    intro taken
    by_contra idle
    simp [takes, idle] at taken
  constructor
  · rw [list]
    exact List.getElem?_set_self (List.getElem?_eq_some_iff.mp receiving.conn).1
  · exact file
  · exact owns
  · rw [client]
    exact receiving.client
  · rw [role]
    exact receiving.which
  · rcases turns with same | ⟨-, waits | closed⟩
    · rw [same]
      exact receiving.status
    · exact Or.inr (Or.inl waits)
    · exact Or.inr (Or.inr closed)
  · exact holding
  · exact numbered
  · rw [handed]
    exact receiving.handed
  · exact below
  · -- The place read from goes back to the start of the file with a FIN, and only then.
    intro isOpen
    have wasOpen : Open c := by
      rcases turns with same | ⟨was, -⟩
      · unfold Open at isOpen ⊢
        rwa [same, role] at isOpen
      · exact Or.inl was
    rw [reader, handed]
    by_cases ends : takes c arrival.seg ∧ arrival.seg.fin
    · rw [if_pos ends]
      have was := acted ends.1
      -- A server that has seen the FIN is in CLOSE-WAIT, where nothing is read any more.
      by_cases server : c.isLocalServer = true
      · have here : handler = .localServers := by
          rcases receiving.which with here | ⟨-, other⟩
          · exact here
          · exact absurd (server.symm.trans other) (by decide)
        subst here
        have past : (react .localServers env.wired c arrival.seg).status = .closeWait :=
          react_fin was ends.1 ends.2
        unfold Open at isOpen
        rw [past, role, server] at isOpen
        simp at isOpen
      · rw [receiving.waiting (by simpa using server) was]
        rfl
    · rw [if_neg ends]
      exact receiving.reader wasOpen
  · -- Nothing was read by a client that is still in ESTABLISHED.
    intro peer established
    rw [role] at peer
    rw [handed]
    rcases turns with same | ⟨was, -⟩
    · exact receiving.waiting peer (same.symm.trans established)
    · exact receiving.waiting peer was

/-- The connection, its file and the numbers go together. -/
def Receives (stream : List UInt8) (handler : Handler) (i k f : Nat) (seen : Seen) (t : Tables) :
    Prop :=
  ∃ c fp w, Receiving stream handler i k f seen t c fp w

theorem proper_segment {arrival : Arrival}
    (receiving : Receiving stream handler i k f seen t c fp w) :
    Proper stream i k f t (.segment env arrival) ↔ (takes c arrival.seg →
      Continues stream fp (place c arrival.seg.seq) arrival.seg.payload arrival.seg.fin) := by
  rcases receiving.owns with ⟨sk, socket, -⟩
  rw [arrival.copy]
  constructor
  · intro proper
    exact proper c sk fp receiving.conn socket receiving.file
  · intro fits c' sk' fp' conn' _ file'
    cases receiving.conn.symm.trans conn'
    cases receiving.file.symm.trans file'
    exact fits

theorem segment_step {arrival : Arrival} {out : List UInt8 × Tables}
    (receiving : Receiving stream handler i k f seen t c fp w)
    (served : take handler i k t (.segment env arrival) = .ok out) :
    (Proper stream i k f t (.segment env arrival) →
      Receives stream handler i k f (note i seen t (.segment env arrival) out) out.2) ∧
    (DeliveredAt stream i f (note i seen t (.segment env arrival) out) out.2 →
      Proper stream i k f t (.segment env arrival)) := by
  rcases segment_received receiving out served with ⟨silent, list, owns, file⟩
  have into : ReceivesInto arrival.seg c (react handler env.wired c arrival.seg) :=
    react_receives receiving.which receiving.status
  have here : out.2.connectionList[i]? = some (react handler env.wired c arrival.seg) := by
    rw [list]
    exact List.getElem?_set_self (List.getElem?_eq_some_iff.mp receiving.conn).1
  have handed : (note i seen t (.segment env arrival) out).handed = seen.handed := by
    simp [note, silent]
  have finished : (note i seen t (.segment env arrival) out).finished =
      (seen.finished || (arrival.seg.fin && takes c arrival.seg)) := by
    simp [note, receiving.conn]
  rw [proper_segment receiving]
  rcases file with ⟨taken, fp', received, file⟩ | ⟨other, file⟩
  · -- A segment that is taken comes at the place that is expected.
    have order : place c arrival.seg.seq = place c c.rcvNxt := by
      have acted : c.status = .established := by
        by_contra idle
        simp [takes, idle] at taken
      rw [((takes_iff acted).mp taken).2.2.2]
    have moved : place (react handler env.wired c arrival.seg)
        (react handler env.wired c arrival.seg).rcvNxt = place c c.rcvNxt + spans arrival.seg := by
      have short : place c c.rcvNxt + 1399 < 2 ^ 32 := by
        have inside := receiving.holding.inside
        have size := receiving.holding.size
        rcases receiving.numbered with ⟨same, -⟩ | ⟨next, -⟩ <;> omega
      rw [place, into.1, into.2.2.2, if_pos taken]
      exact place_moved short
    rw [taken, Bool.and_true] at finished
    rw [order]
    constructor
    · intro continues
      rcases continues_keeps receiving.holding receiving.numbered received (continues taken) with
        ⟨w', more, holding, numbered⟩
      refine ⟨_, fp', w', receiving_segment receiving list file owns holding ?_ handed more ?_⟩
      · rw [finished, moved]
        exact numbered
      · rw [receiveFile_reader receiving.holding received]
        simp [taken]
    · intro delivered _
      have passed := (delivered _ fp' here file).2.2
      rw [moved, finished] at passed
      exact continues_of_passed receiving.holding receiving.numbered received passed
  · -- Any other one moves nothing.
    have plain : takes c arrival.seg = false := by simpa using other
    constructor
    · intro _
      refine ⟨_, fp, w, receiving_segment receiving list file owns receiving.holding ?_ handed
        (Nat.le_refl w) (by simp [plain])⟩
      rw [finished, plain, Bool.and_false, Bool.or_false, place, into.1, into.2.2.2, plain]
      exact receiving.numbered
    · exact fun _ taken => absurd taken other

/-- What a call on the socket comes to: nothing, or a reading of the file. -/
theorem tcpSocketRecv_reads {sk : Socket} {len : Nat} (listed : t.connectionList[i]? = some c)
    (file : t.files[f]? = some fp) (socket : t.sockets[k]? = some sk) (conn : sk.conn = some i)
    (own : sk.privateFile = some f) :
    Returns (tcpSocketRecv t k len) fun out =>
      (¬Reads c sk len ∧ out.1.bytes = [] ∧ out.2 = t) ∨ (Reads c sk len ∧
        ∃ fp', readFile fp len = .ok (out.1.bytes, fp') ∧ out.2 = t.setFile f fp') := by
  refine returns_bind.mpr (returns_need.mpr fun sk' socket' => ?_)
  cases socket.symm.trans socket'
  refine returns_ite.mpr ⟨fun none => returns_pure.mpr (Or.inl ⟨?_, rfl, rfl⟩), fun some => ?_⟩
  · exact fun reads => reads.1 none
  refine returns_ite.mpr ⟨fun away => returns_pure.mpr (Or.inl ⟨?_, rfl, rfl⟩), fun here => ?_⟩
  · exact fun reads => away reads.2.1
  simp only [conn, own]
  refine returns_bind.mpr (returns_need.mpr fun c' listed' => ?_)
  cases listed.symm.trans listed'
  refine returns_ite.mpr ⟨fun shut => returns_pure.mpr (Or.inl ⟨?_, rfl, rfl⟩), fun ready => ?_⟩
  · exact fun reads => shut reads.2.2
  refine returns_bind.mpr (returns_need.mpr fun fp' file' => ?_)
  cases file.symm.trans file'
  refine returns_bind.mpr ?_
  rintro ⟨bytes, fp'⟩ reads
  refine returns_pure.mpr (Or.inr ⟨⟨some, not_not.mp here, not_not.mp ready⟩, fp', reads, rfl⟩)

theorem proper_recv {sk : Socket} {len : Nat}
    (receiving : Receiving stream handler i k f seen t c fp w)
    (socket : t.sockets[k]? = some sk) :
    Proper stream i k f t (.recv len) ↔ (Reads c sk len → w = 0 → fp.fsize = 0) := by
  have position : fp.w = 0 ↔ w = 0 := by
    rw [receiving.holding.position]
    exact Int.natCast_eq_zero
  rw [← position]
  constructor
  · intro proper
    exact proper c sk fp receiving.conn socket receiving.file
  · intro settled c' sk' fp' conn' socket' file'
    cases receiving.conn.symm.trans conn'
    cases socket.symm.trans socket'
    cases receiving.file.symm.trans file'
    exact settled

theorem receiving_read {fp' : SocketFile} {bytes : List UInt8} {m : Nat} {seen' : Seen}
    (receiving : Receiving stream handler i k f seen t c fp w)
    (established : c.isLocalServer = false → c.status ≠ .established)
    (slice : bytes = (stream.drop seen.handed.length).take m)
    (inside : seen.handed.length + m ≤ w) (holding : Holding stream fp' w)
    (reader : fp'.r = ((seen.handed.length + m : Nat) : Int))
    (handed : seen'.handed = seen.handed ++ bytes) (finished : seen'.finished = seen.finished) :
    Receiving stream handler i k f seen' (t.setFile f fp') c fp' w := by
  have sent := receiving.holding.sent
  have whole : seen'.handed = stream.take (seen.handed.length + m) := by
    rw [handed, slice, List.take_add, ← receiving.handed]
  have length : seen'.handed.length = seen.handed.length + m := by
    rw [whole, List.length_take, Nat.min_eq_left (by omega)]
  constructor
  · exact receiving.conn
  · exact List.getElem?_set_self (List.getElem?_eq_some_iff.mp receiving.file).1
  · exact receiving.owns
  · exact receiving.client
  · exact receiving.which
  · exact receiving.status
  · exact holding
  · rw [finished]
    exact receiving.numbered
  · rw [length]
    exact whole
  · rw [length]
    exact inside
  · rw [length]
    exact fun _ => reader
  · exact fun peer now => absurd now (established peer)

theorem recv_step {len : Nat} {out : List UInt8 × Tables}
    (receiving : Receiving stream handler i k f seen t c fp w)
    (served : take handler i k t (.recv len) = .ok out) :
    (Proper stream i k f t (.recv len) →
      Receives stream handler i k f (note i seen t (.recv len) out) out.2) ∧
    (DeliveredAt stream i f (note i seen t (.recv len) out) out.2 →
      Proper stream i k f t (.recv len)) := by
  rcases receiving.owns with ⟨sk, socket, conn, own⟩
  have returns : Returns (take handler i k t (.recv len)) fun out =>
      (¬Reads c sk len ∧ out.1 = [] ∧ out.2 = t) ∨ (Reads c sk len ∧
        ∃ fp', readFile fp len = .ok (out.1, fp') ∧ out.2 = t.setFile f fp') :=
    returns_of_bind (tcpSocketRecv_reads receiving.conn receiving.file socket conn own)
      fun _ reads => returns_pure.mpr reads
  have finished : (note i seen t (.recv len) out).finished = seen.finished := by
    simp [note]
  have handed : (note i seen t (.recv len) out).handed = seen.handed ++ out.1 := rfl
  rw [proper_recv receiving socket]
  rcases returns out served with ⟨idle, silent, same⟩ | ⟨reads, fp', read, list⟩
  · -- The call gives nothing.
    constructor
    · intro _
      rw [same]
      have noted : note i seen t (.recv len) out = seen := by
        simp [note, silent]
      rw [noted]
      exact ⟨c, fp, w, receiving⟩
    · exact fun _ reads => absurd reads idle
  · have isOpen : Open c := by
      have status := reads.2.2
      cases server : c.isLocalServer with
      | true => exact Or.inl (by simpa [server] using status)
      | false => exact Or.inr ⟨by simpa [server] using status, server⟩
    have established : c.isLocalServer = false → c.status ≠ .established := by
      intro peer now
      have status := reads.2.2
      simp [peer, now] at status
    have reader := receiving.reader isOpen
    constructor
    · -- The bytes given are the next ones of the stream, if the file has a size whenever it has
      -- bytes.
      intro settled
      have position : fp.w = 0 → fp.fsize = 0 := by
        intro none
        refine settled reads ?_
        rw [receiving.holding.position] at none
        exact_mod_cast none
      rcases readFile_held receiving.holding reader receiving.below position _ read with
        ⟨m, slice, inside, holding, after⟩
      rw [list]
      exact ⟨c, fp', w, receiving_read receiving established slice inside holding after handed
        finished⟩
    · -- A file without a size gives bytes that were never sent.
      intro delivered _ none
      by_contra unset
      subst none
      have nothing : seen.handed = [] :=
        List.length_eq_zero_iff.mp (Nat.le_zero.mp receiving.below)
      have empty : fp.r = 0 := by simpa [nothing] using reader
      have early : out.1 ≠ [] :=
        readFile_early empty unset reads.1 _ read
      have there : out.2.files[f]? = some fp' := by
        rw [list]
        exact List.getElem?_set_self (List.getElem?_eq_some_iff.mp receiving.file).1
      have still : out.2.connectionList[i]? = some c := by
        rw [list]
        exact receiving.conn
      rcases delivered c fp' still there with ⟨front, short, -⟩
      rw [handed, nothing, List.nil_append] at front short
      have positive : 0 < out.1.length := List.length_pos_iff.mpr early
      rcases receiving.numbered with ⟨same, -⟩ | ⟨-, last, -⟩
      · omega
      · have long := front.length_le
        omega

theorem step_exact {event : Event} {out : List UInt8 × Tables}
    (receives : Receives stream handler i k f seen t)
    (served : take handler i k t event = .ok out) :
    (Proper stream i k f t event →
      Receives stream handler i k f (note i seen t event out) out.2) ∧
    (DeliveredAt stream i f (note i seen t event out) out.2 → Proper stream i k f t event) := by
  rcases receives with ⟨c, fp, w, receiving⟩
  cases event with
  | segment env arrival => exact segment_step receiving served
  | recv len => exact recv_step receiving served

theorem receives_delivered (receives : Receives stream handler i k f seen t) :
    DeliveredAt stream i f seen t := by
  rcases receives with ⟨c, fp, w, receiving⟩
  exact receiving.delivered

theorem fresh_receives (fresh : Fresh handler i k f t c fp) (start : c.rcvNxt = c.irs + 1) :
    Receives stream handler i k f ⟨[], false⟩ t := by
  have none : place c c.rcvNxt = 0 := by
    rw [place, start, UInt32.sub_self]
    rfl
  refine ⟨c, fp, 0, fresh.conn, fresh.file, fresh.owns, fresh.client,
    fresh.which, Or.inl fresh.status, ?_, Or.inl ⟨none, rfl⟩, rfl, Nat.le_refl 0, ?_, ?_⟩
  · exact ⟨fresh.position, Nat.zero_le _, fresh.size, by simp [fresh.room], Nat.zero_le _, rfl,
      fun nonzero => absurd rfl nonzero⟩
  · exact fun _ => fresh.reader
  · exact fun _ _ => rfl

/-- At first nothing is stored, so that `rcv_nxt` has passed nothing exactly
    where it is `irs + 1`. -/
theorem fresh_iff (fresh : Fresh handler i k f t c fp) :
    c.rcvNxt = c.irs + 1 ↔ DeliveredAt stream i f ⟨[], false⟩ t := by
  constructor
  · intro start
    exact receives_delivered (fresh_receives fresh start)
  · intro delivered
    rcases delivered c fp fresh.conn fresh.file with ⟨-, -, passed⟩
    have none : place c c.rcvNxt = 0 := by
      by_contra some
      rcases passed 0 (Nat.pos_of_ne_zero some) with stored | ⟨-, finished⟩
      · have below := stored.1
        rw [fresh.position] at below
        exact absurd below (by decide)
      · cases finished
    have zero : c.rcvNxt - (c.irs + 1) = 0 := UInt32.toNat_inj.mp none
    grind

/-- In every run of a new connection, whatever its handler, the numbers begin at
    `irs + 1` and each event is proper if and only if the process always has a
    prefix of the stream and `rcv_nxt` never passes a byte that is not stored. -/
theorem in_order_iff (stream : List UInt8) (handler : Handler) (i k f : Nat) (t : Tables)
    (c : Connection) (fp : SocketFile) (fresh : Fresh handler i k f t c fp)
    (events : List Event) :
    (c.rcvNxt = c.irs + 1 ∧
      Along (observe (note i) (take handler i k))
        (fun seen event _ => Proper stream i k f seen.2 event) (⟨[], false⟩, t) events) ↔
    (DeliveredAt stream i f ⟨[], false⟩ t ∧
      Along (observe (note i) (take handler i k))
        (fun _ _ out => DeliveredAt stream i f out.2.1 out.2.2) (⟨[], false⟩, t) events) := by
  rw [fresh_iff fresh]
  refine and_congr_right fun delivered => ?_
  -- The handshake decides the first number; from there on it is one event at a time.
  have start := (fresh_iff fresh).mpr delivered
  have exact : ∀ (seen : Seen × Tables) event out,
      Receives stream handler i k f seen.1 seen.2 →
      observe (note i) (take handler i k) seen event = .ok out →
      (Proper stream i k f seen.2 event ↔ DeliveredAt stream i f out.2.1 out.2.2) := by
    intro seen event out receives served
    rcases observe_ok served with ⟨first, noted⟩
    rw [noted]
    rcases step_exact receives first with ⟨keeps, sound⟩
    exact ⟨fun proper => receives_delivered (keeps proper), sound⟩
  have keep : ∀ (seen : Seen × Tables) event out,
      Receives stream handler i k f seen.1 seen.2 →
      observe (note i) (take handler i k) seen event = .ok out →
      Proper stream i k f seen.2 event → Receives stream handler i k f out.2.1 out.2.2 := by
    intro seen event out receives served proper
    rcases observe_ok served with ⟨first, noted⟩
    rw [noted]
    exact (step_exact receives first).1 proper
  exact along_iff exact keep events (fresh_receives fresh start)

end Runs

/-- The answer to the SYN that a connect in `wiredEnv` sends. -/
def peerAnswer : Segment where
  sIpv4 := 0xC0A80107
  dIpv4 := 0xC0A80102
  sport := 8000
  dport := 32768
  seq := 700
  ack := 5001
  flags := thSyn ||| thAck
  window := 1000
  payload := []
  fits := nil_fits

/-- The tables after a connect that was answered. -/
def connectedTables : Tables :=
  match run serve Tables.initial [.socket wiredEnv, .connect wiredEnv 0 none 0xC0A80107 8000,
      .segment wiredEnv peerAnswer] with
  | .ok (_, t) => t
  | .error _ => Tables.initial

def connectedClient : Connection :=
  { connectingConnection 5000 0 1 with
    status := .established, sndUna := 5001, sndNxt := 5001, irs := 700, rcvNxt := 701,
    packetsSent := 1 }

def emptyFile : SocketFile :=
  ⟨true, List.replicate 5120 0, 0, 0, 5120, 0⟩

set_option maxRecDepth 20000 in
theorem connected_fresh :
    Fresh .nonLocalServers 0 0 0 connectedTables connectedClient emptyFile := by
  refine ⟨rfl, rfl, ⟨_, rfl, rfl, rfl⟩, rfl, Or.inr ⟨rfl, rfl⟩, rfl, rfl, rfl, ?_, ?_⟩
  · simp [emptyFile]
  · simp [emptyFile]

/-- Three bytes of data, of which the second is zero. -/
def binaryArrival : Arrival where
  seg := { peerAnswer with
    seq := 701, flags := thAck ||| thPush, payload := [97, 0, 0], fits := by decide }
  wire := [97, 0, 98]
  copy := by decide

theorem connected_in_order :
    (connectedClient.rcvNxt = connectedClient.irs + 1 ∧
      Along (observe (note 0) (take .nonLocalServers 0 0))
        (fun seen event _ => Proper [97, 0, 98] 0 0 0 seen.2 event) (⟨[], false⟩, connectedTables)
        [.segment wiredEnv binaryArrival]) ↔
    (DeliveredAt [97, 0, 98] 0 0 ⟨[], false⟩ connectedTables ∧
      Along (observe (note 0) (take .nonLocalServers 0 0))
        (fun _ _ out => DeliveredAt [97, 0, 98] 0 0 out.2.1 out.2.2) (⟨[], false⟩, connectedTables)
        [.segment wiredEnv binaryArrival]) :=
  in_order_iff [97, 0, 98] .nonLocalServers 0 0 0 connectedTables connectedClient emptyFile
    connected_fresh [.segment wiredEnv binaryArrival]

set_option maxRecDepth 20000 in
/-- The byte behind a zero byte is acknowledged and not stored. -/
theorem zero_byte_is_lost :
    ¬(DeliveredAt [97, 0, 98] 0 0 ⟨[], false⟩ connectedTables ∧
      Along (observe (note 0) (take .nonLocalServers 0 0))
        (fun _ _ out => DeliveredAt [97, 0, 98] 0 0 out.2.1 out.2.2) (⟨[], false⟩, connectedTables)
        [.segment wiredEnv binaryArrival]) := by
  rintro ⟨-, along⟩
  rcases along _ rfl with ⟨delivered, -⟩
  rcases (delivered _ _ rfl rfl).2.2 2 (by decide) with stored | ⟨-, finished⟩
  · exact absurd stored.2.2 (by decide)
  · cases finished

end Gramado.Net.InOrder
