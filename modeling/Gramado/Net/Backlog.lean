/-
The backlog over whole runs: connection requests from local clients and from
received SYNs, and accepts, in any order on one listening socket. The array is
a ring only while the requests keep to the places that the accepts look at.
-/
import Gramado.Lib.Machine
import Gramado.Net.Socket

namespace Gramado.Net.Backlog

open Gramado.Ke
open Gramado.Lib
open Gramado.Lib.Machine

/-- A request names the client socket that is to be put on the list. -/
inductive Request where
  | connect (client : Nat)
  | syn (client : Nat)
  | accept
  deriving DecidableEq, Repr

/-- The answer to an accept is the chosen client. -/
def serve (listener : Socket) : Request → Except Stop (Option Nat × Socket)
  | .connect client =>
      match connectBacklog listener client with
      | .error stop => .error stop
      | .ok listener => .ok (none, listener)
  | .syn client =>
      match synBacklog listener client with
      | .error stop => .error stop
      | .ok listener => .ok (none, listener)
  | .accept => acceptBacklog listener

def Accepts (listener : Socket) : Prop :=
  listener.state = .listening ∨ listener.state = .connecting ∨ listener.state = .connected

/-- The indices stay inside the array, whatever is asked. -/
structure Bounded (listener : Socket) : Prop where
  accepts : Accepts listener
  some_room : 0 < listener.backlogMax
  max_small : listener.backlogMax ≤ 31
  head_lt : listener.backlogHead < listener.backlogMax
  count_le : listener.pendingClientCount ≤ listener.backlogMax

section Probe

variable (slots : Nat → Option Nat) (i left : Nat)

theorem probe_found {client : Nat} (inside : i < 32) (hit : slots i = some client) :
    probePending slots i (left + 1) = .ok (some client) := by
  simp [probePending, inside, hit]

theorem probe_none (inside : i + left ≤ 32)
    (free : ∀ k, i ≤ k → k < i + left → slots k = none) :
    probePending slots i left = .ok none := by
  induction left generalizing i with
  | zero => rfl
  | succ left ih =>
      have here : i < 32 := by omega
      have rest := ih (i + 1) (by omega) (fun k low high => free k (by omega) (by omega))
      simp [probePending, here, free i (Nat.le_refl _) (by omega), rest]

theorem probe_served (inside : i + left ≤ 32) :
    ∃ found, probePending slots i left = .ok found := by
  induction left generalizing i with
  | zero => exact ⟨none, rfl⟩
  | succ left ih =>
      have here : i < 32 := by omega
      cases hit : slots i with
      | none =>
          rcases ih (i + 1) (by omega) with ⟨found, rest⟩
          exact ⟨found, by simp [probePending, here, hit, rest]⟩
      | some client => exact ⟨some client, probe_found slots i left here hit⟩

end Probe

/-- The listener with a client stored in one slot, which becomes the count. -/
def enqueued (listener : Socket) (slot client : Nat) : Socket :=
  { listener with
    state := .connecting
    pendingClientCount := slot
    pendingClientEndpoints := fun i =>
      if i = slot then some client else listener.pendingClientEndpoints i }

/-- The slot that a received SYN is put in. -/
def synSlot (listener : Socket) : Nat :=
  if listener.pendingClientCount + 1 > listener.backlogMax then 0
  else listener.pendingClientCount + 1

section Steps

variable {listener : Socket}

theorem connect_served (bounded : Bounded listener) (client : Nat) :
    serve listener (.connect client) =
      .ok (none, enqueued listener
        (Ring.next listener.backlogMax listener.pendingClientCount) client) := by
  have inside : Ring.next listener.backlogMax listener.pendingClientCount < 32 := by
    have below := Ring.next_lt (i := listener.pendingClientCount) bounded.some_room
    have small := bounded.max_small
    omega
  unfold Ring.next at inside
  simp [serve, connectBacklog, storePending, inside, enqueued, Ring.next]

theorem syn_served (bounded : Bounded listener) (client : Nat) :
    serve listener (.syn client) =
      .ok (none, enqueued listener (synSlot listener) client) := by
  have inside : synSlot listener < 32 := by
    have small := bounded.max_small
    unfold synSlot
    split <;> omega
  have stored : synBacklog listener client = .ok (enqueued listener (synSlot listener) client) := by
    unfold synBacklog
    change (match storePending listener (synSlot listener) client with
      | .error stop => Except.error stop
      | .ok skListener => .ok { skListener with state := .connecting }) = _
    rw [storePending, if_pos inside]
    rfl
  simp only [serve, stored]

/-- The listener after an accept that chose a client, or found none. -/
def accepted (listener : Socket) (found : Option Nat) : Socket :=
  { listener with
    backlogHead := Ring.next listener.backlogMax listener.backlogHead
    state := if found.isSome then .connected else listener.state }

theorem accept_served (bounded : Bounded listener) {found : Option Nat}
    (probed : probePending listener.pendingClientEndpoints
      (Ring.next listener.backlogMax listener.backlogHead)
      (listener.backlogMax + 1 - Ring.next listener.backlogMax listener.backlogHead) =
        .ok found) :
    serve listener .accept = .ok (found, accepted listener found) := by
  have below := Ring.next_lt (i := listener.backlogHead) bounded.some_room
  unfold Ring.next at below probed
  have inside := Nat.not_le.mpr below
  rcases bounded.accepts with state | state | state <;>
    cases found <;>
    simp [serve, acceptBacklog, state, inside, probed, accepted, Ring.next]

theorem accept_probes (bounded : Bounded listener) :
    ∃ found, probePending listener.pendingClientEndpoints
      (Ring.next listener.backlogMax listener.backlogHead)
      (listener.backlogMax + 1 - Ring.next listener.backlogMax listener.backlogHead) =
        .ok found := by
  have below := Ring.next_lt (i := listener.backlogHead) bounded.some_room
  have small := bounded.max_small
  exact probe_served _ _ _ (by omega)

theorem bounded_step (bounded : Bounded listener) (request : Request) :
    ∃ found next, serve listener request = .ok (found, next) ∧ Bounded next := by
  cases request with
  | connect client =>
      refine ⟨_, _, connect_served bounded client, Or.inr (Or.inl rfl), bounded.some_room,
        bounded.max_small, bounded.head_lt, ?_⟩
      exact Nat.le_of_lt (Ring.next_lt bounded.some_room)
  | syn client =>
      refine ⟨_, _, syn_served bounded client, Or.inr (Or.inl rfl), bounded.some_room,
        bounded.max_small, bounded.head_lt, ?_⟩
      simp only [enqueued, synSlot]
      split <;> omega
  | accept =>
      rcases accept_probes bounded with ⟨found, probed⟩
      refine ⟨_, _, accept_served bounded probed, ?_, bounded.some_room, bounded.max_small,
        Ring.next_lt bounded.some_room, bounded.count_le⟩
      cases found with
      | none => exact bounded.accepts
      | some client => exact Or.inr (Or.inr rfl)

end Steps

/-- The clients reported as pending and the clients accepted, oldest first. -/
structure Traffic where
  reported : List Nat
  accepted : List Nat

def Traffic.none : Traffic := ⟨[], []⟩

def note (traffic : Traffic) (_ : Socket) (request : Request)
    (answer : Option Nat × Socket) : Traffic :=
  match request, answer.1 with
  | .connect client, _ => { traffic with reported := traffic.reported ++ [client] }
  | .syn client, _ => { traffic with reported := traffic.reported ++ [client] }
  | .accept, some client => { traffic with accepted := traffic.accepted ++ [client] }
  | .accept, .none => traffic

/-- A connection request comes while fewer than `backlog_max` are pending, and
    a SYN not at the slot before the last one; an accept comes while one is
    pending. With a backlog of one, an accept before the first request does
    no harm. -/
def InTurn (traffic : Traffic) (listener : Socket) : Request → Prop
  | .connect _ => traffic.reported.length < traffic.accepted.length + listener.backlogMax
  | .syn _ =>
      traffic.reported.length < traffic.accepted.length + listener.backlogMax ∧
        listener.pendingClientCount + 1 ≠ listener.backlogMax
  | .accept =>
      traffic.accepted.length < traffic.reported.length ∨
        (traffic.reported = [] ∧ listener.backlogMax = 1)

/-- The reported clients are the accepted ones followed by the pending ones,
    and these lie where the next accepts will look. -/
structure Orderly (traffic : Traffic) (listener : Socket) : Prop extends Bounded listener where
  count_lt : listener.pendingClientCount < listener.backlogMax
  unused : traffic.reported = [] → ∀ i, listener.pendingClientEndpoints i = none
  used : traffic.reported ≠ [] →
    listener.pendingClientEndpoints listener.pendingClientCount ≠ none
  conserved : ∃ pending, traffic.reported = traffic.accepted ++ pending ∧
    Ring.Lies listener.backlogMax (fun i c => listener.pendingClientEndpoints i = some c)
      (Ring.next listener.backlogMax listener.backlogHead)
      (Ring.next listener.backlogMax listener.pendingClientCount) pending

theorem listen_orderly (backlog : Int32) :
    Orderly Traffic.none (listenImp createSocketObject backlog) := by
  rcases desiredBacklog_range backlog with ⟨low, high⟩
  unfold listenImp
  generalize (desiredBacklog backlog).toNatClampNeg = size at low high
  refine ⟨⟨Or.inl rfl, low, high, low, Nat.zero_le _⟩, low, fun _ _ => rfl,
    fun some => absurd rfl some, [], rfl, ?_⟩
  exact Ring.Lies.empty (Ring.next_lt low)

section Order

variable {traffic : Traffic} {listener next : Socket} {client : Nat} {found : Option Nat}

theorem enqueue_orderly (orderly : Orderly traffic listener)
    (room : traffic.reported.length < traffic.accepted.length + listener.backlogMax) :
    Orderly { traffic with reported := traffic.reported ++ [client] }
      (enqueued listener (Ring.next listener.backlogMax listener.pendingClientCount)
        client) := by
  rcases orderly with ⟨bounded, count_lt, -, -, pending, conserved, lies⟩
  have below := Ring.next_lt (i := listener.pendingClientCount) bounded.some_room
  refine ⟨⟨Or.inr (Or.inl rfl), bounded.some_room, bounded.max_small, bounded.head_lt,
    Nat.le_of_lt below⟩, below, by simp, by simp [enqueued], pending ++ [client], ?_, ?_⟩
  · simp [conserved]
  · simp only [conserved, List.length_append] at room
    apply lies.push (by omega)
    · simp [enqueued]
    · intro k other away stored
      simp [enqueued, away, stored]

theorem accept_orderly (orderly : Orderly traffic listener)
    (turn : InTurn traffic listener .accept) :
    ∃ found next, serve listener .accept = .ok (found, next) ∧
      Orderly (note traffic listener .accept (found, next)) next := by
  rcases orderly with ⟨bounded, count_lt, unused, used, pending, conserved, lies⟩
  have below := Ring.next_lt (i := listener.backlogHead) bounded.some_room
  have small := bounded.max_small
  cases pending with
  | nil =>
      -- Nothing is pending, so nothing was ever reported, and the one slot is free.
      simp only [List.append_nil] at conserved
      rcases turn with waiting | ⟨fresh, single⟩
      · rw [conserved] at waiting
        exact absurd waiting (Nat.lt_irrefl _)
      · have probed := probe_none listener.pendingClientEndpoints
          (Ring.next listener.backlogMax listener.backlogHead)
          (listener.backlogMax + 1 -
            Ring.next listener.backlogMax listener.backlogHead)
          (by omega) (fun k _ _ => unused fresh k)
        have still : Ring.next listener.backlogMax listener.backlogHead =
            listener.backlogHead := by
          have := bounded.head_lt
          omega
        refine ⟨_, _, accept_served bounded probed, ⟨bounded.accepts, bounded.some_room,
          small, below, bounded.count_le⟩, count_lt, unused, used, [], ?_, ?_⟩
        · simp [note, conserved]
        · simp only [accepted, still]
          rw [still] at lies
          exact lies
  | cons client rest =>
      have hit := lies.cells 0 client rfl
      rw [Ring.place_zero below] at hit
      have probed := probe_found _ _ (listener.backlogMax -
        Ring.next listener.backlogMax listener.backlogHead) (by omega) hit
      rw [← Nat.sub_add_comm (Nat.le_of_lt below)] at probed
      refine ⟨_, _, accept_served bounded probed, ⟨Or.inr (Or.inr rfl), bounded.some_room,
        small, below, bounded.count_le⟩, count_lt, unused, used, rest, ?_, ?_⟩
      · simp [note, conserved]
      · exact lies.pop fun k other _ stored => stored

theorem syn_slot_in_ring (bounded : Bounded listener)
    (count_lt : listener.pendingClientCount < listener.backlogMax) :
    synSlot listener < listener.backlogMax ↔
      listener.pendingClientCount + 1 ≠ listener.backlogMax := by
  have room := bounded.some_room
  unfold synSlot
  split <;> omega

theorem syn_slot_eq_next (away : listener.pendingClientCount + 1 ≠ listener.backlogMax)
    (count_lt : listener.pendingClientCount < listener.backlogMax) :
    synSlot listener =
      Ring.next listener.backlogMax listener.pendingClientCount := by
  unfold synSlot Ring.next
  split <;> split <;> omega

theorem serve_orderly {request : Request} (orderly : Orderly traffic listener)
    (turn : InTurn traffic listener request) :
    ∃ found next, serve listener request = .ok (found, next) ∧
      Orderly (note traffic listener request (found, next)) next := by
  cases request with
  | connect client =>
      exact ⟨_, _, connect_served orderly.toBounded client, enqueue_orderly orderly turn⟩
  | syn client =>
      refine ⟨_, _, syn_served orderly.toBounded client, ?_⟩
      rw [syn_slot_eq_next turn.2 orderly.count_lt]
      exact enqueue_orderly orderly turn.1
  | accept => exact accept_orderly orderly turn

theorem enqueue_in_turn (orderly : Orderly traffic listener)
    (kept : Orderly { traffic with reported := traffic.reported ++ [client] } next)
    (same : next.backlogMax = listener.backlogMax) :
    traffic.reported.length < traffic.accepted.length + listener.backlogMax := by
  rcases orderly.conserved with ⟨pending, conserved, -⟩
  rcases kept.conserved with ⟨after, account, lies⟩
  simp only [conserved, List.append_assoc, List.append_cancel_left_eq] at account
  subst account
  have fits := lies.fits
  simp only [List.length_append, List.length_singleton] at fits
  simp only [conserved, List.length_append]
  omega

theorem accept_in_turn (orderly : Orderly traffic listener)
    (served : serve listener .accept = .ok (found, next))
    (kept : Orderly (note traffic listener .accept (found, next)) next) :
    InTurn traffic listener .accept := by
  rcases orderly with ⟨bounded, count_lt, unused, used, pending, conserved, lies⟩
  rcases kept.conserved with ⟨after, account, layout⟩
  have below := Ring.next_lt (i := listener.backlogHead) bounded.some_room
  rcases accept_probes bounded with ⟨probe, probed⟩
  rw [accept_served bounded probed] at served
  cases served
  cases pending with
  | cons client rest => exact Or.inl (by simp [conserved])
  | nil =>
      simp only [List.append_nil] at conserved
      cases found with
      | some client =>
          -- A client that had been accepted before is given out again.
          simp only [note, conserved] at account
          have size := congrArg List.length account
          simp only [List.length_append, List.length_singleton] at size
          omega
      | none =>
          have drained : after = [] := by simpa [note, conserved] using account
          subst drained
          have single : listener.backlogMax = 1 := by
            by_contra many
            have here := lies.tail_at
            have there := layout.tail_at
            simp only [accepted, List.length_nil, Ring.place_zero below,
              Ring.place_next below] at here there
            have room := bounded.some_room
            exact Ring.place_succ_ne below (k := 0) (by omega) (there.symm.trans here)
          by_cases fresh : traffic.reported = []
          · exact Or.inr ⟨fresh, single⟩
          · have stale := used fresh
            have first : Ring.next listener.backlogMax listener.backlogHead =
                listener.pendingClientCount := by omega
            rcases Option.ne_none_iff_exists'.mp stale with ⟨client, hit⟩
            rw [← first] at hit
            have again := probe_found _ _ (listener.backlogMax -
              Ring.next listener.backlogMax listener.backlogHead) (by omega) hit
            rw [← Nat.sub_add_comm (Nat.le_of_lt below), probed] at again
            cases again

theorem in_turn_iff {request : Request} (orderly : Orderly traffic listener) :
    InTurn traffic listener request ↔
      ∃ found next, serve listener request = .ok (found, next) ∧
        Orderly (note traffic listener request (found, next)) next := by
  constructor
  · exact serve_orderly orderly
  · rintro ⟨found, next, served, kept⟩
    cases request with
    | connect client =>
        rw [connect_served orderly.toBounded client] at served
        cases served
        exact enqueue_in_turn orderly kept rfl
    | syn client =>
        rw [syn_served orderly.toBounded client] at served
        cases served
        refine ⟨enqueue_in_turn orderly kept rfl, ?_⟩
        exact (syn_slot_in_ring orderly.toBounded orderly.count_lt).mp kept.count_lt
    | accept => exact accept_in_turn orderly served kept

end Order

/-- On a socket that listens, no request of any run leaves the array; and every
    request of a run is made in its turn if and only if, after every part of
    the run from its start, the clients reported as pending are those accepted
    so far, in order, followed by those that wait in the array. -/
theorem backlog_fifo_iff (backlog : Int32) (requests : List Request) :
    (∃ replies last, run serve (listenImp createSocketObject backlog) requests =
        .ok (replies, last) ∧ Bounded last) ∧
      (Guarded (observe note serve) (fun seen request => InTurn seen.1 seen.2 request)
          (Traffic.none, listenImp createSocketObject backlog) requests ↔
        ∀ early, early <+: requests → ∃ replies traffic last,
          run (observe note serve)
              (Traffic.none, listenImp createSocketObject backlog) early =
              .ok (replies, (traffic, last)) ∧
            Orderly traffic last) := by
  constructor
  · exact run_served (fun listener request bounded _ => bounded_step bounded request)
      (listen_orderly backlog).toBounded
      (guarded_of_always (fun _ _ => trivial) _ requests)
  · have exact : ∀ traffic listener request, Orderly traffic listener →
        (InTurn traffic listener request ↔ ∃ found next,
          serve listener request = .ok (found, next) ∧
            Orderly (note traffic listener request (found, next)) next) :=
      fun _ _ _ orderly => in_turn_iff orderly
    exact observed_iff_prefixes exact requests (listen_orderly backlog)

/-- A backlog of two: the third request is not refused, takes the slot of the
    first, and is accepted before the second. -/
theorem third_request_overwrites_first :
    ∃ replies last,
      run (observe note serve) (Traffic.none, listenImp createSocketObject 2)
          [.connect 1, .connect 2, .connect 3, .accept] =
        .ok (replies, (⟨[1, 2, 3], [3]⟩, last)) ∧
      ¬ [3] <+: [1, 2, 3] :=
  ⟨_, _, rfl, by decide⟩

end Gramado.Net.Backlog
