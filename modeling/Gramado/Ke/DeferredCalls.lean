/-
The queue of deferred procedure calls of kmain.c: the interrupt handlers post into
32 slots, and the consumer in ts.c takes one message a tick. A slot is free where
its code is 0. The four longs and the four chars of a message are kept together.
-/
import Gramado.Ke
import Gramado.Lib.Machine
import Gramado.Lib.Ring
import Mathlib.Logic.Function.Basic

namespace Gramado.Ke.DeferredCalls

open Gramado.Ke
open Gramado.Lib.Machine
open Gramado.Lib
open Function

structure Payload where
  long1 : UInt64
  long2 : UInt64
  long3 : UInt64
  long4 : UInt64
  char1 : UInt8
  char2 : UInt8
  char3 : UInt8
  char4 : UInt8
  deriving DecidableEq, Inhabited, Repr

/-- `struct dpc_queue_d`, with the cache of the message that was fetched last. -/
structure DpcQueue where
  head : Nat
  tail : Nat
  msg : Nat → Int32
  payload : Nat → Payload
  cacheMsg : Int32
  cachePayload : Payload

/-- The test for an invalid index, with which both functions begin. -/
def validIndex (i : Nat) : Nat :=
  if i ≥ 32 then 0 else i

def qfPostMessage (q : DpcQueue) (msg : Int32) (payload : Payload) : DpcQueue :=
  let q := { q with tail := validIndex q.tail }
  if q.msg q.tail = 0 then
    { q with
      msg := update q.msg q.tail msg
      payload := update q.payload q.tail payload
      tail := Ring.next 32 q.tail }
  else
    q

/-- The slot whose message is now in the cache; the head moves on in any case. -/
def qfGetMessage (q : DpcQueue) : Option Nat × DpcQueue :=
  let q := { q with head := validIndex q.head }
  if q.msg q.head ≤ 0 then
    (none, { q with head := Ring.next 32 q.head })
  else
    (some q.head, { q with
      cacheMsg := q.msg q.head
      cachePayload := q.payload q.head
      msg := update q.msg q.head 0
      head := Ring.next 32 q.head })

abbrev Message := Int32 × Payload

/-- The consumer looks at the cache once a slot is found. -/
def consume (q : DpcQueue) : Option Message × DpcQueue :=
  match qfGetMessage q with
  | (none, q) => (none, q)
  | (some _, q) => (some (q.cacheMsg, q.cachePayload), q)

inductive Event where
  | post (msg : Int32) (payload : Payload)
  | get

def serve (q : DpcQueue) : Event → Except Stop (Option Message × DpcQueue)
  | .post msg payload => .ok (none, qfPostMessage q msg payload)
  | .get => .ok (consume q)

/-- What was posted while there was room, and what was returned, oldest first. -/
structure Traffic where
  posted : List Message
  returned : List Message

def Traffic.none : Traffic := ⟨[], []⟩

/-- Fewer than 32 messages are pending. -/
def Traffic.Room (traffic : Traffic) : Prop :=
  traffic.posted.length < traffic.returned.length + 32

instance (traffic : Traffic) : Decidable traffic.Room :=
  inferInstanceAs (Decidable (_ < _))

def note (traffic : Traffic) (_ : DpcQueue) (event : Event)
    (answer : Option Message × DpcQueue) : Traffic :=
  match event, answer.1 with
  | .post msg payload, _ =>
      if traffic.Room then { traffic with posted := traffic.posted ++ [(msg, payload)] }
      else traffic
  | .get, some message => { traffic with returned := traffic.returned ++ [message] }
  | .get, Option.none => traffic

/-- A positive code or a queue that refuses it, and a get that finds a message. -/
def InTurn (traffic : Traffic) : Event → Prop
  | .post msg _ => traffic.Room → 0 < msg
  | .get => traffic.returned.length < traffic.posted.length

/-- A get finds the message in its slot. -/
def Stores (q : DpcQueue) (slot : Nat) (message : Message) : Prop :=
  q.msg slot = message.1 ∧ q.payload slot = message.2 ∧ 0 < message.1

/-- The messages that were posted are the returned ones and those in the ring. -/
def Orderly (traffic : Traffic) (q : DpcQueue) : Prop :=
  ∃ pending, traffic.posted = traffic.returned ++ pending ∧
    Ring.Holds 32 (fun i => q.msg i ≠ 0) (Stores q) q.head q.tail pending

section Steps

variable {traffic : Traffic} {q : DpcQueue} {msg : Int32} {payload : Payload}
  {pending : List Message}

theorem validIndex_of_lt {i : Nat} (inside : i < 32) : validIndex i = i :=
  if_neg (Nat.not_le.mpr inside)

theorem room_iff (account : traffic.posted = traffic.returned ++ pending) :
    traffic.Room ↔ pending.length < 32 := by
  rw [Traffic.Room, account, List.length_append]
  exact Nat.add_lt_add_iff_left

theorem post_stored (inside : q.tail < 32) (free : q.msg q.tail = 0) :
    qfPostMessage q msg payload = { q with
      msg := update q.msg q.tail msg
      payload := update q.payload q.tail payload
      tail := Ring.next 32 q.tail } := by
  simp only [qfPostMessage, validIndex_of_lt inside, if_pos free]

theorem post_refused (inside : q.tail < 32) (busy : q.msg q.tail ≠ 0) :
    qfPostMessage q msg payload = q := by
  simp only [qfPostMessage, validIndex_of_lt inside, if_neg busy]

theorem get_found (inside : q.head < 32) (found : 0 < q.msg q.head) :
    consume q = (some (q.msg q.head, q.payload q.head), { q with
      cacheMsg := q.msg q.head
      cachePayload := q.payload q.head
      msg := update q.msg q.head 0
      head := Ring.next 32 q.head }) := by
  simp only [consume, qfGetMessage, validIndex_of_lt inside, if_neg (Int32.not_le.mpr found)]

theorem get_empty (inside : q.head < 32) (empty : q.msg q.head ≤ 0) :
    consume q = (none, { q with head := Ring.next 32 q.head }) := by
  simp only [consume, qfGetMessage, validIndex_of_lt inside, if_pos empty]

theorem stores_busy {slot : Nat} {message : Message} (stored : Stores q slot message) :
    0 < q.msg slot := by
  rw [stored.1]
  exact stored.2.2

theorem post_full (orderly : Orderly traffic q) (full : ¬traffic.Room) :
    qfPostMessage q msg payload = q := by
  rcases orderly with ⟨pending, account, ring⟩
  rw [room_iff account] at full
  refine post_refused ring.tail_lt ?_
  by_contra free
  exact full (ring.tail_free_iff.mp (not_not_intro free))

theorem post_orderly (orderly : Orderly traffic q) (room : traffic.Room) (positive : 0 < msg) :
    Orderly { traffic with posted := traffic.posted ++ [(msg, payload)] }
      (qfPostMessage q msg payload) := by
  rcases orderly with ⟨pending, account, ring⟩
  rw [room_iff account] at room
  have free : q.msg q.tail = 0 := not_not.mp (ring.tail_free_iff.mpr room)
  rw [post_stored ring.tail_lt free]
  refine ⟨pending ++ [(msg, payload)], ?_, ?_⟩
  · rw [account, List.append_assoc]
  · apply ring.push room
    · simp only [update_self]
      rintro rfl
      exact absurd positive (by decide)
    · exact ⟨update_self .., update_self .., positive⟩
    · intro k other
      simp only [update_of_ne other]
    · intro k message other stored
      simp only [Stores, update_of_ne other]
      exact stored

theorem get_orderly (orderly : Orderly traffic q)
    (some_pending : traffic.returned.length < traffic.posted.length) :
    ∃ message next, consume q = (some message, next) ∧
      Orderly { traffic with returned := traffic.returned ++ [message] } next := by
  rcases orderly with ⟨pending, account, ring⟩
  cases pending with
  | nil =>
      rw [account, List.append_nil] at some_pending
      exact absurd some_pending (Nat.lt_irrefl _)
  | cons first rest =>
      have stored := ring.cells 0 first rfl
      rw [Ring.place_zero ring.head_lt] at stored
      refine ⟨_, _, get_found ring.head_lt (stores_busy stored), rest, ?_, ?_⟩
      · rw [account, stored.1, stored.2.1, List.append_assoc]
        rfl
      · apply ring.pop
        · simp only [update_self]
          exact not_not_intro rfl
        · intro k other
          simp only [update_of_ne other]
        · intro k message other stored
          simp only [Stores, update_of_ne other]
          exact stored

theorem serve_orderly {event : Event} (orderly : Orderly traffic q)
    (turn : InTurn traffic event) :
    ∃ reply next, serve q event = .ok (reply, next) ∧
      Orderly (note traffic q event (reply, next)) next := by
  cases event with
  | post msg payload =>
      refine ⟨_, _, rfl, ?_⟩
      by_cases room : traffic.Room
      · rw [note, if_pos room]
        exact post_orderly orderly room (turn room)
      · rw [note, if_neg room, post_full orderly room]
        exact orderly
  | get =>
      rcases get_orderly orderly turn with ⟨message, next, taken, kept⟩
      exact ⟨some message, next, congrArg Except.ok taken, kept⟩

theorem post_in_turn (orderly : Orderly traffic q)
    (kept : Orderly (note traffic q (.post msg payload) (none, qfPostMessage q msg payload))
      (qfPostMessage q msg payload)) :
    InTurn traffic (.post msg payload) := by
  intro room
  rcases orderly with ⟨pending, account, ring⟩
  rw [note, if_pos room] at kept
  rcases kept with ⟨after, later, layout⟩
  simp only [account, List.append_assoc, List.append_cancel_left_eq] at later
  subst later
  exact (layout.cells pending.length _ List.getElem?_concat_length).2.2

theorem get_in_turn {reply : Option Message} {next : DpcQueue} (orderly : Orderly traffic q)
    (served : consume q = (reply, next))
    (kept : Orderly (note traffic q .get (reply, next)) next) :
    InTurn traffic .get := by
  rcases orderly with ⟨pending, account, ring⟩
  cases pending with
  | nil =>
      -- The head has moved past an empty slot and no longer meets the tail.
      have free : q.msg q.head = 0 := by
        by_contra busy
        exact ring.head_busy_iff.mp busy rfl
      have empty : q.msg q.head ≤ 0 := by
        rw [free]
        exact Int32.le_refl _
      rw [get_empty ring.head_lt empty] at served
      cases served
      rcases kept with ⟨after, later, layout⟩
      have none : after = [] := by simpa [note, account] using later
      subst none
      have apart := Ring.place_succ_ne (k := 0) ring.head_lt (by decide)
      have behind := layout.tail_at
      rw [ring.tail_at] at behind
      simp only [List.length_nil, Ring.place_zero ring.head_lt,
        Ring.place_next ring.head_lt] at behind
      exact absurd behind.symm apart
  | cons first rest =>
      rw [InTurn, account, List.length_append]
      exact Nat.lt_add_of_pos_right (Nat.succ_pos _)

theorem in_turn_iff {event : Event} (orderly : Orderly traffic q) :
    InTurn traffic event ↔ ∃ reply next, serve q event = .ok (reply, next) ∧
      Orderly (note traffic q event (reply, next)) next := by
  constructor
  · exact serve_orderly orderly
  · rintro ⟨reply, next, served, kept⟩
    cases event with
    | post msg payload =>
        cases served
        exact post_in_turn orderly kept
    | get => exact get_in_turn orderly (Except.ok.inj served) kept

end Steps

/-- The queue as it is in zeroed memory. -/
def emptyQueue : DpcQueue where
  head := 0
  tail := 0
  msg := fun _ => 0
  payload := fun _ => default
  cacheMsg := 0
  cachePayload := default

theorem emptyQueue_orderly : Orderly Traffic.none emptyQueue :=
  ⟨[], rfl, Ring.Holds.empty (by decide) fun _ _ => not_not_intro rfl⟩

/-- From the empty queue, every event of a run is in its turn if and only if after every
    part of the run from its start the messages posted while there was room are the
    returned ones, followed by those that wait in the ring; and a full queue is
    unchanged by a post. -/
theorem deferred_calls_fifo_iff (events : List Event) :
    (Guarded (observe note serve) (fun seen event => InTurn seen.1 event)
        (Traffic.none, emptyQueue) events ↔
      ∀ early, early <+: events → ∃ replies traffic last,
        run (observe note serve) (Traffic.none, emptyQueue) early =
            .ok (replies, (traffic, last)) ∧
          Orderly traffic last) ∧
    ∀ traffic q, Orderly traffic q → ¬traffic.Room →
      ∀ msg payload, qfPostMessage q msg payload = q := by
  refine ⟨?_, fun traffic q orderly full msg payload => post_full orderly full⟩
  have exact : ∀ traffic q event, Orderly traffic q →
      (InTurn traffic event ↔ ∃ reply next, serve q event = .ok (reply, next) ∧
        Orderly (note traffic q event (reply, next)) next) :=
    fun _ _ _ orderly => in_turn_iff orderly
  exact observed_iff_prefixes exact events emptyQueue_orderly

/-- After one get on the empty queue, two messages are returned in the wrong order. -/
theorem empty_get_reorders :
    (run serve emptyQueue [.get, .post 1000 default, .post 2000 default, .get]).toOption.map
      (fun out => out.1.map (Option.map Prod.fst)) = some [none, none, none, some 2000] := by
  decide +kernel

end Gramado.Ke.DeferredCalls
