/-
The receive queue `nb_rx_11888` of net.c: 32 page buffers, filled by
`network_push_packet` and emptied by `network_pop_packet`, with the two system
calls (118 and 119) through which a process reaches them. The counters printed
on the console are left out, and so are the fields of the queue that no
function reads (`used`, `magic`, `port`, `protocol`, `socket`).
-/
import Gramado.Ke
import Gramado.Lib.Machine
import Gramado.Lib.Ring

namespace Gramado.Net.PacketQueue

open Gramado.Ke
open Gramado.Lib.Bytes
open Gramado.Lib.Machine
open Gramado.Lib

def pageSize : Nat := 4096

/-- `struct network_buffer_d`. A page pointer that is NULL is `none`. -/
structure NetworkBuffer where
  initialized : Bool
  receiveTail : Nat
  receiveHead : Nat
  payloadPtr : Nat → Option (List UInt8)
  isFull : Nat → Bool

/-- The part of `netInitialize` that sets the queue up. One page that
    `mmAllocPage` cannot give leaves it uninitialized. -/
def netInitializeQueue (mmAllocPage : Nat → Option (List UInt8))
    (queue : NetworkBuffer) : NetworkBuffer :=
  if (List.range 32).all fun i => (mmAllocPage i).isSome then
    { initialized := true, receiveTail := 0, receiveHead := 0,
      payloadPtr := mmAllocPage, isFull := fun _ => false }
  else
    { queue with initialized := false }

/-- The cut of a length argument at 1500, which both functions begin with. -/
def cutLength (len : Int32) : Int32 :=
  if 1500 < len then 1500 else len

/-- The array written at one index. -/
def store {α : Type} (array : Nat → α) (index : Nat) (value : α) : Nat → α :=
  fun i => if i = index then value else array i

def networkPushPacket (queue : NetworkBuffer) (srcBuffer : Option (List UInt8))
    (len : Int32) : Except Stop (Int32 × NetworkBuffer) :=
  match srcBuffer with
  | none => .error (.panic "network_push_packet: src_buffer\n")
  | some src =>
      let len := cutLength len
      if queue.initialized then
        let tail := queue.receiveTail
        let queue := { queue with receiveTail := Ring.next 32 queue.receiveTail }
        if 32 ≤ tail then
          .error (.panic "network_push_packet: tail\n")
        else
          -- A slot that is still full is only noticed: the packet goes over it.
          match queue.payloadPtr tail with
          | none => .ok (len, { queue with isFull := store queue.isFull tail true })
          | some dst =>
              match memcpy dst src (unsignedLong len) with
              | .error stop => .error stop
              | .ok page =>
                  .ok (len, { queue with
                    payloadPtr := store queue.payloadPtr tail (some page)
                    isFull := store queue.isFull tail true })
      else
        .error (.panic "network_push_packet: buffers not initialized\n")

/-- The bytes handed to the caller come with the return value; nothing is
    handed over when the slot at the head was found empty. -/
def networkPopPacket (queue : NetworkBuffer) (userBuffer : Bool) (len : Int32) :
    Except Stop ((Int32 × Option (List UInt8)) × NetworkBuffer) :=
  if userBuffer then
    let len := cutLength len
    if queue.initialized then
      let head := queue.receiveHead
      -- The head advances before the slot is looked at.
      let queue := { queue with receiveHead := Ring.next 32 queue.receiveHead }
      if 32 ≤ head then
        .error (.panic "network_push_packet: head\n")
      else if queue.isFull head then
        match queue.payloadPtr head with
        | none => .ok ((len, none), queue)
        | some src =>
            match memcpyOut src (unsignedLong len) with
            | .error stop => .error stop
            | .ok bytes =>
                .ok ((len, some bytes), { queue with isFull := store queue.isFull head false })
      else
        .ok ((0, none), queue)
    else
      .error (.panic "network_pop_packet: Shared buffers not initialized\n")
  else
    .error (.panic "network_pop_packet: [FAIL] u_buffer\n")

/-- `int_rv & 0xFFFFFFFF` as an `unsigned long`. -/
def sysValue (rv : Int32) : UInt64 :=
  rv.toUInt32.toUInt64

def sysNetworkPushPacket (queue : NetworkBuffer) (uBuffer : Option (List UInt8))
    (len : Int32) : Except Stop (UInt64 × NetworkBuffer) :=
  match uBuffer with
  | none => .ok (-1, queue)
  | some _ =>
      match networkPushPacket queue uBuffer len with
      | .error stop => .error stop
      | .ok (rv, queue) => .ok (sysValue rv, queue)

def sysNetworkPopPacket (queue : NetworkBuffer) (uBuffer : Bool) (len : Int32) :
    Except Stop ((UInt64 × Option (List UInt8)) × NetworkBuffer) :=
  if uBuffer then
    match networkPopPacket queue uBuffer len with
    | .error stop => .error stop
    | .ok ((rv, bytes), queue) => .ok ((sysValue rv, bytes), queue)
  else
    .ok ((-1, none), queue)

inductive Request where
  | push (uBuffer : Option (List UInt8)) (len : Int32)
  | pop (uBuffer : Bool) (len : Int32)

structure Reply where
  rv : UInt64
  bytes : Option (List UInt8)
  deriving DecidableEq, Repr

def serve (queue : NetworkBuffer) : Request → Except Stop (Reply × NetworkBuffer)
  | .push uBuffer len =>
      match sysNetworkPushPacket queue uBuffer len with
      | .error stop => .error stop
      | .ok (rv, queue) => .ok (⟨rv, none⟩, queue)
  | .pop uBuffer len =>
      match sysNetworkPopPacket queue uBuffer len with
      | .error stop => .error stop
      | .ok ((rv, bytes), queue) => .ok (⟨rv, bytes⟩, queue)

theorem sysValue_zero : sysValue 0 = 0 := rfl

theorem toInt_cutLength (len : Int32) : (cutLength len).toInt = min len.toInt 1500 := by
  unfold cutLength
  split
  · rename_i long
    rw [Int32.lt_iff_toInt_lt] at long
    exact (Int.min_eq_right (Int.le_of_lt long)).symm
  · rename_i short
    rw [Int32.lt_iff_toInt_lt] at short
    exact (Int.min_eq_left (Int.not_lt.mp short)).symm

theorem cutLength_negative {len : Int32} (negative : len.toInt < 0) :
    ¬ unsignedLong (cutLength len) ≤ pageSize := by
  have cut := toInt_cutLength len
  have low := len.le_toInt
  rw [Int.min_eq_left (by omega)] at cut
  rw [unsignedLong, cut, pageSize]
  omega

section Steps

variable {queue : NetworkBuffer} {src page : List UInt8} {len : Int32}

theorem cutLength_fits (whole : page.length = pageSize) (nonneg : 0 ≤ len.toInt) :
    unsignedLong (cutLength len) = (cutLength len).toNatClampNeg ∧
      (cutLength len).toNatClampNeg ≤ page.length := by
  have cut := toInt_cutLength len
  refine ⟨unsignedLong_of_nonneg (by omega), ?_⟩
  rw [whole, pageSize, ← Int32.toNat_toInt]
  omega

/-- The queue after a push into the page at its tail. -/
def afterPush (queue : NetworkBuffer) (src page : List UInt8) (len : Int32) : NetworkBuffer :=
  { queue with
    receiveTail := Ring.next 32 queue.receiveTail
    payloadPtr := store queue.payloadPtr queue.receiveTail
      (some (poke page 0 (peek src 0 (cutLength len).toNatClampNeg)))
    isFull := store queue.isFull queue.receiveTail true }

theorem push_accepted (ready : queue.initialized = true) (inside : queue.receiveTail < 32)
    (slot : queue.payloadPtr queue.receiveTail = some page)
    (whole : page.length = pageSize) (nonneg : 0 ≤ len.toInt) :
    serve queue (.push (some src) len) =
      .ok (⟨sysValue (cutLength len), none⟩, afterPush queue src page len) := by
  rcases cutLength_fits whole nonneg with ⟨size, fits⟩
  have bounded : ¬ 32 ≤ queue.receiveTail := by omega
  simp [serve, sysNetworkPushPacket, networkPushPacket, ready, bounded, slot, size,
    memcpy_ok fits, afterPush]

theorem push_negative (ready : queue.initialized = true) (inside : queue.receiveTail < 32)
    (slot : queue.payloadPtr queue.receiveTail = some page)
    (whole : page.length = pageSize) (negative : len.toInt < 0) :
    serve queue (.push (some src) len) = .error (.fault "memcpy: destination") := by
  have bounded : ¬ 32 ≤ queue.receiveTail := by omega
  have outside : ¬ unsignedLong (cutLength len) ≤ page.length := by
    rw [whole]
    exact cutLength_negative negative
  simp [serve, sysNetworkPushPacket, networkPushPacket, ready, bounded, slot, memcpy, outside]

theorem pop_taken (ready : queue.initialized = true) (inside : queue.receiveHead < 32)
    (full : queue.isFull queue.receiveHead = true)
    (slot : queue.payloadPtr queue.receiveHead = some page)
    (whole : page.length = pageSize) (nonneg : 0 ≤ len.toInt) :
    serve queue (.pop true len) =
      .ok (⟨sysValue (cutLength len), some (peek page 0 (cutLength len).toNatClampNeg)⟩,
        { queue with
          receiveHead := Ring.next 32 queue.receiveHead
          isFull := store queue.isFull queue.receiveHead false }) := by
  rcases cutLength_fits whole nonneg with ⟨size, fits⟩
  have bounded : ¬ 32 ≤ queue.receiveHead := by omega
  simp [serve, sysNetworkPopPacket, networkPopPacket, ready, bounded, full, slot, size,
    memcpyOut_ok fits]

theorem pop_negative (ready : queue.initialized = true) (inside : queue.receiveHead < 32)
    (full : queue.isFull queue.receiveHead = true)
    (slot : queue.payloadPtr queue.receiveHead = some page)
    (whole : page.length = pageSize) (negative : len.toInt < 0) :
    serve queue (.pop true len) = .error (.fault "memcpy: source") := by
  have bounded : ¬ 32 ≤ queue.receiveHead := by omega
  have outside : ¬ unsignedLong (cutLength len) ≤ page.length := by
    rw [whole]
    exact cutLength_negative negative
  simp [serve, sysNetworkPopPacket, networkPopPacket, ready, bounded, full, slot, memcpyOut,
    outside]

theorem pop_empty (ready : queue.initialized = true) (inside : queue.receiveHead < 32)
    (free : queue.isFull queue.receiveHead = false) :
    serve queue (.pop true len) =
      .ok (⟨0, none⟩, { queue with receiveHead := Ring.next 32 queue.receiveHead }) := by
  have bounded : ¬ 32 ≤ queue.receiveHead := by omega
  simp [serve, sysNetworkPopPacket, networkPopPacket, ready, bounded, free, sysValue_zero]

end Steps

/-- What the processes pushed and what they were given, oldest first. -/
structure Traffic where
  pushed : List (List UInt8)
  popped : List (List UInt8)

def Traffic.none : Traffic := ⟨[], []⟩

def note (traffic : Traffic) (_ : NetworkBuffer) (request : Request)
    (answer : Reply × NetworkBuffer) : Traffic :=
  match request, answer.1.bytes with
  | .push (some src) len, _ =>
      { traffic with pushed := traffic.pushed ++ [peek src 0 len.toNatClampNeg] }
  | .pop _ _, some bytes => { traffic with popped := traffic.popped ++ [bytes] }
  | _, _ => traffic

/-- A push of at most 1500 bytes while fewer than 32 packets are outstanding,
    or a pop that asks for the length of the oldest of them; a length above
    1500 asks for 1500. -/
def InTurn (traffic : Traffic) : Request → Prop
  | .push (some _) len =>
      traffic.pushed.length < traffic.popped.length + 32 ∧
        0 ≤ len.toInt ∧ len.toInt ≤ 1500
  | .pop true len =>
      ∃ packet, traffic.pushed[traffic.popped.length]? = some packet ∧
        min len.toInt 1500 = packet.length
  | _ => True

def Stores (queue : NetworkBuffer) (slot : Nat) (packet : List UInt8) : Prop :=
  packet.length ≤ 1500 ∧
    ∃ page, queue.payloadPtr slot = some page ∧ peek page 0 packet.length = packet

/-- The pushed packets are the popped ones followed by those in the ring. -/
structure Orderly (traffic : Traffic) (queue : NetworkBuffer) : Prop where
  initialized : queue.initialized = true
  pages : ∀ i, i < 32 → ∃ page, queue.payloadPtr i = some page ∧ page.length = pageSize
  conserved : ∃ waiting, traffic.pushed = traffic.popped ++ waiting ∧
    Ring.Holds 32 (fun i => queue.isFull i = true) (Stores queue)
      queue.receiveHead queue.receiveTail waiting

theorem orderly_start {mmAllocPage : Nat → Option (List UInt8)} {queue : NetworkBuffer}
    (pages : ∀ i, i < 32 → ∃ page, mmAllocPage i = some page ∧ page.length = pageSize) :
    Orderly Traffic.none (netInitializeQueue mmAllocPage queue) := by
  have all : ((List.range 32).all fun i => (mmAllocPage i).isSome) = true := by
    rw [List.all_eq_true]
    intro i member
    rcases pages i (List.mem_range.mp member) with ⟨page, here, -⟩
    simp [here]
  rw [netInitializeQueue, if_pos all]
  exact ⟨rfl, pages, [], rfl, Ring.Holds.empty (Nat.zero_lt_succ _) (by simp)⟩

theorem push_orderly {traffic : Traffic} {queue : NetworkBuffer} {src : List UInt8}
    {len : Int32} (orderly : Orderly traffic queue)
    (turn : InTurn traffic (.push (some src) len)) :
    ∃ reply next, serve queue (.push (some src) len) = .ok (reply, next) ∧
      Orderly (note traffic queue (.push (some src) len) (reply, next)) next := by
  rcases orderly with ⟨ready, pages, waiting, conserved, ring⟩
  rcases turn with ⟨outstanding, nonneg, short⟩
  have cut : (cutLength len).toNatClampNeg = len.toNatClampNeg := by
    rw [← Int32.toNat_toInt, toInt_cutLength, Int.min_eq_left short, Int32.toNat_toInt]
  rcases pages _ ring.tail_lt with ⟨page, slot, whole⟩
  have accepted : serve queue (.push (some src) len) = _ :=
    push_accepted ready ring.tail_lt slot whole nonneg
  rw [afterPush, cut] at accepted
  simp only [conserved, List.length_append] at outstanding
  have room : waiting.length < 32 := by omega
  have size : len.toNatClampNeg ≤ 1500 := by
    rw [← Int32.toNat_toInt]
    omega
  refine ⟨_, _, accepted, ready, ?_,
    waiting ++ [peek src 0 len.toNatClampNeg], ?_, ?_⟩
  · intro i inside
    by_cases here : i = queue.receiveTail
    · refine ⟨_, by simp [store, here]; rfl, ?_⟩
      rw [length_poke, whole]
      simp only [length_peek, whole, pageSize]
      omega
    · simpa [store, here] using pages i inside
  · simp [note, conserved]
  · apply ring.push room
    · simp [store]
    · refine ⟨by simpa using size, _, by simp [store]; rfl, ?_⟩
      apply peek_poke
      simp only [length_peek, whole, pageSize]
      omega
    · intro k other
      simp [store, other]
    · intro k packet other stored
      simpa [Stores, store, other] using stored

theorem pop_orderly {traffic : Traffic} {queue : NetworkBuffer} {len : Int32}
    (orderly : Orderly traffic queue) (turn : InTurn traffic (.pop true len)) :
    ∃ reply next, serve queue (.pop true len) = .ok (reply, next) ∧
      Orderly (note traffic queue (.pop true len) (reply, next)) next := by
  rcases orderly with ⟨ready, pages, waiting, conserved, ring⟩
  rcases turn with ⟨packet, oldest, asked⟩
  simp only [conserved, List.getElem?_append_right (Nat.le_refl _), Nat.sub_self] at oldest
  cases waiting with
  | nil => simp at oldest
  | cons first rest =>
      cases oldest
      rcases pages _ ring.head_lt with ⟨page, slot, whole⟩
      have stored := ring.cells 0 packet rfl
      rw [Ring.place_zero ring.head_lt] at stored
      rcases stored with ⟨short, kept, same, content⟩
      rw [slot] at same
      cases same
      have size : (cutLength len).toNatClampNeg = packet.length := by
        rw [← Int32.toNat_toInt, toInt_cutLength, asked, Int.toNat_natCast]
      have full := ring.head_busy_iff.mpr (List.cons_ne_nil _ _)
      refine ⟨_, _, pop_taken ready ring.head_lt full slot whole (by omega),
        ready, pages, rest, ?_, ?_⟩
      · simp [note, conserved, size, content]
      · apply ring.pop
        · simp [store]
        · intro k other
          simp [store, other]
        · intro k packet other stored
          exact stored

theorem serve_orderly {traffic : Traffic} {queue : NetworkBuffer} {request : Request}
    (orderly : Orderly traffic queue) (turn : InTurn traffic request) :
    ∃ reply next, serve queue request = .ok (reply, next) ∧
      Orderly (note traffic queue request (reply, next)) next := by
  cases request with
  | push uBuffer len =>
      cases uBuffer with
      | none => exact ⟨_, _, rfl, orderly⟩
      | some src => exact push_orderly orderly turn
  | pop uBuffer len =>
      cases uBuffer with
      | false => exact ⟨_, _, rfl, orderly⟩
      | true => exact pop_orderly orderly turn

theorem push_in_turn {traffic : Traffic} {queue next : NetworkBuffer} {src : List UInt8}
    {len : Int32} {reply : Reply} (orderly : Orderly traffic queue)
    (served : serve queue (.push (some src) len) = .ok (reply, next))
    (kept : Orderly (note traffic queue (.push (some src) len) (reply, next)) next) :
    InTurn traffic (.push (some src) len) := by
  rcases orderly with ⟨ready, pages, waiting, conserved, ring⟩
  rcases kept with ⟨-, -, after, account, layout⟩
  rcases pages _ ring.tail_lt with ⟨page, slot, whole⟩
  have nonneg : 0 ≤ len.toInt := by
    by_contra negative
    rw [push_negative ready ring.tail_lt slot whole (by omega)] at served
    cases served
  simp only [note, conserved, List.append_assoc, List.append_cancel_left_eq] at account
  subst account
  have fits := layout.fits
  have short := (layout.cells waiting.length _ List.getElem?_concat_length).1
  simp only [List.length_append, List.length_singleton, length_peek,
    ← Int32.toNat_toInt] at fits short
  simp only [InTurn, conserved, List.length_append]
  omega

theorem pop_in_turn {traffic : Traffic} {queue next : NetworkBuffer} {len : Int32}
    {reply : Reply} (orderly : Orderly traffic queue)
    (served : serve queue (.pop true len) = .ok (reply, next))
    (kept : Orderly (note traffic queue (.pop true len) (reply, next)) next) :
    InTurn traffic (.pop true len) := by
  rcases orderly with ⟨ready, pages, waiting, conserved, ring⟩
  rcases kept with ⟨-, -, after, account, layout⟩
  cases waiting with
  | nil =>
      -- The head has moved past an empty slot and no longer meets the tail.
      have free : queue.isFull queue.receiveHead = false := by
        simpa using mt ring.head_busy_iff.mp (by simp)
      rw [pop_empty ready ring.head_lt free] at served
      cases served
      have none : after = [] := by simpa [note, conserved] using account
      subst none
      have apart := Ring.place_succ_ne (k := 0) ring.head_lt (by omega)
      have behind := layout.tail_at
      rw [ring.tail_at] at behind
      simp only [List.length_nil, Ring.place_zero ring.head_lt,
        Ring.place_next ring.head_lt] at behind
      exact absurd behind.symm apart
  | cons packet rest =>
      have full := ring.head_busy_iff.mpr (List.cons_ne_nil _ _)
      rcases pages _ ring.head_lt with ⟨page, slot, whole⟩
      have nonneg : 0 ≤ len.toInt := by
        by_contra negative
        rw [pop_negative ready ring.head_lt full slot whole (by omega)] at served
        cases served
      rw [pop_taken ready ring.head_lt full slot whole nonneg] at served
      cases served
      simp only [note, conserved, List.append_assoc, List.append_cancel_left_eq,
        List.singleton_append, List.cons.injEq] at account
      refine ⟨packet, by simp [conserved], ?_⟩
      rw [account.1, length_peek, ← Int32.toNat_toInt, toInt_cutLength]
      omega

theorem in_turn_iff {traffic : Traffic} {queue : NetworkBuffer} {request : Request}
    (orderly : Orderly traffic queue) :
    InTurn traffic request ↔ ∃ reply next, serve queue request = .ok (reply, next) ∧
      Orderly (note traffic queue request (reply, next)) next := by
  constructor
  · exact serve_orderly orderly
  · rintro ⟨reply, next, served, kept⟩
    cases request with
    | push uBuffer len =>
        cases uBuffer with
        | none => trivial
        | some src => exact push_in_turn orderly served kept
    | pop uBuffer len =>
        cases uBuffer with
        | false => trivial
        | true => exact pop_in_turn orderly served kept

/-- From the initialized queue, every request of a run is made in its turn if
    and only if every part of the run from its start is served, with no copy
    past a slot, and leaves the pushed packets equal to the popped ones
    followed by the at most 32 that wait in the ring. -/
theorem packet_queue_fifo_iff {mmAllocPage : Nat → Option (List UInt8)}
    {queue : NetworkBuffer} {requests : List Request}
    (pages : ∀ i, i < 32 → ∃ page, mmAllocPage i = some page ∧ page.length = pageSize) :
    Guarded (observe note serve) (fun seen request => InTurn seen.1 request)
        (Traffic.none, netInitializeQueue mmAllocPage queue) requests ↔
      ∀ early, early <+: requests → ∃ replies traffic last,
        run (observe note serve) (Traffic.none, netInitializeQueue mmAllocPage queue) early =
            .ok (replies, (traffic, last)) ∧
          Orderly traffic last := by
  have exact : ∀ traffic queue request, Orderly traffic queue →
      (InTurn traffic request ↔ ∃ reply next, serve queue request = .ok (reply, next) ∧
        Orderly (note traffic queue request (reply, next)) next) :=
    fun _ _ _ orderly => in_turn_iff orderly
  exact observed_iff_prefixes exact requests (orderly_start pages)

/-- No later requests tell the two queues apart. -/
def SameFuture (first second : NetworkBuffer) : Prop :=
  ∀ requests, (run serve first requests).map Prod.fst =
    (run serve second requests).map Prod.fst

theorem push_then_pop {queue : NetworkBuffer} {src page : List UInt8} {len : Int32}
    (ready : queue.initialized = true) (inside : queue.receiveTail < 32)
    (slot : queue.payloadPtr queue.receiveTail = some page) (whole : page.length = pageSize)
    (nonneg : 0 ≤ len.toInt) (meet : queue.receiveHead = queue.receiveTail) :
    (run serve queue [.push (some src) len, .pop true len]).map Prod.fst =
      .ok [⟨sysValue (cutLength len), none⟩,
        ⟨sysValue (cutLength len), some (peek src 0 (cutLength len).toNatClampNeg)⟩] := by
  have fits : 0 + (peek src 0 (cutLength len).toNatClampNeg).length ≤ page.length := by
    simpa using (cutLength_fits whole nonneg).2
  have kept := peek_poke fits
  rw [length_peek] at kept
  have second : serve (afterPush queue src page len) (.pop true len) = _ :=
    pop_taken ready (meet ▸ inside)
      (by simp [afterPush, store, meet]) (by simp [afterPush, store, meet]; rfl)
      (by rw [length_poke fits, whole]) nonneg
  rw [run_cons_of_ok (push_accepted ready inside slot whole nonneg), run_cons_of_ok second,
    kept]
  rfl

theorem push_then_missed_pop {queue : NetworkBuffer} {src page : List UInt8} {len : Int32}
    (ready : queue.initialized = true) (inside : queue.receiveTail < 32)
    (slot : queue.payloadPtr queue.receiveTail = some page) (whole : page.length = pageSize)
    (nonneg : 0 ≤ len.toInt) (bounded : queue.receiveHead < 32)
    (apart : queue.receiveHead ≠ queue.receiveTail)
    (free : queue.isFull queue.receiveHead = false) :
    (run serve queue [.push (some src) len, .pop true len]).map Prod.fst =
      .ok [⟨sysValue (cutLength len), none⟩, ⟨0, none⟩] := by
  have second : serve (afterPush queue src page len) (.pop true len) = _ :=
    pop_empty ready bounded (by simpa [afterPush, store, apart] using free)
  rw [run_cons_of_ok (push_accepted ready inside slot whole nonneg), run_cons_of_ok second]
  rfl

/-- A pop on the empty queue is not without effect: the head passes the tail,
    and the packet pushed next is not found by the pop after it. -/
theorem empty_pop_changes_future {traffic : Traffic} {queue : NetworkBuffer} {len : Int32}
    (orderly : Orderly traffic queue) (empty : queue.isFull queue.receiveHead = false) :
    ∃ reply next, serve queue (.pop true len) = .ok (reply, next) ∧
      ¬ SameFuture queue next := by
  rcases orderly with ⟨ready, pages, waiting, -, ring⟩
  have inside := ring.head_lt
  have none : waiting = [] := by
    by_contra some
    have busy := ring.head_busy_iff.mpr some
    simp [empty] at busy
  subst none
  have meet : queue.receiveHead = queue.receiveTail := by
    rw [ring.tail_at, List.length_nil, Ring.place_zero inside]
  have apart : Ring.next 32 queue.receiveHead ≠ queue.receiveTail := by
    unfold Ring.next
    split <;> omega
  have free : queue.isFull (Ring.next 32 queue.receiveHead) = false := by
    have vacant := ring.free 1 (Nat.zero_le _) (by decide)
    rw [← Ring.place_next inside, Ring.place_zero (Ring.next_lt (by decide))] at vacant
    simpa using vacant
  rcases pages _ ring.tail_lt with ⟨page, slot, whole⟩
  refine ⟨_, _, pop_empty ready inside empty, ?_⟩
  intro same
  have missed : (run serve { queue with receiveHead := Ring.next 32 queue.receiveHead }
      [.push (some [1]) 1, .pop true 1]).map Prod.fst = _ :=
    push_then_missed_pop ready ring.tail_lt slot whole (by decide)
      (Ring.next_lt (by decide)) apart free
  have found := same [.push (some [1]) 1, .pop true 1]
  rw [push_then_pop ready ring.tail_lt slot whole (by decide) meet, missed] at found
  cases found

/-- The queue over 32 blank pages. -/
def blankQueue : NetworkBuffer :=
  netInitializeQueue (fun _ => some (List.replicate pageSize 0))
    ⟨false, 0, 0, fun _ => none, fun _ => false⟩

theorem blankQueue_orderly : Orderly Traffic.none blankQueue :=
  orderly_start fun _ _ => ⟨_, rfl, List.length_replicate⟩

theorem blankQueue_fifo_iff :
    Guarded (observe note serve) (fun seen request => InTurn seen.1 request)
        (Traffic.none, blankQueue) [.push (some [7]) 1, .pop true 1] ↔
      ∀ early, early <+: [.push (some [7]) 1, .pop true 1] → ∃ replies traffic last,
        run (observe note serve) (Traffic.none, blankQueue) early =
            .ok (replies, (traffic, last)) ∧
          Orderly traffic last :=
  packet_queue_fifo_iff fun _ _ => ⟨_, rfl, List.length_replicate⟩

/-- One pop on the empty queue, and the next packet is not found by a pop. -/
theorem pop_on_empty_hides_next_push :
    ∃ reply next, serve blankQueue (.pop true 4) = .ok (reply, next) ∧
      ¬ SameFuture blankQueue next :=
  empty_pop_changes_future blankQueue_orderly rfl

end Gramado.Net.PacketQueue
