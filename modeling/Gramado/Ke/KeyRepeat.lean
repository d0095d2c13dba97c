/-
The repeat count of the key messages. A key post that finds its key as the
last message of the queue is counted in long4 of that message; a message that
is queued anew has the time in long4, so what the receiver reads there is the
time plus the count. Of the control arrows only the code is compared.
-/
import Gramado.Ke.MessageQueue
import Mathlib.Data.List.Forall2
import Mathlib.Data.List.ModifyLast
import Mathlib.Tactic.Common

namespace Gramado.Ke.KeyRepeat

open Gramado.Ke.Ipc
open Gramado.Ke.MessageQueue
open Gramado.Lib
open Gramado.Lib.Fallible
open Gramado.Lib.Machine

/-- The codes whose posts are counted. -/
def isKey (msg : Int32) : Bool :=
  msg = MSG_KEYDOWN || isControlArrow msg

/-- A message as it was queued, and the posts that were merged into it later. -/
structure Entry where
  queued : Msg
  merged : List Msg

def Entry.merge (m : Msg) (e : Entry) : Entry :=
  { e with merged := e.merged ++ [m] }

/-- The traffic of a thread, its posts one by one, and an entry for each message
    that they became. -/
structure Ledger where
  traffic : Traffic
  posts : List Msg
  entries : List Entry

def Ledger.none : Ledger :=
  ⟨Traffic.none, [], []⟩

def Ledger.queue (m : Msg) (ledger : Ledger) : Ledger :=
  { ledger with posts := ledger.posts ++ [m], entries := ledger.entries ++ [⟨m, []⟩] }

def Ledger.merge (m : Msg) (ledger : Ledger) : Ledger :=
  { ledger with
    posts := ledger.posts ++ [m]
    entries := ledger.entries.modifyLast (Entry.merge m) }

def tail (k : Kernel) (tid : Int32) : Option Nat :=
  (k.threadList tid).map Thread.MsgQueueTail

/-- An accepted post that leaves the tail where it was did not become a message. -/
def record (tid : Int32) (ledger : Ledger) (k : Kernel) (request : Request)
    (out : Reply × Kernel) : Ledger :=
  let noted := { ledger with traffic := note tid ledger.traffic k request out }
  match request, out.1 with
  | .post jiffies srcTid dstTid msg long1 long2, .value rv =>
      if dstTid = tid ∧ rv = 0 ∧ msg ≠ MSG_MOUSEMOVE ∧ msg ≠ MSG_PAINT then
        if tail out.2 tid = tail k tid then
          noted.merge ⟨0, msg, long1, long2, jiffies, jiffies, srcTid, dstTid⟩
        else
          noted.queue ⟨0, msg, long1, long2, jiffies, jiffies, srcTid, dstTid⟩
      else
        noted
  | .post2 srcTid dstTid msg long1 long2 long3 long4, .value rv =>
      if dstTid = tid ∧ rv = 0 then
        noted.queue ⟨0, msg, long1, long2, long3, long4, srcTid, dstTid⟩
      else
        noted
  | _, _ => noted

/-- A key post becomes part of another message only where that one is pending,
    is the last one posted, and has its code, its key and its receiver. -/
def MergesAlike (tid : Int32) (traffic : Traffic) (k : Kernel) (request : Request)
    (out : Reply × Kernel) : Prop :=
  ∀ jiffies srcTid msg long1 long2, request = .post jiffies srcTid tid msg long1 long2 →
    isKey msg = true → out.1 = .value 0 → tail out.2 tid = tail k tid →
      ∃ last, traffic.last = some last ∧ last.msg = msg ∧ last.long1 = long1 ∧
        last.receiverTid = tid

/-- Every key message that was received reports the posts merged into it. -/
def Counted (ledger : Ledger) : Prop :=
  ∀ (i : Nat) (e : Entry) (m : Msg), ledger.entries[i]? = some e →
    ledger.traffic.received[i]? = some m →
    isKey m.msg = true → m.long4.toNat = e.merged.length

/-- The presses that a received message reports. -/
def presses (m : Msg) : Nat :=
  if isKey m.msg then 1 + m.long4.toNat else 0

/-- The presses that became the message. -/
def Entry.presses (e : Entry) : Nat :=
  if isKey e.queued.msg then 1 + e.merged.length else 0

/-- The key posts are those that the received messages report and those of the
    messages still pending. -/
def Conserved (ledger : Ledger) : Prop :=
  ledger.posts.countP (fun m => isKey m.msg) =
    (ledger.traffic.received.map presses).sum +
      ((ledger.entries.drop ledger.traffic.received.length).map Entry.presses).sum

/-- No key press is lost in a step. -/
structure Coalesced (tid : Int32) (seen : Ledger × Kernel) (request : Request)
    (out : Reply × (Ledger × Kernel)) : Prop where
  inOrder : InOrder tid out.2.1.traffic out.2.2
  alike : MergesAlike tid seen.1.traffic seen.2 request (out.1, out.2.2)
  counted : Counted out.2.1
  conserved : Conserved out.2.1

/-- A post that is merged has the first word of the last message. -/
def SameKey (tid : Int32) (traffic : Traffic) : Request → Prop
  | .post jiffies srcTid dstTid msg long1 long2 =>
      dstTid = tid →
        (traffic.repeats ⟨0, msg, long1, long2, jiffies, jiffies, srcTid, dstTid⟩).isSome →
        ∀ last, traffic.last = some last → last.long1 = long1
  | _ => True

/-- A key message that a get takes was queued with nothing in the field of the
    count, and the count has not run over. -/
def CountsFromZero (tid : Int32) (ledger : Ledger) : Request → Prop
  | .get currentTid _ _ _ =>
      currentTid = tid → ledger.traffic.mouseMove = false → ledger.traffic.paint = false →
        ∀ e, ledger.entries[ledger.traffic.received.length]? = some e →
          isKey e.queued.msg = true → e.queued.long4 = 0 ∧ e.merged.length < 2 ^ 64
  | _ => True

structure Countable (tid : Int32) (ledger : Ledger) (request : Request) : Prop where
  inTurn : InTurn tid ledger.traffic request
  sameKey : SameKey tid ledger.traffic request
  fromZero : CountsFromZero tid ledger request

/-- The message of the queue that an entry has become. -/
structure Reports (e : Entry) (m : Msg) : Prop where
  msg : m.msg = e.queued.msg
  long4 : m.long4 = e.queued.long4 + UInt64.ofNat e.merged.length

/-- The entries are those of the messages, and have every key post. -/
structure Recorded (ledger : Ledger) : Prop where
  reports : List.Forall₂ Reports ledger.entries ledger.traffic.posted
  account : ledger.posts.countP (fun m => isKey m.msg) = (ledger.entries.map Entry.presses).sum

section Lists

variable {α β : Type} {rel : α → β → Prop} {xs : List α} {ys : List β} {y : β}

theorem forall₂_concat (related : List.Forall₂ rel xs (ys ++ [y])) :
    ∃ front x, xs = front ++ [x] ∧ List.Forall₂ rel front ys ∧ rel x y := by
  have early := List.forall₂_take_append xs ys [y] related
  have late := List.forall₂_drop_append xs ys [y] related
  rcases List.forall₂_cons_right_iff.mp late with ⟨x, rest, same, nothing, last⟩
  rw [List.forall₂_nil_right_iff.mp nothing] at last
  refine ⟨xs.take ys.length, x, ?_, early, same⟩
  rw [← last, List.take_append_drop]

theorem forall₂_beside (related : List.Forall₂ rel xs ys) {i : Nat} (there : ys[i]? = some y) :
    ∃ x, xs[i]? = some x ∧ rel x y := by
  induction related generalizing i with
  | nil => cases there
  | @cons a b as bs first rest ih =>
      cases i with
      | zero =>
          cases there
          exact ⟨a, rfl, first⟩
      | succ i => exact ih there

theorem forall₂_append {us : List α} {vs : List β} (early : List.Forall₂ rel xs ys)
    (late : List.Forall₂ rel us vs) : List.Forall₂ rel (xs ++ us) (ys ++ vs) :=
  List.rel_append early late

end Lists

section Counts

variable {e : Entry} {m x amended : Msg} {n : Nat} {word : UInt64}

/-- The field has the number that was added to it if it began at 0 and the number fits. -/
theorem count_iff : (word + UInt64.ofNat n).toNat = n ↔ word = 0 ∧ n < 2 ^ 64 := by
  rw [UInt64.toNat_add, UInt64.toNat_ofNat', ← UInt64.toNat_inj]
  have small := word.toNat_lt
  rw [UInt64.toNat_zero]
  omega

theorem reports_queued : Reports ⟨m, []⟩ m :=
  ⟨rfl, by simp⟩

/-- Of a message that is counted in the last one the receiver, the code and the
    key are as the code compares them. -/
theorem repeated_same (repeats : repeated x m = some amended) :
    isKey m.msg = true ∧ x.msg = m.msg ∧ x.receiverTid = m.receiverTid ∧
      amended.msg = x.msg ∧ amended.long4 = x.long4 + 1 := by
  unfold repeated at repeats
  split at repeats
  · rename_i key
    cases repeats
    exact ⟨by rw [isKey, key.1]; rfl, key.2.2.1.trans key.1.symm, key.2.1, rfl, rfl⟩
  · split at repeats
    · rename_i arrow
      cases repeats
      exact ⟨by rw [isKey, arrow.1, Bool.or_true], arrow.2.2, arrow.2.1, rfl, rfl⟩
    · cases repeats

theorem Reports.merge (reports : Reports e x) (repeats : repeated x m = some amended) :
    Reports (e.merge m) amended := by
  have same := repeated_same repeats
  refine ⟨same.2.2.2.1.trans reports.msg, ?_⟩
  rw [same.2.2.2.2, reports.long4, Entry.merge, List.length_append, List.length_singleton,
    UInt64.add_assoc, UInt64.ofNat_add]
  rfl

theorem Reports.presses_merge (reports : Reports e x) (repeats : repeated x m = some amended) :
    (e.merge m).presses = e.presses + 1 := by
  have same := repeated_same repeats
  have key : isKey e.queued.msg = true := by
    rw [← reports.msg, same.2.1]
    exact same.1
  rw [Entry.presses, Entry.presses, Entry.merge, if_pos key, if_pos key, List.length_append,
    List.length_singleton]
  omega

/-- Where every received message reports its posts, so do all of them together. -/
theorem presses_of_counted {es : List Entry} {ms : List Msg}
    (reports : List.Forall₂ Reports es ms)
    (counted : ∀ (i : Nat) (e : Entry) (m : Msg), es[i]? = some e → ms[i]? = some m →
      isKey m.msg = true → m.long4.toNat = e.merged.length) :
    (es.map Entry.presses).sum = (ms.map presses).sum := by
  induction reports with
  | nil => rfl
  | @cons e m es ms first rest ih =>
      have later := ih fun i => counted (i + 1)
      have now : e.presses = presses m := by
        rw [Entry.presses, presses, ← first.msg]
        by_cases key : isKey m.msg = true
        · rw [if_pos key, if_pos key, counted 0 e m rfl rfl key]
        · rw [if_neg key, if_neg key]
      rw [List.map_cons, List.map_cons, List.sum_cons, List.sum_cons, later, now]

end Counts

section Ledgers

variable {ledger : Ledger} {traffic : Traffic} {m amended : Msg}

/-- What a repetition is counted in is pending, and the last message. -/
theorem last_of_repeats (repeats : traffic.repeats m = some amended) :
    ∃ front x, traffic.posted = front ++ [x] ∧ traffic.received.length ≤ front.length ∧
      traffic.last = some x ∧ repeated x m = some amended := by
  rcases Option.bind_eq_some_iff.mp repeats with ⟨x, last, same⟩
  have pending := last
  rw [Traffic.last] at last
  split at last
  · rename_i fewer
    rcases List.getLast?_eq_some_iff.mp last with ⟨front, posted⟩
    rw [posted, List.length_append, List.length_singleton] at fewer
    exact ⟨front, x, posted, Nat.le_of_lt_succ fewer, pending, same⟩
  · cases last

theorem Recorded.queue (recorded : Recorded ledger)
    (added : traffic.posted = ledger.traffic.posted ++ [m]) :
    Recorded ({ ledger with traffic }.queue m) := by
  constructor
  · have newest : List.Forall₂ Reports [⟨m, []⟩] [m] := .cons reports_queued .nil
    have all := forall₂_append recorded.reports newest
    rwa [← added] at all
  · have account := recorded.account
    simp only [Ledger.queue, List.countP_append, List.map_append, List.sum_append,
      List.countP_singleton, List.map_singleton, List.sum_singleton, account, Entry.presses]
    rfl

theorem Recorded.merge (recorded : Recorded ledger)
    (repeats : ledger.traffic.repeats m = some amended) :
    Recorded ({ ledger with traffic := ledger.traffic.add m }.merge m) := by
  rcases last_of_repeats repeats with ⟨front, x, posted, -, -, same⟩
  have reports := recorded.reports
  rw [posted] at reports
  rcases forall₂_concat reports with ⟨es, e, entries, early, last⟩
  have added : (ledger.traffic.add m).posted = front ++ [amended] := by
    simp only [Traffic.add, repeats, posted, List.dropLast_concat]
  constructor
  · simp only [Ledger.merge, added, entries, List.modifyLast_concat]
    exact forall₂_append early (.cons (last.merge same) .nil)
  · have account := recorded.account
    have key := (repeated_same same).1
    simp only [entries, List.map_append, List.sum_append, List.map_singleton,
      List.sum_singleton] at account
    simp only [Ledger.merge, entries, List.modifyLast_concat, List.countP_append, account,
      List.map_append, List.sum_append, List.map_singleton, List.sum_singleton,
      last.presses_merge same, List.countP_singleton, key, if_true]
    omega

/-- Where every received message reports its posts, no key post is lost. -/
theorem conserved_of_counted (recorded : Recorded ledger)
    (behind : ∃ waiting, ledger.traffic.posted = ledger.traffic.received ++ waiting)
    (counted : Counted ledger) : Conserved ledger := by
  rcases behind with ⟨waiting, posted⟩
  have reports := recorded.reports
  rw [posted] at reports
  have early := List.forall₂_take_append _ _ _ reports
  have sums : ((ledger.entries.take ledger.traffic.received.length).map Entry.presses).sum =
      (ledger.traffic.received.map presses).sum := by
    apply presses_of_counted early
    intro i e m entry
    rw [List.getElem?_take] at entry
    split at entry
    · exact counted i e m entry
    · cases entry
  rw [Conserved, recorded.account, ← sums, ← List.sum_append, ← List.map_append,
    List.take_append_drop]

/-- The counts are those of before where the entries of the received messages are. -/
theorem counted_congr {other : Ledger} (counted : Counted ledger)
    (received : other.traffic.received = ledger.traffic.received)
    (entries : ∀ i, i < ledger.traffic.received.length → other.entries[i]? = ledger.entries[i]?) :
    Counted other := by
  intro i e m entry message
  rw [received] at message
  have inside := (List.getElem?_eq_some_iff.mp message).1
  rw [entries i inside] at entry
  exact counted i e m entry message

theorem Counted.merge (recorded : Recorded ledger) (counted : Counted ledger)
    (repeats : ledger.traffic.repeats m = some amended) :
    Counted ({ ledger with traffic := ledger.traffic.add m }.merge m) := by
  rcases last_of_repeats repeats with ⟨front, x, posted, pending, -, -⟩
  have reports := recorded.reports
  rw [posted] at reports
  rcases forall₂_concat reports with ⟨es, e, entries, early, -⟩
  refine counted_congr counted rfl ?_
  intro i inside
  have before : i < es.length := by
    rw [early.length_eq]
    exact Nat.lt_of_lt_of_le inside pending
  simp only [Ledger.merge, entries, List.modifyLast_concat, List.getElem?_append_left before]

theorem Counted.queue (recorded : Recorded ledger) (counted : Counted ledger)
    (behind : ledger.traffic.received.length ≤ ledger.traffic.posted.length)
    (received : traffic.received = ledger.traffic.received) :
    Counted ({ ledger with traffic }.queue m) := by
  refine counted_congr counted received ?_
  intro i inside
  apply List.getElem?_append_left
  rw [recorded.reports.length_eq]
  exact Nat.lt_of_lt_of_le inside behind

theorem record_traffic {tid : Int32} {k : Kernel} {request : Request} {out : Reply × Kernel} :
    (record tid ledger k request out).traffic = note tid ledger.traffic k request out := by
  unfold record
  split
  · split
    · split
      · rfl
      · rfl
    · rfl
  · split
    · rfl
    · rfl
  · rfl

end Ledgers

section Steps

variable {tid : Int32} {k : Kernel} {t u : Thread} {ledger : Ledger} {traffic : Traffic}
  {m : Msg}

theorem received_le_posted (orderly : Orderly traffic t) :
    traffic.received.length ≤ traffic.posted.length := by
  rcases orderly.conserved with ⟨waiting, posted, -⟩
  rw [posted, List.length_append]
  exact Nat.le_add_right _ _

/-- A post leaves the tail where it was if it is counted in the last message. -/
theorem queueOrRepeat_tail (sound : Sound tid t) (orderly : Orderly traffic t)
    (queued : queueOrRepeat t m = .ok u) :
    u.MsgQueueTail = t.MsgQueueTail ↔ (traffic.repeats m).isSome = true := by
  rcases sound.slots _ lastIndex_lt with ⟨last, there⟩
  have moved : Ring.next MSG_QUEUE_MAX t.MsgQueueTail ≠ t.MsgQueueTail := by
    have size : MSG_QUEUE_MAX = 64 := rfl
    unfold Ring.next
    split <;> omega
  have same := repeats_eq (m := m) orderly there
  rw [queueOrRepeat] at queued
  by_cases looks : m.msg = MSG_KEYDOWN ∨ isControlArrow m.msg
  · rw [if_pos looks, there] at queued
    simp only [if_true] at queued
    cases repeats : repeated last m with
    | some amended =>
        rw [repeats] at queued
        cases queued
        rw [same, repeats]
        exact iff_of_true rfl rfl
    | none =>
        rw [repeats] at queued
        simp only [enqueue_ok sound] at queued
        cases queued
        rw [same, repeats]
        exact iff_of_false moved Bool.false_ne_true
  · rw [if_neg looks, enqueue_ok sound] at queued
    cases queued
    rw [same, not_repeated looks]
    exact iff_of_false moved Bool.false_ne_true

/-- What a post to the thread itself does: nothing, a flag, or a message. -/
theorem post_returns (there : k.threadList tid = some t) (sound : Sound tid t)
    {jiffies long1 long2 : UInt64} {srcTid msg : Int32} :
    Returns (serve k (.post jiffies srcTid tid msg long1 long2)) fun out =>
      msg ≤ 0 ∧ out = (.value (-1), k) ∨
      (msg = MSG_MOUSEMOVE ∨ msg = MSG_PAINT) ∧ out.1 = .value 0 ∨
      0 < msg ∧ msg ≠ MSG_MOUSEMOVE ∧ msg ≠ MSG_PAINT ∧ ∃ u,
        queueOrRepeat t ⟨0, msg, long1, long2, jiffies, jiffies, srcTid, tid⟩ = .ok u ∧
          out = (.value 0, k.setThread tid u) := by
  intro out served
  simp only [serve, ipcPostMessageToTid] at served
  by_cases code : msg ≤ 0
  · rw [if_pos code] at served
    cases served
    exact .inl ⟨code, rfl⟩
  · rw [if_neg code] at served
    cases found : receiver "ipc_post_message_to_tid" k tid with
    | error stop =>
        rw [found] at served
        cases served
    | ok target =>
        have self : target = some t := receiver_ok there sound target found
        subst self
        rw [found] at served
        simp only [bind, Except.bind] at served
        by_cases mouse : msg = MSG_MOUSEMOVE
        · rw [if_pos mouse] at served
          cases served
          exact .inr (.inl ⟨.inl mouse, rfl⟩)
        · rw [if_neg mouse] at served
          by_cases paint : msg = MSG_PAINT
          · rw [if_pos paint] at served
            cases served
            exact .inr (.inl ⟨.inr paint, rfl⟩)
          · rw [if_neg paint] at served
            cases queued : queueOrRepeat t
                ⟨0, msg, long1, long2, jiffies, jiffies, srcTid, tid⟩ with
            | error stop =>
                rw [queued] at served
                cases served
            | ok u =>
                rw [queued] at served
                cases served
                exact .inr (.inr ⟨Int32.not_le.mp code, mouse, paint, u, rfl, rfl⟩)

theorem post2_returns (there : k.threadList tid = some t) (sound : Sound tid t)
    {long1 long2 long3 long4 : UInt64} {srcTid msg : Int32} :
    Returns (serve k (.post2 srcTid tid msg long1 long2 long3 long4)) fun out =>
      out.1 = .value (-1) ∨ out.1 = .value 0 := by
  intro out served
  simp only [serve, ipcPostMessageToTid2] at served
  by_cases code : msg < 0
  · rw [if_pos code] at served
    cases served
    exact .inl rfl
  · rw [if_neg code] at served
    cases found : receiver "ipc_post_message_to_tid2" k tid with
    | error stop =>
        rw [found] at served
        cases served
    | ok target =>
        have self : target = some t := receiver_ok there sound target found
        subst self
        rw [found] at served
        simp only [bind, Except.bind, enqueue_ok sound] at served
        cases served
        exact .inr rfl

theorem getFromQueue_got (sound : Sound tid t) (orderly : Orderly traffic t) (jiffies : UInt64) :
    (getFromQueue t jiffies).1 =
      (traffic.posted[traffic.received.length]?).elim .null fun m => .message m jiffies := by
  rcases sound.slots _ sound.head_lt with ⟨m, there⟩
  rcases orderly with ⟨-, -, waiting, conserved, ring⟩
  have valid : ¬true = false := by decide
  rw [conserved, List.getElem?_append_right (Nat.le_refl _), Nat.sub_self]
  cases waiting with
  | nil =>
      have code : m.msg ≤ 0 := by
        apply Int32.not_lt.mp
        intro positive
        exact ring.head_busy_iff.mp ⟨_, there, positive⟩ rfl
      simp only [getFromQueue, there, if_neg valid, if_pos code, List.getElem?_nil,
        Option.elim_none]
  | cons first rest =>
      have stored := ring.cells 0 first rfl
      rw [Ring.place_zero ring.head_lt, Stores, there] at stored
      cases stored
      have positive := waiting_positive (k := 0) ring rfl
      have code : ¬m.msg ≤ 0 := Int32.not_le.mpr positive
      simp only [getFromQueue, there, if_neg valid, if_neg code, List.getElem?_cons_zero,
        Option.elim_some]

theorem get_returns (there : k.threadList tid = some t) (sound : Sound tid t)
    (orderly : Orderly traffic t) (place : ¬(tid < 0 ∨ tid ≥ THREAD_COUNT_MAX))
    {ubuf jiffies : UInt64} {mouse : Mouse} :
    Returns (serve k (.get tid ubuf jiffies mouse)) fun out =>
      traffic.mouseMove = true ∧ out.1 = .got (.mouseMove mouse) ∨
      traffic.paint = true ∧ out.1 = .got .paint ∨
      traffic.mouseMove = false ∧ traffic.paint = false ∧
        out.1 = .got (getFromQueue t jiffies).1 := by
  intro out served
  have valid : ¬(t.used ≠ true ∨ t.magic ≠ 1234) := by
    rw [sound.used, sound.magic]
    decide
  simp only [serve, ipcGetMessage, if_neg place, there, if_neg valid] at served
  by_cases null : ubuf = 0
  · rw [if_pos null] at served
    cases served
  · rw [if_neg null, orderly.mouseMove, orderly.paint] at served
    by_cases moved : traffic.mouseMove = true
    · rw [if_pos moved] at served
      cases served
      exact .inl ⟨moved, rfl⟩
    · rw [if_neg moved] at served
      by_cases dirty : traffic.paint = true
      · rw [if_pos dirty] at served
        cases served
        exact .inr (.inl ⟨dirty, rfl⟩)
      · rw [if_neg dirty] at served
        cases served
        exact .inr (.inr ⟨Bool.eq_false_iff.mpr moved, Bool.eq_false_iff.mpr dirty, rfl⟩)

/-- What a step does to the ledger, and when it counts right. -/
structure Recording (tid : Int32) (ledger : Ledger) (k : Kernel) (request : Request)
    (out : Reply × Kernel) : Prop where
  recorded : Recorded (record tid ledger k request out)
  alike : MergesAlike tid ledger.traffic k request out ↔ SameKey tid ledger.traffic request
  counted : Counted (record tid ledger k request out) ↔ CountsFromZero tid ledger request

theorem not_key_of_nonpositive {msg : Int32} (code : msg ≤ 0) : isKey msg = false := by
  by_contra key
  simp only [isKey, isControlArrow, Bool.not_eq_false, Bool.or_eq_true, decide_eq_true_eq] at key
  rcases key with down | ((up | down) | left) | right
  all_goals
    subst msg
    exact absurd code (by decide)

theorem key_of_repeats (repeats : (traffic.repeats m).isSome = true) : isKey m.msg = true := by
  rcases Option.isSome_iff_exists.mp repeats with ⟨amended, same⟩
  rcases last_of_repeats same with ⟨-, x, -, -, -, merges⟩
  exact (repeated_same merges).1

theorem recording_of_idle (recorded : Recorded ledger) (counted : Counted ledger)
    {jiffies long1 long2 : UInt64} {srcTid msg : Int32} {out : Reply × Kernel}
    (idle : record tid ledger k (.post jiffies srcTid tid msg long1 long2) out =
      { ledger with traffic })
    (posted : traffic.posted = ledger.traffic.posted)
    (received : traffic.received = ledger.traffic.received) (other : isKey msg = false) :
    Recording tid ledger k (.post jiffies srcTid tid msg long1 long2) out := by
  constructor
  · rw [idle]
    exact ⟨posted ▸ recorded.reports, recorded.account⟩
  · constructor
    · intro _ _ repeats
      have key := key_of_repeats repeats
      rw [other] at key
      cases key
    · rintro - jiffies' srcTid' msg' long1' long2' same key
      cases same
      rw [other] at key
      cases key
  · rw [idle]
    exact iff_of_true (counted_congr counted received fun _ _ => rfl) trivial

theorem post_recording (there : k.threadList tid = some t) (sound : Sound tid t)
    (orderly : Orderly ledger.traffic t) (recorded : Recorded ledger) (counted : Counted ledger)
    {jiffies long1 long2 : UInt64} {srcTid msg : Int32} :
    Returns (serve k (.post jiffies srcTid tid msg long1 long2))
      (Recording tid ledger k (.post jiffies srcTid tid msg long1 long2)) := by
  intro out served
  -- Refused, made a flag, or queued.
  rcases post_returns there sound out served with
    ⟨code, rfl⟩ | ⟨flag, value⟩ | ⟨positive, mouse, paint, u, queued, rfl⟩
  · apply recording_of_idle recorded counted _ rfl rfl (not_key_of_nonpositive code)
    simp [record, note]
  · rcases out with ⟨reply, last⟩
    cases value
    rcases flag with rfl | rfl
    · have idle : ∀ jiffies long1 long2 srcTid,
          record tid ledger k (.post jiffies srcTid tid MSG_MOUSEMOVE long1 long2)
            (.value 0, last) =
          { ledger with traffic := { ledger.traffic with mouseMove := true } } := by
        simp [record, note]
      exact recording_of_idle recorded counted (idle _ _ _ _) rfl rfl rfl
    · have idle : ∀ jiffies long1 long2 srcTid,
          record tid ledger k (.post jiffies srcTid tid MSG_PAINT long1 long2) (.value 0, last) =
          { ledger with traffic := { ledger.traffic with paint := true } } := by
        have apart : MSG_PAINT ≠ MSG_MOUSEMOVE := by decide
        simp [record, note, apart]
      exact recording_of_idle recorded counted (idle _ _ _ _) rfl rfl rfl
  · -- A post is merged exactly if the tail stays where it was.
    have moved := queueOrRepeat_tail sound orderly queued
    have tails : tail (k.setThread tid u) tid = tail k tid ↔
        u.MsgQueueTail = t.MsgQueueTail := by
      simp only [tail, setThread_self, there, Option.map_some, Option.some_inj]
    by_cases merged : u.MsgQueueTail = t.MsgQueueTail
    · rcases Option.isSome_iff_exists.mp (moved.mp merged) with ⟨amended, repeats⟩
      have entry : record tid ledger k (.post jiffies srcTid tid msg long1 long2)
          (.value 0, k.setThread tid u) =
          Ledger.merge ⟨0, msg, long1, long2, jiffies, jiffies, srcTid, tid⟩
            { ledger with
              traffic := ledger.traffic.add
                ⟨0, msg, long1, long2, jiffies, jiffies, srcTid, tid⟩ } := by
        simp [record, note, mouse, paint, tails.mpr merged]
      constructor
      · rw [entry]
        exact recorded.merge repeats
      · constructor
        · -- The message that is amended is the last one, and so is the one that the step speaks of.
          intro alike _ again last pending
          have key : isKey msg = true := key_of_repeats again
          rcases alike jiffies srcTid msg long1 long2 rfl key rfl (tails.mpr merged) with
            ⟨other, found, -, same, -⟩
          rw [pending] at found
          cases found
          exact same
        · rintro same jiffies' srcTid' msg' long1' long2' request key - -
          cases request
          rcases last_of_repeats repeats with ⟨-, x, -, -, pending, merges⟩
          have codes := repeated_same merges
          have word := same rfl (moved.mp merged) x pending
          exact ⟨x, pending, codes.2.1, word, codes.2.2.1⟩
      · rw [entry]
        exact iff_of_true (counted.merge recorded repeats) trivial
    · have repeats := Option.not_isSome_iff_eq_none.mp (mt moved.mpr merged)
      have entry : record tid ledger k (.post jiffies srcTid tid msg long1 long2)
          (.value 0, k.setThread tid u) =
          Ledger.queue ⟨0, msg, long1, long2, jiffies, jiffies, srcTid, tid⟩
            { ledger with
              traffic := ledger.traffic.add
                ⟨0, msg, long1, long2, jiffies, jiffies, srcTid, tid⟩ } := by
        simp [record, note, mouse, paint, mt tails.mp merged]
      have added :
          (ledger.traffic.add ⟨0, msg, long1, long2, jiffies, jiffies, srcTid, tid⟩).posted =
          ledger.traffic.posted ++ [⟨0, msg, long1, long2, jiffies, jiffies, srcTid, tid⟩] := by
        simp only [Traffic.add, repeats]
      constructor
      · rw [entry]
        exact recorded.queue added
      · constructor
        · intro _ _ again
          rw [repeats] at again
          cases again
        · rintro - jiffies' srcTid' msg' long1' long2' request - - same
          cases request
          exact absurd (tails.mp same) merged
      · rw [entry]
        exact iff_of_true (counted.queue recorded (received_le_posted orderly) rfl) trivial

theorem post2_recording (there : k.threadList tid = some t) (sound : Sound tid t)
    (orderly : Orderly ledger.traffic t) (recorded : Recorded ledger) (counted : Counted ledger)
    {long1 long2 long3 long4 : UInt64} {srcTid msg : Int32} :
    Returns (serve k (.post2 srcTid tid msg long1 long2 long3 long4))
      (Recording tid ledger k (.post2 srcTid tid msg long1 long2 long3 long4)) := by
  rintro ⟨reply, last⟩ served
  have alike : MergesAlike tid ledger.traffic k (.post2 srcTid tid msg long1 long2 long3 long4)
      (reply, last) := by
    intro _ _ _ _ _ request
    cases request
  rcases post2_returns there sound _ served with value | value
  · cases value
    have entry : record tid ledger k (.post2 srcTid tid msg long1 long2 long3 long4)
        (.value (-1), last) = ledger := by
      simp [record, note]
    exact ⟨by rwa [entry], iff_of_true alike trivial,
      by rw [entry]; exact iff_of_true counted trivial⟩
  · cases value
    have entry : record tid ledger k (.post2 srcTid tid msg long1 long2 long3 long4)
        (.value 0, last) =
        Ledger.queue ⟨0, msg, long1, long2, long3, long4, srcTid, tid⟩
          { ledger with
            traffic := { ledger.traffic with
              posted := ledger.traffic.posted ++
                [⟨0, msg, long1, long2, long3, long4, srcTid, tid⟩] } } := by
      simp [record, note]
    constructor
    · rw [entry]
      exact recorded.queue rfl
    · exact iff_of_true alike trivial
    · rw [entry]
      exact iff_of_true (counted.queue recorded (received_le_posted orderly) rfl) trivial

/-- A received message is counted right if its entry counts from zero. -/
theorem counted_received (counted : Counted ledger) {e : Entry}
    (entry : ledger.entries[ledger.traffic.received.length]? = some e) (reports : Reports e m) :
    Counted { ledger with
        traffic := { ledger.traffic with received := ledger.traffic.received ++ [m] } } ↔
      (isKey e.queued.msg = true → e.queued.long4 = 0 ∧ e.merged.length < 2 ^ 64) := by
  constructor
  · intro after key
    rw [← reports.msg] at key
    have here := after _ e m entry List.getElem?_concat_length key
    rw [reports.long4] at here
    exact count_iff.mp here
  · intro zero i other message found there key
    simp only at found there
    by_cases early : i < ledger.traffic.received.length
    · rw [List.getElem?_append_left early] at there
      exact counted i other message found there key
    · have last : i = ledger.traffic.received.length := by
        have inside := (List.getElem?_eq_some_iff.mp there).1
        rw [List.length_append, List.length_singleton] at inside
        omega
      subst last
      rw [entry] at found
      rw [List.getElem?_concat_length] at there
      cases found
      cases there
      rw [reports.long4]
      rw [reports.msg] at key
      exact count_iff.mpr (zero key)

theorem get_recording (there : k.threadList tid = some t) (sound : Sound tid t)
    (place : ¬(tid < 0 ∨ tid ≥ THREAD_COUNT_MAX)) (orderly : Orderly ledger.traffic t)
    (recorded : Recorded ledger) (counted : Counted ledger)
    {ubuf jiffies : UInt64} {mouse : Mouse} :
    Returns (serve k (.get tid ubuf jiffies mouse))
      (Recording tid ledger k (.get tid ubuf jiffies mouse)) := by
  rintro ⟨reply, last⟩ served
  have alike : MergesAlike tid ledger.traffic k (.get tid ubuf jiffies mouse) (reply, last) := by
    intro _ _ _ _ _ request
    cases request
  have entry : ∀ got, record tid ledger k (.get tid ubuf jiffies mouse) (.got got, last) =
      { ledger with traffic := ledger.traffic.get got } := by
    intro got
    simp [record, note]
  -- A mouse move, a paint, or what the queue holds.
  rcases get_returns there sound orderly place _ served with
    ⟨moved, got⟩ | ⟨dirty, got⟩ | ⟨still, clean, got⟩
  · cases got
    refine ⟨?_, iff_of_true alike trivial, ?_⟩
    · rw [entry]
      exact ⟨recorded.reports, recorded.account⟩
    · rw [entry]
      apply iff_of_true (counted_congr counted rfl fun _ _ => rfl)
      intro _ no
      rw [moved] at no
      cases no
  · cases got
    refine ⟨?_, iff_of_true alike trivial, ?_⟩
    · rw [entry]
      exact ⟨recorded.reports, recorded.account⟩
    · rw [entry]
      apply iff_of_true (counted_congr counted rfl fun _ _ => rfl)
      intro _ _ no
      rw [dirty] at no
      cases no
  · rw [getFromQueue_got sound orderly] at got
    cases pending : ledger.traffic.posted[ledger.traffic.received.length]? with
    | none =>
        rw [pending] at got
        cases got
        refine ⟨by rwa [entry], iff_of_true alike trivial, ?_⟩
        rw [entry]
        apply iff_of_true counted
        intro _ _ _ e found
        have short := List.getElem?_eq_none_iff.mp pending
        rw [← recorded.reports.length_eq] at short
        rw [List.getElem?_eq_none_iff.mpr short] at found
        cases found
    | some m =>
        rw [pending] at got
        cases got
        -- The message received next is the first one that is still to be reported.
        rcases forall₂_beside recorded.reports pending with ⟨e, first, reports⟩
        refine ⟨?_, iff_of_true alike trivial, ?_⟩
        · rw [entry]
          exact ⟨recorded.reports, recorded.account⟩
        · rw [entry]
          apply (counted_received counted first reports).trans
          constructor
          · intro zero _ _ _ e' found
            rw [first] at found
            cases found
            exact zero
          · exact fun zero => zero rfl still clean e first

theorem other_recording {request : Request} (apart : request.target ≠ tid)
    (recorded : Recorded ledger) (counted : Counted ledger) (out : Reply × Kernel) :
    Recording tid ledger k request out := by
  have entry : record tid ledger k request out = ledger := by
    have noted : note tid ledger.traffic k request out = ledger.traffic := note_other apart out
    rcases out with ⟨reply, last⟩
    cases request with
    | post jiffies srcTid dstTid msg long1 long2 =>
        have elsewhere : dstTid ≠ tid := apart
        cases reply <;> simp [record, noted, elsewhere]
    | post2 srcTid dstTid msg long1 long2 long3 long4 =>
        have elsewhere : dstTid ≠ tid := apart
        cases reply <;> simp [record, noted, elsewhere]
    | get currentTid ubuf jiffies mouse =>
        cases reply <;> simp [record, noted]
  refine ⟨by rwa [entry], ?_, ?_⟩
  · apply iff_of_true
    · rintro jiffies srcTid msg long1 long2 rfl
      exact absurd rfl apart
    · cases request with
      | post => exact fun here => absurd here apart
      | post2 => trivial
      | get => trivial
  · rw [entry]
    apply iff_of_true counted
    cases request with
    | post => trivial
    | post2 => trivial
    | get => exact fun here => absurd here apart

/-- Every step keeps the ledger, and counts right under its two conditions. -/
theorem serve_recording (there : k.threadList tid = some t) (sound : Sound tid t)
    (place : ¬(tid < 0 ∨ tid ≥ THREAD_COUNT_MAX)) (orderly : Orderly ledger.traffic t)
    (recorded : Recorded ledger) (counted : Counted ledger) (request : Request) :
    Returns (serve k request) (Recording tid ledger k request) := by
  by_cases apart : request.target = tid
  · cases request with
    | post jiffies srcTid dstTid msg long1 long2 =>
        cases apart
        exact post_recording there sound orderly recorded counted
    | post2 srcTid dstTid msg long1 long2 long3 long4 =>
        cases apart
        exact post2_recording there sound orderly recorded counted
    | get currentTid ubuf jiffies mouse =>
        cases apart
        exact get_recording there sound place orderly recorded counted
  · exact fun out _ => other_recording apart recorded counted out

end Steps

/-- The thread is in its place with its messages in order, and the ledger tells
    what became of its posts. -/
structure Keeping (tid : Int32) (seen : Ledger × Kernel) : Prop where
  serving : Serving tid (seen.1.traffic, seen.2)
  recorded : Recorded seen.1
  counted : Counted seen.1

theorem Fresh.keeping (fresh : Fresh) : Keeping fresh.tid (Ledger.none, fresh.kernel) := by
  refine ⟨⟨fresh.thread, fresh.there, fresh.sound, fresh.orderly⟩, ⟨.nil, rfl⟩, ?_⟩
  intro i e m entry
  cases entry

/-- One step from there loses no key press if and only if it is in its turn, a
    post that is merged has the key of the last message, and a key message that
    is taken counts from zero. -/
theorem coalesced_iff (fresh : Fresh) {seen : Ledger × Kernel} {request : Request}
    {out : Reply × (Ledger × Kernel)} (keeping : Keeping fresh.tid seen)
    (served : observe (record fresh.tid) serve seen request = .ok out) :
    (Coalesced fresh.tid seen request out ↔ Countable fresh.tid seen.1 request) ∧
      (Coalesced fresh.tid seen request out → Keeping fresh.tid out.2) := by
  rcases out with ⟨reply, ledger, last⟩
  rcases observe_ok served with ⟨first, noted⟩
  rcases keeping with ⟨⟨t, there, sound, orderly⟩, recorded, counted⟩
  rcases serve_stepped there sound fresh.place _ first with ⟨u, stepped⟩
  have recording := serve_recording there sound fresh.place orderly recorded counted request
    _ first
  simp only at noted
  have traffic : ledger.traffic = note fresh.tid seen.1.traffic seen.2 request (reply, last) := by
    rw [noted, record_traffic]
  have order : InOrder fresh.tid ledger.traffic last ↔ Orderly ledger.traffic u := by
    constructor
    · rintro ⟨v, found, still⟩
      rw [stepped.there] at found
      cases found
      exact still
    · exact fun still => ⟨u, stepped.there, still⟩
  -- The order is the matter of the queue, the counts that of the record.
  have turn : Orderly ledger.traffic u ↔ InTurn fresh.tid seen.1.traffic request := by
    rw [traffic]
    exact stepped.exact _ orderly
  have kept : Recorded ledger := noted ▸ recording.recorded
  have counts : Counted ledger ↔ CountsFromZero fresh.tid seen.1 request := by
    rw [noted]
    exact recording.counted
  constructor
  · constructor
    · intro coalesced
      exact ⟨turn.mp (order.mp coalesced.inOrder), recording.alike.mp coalesced.alike,
        counts.mp coalesced.counted⟩
    · intro countable
      have still := turn.mpr countable.inTurn
      have right := counts.mpr countable.fromZero
      refine ⟨order.mpr still, recording.alike.mpr countable.sameKey, right, ?_⟩
      apply conserved_of_counted kept _ right
      rcases still.conserved with ⟨waiting, posted, -⟩
      exact ⟨waiting, posted⟩
  · intro coalesced
    exact ⟨⟨u, stepped.there, stepped.sound, order.mp coalesced.inOrder⟩, kept, coalesced.counted⟩

/-- In every run of posts to any threads and gets of any threads, every step
    keeps the messages of a thread in order, merges a key post into a pending
    message of its code, its key and its receiver alone, and leaves every key
    message received with the number of posts merged into it, so that no key post
    is lost, if and only if every step of the run is made in its turn, merges
    posts of one key, and takes key messages that were queued with 0 in the field
    of the count. -/
theorem key_posts_counted (fresh : Fresh) (requests : List Request) :
    Along (observe (record fresh.tid) serve) (Coalesced fresh.tid) (Ledger.none, fresh.kernel)
        requests ↔
      Along (observe (record fresh.tid) serve)
        (fun seen request _ => Countable fresh.tid seen.1 request) (Ledger.none, fresh.kernel)
        requests := by
  apply along_iff _ _ requests (Fresh.keeping fresh)
  · intro seen request out keeping served
    exact (coalesced_iff fresh keeping served).1
  · intro seen request out keeping served
    exact (coalesced_iff fresh keeping served).2

/-- A key that is held from the time 0 on is received with the number of its repeats. -/
theorem repeats_counted :
    Along (observe (record 5) serve) (Coalesced 5) (Ledger.none, oneThread)
      [.post 0 1 5 MSG_KEYDOWN 65 0, .post 3 1 5 MSG_KEYDOWN 65 0, .get 5 0x1000 9 mouse] := by
  apply (key_posts_counted alone _).mpr
  intro out first
  cases first
  refine ⟨⟨fun _ _ _ _ => Or.inl (by decide), ?_, trivial⟩, fun out second => ?_⟩
  · intro _ pending
    cases pending
  cases second
  refine ⟨⟨fun _ _ _ _ => Or.inl (by decide), ?_, trivial⟩, fun out third => ?_⟩
  · intro _ _ last pending
    cases pending
    rfl
  refine ⟨⟨fun _ => Or.inr (Or.inr (by decide)), trivial, ?_⟩, trivial⟩
  intro _ _ _ e there _
  cases there
  exact ⟨rfl, by decide⟩

/-- A key that is pressed once, at the time 7, is received with the count 7; a
    second press makes it 8. -/
theorem count_begins_at_time : ∃ k₁ k₂,
    run serve oneThread [.post 7 1 5 MSG_KEYDOWN 65 0, .get 5 0x1000 9 mouse] =
      .ok ([.value 0, .got (.message ⟨0, MSG_KEYDOWN, 65, 0, 7, 7, 1, 5⟩ 9)], k₁) ∧
    run serve oneThread [.post 7 1 5 MSG_KEYDOWN 65 0, .post 8 1 5 MSG_KEYDOWN 65 0,
        .get 5 0x1000 9 mouse] =
      .ok ([.value 0, .value 0, .got (.message ⟨0, MSG_KEYDOWN, 65, 0, 8, 8, 1, 5⟩ 9)], k₂) :=
  ⟨_, _, rfl, rfl⟩

end Gramado.Ke.KeyRepeat
