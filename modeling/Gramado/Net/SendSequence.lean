/-
The send sequence of a connection over whole runs. Beside the tables a ledger is
kept for every connection that left CLOSED: how many sequence numbers were put
on the wire for it since `iss`, and how far `snd_una` has moved on. Both count
without bound, and the two fields are these counts modulo 2 ^ 32.
-/
import Gramado.Net.Effects

namespace Gramado.Net.SendSequence

open Gramado.Ke Gramado.Lib.Fallible Gramado.Lib.Machine Gramado.Lib.Slots
open Gramado.Net.Parse Gramado.Net.Tcp Gramado.Net.Calls Gramado.Net.Reactions
open Gramado.Net.Effects

structure Ledger where
  sent : Nat
  acked : Nat
  deriving DecidableEq, Repr

/-- The place of the connection that a call sends for: one in the list, or the
    one that the call appends. -/
def sender (t : Tables) : Call → Nat
  | .segment _ seg => ((acting t seg).map Prod.snd).getD t.connectionList.length
  | .send _ k _ => (tcpFindConnectionByLocalSocket t k).getD t.connectionList.length
  | _ => t.connectionList.length

/-- The ledger after a call: `snd_una` only ever moves forward, if need be
    round the circle. -/
def enter (ledger : Ledger) (length : Nat) (c c' : Connection) : Ledger :=
  ⟨ledger.sent + length, ledger.acked + (c'.sndUna - c.sndUna).toNat⟩

def nextLedger (ledger : Option Ledger) (length : Nat) :
    Option Connection → Connection → Option Ledger
  | some c, c' => ledger.map fun ledger => enter ledger length c c'
  | none, c' => if c'.status = .closed then none else some ⟨length, 0⟩

/-- What the call put on the wire for the connection in one place. -/
def sentFor (t : Tables) (call : Call) (n i : Nat) : Nat :=
  if sender t call = i then n else 0

def noteLedgers (ledgers : Nat → Option Ledger) (t : Tables) (call : Call)
    (out : Answer × Tables) : Nat → Option Ledger :=
  fun i => out.2.connectionList[i]?.bind
    (nextLedger (ledgers i) (sentFor t call (wireLength out.1.sent) i) t.connectionList[i]?)

/-- The claim for a connection in one state: `iss <= snd_una <= snd_nxt`, and
    `snd_nxt` is `iss` and everything that went on the wire. -/
def Balanced (ledger : Option Ledger) (c : Connection) : Prop :=
  match ledger with
  | none => c.status = .closed
  | some ledger =>
      c.sndUna = c.iss + UInt32.ofNat ledger.acked ∧
        c.sndNxt = c.iss + UInt32.ofNat ledger.sent ∧
        ledger.acked ≤ ledger.sent

/-- Until its SYN is answered nothing but the SYN is in a connection's ledger. -/
def Waiting (ledger : Option Ledger) (c : Connection) : Prop :=
  c.status = .synSent → ledger = some ⟨1, 0⟩

/-- An acknowledgement of something that is on its way. -/
def InWindow (ledger : Ledger) (c : Connection) (seg : Segment) : Prop :=
  (seg.ack - c.sndUna).toNat ≤ ledger.sent - ledger.acked

/-- The segments whose acknowledgement number two of the handlers take over. -/
def takes (seg : Segment) : Bool :=
  !seg.rst && !seg.syn && seg.isAck

/-- A segment that the block may act on: where it takes the acknowledgement
    number over, that is in the window; and a FIN does not meet a connection of
    the kernel debugger that has sent its own already. -/
def Acknowledges (handler : Handler) (wired : Bool) (ledger : Ledger) (c : Connection)
    (seg : Segment) : Prop :=
  match handler, c.status with
  | .synSentKd, .synSent => seg.syn → seg.isAck → seg.ack = c.iss + 1
  | .kdServer, .finWait1 => wired → seg.fin → seg.rst
  | .nonLocalServers, .synReceived | .localServers, .synReceived
  | .nonLocalServers, .established | .localServers, .established =>
      takes seg → InWindow ledger c seg
  | _, _ => True

/-- The condition on a call. A SYN that opens a connection has to be answered. -/
def Accounted (ledgers : Nat → Option Ledger) (t : Tables) : Call → Prop
  | .segment env seg =>
      (∀ handler i c ledger, acting t seg = some (handler, i) → t.connectionList[i]? = some c →
        ledgers i = some ledger → Acknowledges handler env.wired ledger c seg) ∧
      (opens t seg → roomFor env t → answered env)
  | _ => True

section Arithmetic

theorem sub_self_toNat (a : UInt32) : (a - a).toNat = 0 := by
  rw [UInt32.sub_self]
  rfl

/-- What a step has to do to `snd_una` and `snd_nxt` to keep a balance. -/
theorem balanced_enter_iff {ledger : Ledger} {length : Nat} {c c' : Connection}
    (balanced : Balanced (some ledger) c) (iss : c'.iss = c.iss) :
    Balanced (some (enter ledger length c c')) c' ↔
      c'.sndNxt - c.sndNxt = UInt32.ofNat length ∧
        (c'.sndUna - c.sndUna).toNat ≤ ledger.sent + length - ledger.acked := by
  rcases balanced with ⟨una, nxt, below⟩
  have forward : c'.sndUna =
      c'.iss + UInt32.ofNat (ledger.acked + (c'.sndUna - c.sndUna).toNat) := by
    rw [UInt32.ofNat_add, UInt32.ofNat_toNat, iss]
    grind
  have wire : c'.sndNxt = c'.iss + UInt32.ofNat (ledger.sent + length) ↔
      c'.sndNxt - c.sndNxt = UInt32.ofNat length := by
    rw [UInt32.ofNat_add, iss]
    grind
  simp only [Balanced, enter, ← forward, wire, true_and]
  constructor
  · rintro ⟨moved, short⟩
    exact ⟨moved, by omega⟩
  · rintro ⟨moved, short⟩
    exact ⟨moved, by omega⟩

end Arithmetic

section Blocks

variable {handler : Handler} {wired : Bool} {c : Connection} {seg : Segment}

theorem onSynReceived_send : (onSynReceived c seg).iss = c.iss ∧
    (onSynReceived c seg).sndNxt = c.sndNxt ∧
    (onSynReceived c seg).sndUna = if takes seg then seg.ack else c.sndUna := by
  unfold onSynReceived takes
  grind

theorem advanced_send : (advanced c seg).iss = c.iss ∧ (advanced c seg).sndNxt = c.sndNxt ∧
    (advanced c seg).sndUna = c.sndUna := by
  unfold advanced behind
  split <;> exact ⟨rfl, rfl, rfl⟩

theorem reactEstablished_send (answers closes : Bool) :
    (reactEstablished answers closes c seg).iss = c.iss ∧
      (reactEstablished answers closes c seg).sndNxt = c.sndNxt ∧
      (reactEstablished answers closes c seg).sndUna = if takes seg then seg.ack else c.sndUna := by
  have same : (replied answers (advanced (acknowledged c seg) seg)).iss = c.iss ∧
      (replied answers (advanced (acknowledged c seg) seg)).sndNxt = c.sndNxt ∧
      (replied answers (advanced (acknowledged c seg) seg)).sndUna = seg.ack := by
    have moved : (advanced (acknowledged c seg) seg).iss = c.iss ∧
        (advanced (acknowledged c seg) seg).sndNxt = c.sndNxt ∧
        (advanced (acknowledged c seg) seg).sndUna = seg.ack := advanced_send
    cases answers with
    | true => exact moved
    | false => exact moved
  unfold reactEstablished takes
  grind

theorem taken_iff {ledger : Ledger} {c' : Connection} (balanced : Balanced (some ledger) c)
    (send : c'.iss = c.iss ∧ c'.sndNxt = c.sndNxt ∧
      c'.sndUna = if takes seg then seg.ack else c.sndUna) :
    (takes seg → InWindow ledger c seg) ↔ Balanced (some (enter ledger 0 c c')) c' := by
  rw [balanced_enter_iff balanced send.1, send.2.1, send.2.2]
  have zero : c.sndNxt - c.sndNxt = UInt32.ofNat 0 := UInt32.sub_self c.sndNxt
  by_cases taken : takes seg
  · simp [taken, InWindow]
  · simp [taken]

/-- What changes neither of the two numbers, and sends nothing, keeps a balance. -/
theorem still_balanced {ledger : Ledger} {c' : Connection}
    (balanced : Balanced (some ledger) c)
    (send : c'.iss = c.iss ∧ c'.sndNxt = c.sndNxt ∧ c'.sndUna = c.sndUna) :
    Balanced (some (enter ledger 0 c c')) c' := by
  rw [balanced_enter_iff balanced send.1, send.2.1, send.2.2, sub_self_toNat]
  exact ⟨UInt32.sub_self c.sndNxt, Nat.zero_le _⟩

theorem waiting_numbers (balanced : Balanced (some ⟨1, 0⟩) c) :
    c.sndUna = c.iss ∧ c.sndNxt = c.iss + 1 := by
  rcases balanced with ⟨una, nxt, -⟩
  exact ⟨una.trans (UInt32.add_zero c.iss), nxt⟩

theorem one_forward (iss : UInt32) : (iss + 1 - iss).toNat = 1 := by
  have one : iss + 1 - iss = 1 := by grind
  rw [one]
  rfl

theorem reactSynSent_balanced (balanced : Balanced (some ⟨1, 0⟩) c) :
    Balanced (some (enter ⟨1, 0⟩ 0 c (reactSynSent c seg))) (reactSynSent c seg) := by
  rcases waiting_numbers balanced with ⟨una, nxt⟩
  have numbers : (reactSynSent c seg).iss = c.iss ∧ (reactSynSent c seg).sndNxt = c.sndNxt ∧
      ((reactSynSent c seg).sndUna = c.iss ∨ (reactSynSent c seg).sndUna = c.iss + 1) := by
    unfold reactSynSent
    grind
  rcases numbers with ⟨iss, same, still | forward⟩
  · exact still_balanced balanced ⟨iss, same, still.trans una.symm⟩
  · rw [balanced_enter_iff balanced iss, same, forward, una, one_forward]
    exact ⟨UInt32.sub_self c.sndNxt, Nat.le_refl 1⟩

theorem reactSynSentKd_iff (balanced : Balanced (some ⟨1, 0⟩) c) :
    (seg.syn → seg.isAck → seg.ack = c.iss + 1) ↔
      Balanced (some (enter ⟨1, 0⟩ 0 c (reactSynSentKd c seg))) (reactSynSentKd c seg) := by
  rcases waiting_numbers balanced with ⟨una, nxt⟩
  by_cases answers : seg.syn ∧ seg.isAck
  · have numbers : (reactSynSentKd c seg).iss = c.iss ∧
        (reactSynSentKd c seg).sndNxt = seg.ack ∧ (reactSynSentKd c seg).sndUna = seg.ack := by
      simp [reactSynSentKd, answers]
    have exact : seg.ack - (c.iss + 1) = UInt32.ofNat 0 ↔ seg.ack = c.iss + 1 := by
      have zero : UInt32.ofNat 0 = 0 := rfl
      rw [zero]
      grind
    rw [balanced_enter_iff balanced numbers.1, numbers.2.1, numbers.2.2, una, nxt, exact]
    constructor
    · intro ack
      have one := ack answers.1 answers.2
      rw [one, one_forward]
      exact ⟨rfl, Nat.le_refl 1⟩
    · exact fun same _ _ => same.1
  · have after : reactSynSentKd c seg = c := by
      unfold reactSynSentKd
      grind
    rw [after]
    exact iff_of_true (fun syn ack => absurd ⟨syn, ack⟩ answers)
      (still_balanced balanced ⟨rfl, rfl, rfl⟩)

theorem in_flight_le {ledger : Ledger} (balanced : Balanced (some ledger) c) :
    (c.sndNxt - c.sndUna).toNat ≤ ledger.sent - ledger.acked := by
  rcases balanced with ⟨una, nxt, below⟩
  have flight : c.sndNxt - c.sndUna = UInt32.ofNat (ledger.sent - ledger.acked) := by
    rw [una, nxt, UInt32.ofNat_sub below]
    grind
  rw [flight, UInt32.toNat_ofNat']
  exact Nat.mod_le _ _

theorem reactSynReceivedKd_balanced {ledger : Ledger} (balanced : Balanced (some ledger) c) :
    Balanced (some (enter ledger 0 c (reactSynReceivedKd c seg))) (reactSynReceivedKd c seg) := by
  have numbers : (reactSynReceivedKd c seg).iss = c.iss ∧
      (reactSynReceivedKd c seg).sndNxt = c.sndNxt ∧
      ((reactSynReceivedKd c seg).sndUna = c.sndUna ∨
        (reactSynReceivedKd c seg).sndUna = c.sndNxt) := by
    unfold reactSynReceivedKd
    grind
  rcases numbers with ⟨iss, same, still | acked⟩
  · exact still_balanced balanced ⟨iss, same, still⟩
  · rw [balanced_enter_iff balanced iss, same, acked]
    exact ⟨UInt32.sub_self c.sndNxt, in_flight_le balanced⟩

theorem sent_balanced {ledger : Ledger} {c' : Connection} {length : Nat}
    (balanced : Balanced (some ledger) c) (iss : c'.iss = c.iss)
    (una : c'.sndUna = c.sndUna) (nxt : c'.sndNxt = c.sndNxt + UInt32.ofNat length) :
    Balanced (some (enter ledger length c c')) c' := by
  rw [balanced_enter_iff balanced iss, una, nxt, sub_self_toNat]
  exact ⟨by grind, Nat.zero_le _⟩

theorem reactHttp_balanced {ledger : Ledger} (balanced : Balanced (some ledger) c) :
    Balanced (some (enter ledger (spentHttp wired c seg) c (reactHttp wired c seg)))
      (reactHttp wired c seg) := by
  unfold reactHttp spentHttp
  simp only [requested, counted]
  cases Gramnet.Http.httpResponse seg.payload c.sndWnd.toUInt16 with
  | none => exact still_balanced balanced ⟨rfl, rfl, rfl⟩
  | some resp =>
      cases wired with
      | false => exact still_balanced balanced ⟨rfl, rfl, rfl⟩
      | true => exact sent_balanced balanced rfl rfl (by simp [UInt32.ofNat_add])

theorem reactFinWait1Kd_iff {ledger : Ledger} (balanced : Balanced (some ledger) c) :
    (wired → ¬seg.fin) ↔
      Balanced (some (enter ledger (spentFinWait1Kd wired seg) c (reactFinWait1Kd wired c seg)))
        (reactFinWait1Kd wired c seg) := by
  have numbers : (reactFinWait1Kd wired c seg).iss = c.iss ∧
      (reactFinWait1Kd wired c seg).sndNxt = c.sndNxt ∧
      (reactFinWait1Kd wired c seg).sndUna = c.sndUna := by
    unfold reactFinWait1Kd counted
    grind
  by_cases again : wired ∧ seg.fin
  · have one : spentFinWait1Kd wired seg = 1 := by simp [spentFinWait1Kd, again]
    rw [one, balanced_enter_iff balanced numbers.1, numbers.2.1, UInt32.sub_self]
    -- The second FIN is on the wire, and `snd_nxt` stays.
    refine iff_of_false (fun alone => alone again.1 again.2) fun moved => ?_
    exact absurd moved.1 (by decide)
  · have none : spentFinWait1Kd wired seg = 0 := by
      unfold spentFinWait1Kd
      grind
    rw [none]
    exact iff_of_true (fun sent fin => again ⟨sent, fin⟩) (still_balanced balanced numbers)

theorem react_balanced_iff {ledger : Ledger} (balanced : Balanced (some ledger) c)
    (waiting : Waiting (some ledger) c) (peer : handler = .synSentKd → c.status = .synSent) :
    Acknowledges handler wired ledger c seg ↔
      Balanced (some (enter ledger (spent handler wired c seg) c (react handler wired c seg)))
        (react handler wired c seg) := by
  have same : Balanced (some (enter ledger 0 c c)) c := still_balanced balanced ⟨rfl, rfl, rfl⟩
  cases handler with
  | synSentKd =>
      have waits := peer rfl
      cases waiting waits
      simpa [Acknowledges, spent, react, waits] using reactSynSentKd_iff balanced
  | localServers =>
      cases status : c.status with
      | synReceived =>
          simpa [Acknowledges, spent, react, status] using taken_iff balanced onSynReceived_send
      | established =>
          simpa [Acknowledges, spent, react, status] using
            taken_iff balanced (reactEstablished_send false true)
      | _ => simpa [Acknowledges, spent, react, status] using same
  | nonLocalServers =>
      cases status : c.status with
      | synReceived =>
          simpa [Acknowledges, spent, react, status] using taken_iff balanced onSynReceived_send
      | established =>
          simpa [Acknowledges, spent, react, status] using
            taken_iff balanced (reactEstablished_send wired wired)
      | synSent =>
          cases waiting status
          simpa [Acknowledges, spent, react, status] using reactSynSent_balanced balanced
      | _ => simpa [Acknowledges, spent, react, status] using same
  | kdServer =>
      cases status : c.status with
      | synReceived =>
          by_cases acked : seg.syn = false ∧ seg.isAck = true
          · simpa [Acknowledges, spent, react, reactKd, status, acked] using
              reactSynReceivedKd_balanced balanced
          · simpa [Acknowledges, spent, react, reactKd, status, acked] using same
      | established =>
          by_cases rst : seg.rst
          · simpa [Acknowledges, spent, react, reactKd, status, rst] using same
          · simpa [Acknowledges, spent, react, reactKd, status, rst] using
              reactHttp_balanced balanced
      | finWait1 =>
          by_cases rst : seg.rst
          · simpa [Acknowledges, spent, react, reactKd, status, rst] using same
          · simpa [Acknowledges, spent, react, reactKd, status, rst] using
              reactFinWait1Kd_iff balanced
      | _ => simpa [Acknowledges, spent, react, reactKd, status] using same

theorem react_waiting (peer : handler = .synSentKd → c.status = .synSent)
    (waits : (react handler wired c seg).status = .synSent) :
    c.status = .synSent ∧ react handler wired c seg = c ∧ spent handler wired c seg = 0 := by
  have turns : Turns handler wired seg c.status (react handler wired c seg).status :=
    react_turns peer
  rw [waits] at turns
  have before : c.status = .synSent := by
    generalize c.status = s at turns
    cases turns
    rfl
  refine ⟨before, ?_, by simp [spent, before]⟩
  cases handler with
  | synSentKd =>
      unfold react reactSynSentKd at waits ⊢
      grind
  | nonLocalServers =>
      simp only [react, before] at waits ⊢
      unfold reactSynSent at waits ⊢
      grind
  | _ => simp [react, reactKd, before]

end Blocks

section Runs

variable {t : Tables} {call : Call} {out : Answer × Tables} {ledgers : Nat → Option Ledger}

/-- What the ledger of a connection has to be for it to be carried on. -/
def Booked (ledger : Option Ledger) (c : Connection) : Prop :=
  Balanced ledger c ∧ Waiting ledger c

theorem nextLedger_self (ledger : Option Ledger) (c : Connection) :
    nextLedger ledger 0 (some c) c = ledger := by
  simp [nextLedger, enter]

theorem moves_sender {i n : Nat} {c c' : Connection} (moves : Moves t call i c c' n) :
    sentFor t call n i = n := by
  unfold sentFor
  cases moves with
  | react _ acts => simp [sender, acts]
  | send _ found _ => simp [sender, found]
  | close => simp

theorem creates_sender {n : Nat} {c : Connection} (creates : Creates t call c n) :
    sender t call = t.connectionList.length := by
  cases creates with
  | @syn env seg mac client server sent opening room =>
      simp [sender, opens_alone opening]
  | connect remote => rfl
  | failed closed => rfl

/-- A connection that a call works on is accounted for exactly where the claim
    holds of it afterwards. -/
theorem moves_balanced_iff {i n : Nat} {c c' : Connection} (booked : Booked (ledgers i) c)
    (found : t.connectionList[i]? = some c) (moves : Moves t call i c c' n) :
    Accounted ledgers t call ↔ Balanced (nextLedger (ledgers i) n (some c) c') c' := by
  rcases booked with ⟨balanced, waiting⟩
  cases ledger : ledgers i with
  | none =>
      rw [ledger] at balanced
      have closed : c.status = .closed := balanced
      cases moves with
      | send _ looked established => exact absurd (closed.symm.trans established) (by decide)
      | close _ socket => exact iff_of_true trivial rfl
      | @react env seg handler _ _ acts =>
          have peer := fun kd : handler = .synSentKd => acting_synSentKd (kd ▸ acts) found
          refine iff_of_true ⟨?_, fun opening => ?_⟩ (by rwa [react_closed closed peer])
          · intro other j d open' acts' _ noted
            rw [acts] at acts'
            cases acts'
            rw [ledger] at noted
            cases noted
          · simp [opens, acts] at opening
  | some old =>
      rw [ledger] at balanced waiting
      cases moves with
      | send _ looked established =>
          exact iff_of_true trivial (sent_balanced balanced rfl rfl rfl)
      | close _ socket => exact iff_of_true trivial (still_balanced balanced ⟨rfl, rfl, rfl⟩)
      | @react env seg handler _ _ acts =>
          have peer := fun kd : handler = .synSentKd => acting_synSentKd (kd ▸ acts) found
          refine Iff.trans ?_ (react_balanced_iff balanced waiting peer)
          constructor
          · intro accounted
            exact accounted.1 handler i c old acts found ledger
          · intro acknowledges
            refine ⟨?_, fun opening => ?_⟩
            · intro other j d noted acts' found' ledger'
              rw [acts] at acts'
              cases acts'
              rw [found] at found'
              cases found'
              rw [ledger] at ledger'
              cases ledger'
              exact acknowledges
            · simp [opens, acts] at opening

theorem creates_balanced_iff {n : Nat} {c : Connection} (creates : Creates t call c n)
    (ledger : Option Ledger) :
    Accounted ledgers t call ↔ Balanced (nextLedger ledger n none c) c := by
  cases creates with
  | failed closed => exact iff_of_true trivial (by simp [nextLedger, closed, Balanced])
  | connect remote =>
      refine iff_of_true trivial ?_
      simp [nextLedger, Balanced, connectingConnection]
  | @syn env seg mac client server sent opening room =>
      have accounted : Accounted ledgers t (.segment env seg) ↔ answered env := by
        simp [Accounted, opens_alone opening, opening, room]
      rw [accounted]
      cases answered env with
      | true => simp [nextLedger, Balanced, synReceivedConnection]
      | false => simp [nextLedger, Balanced, synReceivedConnection]

theorem moves_waiting {i n : Nat} {c c' : Connection} {ledger : Option Ledger}
    (waiting : Waiting ledger c) (found : t.connectionList[i]? = some c)
    (moves : Moves t call i c c' n) : Waiting (nextLedger ledger n (some c) c') c' := by
  intro waits
  cases moves with
  | send _ looked established => exact absurd (established.symm.trans waits) (by decide)
  | close _ socket => cases waits
  | @react env seg handler _ _ acts =>
      have peer := fun kd : handler = .synSentKd => acting_synSentKd (kd ▸ acts) found
      rcases react_waiting peer waits with ⟨before, same, silent⟩
      rw [same, silent, nextLedger_self]
      exact waiting before

theorem creates_waiting {n : Nat} {c : Connection} {ledger : Option Ledger}
    (creates : Creates t call c n) : Waiting (nextLedger ledger n none c) c := by
  intro waits
  cases creates with
  | failed closed => exact absurd (closed.symm.trans waits) (by decide)
  | connect remote => rfl
  | syn mac client server sent opening room => cases waits

/-- The ledger of a connection after a call that sent `n` sequence numbers. -/
def carried (ledgers : Nat → Option Ledger) (t : Tables) (call : Call) (n i : Nat)
    (c' : Connection) : Option Ledger :=
  nextLedger (ledgers i) (sentFor t call n i) t.connectionList[i]? c'

theorem carried_other {i j n : Nat} {c c' d : Connection} (moves : Moves t call i c c' n)
    (other : i ≠ j) (found : t.connectionList[j]? = some d) :
    carried ledgers t call n j d = ledgers j := by
  have silent : sentFor t call n j = 0 := by
    have mine := moves_sender moves
    unfold sentFor at mine ⊢
    grind
  rw [carried, silent, found, nextLedger_self]

theorem carried_old {j n : Nat} {d : Connection} (last : sender t call = t.connectionList.length)
    (found : t.connectionList[j]? = some d) : carried ledgers t call n j d = ledgers j := by
  have inside : j < t.connectionList.length := (List.getElem?_eq_some_iff.mp found).1
  have silent : sentFor t call n j = 0 := if_neg (by omega)
  rw [carried, silent, found, nextLedger_self]

theorem carried_still {i : Nat} {c : Connection} (found : t.connectionList[i]? = some c) :
    carried ledgers t call 0 i c = ledgers i := by
  have silent : sentFor t call 0 i = 0 := by simp [sentFor]
  rw [carried, silent, found, nextLedger_self]

theorem carried_moved {i n : Nat} {c c' : Connection} (found : t.connectionList[i]? = some c)
    (moves : Moves t call i c c' n) :
    carried ledgers t call n i c' = nextLedger (ledgers i) n (some c) c' := by
  rw [carried, moves_sender moves, found]

theorem carried_created {n : Nat} {c : Connection} (creates : Creates t call c n) :
    carried ledgers t call n t.connectionList.length c =
      nextLedger (ledgers t.connectionList.length) n none c := by
  rw [carried, List.getElem?_eq_none (Nat.le_refl _), sentFor, if_pos (creates_sender creates)]

theorem everywhere_noted {holds : Option Ledger → Connection → Prop} :
    Everywhere (fun i c => holds (noteLedgers ledgers t call out i) c) out.2.connectionList ↔
      Everywhere (fun i c => holds (carried ledgers t call (wireLength out.1.sent) i c) c)
        out.2.connectionList := by
  have same : ∀ i c, out.2.connectionList[i]? = some c → noteLedgers ledgers t call out i =
      carried ledgers t call (wireLength out.1.sent) i c := by
    intro i c there
    rw [noteLedgers, there]
    rfl
  constructor
  · intro every i c there
    rw [← same i c there]
    exact every i c there
  · intro every i c there
    rw [same i c there]
    exact every i c there

theorem accounted_iff
    (booked : Everywhere (fun i c => Booked (ledgers i) c) t.connectionList)
    (served : serve t call = .ok out) :
    Accounted ledgers t call ↔
      Everywhere (fun i c => Balanced (noteLedgers ledgers t call out i) c)
        out.2.connectionList := by
  have effect : Effect t call out.2.connectionList _ := serve_affects t call out served
  rw [everywhere_noted]
  generalize out.2.connectionList = after at effect ⊢
  generalize wireLength out.1.sent = n at effect ⊢
  cases effect with
  | still idle =>
      refine iff_of_true ?_ fun i c found => ?_
      · cases call with
        | segment env seg =>
            refine ⟨fun handler i c ledger acts => ?_, fun opening room => ?_⟩
            · rw [idle.1] at acts
              cases acts
            · exact absurd room (idle.2 opening)
        | _ => trivial
      · have balanced : Balanced (ledgers i) c := (booked i c found).1
        show Balanced (carried ledgers t call 0 i c) c
        rwa [carried_still found]
  | @moved i c c' _ found moves =>
      have others : ∀ j d, i ≠ j → t.connectionList[j]? = some d →
          Balanced (carried ledgers t call n j d) d := by
        intro j d other found'
        rw [carried_other moves other found']
        exact (booked j d found').1
      rw [everywhere_set_iff (List.getElem?_eq_some_iff.mp found).1 others,
        carried_moved found moves]
      exact moves_balanced_iff (booked i c found) found moves
  | created creates =>
      rw [everywhere_append_iff, carried_created creates]
      · exact creates_balanced_iff creates _
      · intro j d found
        rw [carried_old (creates_sender creates) found]
        exact (booked j d found).1

theorem serve_waiting
    (booked : Everywhere (fun i c => Booked (ledgers i) c) t.connectionList)
    (served : serve t call = .ok out) :
    Everywhere (fun i c => Waiting (noteLedgers ledgers t call out i) c)
      out.2.connectionList := by
  have effect : Effect t call out.2.connectionList _ := serve_affects t call out served
  rw [everywhere_noted]
  generalize out.2.connectionList = after at effect ⊢
  generalize wireLength out.1.sent = n at effect ⊢
  cases effect with
  | still idle =>
      intro i c found
      rw [carried_still found]
      exact (booked i c found).2
  | @moved i c c' _ found moves =>
      refine (everywhere_set_iff (List.getElem?_eq_some_iff.mp found).1 ?_).mpr ?_
      · intro j d other found'
        rw [carried_other moves other found']
        exact (booked j d found').2
      · rw [carried_moved found moves]
        exact moves_waiting (booked i c found).2 found moves
  | created creates =>
      refine everywhere_append ?_ ?_
      · intro j d found
        rw [carried_old (creates_sender creates) found]
        exact (booked j d found).2
      · rw [carried_created creates]
        exact creates_waiting creates

/-- In every run, each acknowledgement that is taken over is of something on its
    way, and each SYN is answered, if and only if every connection that left
    CLOSED has `iss <= snd_una <= snd_nxt`, with all that went on the wire
    between `iss` and `snd_nxt`. -/
theorem send_sequence_iff (t : Tables) (calls : List Call) :
    Along (observe noteLedgers serve) (fun seen call _ => Accounted seen.1 seen.2 call)
        (fun _ => none, { t with connectionList := [] }) calls ↔
      Along (observe noteLedgers serve)
        (fun _ _ out => Everywhere (fun i c => Balanced (out.2.1 i) c) out.2.2.connectionList)
        (fun _ => none, { t with connectionList := [] }) calls := by
  let inv : (Nat → Option Ledger) × Tables → Prop :=
    fun seen => Everywhere (fun i c => Booked (seen.1 i) c) seen.2.connectionList
  have exact : ∀ seen call out, inv seen → observe noteLedgers serve seen call = .ok out →
      (Accounted seen.1 seen.2 call ↔
        Everywhere (fun i c => Balanced (out.2.1 i) c) out.2.2.connectionList) := by
    rintro seen call out booked served
    rcases observe_ok served with ⟨first, noted⟩
    rw [noted]
    exact accounted_iff booked first
  have keep : ∀ seen call out, inv seen → observe noteLedgers serve seen call = .ok out →
      Accounted seen.1 seen.2 call → inv out.2 := by
    rintro seen call out booked served accounted i c there
    rcases observe_ok served with ⟨first, noted⟩
    refine ⟨(exact seen call out booked served).mp accounted i c there, ?_⟩
    rw [noted]
    exact serve_waiting booked first i c there
  exact along_iff exact keep calls everywhere_nil

end Runs

/-- The acknowledgement of something that was never sent. -/
def farAck : Segment where
  sIpv4 := 0xC0A80107
  dIpv4 := 0xC0A80102
  sport := 8000
  dport := 32768
  seq := 701
  ack := 9000
  flags := thAck
  window := 1000
  payload := []
  fits := nil_fits

set_option maxRecDepth 20000 in
/-- An established connection takes over an acknowledgement of 9000 where
    `snd_nxt` is 5001. -/
theorem far_ack_is_taken :
    ¬Along (observe noteLedgers serve)
      (fun _ _ out => Everywhere (fun i c => Balanced (out.2.1 i) c) out.2.2.connectionList)
      (fun _ => none, { Tables.initial with connectionList := [] })
      [.socket wiredEnv, .connect wiredEnv 0 none 0xC0A80107 8000,
        .segment wiredEnv { farAck with seq := 700, ack := 5001, flags := thSyn ||| thAck },
        .segment wiredEnv farAck] := by
  intro along
  rcases along _ rfl with ⟨-, connected⟩
  rcases connected _ rfl with ⟨-, answered⟩
  rcases answered _ rfl with ⟨-, acknowledged⟩
  rcases acknowledged _ rfl with ⟨every, -⟩
  have balanced := (every 0 _ rfl).2.2
  exact absurd balanced (by decide)

end Gramado.Net.SendSequence
