/-
The handshake over whole runs: who brings a connection into ESTABLISHED, and
what a segment that does not leaves behind. The runs are runs of all the calls,
beginning with no connection and any sockets, servers and files.
-/
import Gramado.Net.Effects

namespace Gramado.Net.Handshake

open Gramado.Ke Gramado.Lib.Fallible Gramado.Lib.Machine Gramado.Lib.Slots
open Gramado.Net.Parse Gramado.Net.Tcp Gramado.Net.Calls Gramado.Net.Reactions
open Gramado.Net.Effects

def Shaking (c : Connection) : Prop :=
  c.status = .synSent ∨ c.status = .synReceived

/-- A connection waits for the acknowledgement of its SYN and of nothing else. -/
def Offered (c : Connection) : Prop :=
  Shaking c → c.sndNxt = c.iss + 1

/-- The claim for one connection, before and after a segment: it enters
    ESTABLISHED only where the segment is its own peer's and acknowledges its
    SYN, and a segment that does not bring it there, nor resets it, leaves its
    status and its numbers alone. -/
def Shaken (own : Prop) (seg : Segment) (c c' : Connection) : Prop :=
  (c'.status = .established → c.status = .established ∨ (own ∧ seg.ack = c.iss + 1)) ∧
    (Shaking c → c'.status ≠ .established → ¬seg.rst →
      c'.sndUna = c.sndUna ∧ c'.rcvNxt = c.rcvNxt ∧ c'.status = c.status)

/-- A segment that the block may act on during the handshake. The one block
    that compares the acknowledgement number writes before it does. -/
def Proper (own : Prop) (handler : Handler) (c : Connection) (seg : Segment) : Prop :=
  match handler, c.status with
  | .nonLocalServers, .synSent =>
      ¬seg.rst → seg.syn → seg.isAck → ¬seg.fin → own ∧ seg.ack = c.iss + 1
  | .synSentKd, .synSent => seg.syn → seg.isAck → own ∧ seg.ack = c.iss + 1
  | .nonLocalServers, .synReceived | .localServers, .synReceived =>
      ¬seg.rst → ¬seg.syn → seg.isAck →
        if seg.ack = c.iss + 1 then own
        else seg.ack = c.sndUna ∧ seg.seq + seg.dataLen = c.rcvNxt
  | .kdServer, .synReceived =>
      ¬seg.syn → seg.isAck →
        if seg.ack = c.iss + 1 then own else ¬seg.rst → seg.seq + seg.dataLen = c.rcvNxt
  | _, _ => True

theorem onSynReceived_shaken {own : Prop} {c : Connection} {seg : Segment}
    (offered : c.sndNxt = c.iss + 1) (waits : c.status = .synReceived) :
    Shaken own seg c (onSynReceived c seg) ↔
      (¬seg.rst → ¬seg.syn → seg.isAck →
        if seg.ack = c.iss + 1 then own
        else seg.ack = c.sndUna ∧ seg.seq + seg.dataLen = c.rcvNxt) := by
  unfold Shaken Shaking onSynReceived
  grind

theorem reactSynSent_shaken {own : Prop} {c : Connection} {seg : Segment}
    (waits : c.status = .synSent) :
    Shaken own seg c (reactSynSent c seg) ↔
      (¬seg.rst → seg.syn → seg.isAck → ¬seg.fin → own ∧ seg.ack = c.iss + 1) := by
  unfold Shaken Shaking reactSynSent
  grind

theorem reactSynSentKd_shaken {own : Prop} {c : Connection} {seg : Segment}
    (waits : c.status = .synSent) :
    Shaken own seg c (reactSynSentKd c seg) ↔
      (seg.syn → seg.isAck → own ∧ seg.ack = c.iss + 1) := by
  unfold Shaken Shaking reactSynSentKd
  grind

theorem reactKd_shaken {own : Prop} {wired : Bool} {c : Connection} {seg : Segment}
    (offered : c.sndNxt = c.iss + 1) (waits : c.status = .synReceived) :
    Shaken own seg c (reactKd wired c seg) ↔
      (¬seg.syn → seg.isAck →
        if seg.ack = c.iss + 1 then own else ¬seg.rst → seg.seq + seg.dataLen = c.rcvNxt) := by
  unfold Shaken Shaking reactKd reactSynReceivedKd
  grind

theorem shaken_self (own : Prop) (seg : Segment) (c : Connection) : Shaken own seg c c :=
  ⟨fun established => Or.inl established, fun _ _ _ => ⟨rfl, rfl, rfl⟩⟩

theorem react_established {handler : Handler} {wired : Bool} {c : Connection} {seg : Segment}
    (past : ¬Shaking c) (kd : handler = .synSentKd → c.status = .synSent)
    (established : (react handler wired c seg).status = .established) :
    c.status = .established := by
  unfold Shaking at past
  cases handler with
  | synSentKd => exact absurd (Or.inl (kd rfl)) past
  | kdServer =>
      unfold react reactKd reactHttp reactFinWait1Kd requested counted at established
      grind
  | localServers =>
      unfold react at established
      grind
  | nonLocalServers =>
      unfold react at established
      grind

theorem react_shaken {own : Prop} {handler : Handler} {wired : Bool} {c : Connection}
    {seg : Segment} (offered : Offered c)
    (kd : handler = .synSentKd → c.status = .synSent) :
    Proper own handler c seg ↔ Shaken own seg c (react handler wired c seg) := by
  by_cases sent : c.status = .synSent
  · have still := shaken_self own seg c
    cases handler with
    | synSentKd => simpa only [Proper, react, sent] using (reactSynSentKd_shaken sent).symm
    | kdServer => simpa [Proper, react, reactKd, sent] using still
    | localServers => simpa [Proper, react, sent] using still
    | nonLocalServers => simpa only [Proper, react, sent] using (reactSynSent_shaken sent).symm
  · by_cases received : c.status = .synReceived
    · have next := offered (Or.inr received)
      cases handler with
      | synSentKd => exact absurd (kd rfl) sent
      | kdServer =>
          simpa only [Proper, react, received] using (reactKd_shaken next received).symm
      | localServers =>
          simpa only [Proper, react, received] using (onSynReceived_shaken next received).symm
      | nonLocalServers =>
          simpa only [Proper, react, received] using (onSynReceived_shaken next received).symm
    · have past : ¬Shaking c := fun shaking => shaking.elim sent received
      have proper : Proper own handler c seg := by
        unfold Proper
        split <;> simp_all
      refine iff_of_true proper ⟨fun established => Or.inl ?_, fun shaking => absurd shaking past⟩
      exact react_established past kd established

section Runs

variable {t : Tables} {call : Call} {out : Answer × Tables} {born : List FourTuple}

theorem react_offered {handler : Handler} {wired : Bool} {c : Connection} {seg : Segment}
    (offered : Offered c) : Offered (react handler wired c seg) := by
  unfold Offered Shaking at offered ⊢
  cases handler with
  | synSentKd =>
      unfold react reactSynSentKd
      grind
  | kdServer =>
      unfold react reactKd reactSynReceivedKd reactHttp reactFinWait1Kd requested counted
      grind
  | localServers =>
      unfold react onSynReceived reactEstablished replied advanced behind acknowledged
      grind
  | nonLocalServers =>
      unfold react onSynReceived reactSynSent reactEstablished replied advanced behind acknowledged
      grind

theorem moves_offered {i n : Nat} {c c' : Connection} (moves : Moves t call i c c' n)
    (offered : Offered c) : Offered c' := by
  cases moves with
  | react _ acts => exact react_offered offered
  | send _ found established =>
      intro shaking
      unfold Shaking at shaking
      simp [established] at shaking
  | close _ found =>
      intro shaking
      simp [Shaking] at shaking

theorem creates_offered {n : Nat} {c : Connection} (creates : Creates t call c n) :
    Offered c := by
  cases creates with
  | syn mac client server sent opening room => exact fun _ => rfl
  | connect remote => exact fun _ => rfl
  | failed closed =>
      intro shaking
      simp [Shaking, closed] at shaking

theorem serve_offered (offered : Everywhere (fun _ => Offered) t.connectionList)
    (served : serve t call = .ok out) :
    Everywhere (fun _ => Offered) out.2.connectionList := by
  have effect : Effect t call out.2.connectionList _ := serve_affects t call out served
  generalize out.2.connectionList = after at effect ⊢
  generalize wireLength out.1.sent = n at effect
  cases effect with
  | still idle => exact offered
  | moved found moves => exact everywhere_set offered (moves_offered moves (offered _ _ found))
  | created creates => exact everywhere_append offered (creates_offered creates)

/-- The claim for one place of the list, before and after a call. -/
def Kept (born : List FourTuple) (call : Call) (i : Nat) : Option Connection → Connection → Prop
  | none, c' => c'.status ≠ .established
  | some c, c' =>
      match call with
      | .segment _ seg => Shaken (born[i]? = some (addressed seg)) seg c c'
      | _ => c'.status = .established → c.status = .established

/-- The condition on a call: a segment is proper for the connection that it is
    looked up for. -/
def ProperCall (born : List FourTuple) (t : Tables) : Call → Prop
  | .segment _ seg => ∀ handler i c, acting t seg = some (handler, i) →
      t.connectionList[i]? = some c →
        Proper (born[i]? = some (addressed seg)) handler c seg
  | _ => True

theorem kept_self (born : List FourTuple) (call : Call) (i : Nat) (c : Connection) :
    Kept born call i (some c) c := by
  cases call with
  | segment env seg => exact shaken_self _ seg c
  | _ => exact id

/-- A call moves a connection as the claim says exactly where it is proper. -/
theorem moves_kept {i n : Nat} {c c' : Connection} (offered : Offered c)
    (found : t.connectionList[i]? = some c) (moves : Moves t call i c c' n) :
    ProperCall born t call ↔ Kept born call i (some c) c' := by
  cases moves with
  | send _ looked established => exact iff_of_true trivial fun _ => established
  | close _ socket => exact iff_of_true trivial fun closed => nomatch closed
  | react _ acts =>
      rename_i env seg handler
      refine Iff.trans ?_ (react_shaken offered fun kd => acting_synSentKd (kd ▸ acts) found)
      constructor
      · intro proper
        exact proper handler i c acts found
      · intro proper other j d acts' found'
        rw [acts] at acts'
        cases acts'
        rw [found] at found'
        cases found'
        exact proper

theorem creates_kept {n : Nat} {c : Connection} (creates : Creates t call c n) (i : Nat) :
    ProperCall born t call ↔ Kept born call i none c := by
  cases creates with
  | connect remote => exact iff_of_true trivial fun waiting => nomatch waiting
  | failed closed =>
      refine iff_of_true trivial fun established => ?_
      rw [closed] at established
      cases established
  | syn mac client server sent opening room =>
      refine iff_of_true ?_ fun waiting => nomatch waiting
      intro handler i c acts
      simp [opens, acts] at opening

theorem proper_call_iff (offered : Everywhere (fun _ => Offered) t.connectionList)
    (served : serve t call = .ok out) :
    ProperCall born t call ↔
      Slotwise (Kept born call) t.connectionList out.2.connectionList := by
  have effect : Effect t call out.2.connectionList _ := serve_affects t call out served
  generalize out.2.connectionList = after at effect ⊢
  generalize wireLength out.1.sent = n at effect
  cases effect with
  | still idle =>
      refine iff_of_true ?_ (slotwise_self (kept_self born call) t.connectionList)
      cases call with
      | segment env seg =>
          intro handler i c acts
          rw [idle.1] at acts
          cases acts
      | _ => trivial
  | moved found moves =>
      rw [slotwise_set_iff (kept_self born call) found]
      exact moves_kept (offered _ _ found) found moves
  | created creates =>
      rw [slotwise_append_iff (kept_self born call)]
      exact creates_kept creates _

/-- In every run, all segments are proper for the connections they are looked up
    for if and only if every connection enters ESTABLISHED on its own peer's
    acknowledgement of its SYN and no rejected segment leaves a trace. -/
theorem handshake_iff (t : Tables) (calls : List Call) :
    Along (observe noteAddresses serve) (fun seen call _ => ProperCall seen.1 seen.2 call)
        ([], { t with connectionList := [] }) calls ↔
      Along (observe noteAddresses serve)
        (fun seen call out => Slotwise (Kept seen.1 call) seen.2.connectionList
          out.2.2.connectionList)
        ([], { t with connectionList := [] }) calls := by
  have exact : ∀ (seen : List FourTuple × Tables) call out,
      Everywhere (fun _ => Offered) seen.2.connectionList →
      observe noteAddresses serve seen call = .ok out →
      (ProperCall seen.1 seen.2 call ↔
        Slotwise (Kept seen.1 call) seen.2.connectionList out.2.2.connectionList) :=
    fun seen call out offered served => proper_call_iff offered (observe_ok served).1
  have keep : ∀ (seen : List FourTuple × Tables) call out,
      Everywhere (fun _ => Offered) seen.2.connectionList →
      observe noteAddresses serve seen call = .ok out → ProperCall seen.1 seen.2 call →
      Everywhere (fun _ => Offered) out.2.2.connectionList :=
    fun seen call out offered served _ => serve_offered offered (observe_ok served).1
  exact along_iff exact keep calls everywhere_nil

end Runs

/-- SYN and ACK with an acknowledgement number that was never offered. -/
def forgedSynAck : Segment where
  sIpv4 := 0xC0A80107
  dIpv4 := 0xC0A80102
  sport := 8000
  dport := 32768
  seq := 700
  ack := 1
  flags := thSyn ||| thAck
  window := 1000
  payload := []
  fits := nil_fits

set_option maxRecDepth 20000 in
/-- A connection is established by an acknowledgement of 1 where `iss` is 5000. -/
theorem forged_ack_establishes :
    ¬Along (observe noteAddresses serve)
      (fun seen call out => Slotwise (Kept seen.1 call) seen.2.connectionList
        out.2.2.connectionList)
      ([], { Tables.initial with connectionList := [] })
      [.socket wiredEnv, .connect wiredEnv 0 none 0xC0A80107 8000,
        .segment wiredEnv forgedSynAck] := by
  intro along
  rcases along _ rfl with ⟨-, connected⟩
  rcases connected _ rfl with ⟨-, answered⟩
  rcases answered _ rfl with ⟨kept, -⟩
  have entered := (kept 0 _ rfl).1 rfl
  exact absurd entered (by decide)

end Gramado.Net.Handshake
