/-
The status of a connection over whole runs, compared with the diagram of
RFC 793. A change is what one call makes of a status: `socket_close` writes two
statuses, one after the other, and the first of them is never seen. A new
connection comes from LISTEN when a SYN opens it and from CLOSED otherwise.
-/
import Gramado.Net.Effects

namespace Gramado.Net.StatusDiagram

open Gramado.Ke Gramado.Lib.Fallible Gramado.Lib.Machine Gramado.Lib.Slots
open Gramado.Net.Parse Gramado.Net.Tcp Gramado.Net.Calls Gramado.Net.Reactions
open Gramado.Net.Effects

def edge : Status → Status → Bool
  | .closed, .listen | .closed, .synSent => true
  | .listen, .closed | .listen, .synSent | .listen, .synReceived => true
  | .synSent, .closed | .synSent, .synReceived | .synSent, .established => true
  | .synReceived, .established | .synReceived, .finWait1 => true
  | .established, .finWait1 | .established, .closeWait => true
  | .finWait1, .finWait2 | .finWait1, .closing => true
  | .finWait2, .timeWait | .closing, .timeWait | .timeWait, .closed => true
  | .closeWait, .lastAck | .lastAck, .closed => true
  | _, _ => false

/-- The statuses behind ESTABLISHED with a FIN that is not sent or not
    acknowledged yet. -/
def finOutstanding : Status → Bool
  | .established | .finWait1 | .finWait2 | .closeWait | .closing => true
  | _ => false

def Resets : Call → Prop
  | .segment _ seg => seg.rst
  | _ => False

/-- The claim for a connection before and after a call: the change is an edge or
    comes from a reset, only a reset leads to CLOSED while a FIN is outstanding,
    and a closed connection stays as it is. -/
def Follows (call : Call) (c c' : Connection) : Prop :=
  (c'.status = c.status ∨ edge c.status c'.status ∨ (Resets call ∧ c'.status = .closed)) ∧
    (finOutstanding c.status → c'.status = .closed → Resets call) ∧
    (c.status = .closed → c' = c)

def Kept (call : Call) (_ : Nat) : Option Connection → Connection → Prop
  | some c, c' => Follows call c c'
  | none, c' =>
      match call with
      | .segment _ _ => edge .listen c'.status
      | _ => c'.status = .closed ∨ edge .closed c'.status

/-- The data of a segment for a closed connection is not stored. -/
def DataRefused (t : Tables) (call : Call) (files : List SocketFile) : Prop :=
  match call with
  | .segment _ seg => ∀ handler i c, acting t seg = some (handler, i) →
      t.connectionList[i]? = some c → c.status = .closed → files = t.files
  | _ => True

/-- The statuses that connections have in any run. -/
def used : Status → Bool
  | .closed | .synSent | .synReceived | .established | .finWait1 | .closeWait => true
  | _ => false

/-- The condition: the peer's FIN does not meet a connection of the kernel
    debugger that has sent its own, and a process closes its socket only where
    there is nothing to close any more, or nothing yet. -/
def Orderly (t : Tables) : Call → Prop
  | .segment env seg => ∀ i c, acting t seg = some (.kdServer, i) →
      t.connectionList[i]? = some c → c.status = .finWait1 → env.wired → seg.fin → seg.rst
  | .close k => ∀ i c, t.sockets[k]?.bind Socket.conn = some i →
      t.connectionList[i]? = some c → c.status = .closed ∨ c.status = .synSent
  | _ => True

section Steps

variable {t : Tables} {call : Call} {out : Answer × Tables} {env : Env} {seg : Segment}
  {handler : Handler} {wired : Bool} {c : Connection}

theorem follows_self (call : Call) (c : Connection) : Follows call c c :=
  ⟨Or.inl rfl, fun outstanding closed => by simp [closed, finOutstanding] at outstanding,
    fun _ => rfl⟩

theorem turns_used {s s' : Status} (turns : Turns handler wired seg s s') (ok : used s) :
    used s' := by
  cases turns with
  | stays => exact ok
  | _ => rfl

theorem moves_used {i n : Nat} {c' : Connection} (moves : Moves t call i c c' n)
    (found : t.connectionList[i]? = some c) (ok : used c.status) : used c'.status := by
  cases moves with
  | react _ acts => exact turns_used (react_turns fun kd => acting_synSentKd (kd ▸ acts) found) ok
  | send _ looked established => exact ok
  | close _ socket => rfl

theorem creates_used {n : Nat} (creates : Creates t call c n) : used c.status := by
  cases creates with
  | failed closed => simp [closed, used]
  | _ => rfl

theorem serve_used (every : Everywhere (fun _ c => used c.status) t.connectionList)
    (served : serve t call = .ok out) :
    Everywhere (fun _ c => used c.status) out.2.connectionList := by
  have effect : Effect t call out.2.connectionList _ := serve_affects t call out served
  generalize out.2.connectionList = after at effect ⊢
  generalize wireLength out.1.sent = n at effect
  cases effect with
  | still idle => exact every
  | moved found moves => exact everywhere_set every (moves_used moves found (every _ _ found))
  | created creates => exact everywhere_append every (creates_used creates)

theorem turns_along {s s' : Status} (turns : Turns handler wired seg s s')
    (orderly : handler = .kdServer → s = .finWait1 → wired → seg.fin → seg.rst) :
    (s' = s ∨ edge s s' ∨ (seg.rst ∧ s' = .closed)) ∧
      (finOutstanding s → s' = .closed → seg.rst) := by
  cases turns with
  | stays =>
    exact ⟨Or.inl rfl, fun outstanding closed => by simp [closed, finOutstanding] at outstanding⟩
  | reset _ rst => exact ⟨Or.inr (Or.inr ⟨rst, rfl⟩), fun _ _ => rst⟩
  | dropped kd sent fin rst => exact absurd (orderly kd rfl sent fin) rst
  | _ => exact ⟨Or.inr (Or.inl rfl), fun _ closed => nomatch closed⟩

theorem react_follows (peer : handler = .synSentKd → c.status = .synSent) :
    (handler = .kdServer → c.status = .finWait1 → wired → seg.fin → seg.rst) ↔
      Follows (.segment env seg) c (react handler wired c seg) := by
  constructor
  · intro orderly
    have along := turns_along (react_turns peer) orderly
    exact ⟨along.1, along.2, fun closed => react_closed closed peer⟩
  · rintro ⟨-, outstanding, -⟩ rfl waits sent fin
    by_contra rst
    have closed : (react .kdServer wired c seg).status = .closed := by
      simp [react, reactKd, reactFinWait1Kd, waits, sent, fin, rst]
    exact rst (outstanding (by simp [waits, finOutstanding]) closed)

theorem close_follows {k : Nat} (ok : used c.status) :
    (c.status = .closed ∨ c.status = .synSent) ↔
      Follows (.close k) c { c with status := .closed } := by
  constructor
  · rintro (closed | waits)
    · refine ⟨Or.inl closed.symm, fun outstanding => ?_, fun _ => by rw [← closed]⟩
      simp [closed, finOutstanding] at outstanding
    · refine ⟨Or.inr (Or.inl (by rw [waits]; rfl)), fun outstanding => ?_, fun closed => ?_⟩
      · simp [waits, finOutstanding] at outstanding
      · exact absurd (waits.symm.trans closed) (by decide)
  · rintro ⟨change | change | ⟨reset, -⟩, -, -⟩
    · exact Or.inl change.symm
    · generalize c.status = s at ok change
      cases s <;> simp_all [edge, used]
    · exact reset.elim

theorem moves_kept {i n : Nat} {c' : Connection} (ok : used c.status)
    (found : t.connectionList[i]? = some c) (moves : Moves t call i c c' n) :
    Orderly t call ↔ Kept call i (some c) c' := by
  cases moves with
  | send _ looked established =>
      refine iff_of_true trivial ⟨Or.inl rfl, fun _ closed => ?_, fun closed => ?_⟩
      · exact absurd (established.symm.trans closed) (by decide)
      · exact absurd (established.symm.trans closed) (by decide)
  | close _ socket =>
      refine Iff.trans ?_ (close_follows ok)
      constructor
      · intro orderly
        exact orderly _ _ socket found
      · intro quiet j d socket' found'
        rw [socket, Option.some.injEq] at socket'
        subst socket'
        rw [found, Option.some.injEq] at found'
        exact found' ▸ quiet
  | react _ acts =>
      refine Iff.trans ?_ (react_follows fun kd => acting_synSentKd (kd ▸ acts) found)
      constructor
      · rintro orderly rfl
        exact orderly _ _ acts found
      · intro orderly j d acts' found'
        rw [acts] at acts'
        cases acts'
        rw [found, Option.some.injEq] at found'
        exact found' ▸ orderly rfl

theorem creates_kept {n : Nat} (creates : Creates t call c n) (i : Nat) :
    Orderly t call ↔ Kept call i none c := by
  cases creates with
  | connect remote => exact iff_of_true trivial (Or.inr rfl)
  | failed closed => exact iff_of_true trivial (Or.inl closed)
  | syn mac client server sent opening room =>
      refine iff_of_true ?_ rfl
      intro i c acts
      simp [opens, acts] at opening

theorem orderly_iff (every : Everywhere (fun _ c => used c.status) t.connectionList)
    (served : serve t call = .ok out) :
    Orderly t call ↔ Slotwise (Kept call) t.connectionList out.2.connectionList := by
  have effect : Effect t call out.2.connectionList _ := serve_affects t call out served
  have still : ∀ i c, Kept call i (some c) c := fun _ c => follows_self call c
  generalize out.2.connectionList = after at effect ⊢
  generalize wireLength out.1.sent = n at effect
  cases effect with
  | moved found moves =>
      rw [slotwise_set_iff still found]
      exact moves_kept (every _ _ found) found moves
  | created creates =>
      rw [slotwise_append_iff still]
      exact creates_kept creates _
  | still idle =>
      refine iff_of_true ?_ (slotwise_self still t.connectionList)
      cases call with
      | segment env seg =>
          intro i c acts
          rw [idle.1] at acts
          cases acts
      | close k =>
          intro i c socket
          rw [show t.sockets[k]?.bind Socket.conn = none from idle] at socket
          cases socket
      | _ => trivial

/-- Whatever block a segment for a closed connection reaches, no file changes. -/
theorem block_closed (closed : c.status = .closed)
    (peer : handler = .synSentKd → c.status = .synSent) :
    Returns (block handler env t c seg) fun handled => handled.tables.files = t.files := by
  have refused : Returns (onClosed env t c seg) fun handled => handled.tables.files = t.files := by
    refine returns_ite.mpr ⟨fun _ => returns_pure.mpr rfl, fun _ => ?_⟩
    refine returns_ite.mpr ⟨fun _ => returns_pure.mpr rfl, fun _ => ?_⟩
    refine returns_bind.mpr fun sent _ => ?_
    refine returns_ite.mpr ⟨fun _ => returns_pure.mpr rfl, fun _ => ?_⟩
    simp only [clientFile, returns_bind, returns_pure]
    exact fun _ _ _ _ _ _ => rfl
  cases handler with
  | synSentKd => exact absurd (closed.symm.trans (peer rfl)) (by decide)
  | kdServer =>
      simp only [block, kdServer, closed, reduceCtorEq, false_and, if_false]
      split <;> exact returns_pure.mpr rfl
  | localServers => simpa only [block, localServers, closed] using refused
  | nonLocalServers => simpa only [block, nonLocalServers, closed] using refused

theorem data_refused (served : serve t call = .ok out) : DataRefused t call out.2.files := by
  cases call with
  | segment env seg =>
      intro handler i c acts found closed
      have peer := fun kd : handler = .synSentKd => acting_synSentKd (kd ▸ acts) found
      have whole : Returns (serve t (.segment env seg)) fun out => out.2.files = t.files := by
        simp only [serve, networkHandleTcp_acting env acts, onConnection, need, found]
        refine returns_bind.mpr (returns_bind.mpr (returns_ok.mpr (returns_bind.mpr ?_)))
        exact (block_closed closed peer).mono fun _ same =>
          returns_pure.mpr (returns_pure.mpr same)
      exact whole out served
  | _ => trivial

end Steps

/-- In every run, the calls are orderly if and only if every status moves along
    the diagram, with CLOSED reached from behind ESTABLISHED by resets only; and
    in every run at all, a closed connection takes no data. -/
theorem status_diagram_iff (t : Tables) (calls : List Call) :
    (Along serve (fun t call _ => Orderly t call) { t with connectionList := [] } calls ↔
      Along serve (fun t call out => Slotwise (Kept call) t.connectionList out.2.connectionList)
        { t with connectionList := [] } calls) ∧
      Along serve (fun t call out => DataRefused t call out.2.files)
        { t with connectionList := [] } calls := by
  have exact : ∀ (t : Tables) call out, Everywhere (fun _ c => used c.status) t.connectionList →
      serve t call = .ok out →
      (Orderly t call ↔ Slotwise (Kept call) t.connectionList out.2.connectionList) :=
    fun t call out every served => orderly_iff every served
  have keep : ∀ (t : Tables) call out, Everywhere (fun _ c => used c.status) t.connectionList →
      serve t call = .ok out → Orderly t call →
      Everywhere (fun _ c => used c.status) out.2.connectionList :=
    fun t call out every served _ => serve_used every served
  have refused : ∀ (t : Tables) call out, serve t call = .ok out →
      DataRefused t call out.2.files := fun _ _ _ served => data_refused served
  exact ⟨along_iff exact keep calls everywhere_nil, along_of_always refused _ calls⟩

/-- The true answer to the SYN of `wiredEnv`. -/
def peerSynAck : Segment where
  sIpv4 := 0xC0A80107
  dIpv4 := 0xC0A80102
  sport := 8000
  dport := 32768
  seq := 700
  ack := 5001
  flags := thSyn ||| thAck
  window := 1000
  payload := []
  fits := nil_fits

set_option maxRecDepth 20000 in
/-- A process that closes its socket takes the connection from ESTABLISHED to
    CLOSED at once, and no FIN is sent. -/
theorem close_skips_fin :
    ¬Along serve (fun t call out => Slotwise (Kept call) t.connectionList out.2.connectionList)
      { Tables.initial with connectionList := [] }
      [.socket wiredEnv, .connect wiredEnv 0 none 0xC0A80107 8000,
        .segment wiredEnv peerSynAck, .close 0] := by
  intro along
  rcases along _ rfl with ⟨-, connected⟩
  rcases connected _ rfl with ⟨-, answered⟩
  rcases answered _ rfl with ⟨-, established⟩
  rcases established _ rfl with ⟨kept, -⟩
  have reset := (kept 0 _ rfl).2.1 rfl rfl
  exact reset

end Gramado.Net.StatusDiagram
