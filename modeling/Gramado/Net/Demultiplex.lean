/-
Demultiplexing over whole runs: whether a segment works on its own connection
only, and whether two live connections have one four-tuple. The addresses of a
connection are those of its SYN.
-/
import Gramado.Net.Effects

namespace Gramado.Net.Demultiplex

open Gramado.Ke Gramado.Lib.Fallible Gramado.Lib.Machine Gramado.Lib.Slots
open Gramado.Net.Parse Gramado.Net.Tcp Gramado.Net.Calls Gramado.Net.Reactions
open Gramado.Net.Effects

def Live (c : Connection) : Prop :=
  c.status ≠ .closed

/-- What is noted in a run: the addresses of the connections, and the sockets
    that a process listens on. -/
structure Noted where
  born : List FourTuple
  listened : List Nat

def noteListened (listened : List Nat) : Call → List Nat
  | .listen k _ => k :: listened
  | _ => listened

def note (noted : Noted) (t : Tables) (call : Call) (out : Answer × Tables) : Noted :=
  ⟨noteAddresses noted.born t call out, noteListened noted.listened call⟩

/-- A process listens on the socket that a SYN to the port is handed to. -/
def Listening (noted : Noted) (t : Tables) (port : UInt16) : Prop :=
  ∃ k, socketGetTcpserverSocketByPort t port = some k ∧ k ∈ noted.listened

/-- The claim for one place of the list, before and after a segment: only the
    connection with its four-tuple changes, and only a SYN to a port somebody
    listens on makes a new one. -/
def Touched (noted : Noted) (t : Tables) (call : Call) (i : Nat) :
    Option Connection → Connection → Prop :=
  match call with
  | .segment _ seg => fun
      | some c, c' => c' = c ∨ noted.born[i]? = some (addressed seg)
      | none, _ => seg.syn ∧ Listening noted t seg.dport
  | _ => fun _ _ => True

/-- The segments that a block leaves the connection unchanged for. -/
def Leaves (handler : Handler) (c : Connection) (seg : Segment) : Prop :=
  match handler, c.status with
  | .synSentKd, .synSent => ¬(seg.syn ∧ seg.isAck)
  | .nonLocalServers, .synSent => ¬seg.rst ∧ (¬(seg.syn ∧ seg.isAck) ∨ seg.fin)
  | .nonLocalServers, .synReceived | .localServers, .synReceived =>
      ¬seg.rst ∧ (seg.syn ∨ ¬seg.isAck ∨
        (seg.ack = c.sndUna ∧ seg.seq + seg.dataLen = c.rcvNxt ∧ seg.ack ≠ c.sndNxt))
  | .nonLocalServers, .established | .localServers, .established =>
      ¬seg.rst ∧ (seg.syn ∨ ¬seg.isAck)
  | .kdServer, .synReceived =>
      seg.syn ∨ ¬seg.isAck ∨ (seg.seq + seg.dataLen = c.rcvNxt ∧ seg.ack ≠ c.sndNxt)
  | .kdServer, .established => seg.rst
  | .kdServer, .finWait1 => seg.rst ∨ (¬seg.fin ∧ seg.payload = [])
  | _, _ => True

def Addressed (noted : Noted) (t : Tables) : Call → Prop
  | .segment env seg =>
      (∀ handler i c, acting t seg = some (handler, i) → t.connectionList[i]? = some c →
        Leaves handler c seg ∨ noted.born[i]? = some (addressed seg)) ∧
      (opens t seg → roomFor env t → Listening noted t seg.dport ∧
        ¬Taken Live noted.born t.connectionList (addressed seg))
  | .connect env k server dstIp dstPort =>
      connects env t k dstIp dstPort →
        ¬Taken Live noted.born t.connectionList
          (synAddresses t (.connect env k server dstIp dstPort))
  | _ => True

section Blocks

variable {handler : Handler} {wired : Bool} {c : Connection} {seg : Segment}

theorem counts_on (packets : UInt32) : packets + 1 ≠ packets := by
  grind

theorem onSynReceived_self (waits : c.status = .synReceived) :
    onSynReceived c seg = c ↔ ¬seg.rst ∧ (seg.syn ∨ ¬seg.isAck ∨
      (seg.ack = c.sndUna ∧ seg.seq + seg.dataLen = c.rcvNxt ∧ seg.ack ≠ c.sndNxt)) := by
  rw [Connection.ext_iff]
  unfold onSynReceived
  grind

theorem reactSynSent_self (waits : c.status = .synSent) :
    reactSynSent c seg = c ↔ ¬seg.rst ∧ (¬(seg.syn ∧ seg.isAck) ∨ seg.fin) := by
  rw [Connection.ext_iff]
  unfold reactSynSent
  grind

theorem reactSynSentKd_self (waits : c.status = .synSent) :
    reactSynSentKd c seg = c ↔ ¬(seg.syn ∧ seg.isAck) := by
  rw [Connection.ext_iff]
  unfold reactSynSentKd
  grind

theorem advanced_packetsReceived : (advanced c seg).packetsReceived = c.packetsReceived := by
  unfold advanced behind
  split <;> rfl

theorem reactEstablished_self (answers closes : Bool) (established : c.status = .established) :
    reactEstablished answers closes c seg = c ↔ ¬seg.rst ∧ (seg.syn ∨ ¬seg.isAck) := by
  have counts : (advanced (acknowledged c seg) seg).packetsReceived = c.packetsReceived + 1 :=
    advanced_packetsReceived
  have next := counts_on c.packetsReceived
  rw [Connection.ext_iff]
  unfold reactEstablished replied
  grind

theorem reactHttp_counts : reactHttp wired c seg ≠ c := by
  intro same
  have counts : (reactHttp wired c seg).packetsReceived = c.packetsReceived + 1 := by
    unfold reactHttp requested counted
    grind
  rw [same] at counts
  exact counts_on c.packetsReceived counts.symm

theorem reactFinWait1Kd_self (_waits : c.status = .finWait1) :
    reactFinWait1Kd wired c seg = c ↔ ¬seg.fin ∧ seg.payload = [] := by
  have next := counts_on c.packetsReceived
  rw [Connection.ext_iff]
  unfold reactFinWait1Kd counted
  grind [List.length_pos_iff]

theorem reactSynReceivedKd_self (_ : c.status = .synReceived) :
    reactSynReceivedKd c seg = c ↔ seg.seq + seg.dataLen = c.rcvNxt ∧ seg.ack ≠ c.sndNxt := by
  rw [Connection.ext_iff]
  unfold reactSynReceivedKd
  grind

theorem reactKd_self : reactKd wired c seg = c ↔ Leaves .kdServer c seg := by
  unfold reactKd Leaves
  cases status : c.status with
  | synReceived =>
      by_cases acks : seg.syn = false ∧ seg.isAck = true
      · simpa [acks] using reactSynReceivedKd_self status
      · have other : seg.syn = true ∨ seg.isAck = false := by grind
        rcases other with syn | plain
        · simp [syn]
        · simp [plain]
  | established => by_cases rst : seg.rst <;> simp [rst, reactHttp_counts]
  | finWait1 => by_cases rst : seg.rst <;> simp [rst, reactFinWait1Kd_self status]
  | _ => simp

theorem react_self (peer : handler = .synSentKd → c.status = .synSent) :
    react handler wired c seg = c ↔ Leaves handler c seg := by
  cases handler with
  | synSentKd =>
      have waits := peer rfl
      simpa only [react, Leaves, waits] using reactSynSentKd_self waits
  | kdServer => exact reactKd_self
  | localServers =>
      unfold react Leaves
      cases status : c.status with
      | synReceived => exact onSynReceived_self status
      | established => exact reactEstablished_self false true status
      | _ => simp
  | nonLocalServers =>
      unfold react Leaves
      cases status : c.status with
      | synReceived => exact onSynReceived_self status
      | established => exact reactEstablished_self wired wired status
      | synSent => exact reactSynSent_self status
      | _ => simp

end Blocks

section Runs

variable {t : Tables} {call : Call} {out : Answer × Tables} {noted : Noted}

/-- The addresses are noted place by place, and no two live connections share
    them. -/
def Apart (noted : Noted) (list : List Connection) : Prop :=
  Distinct Live noted.born list ∧ noted.born.length = list.length

theorem touched_self (noted : Noted) (t : Tables) (call : Call) (i : Nat) (c : Connection) :
    Touched noted t call i (some c) c := by
  cases call with
  | segment env seg => exact Or.inl rfl
  | _ => trivial

theorem moves_live {i n : Nat} {c c' : Connection} (found : t.connectionList[i]? = some c)
    (moves : Moves t call i c c' n) (alive : Live c') : Live c := by
  intro closed
  cases moves with
  | send _ looked established => exact absurd (closed.symm.trans established) (by decide)
  | close _ socket => exact alive rfl
  | @react env seg handler _ _ acts =>
      have peer := fun kd : handler = .synSentKd => acting_synSentKd (kd ▸ acts) found
      rw [react_closed closed peer] at alive
      exact alive closed

theorem moves_touched {i n : Nat} {c c' : Connection} (found : t.connectionList[i]? = some c)
    (moves : Moves t call i c c' n) :
    Addressed noted t call ↔ Touched noted t call i (some c) c' := by
  cases moves with
  | send _ looked established => exact iff_of_true trivial trivial
  | close _ socket => exact iff_of_true trivial trivial
  | @react env seg handler _ _ acts =>
      have peer := fun kd : handler = .synSentKd => acting_synSentKd (kd ▸ acts) found
      have only : Addressed noted t (.segment env seg) ↔
          Leaves handler c seg ∨ noted.born[i]? = some (addressed seg) := by
        constructor
        · intro addressed
          exact addressed.1 handler i c acts found
        · intro here
          refine ⟨?_, fun opening => ?_⟩
          · intro other j d acts' found'
            rw [acts] at acts'
            cases acts'
            rw [found] at found'
            cases found'
            exact here
          · have alone := opens_alone opening
            rw [acts] at alone
            cases alone
      rw [only, ← react_self peer]
      rfl

theorem creates_touched {n : Nat} {c : Connection} (creates : Creates t call c n) (i : Nat) :
    Addressed noted t call ↔ Touched noted t call i none c ∧
      (Live c → ¬Taken Live noted.born t.connectionList (synAddresses t call)) := by
  cases creates with
  | @failed env k server dstIp dstPort _ closed fails =>
      refine iff_of_true (fun starts => absurd starts fails) ⟨trivial, ?_⟩
      exact fun alive => absurd closed alive
  | @connect env k server dstIp dstPort remote starts =>
      have alive : Live { connectingConnection env.isn k remote with status := .synSent } :=
        fun closed => nomatch closed
      constructor
      · intro addressed
        exact ⟨trivial, fun _ => addressed starts⟩
      · intro free _
        exact free.2 alive
  | @syn env seg mac client server sent opening room =>
      have alive : Live { synReceivedConnection seg mac with
          clientSocket := client, serverSocket := server } := fun closed => nomatch closed
      have syn : seg.syn := by
        simp only [opens, Bool.and_eq_true] at opening
        exact opening.1.1.1
      have alone := opens_alone opening
      constructor
      · intro addressed
        rcases addressed.2 opening room with ⟨listening, free⟩
        exact ⟨⟨syn, listening⟩, fun _ => free⟩
      · rintro ⟨⟨-, listening⟩, free⟩
        refine ⟨?_, fun _ _ => ⟨listening, free alive⟩⟩
        intro handler j d acts
        rw [alone] at acts
        cases acts

theorem addressed_idle (idle : Idle t call) : Addressed noted t call := by
  cases call with
  | segment env seg =>
      refine ⟨?_, fun opening room => absurd room (idle.2 opening)⟩
      intro handler i c acts
      rw [idle.1] at acts
      cases acts
  | connect env k server dstIp dstPort => exact fun starts => absurd starts idle
  | _ => trivial

theorem noteAddresses_kept {born : List FourTuple}
    (same : out.2.connectionList.length = t.connectionList.length) :
    noteAddresses born t call out = born := by
  simp [noteAddresses, same]

theorem noteAddresses_new {born : List FourTuple}
    (longer : t.connectionList.length < out.2.connectionList.length) :
    noteAddresses born t call out = born ++ [synAddresses t call] := by
  simp [noteAddresses, longer]

/-- What a call does to the list of connections and to the addresses noted. -/
theorem addressed_iff (apart : Apart noted t.connectionList) (served : serve t call = .ok out) :
    (Addressed noted t call ↔
      Slotwise (Touched noted t call) t.connectionList out.2.connectionList ∧
        Distinct Live (note noted t call out).born out.2.connectionList) ∧
      (note noted t call out).born.length = out.2.connectionList.length := by
  rcases apart with ⟨distinct, aligned⟩
  have still := touched_self noted t call
  have effect : Effect t call out.2.connectionList _ := serve_affects t call out served
  have kept : out.2.connectionList.length = t.connectionList.length →
      (note noted t call out).born = noted.born := noteAddresses_kept
  have new : t.connectionList.length < out.2.connectionList.length →
      (note noted t call out).born = noted.born ++ [synAddresses t call] := noteAddresses_new
  generalize (note noted t call out).born = born at kept new ⊢
  generalize out.2.connectionList = after at effect kept new ⊢
  generalize wireLength out.1.sent = n at effect
  cases effect with
  | still idle =>
      cases kept rfl
      refine ⟨iff_of_true (addressed_idle idle) ⟨?_, distinct⟩, aligned⟩
      exact slotwise_self still t.connectionList
  | moved found moves =>
      cases kept (List.length_set ..)
      have same := distinct_set distinct found (moves_live found moves)
      rw [slotwise_set_iff still found, List.length_set]
      exact ⟨(moves_touched found moves).trans (and_iff_left same).symm, aligned⟩
  | created creates =>
      cases new (by simp)
      rw [slotwise_append_iff still, distinct_append_iff distinct aligned]
      exact ⟨creates_touched creates _, by simp [aligned]⟩

/-- In every run, segments are looked up to their own connections and addresses
    are not given twice if and only if segments change their own connections
    only and the four-tuples of live connections are pairwise distinct. -/
theorem demultiplex_iff (t : Tables) (calls : List Call) :
    Along (observe note serve) (fun seen call _ => Addressed seen.1 seen.2 call)
        (⟨[], []⟩, { t with connectionList := [] }) calls ↔
      Along (observe note serve)
        (fun seen call out => Slotwise (Touched seen.1 seen.2 call) seen.2.connectionList
            out.2.2.connectionList ∧
          Distinct Live out.2.1.born out.2.2.connectionList)
        (⟨[], []⟩, { t with connectionList := [] }) calls := by
  -- One call, from tables whose live connections are apart.
  have exact : ∀ (seen : Noted × Tables) call out, Apart seen.1 seen.2.connectionList →
      observe note serve seen call = .ok out →
      (Addressed seen.1 seen.2 call ↔
        Slotwise (Touched seen.1 seen.2 call) seen.2.connectionList out.2.2.connectionList ∧
          Distinct Live out.2.1.born out.2.2.connectionList) := by
    rintro seen call out apart served
    rcases observe_ok served with ⟨first, noted⟩
    rw [noted]
    exact (addressed_iff apart first).1
  have keep : ∀ (seen : Noted × Tables) call out, Apart seen.1 seen.2.connectionList →
      observe note serve seen call = .ok out → Addressed seen.1 seen.2 call →
      Apart out.2.1 out.2.2.connectionList := by
    rintro seen call out apart served addressed
    refine ⟨((exact seen call out apart served).mp addressed).2, ?_⟩
    rcases observe_ok served with ⟨first, noted⟩
    rw [noted]
    exact (addressed_iff apart first).2
  exact along_iff exact keep calls ⟨distinct_nil, rfl⟩

end Runs

/-- A SYN to the port 22888. -/
def firstSyn : Segment where
  sIpv4 := 0xC0A80107
  dIpv4 := 0xC0A80102
  sport := 40000
  dport := 22888
  seq := 700
  ack := 0
  flags := thSyn
  window := 1000
  payload := []
  fits := nil_fits

set_option maxRecDepth 20000 in
/-- A SYN that is sent twice makes two connections of one four-tuple. -/
theorem repeated_syn_is_a_connection :
    ¬Along (observe note serve)
      (fun seen call out => Slotwise (Touched seen.1 seen.2 call) seen.2.connectionList
          out.2.2.connectionList ∧
        Distinct Live out.2.1.born out.2.2.connectionList)
      (⟨[], []⟩, { Tables.initial with connectionList := [] })
      [.socket wiredEnv, .bind wiredEnv 0 0xC0A80102 22888, .listen 0 4,
        .segment wiredEnv firstSyn, .segment wiredEnv firstSyn] := by
  intro along
  rcases along _ rfl with ⟨-, bound⟩
  rcases bound _ rfl with ⟨-, listening⟩
  rcases listening _ rfl with ⟨-, opened⟩
  rcases opened _ rfl with ⟨-, again⟩
  rcases again _ rfl with ⟨⟨-, distinct⟩, -⟩
  have one := distinct 0 1 _ _ rfl rfl (fun closed => nomatch closed)
    (fun closed => nomatch closed) rfl
  cases one

end Gramado.Net.Demultiplex
