/-
Processes and threads over whole runs of the kernel: created, cloned and destroyed
in any order, with whatever else happens between. Destroying gives no slot back,
so that the numbers are handed out in order and come to an end.
-/
import Gramado.Ke.Clone
import Gramado.Lib.Machine

namespace Gramado.Ke.Creation

open Function
open Gramado.Ke.Sched (PROCESS_COUNT_MAX THREAD_COUNT_MAX)
open Gramado.Lib.Fallible Gramado.Lib.Grants
open Gramado.Lib.Machine (run observe Guarded observe_ok run_keeps observed_of_run)

section Requests

inductive Request where
  | createProcess (found : Found) (args : ProcessArgs)
  | createThread (found : Found) (args : ThreadArgs)
  | clone (found : CloneFound) (filename : Option (List UInt8)) (pid : Int) (flags : UInt64)
  | destroyProcess (i : Nat)
  | destroyThread (i : Nat)
  | elsewhere (later : Tables)

/-- What is created, or the value of the call. -/
inductive Reply where
  | created (slot : Option Nat)
  | value (n : Int)

def serve (t : Tables) : Request → Except Stop (Reply × Tables)
  | .createProcess found args =>
      (createProcessImp found args t).map fun out => (.created out.1, out.2)
  | .createThread found args =>
      (createThreadImp found args t).map fun out => (.created out.1, out.2)
  | .clone found filename pid flags =>
      (copyProcess found filename pid flags t).map fun out => (.value out.1, out.2)
  | .destroyProcess i =>
      let (value, t) := destroyProcessStructure t i
      .ok (.value value, t)
  | .destroyThread i =>
      let (value, t) := destroyThreadStructure t i
      .ok (.value value, t)
  | .elsewhere later => .ok (.value 0, later)

/-- No slot of a process or a thread is taken or given back, and no window of the
    pool; devices may be registered. -/
structure Elsewhere (t later : Tables) : Prop where
  processes : ∀ i, later.teList i = none ↔ t.teList i = none
  threads : ∀ i, later.threadList i = none ↔ t.threadList i = none
  devices : ∀ d, Granted t.deviceList 0 DEVICE_LIST_MAX d →
    ∃ e, Granted later.deviceList 0 DEVICE_LIST_MAX (d + e)
  pool : later.heapCount = t.heapCount

/-- What the rest of the kernel keeps to: only the creations register anything
    in the two tables, and nothing in it takes a pointer out of them. -/
def Request.guard (t : Tables) : Request → Prop
  | .elsewhere later => Elsewhere t later
  | _ => True

/-- The request is a clone that creates its child. -/
def Request.begins (t : Tables) : Request → Prop
  | .clone found _ pid flags => Begins found pid flags t
  | _ => False

end Requests

section Steps

variable {t u : Tables} {k m d i : Nat}

/-- How many slots of each table are taken. -/
structure Account (k m d : Nat) (t : Tables) : Prop where
  processes : Granted t.teList 0 PROCESS_COUNT_MAX k
  threads : Granted t.threadList USER_THRESHOLD_TID THREAD_COUNT_MAX m
  devices : Granted t.deviceList 0 DEVICE_LIST_MAX d

theorem Account.addDevice (account : Account k m d t)
    (slot : nextFree t.deviceList 0 DEVICE_LIST_MAX = some i) :
    Account k m (d + 1) (t.addDevice i) :=
  ⟨account.processes, account.threads, account.devices.take slot ⟨i⟩⟩

theorem Account.register (account : Account k m d t) (free : getNewPid t = some i)
    (process : Te) : Account (k + 1) m d (t.register i process) :=
  ⟨account.processes.take free _, account.threads, account.devices⟩

theorem Account.registerThread (account : Account k m d t)
    (free : nextFree t.threadList USER_THRESHOLD_TID THREAD_COUNT_MAX = some i) (thread : Th) :
    Account k (m + 1) d (t.registerThread i thread) :=
  ⟨account.processes, account.threads.take free thread, account.devices⟩

theorem Account.spawned {parent child tid : Nat} (account : Account k m d t)
    (spawned : Spawned parent child tid t u) : Account (k + 1) (m + 1) (d + 1) u := by
  obtain ⟨p, is, _⟩ := spawned.process
  obtain ⟨p1, objects, there, kept, _⟩ := spawned.original
  obtain ⟨i, slot, device⟩ := spawned.device
  let thread : Th := ⟨true, 1234, tid, some child, child, RING3, 3⟩
  refine ⟨(account.processes.take spawned.firstPid p).congr ?_,
    (account.threads.take spawned.firstTid thread).congr ?_, ?_⟩
  · intro j
    by_cases here : j = child
    · rw [here, is, update_self]
    · rw [update_of_ne here]
      by_cases father : j = parent
      · rw [father, there, kept]
        simp
      · rw [spawned.processes j here father]
  · intro j
    by_cases here : j = tid
    · rw [here, spawned.thread, update_self]
    · rw [update_of_ne here, spawned.threads j here]
  · rw [device]
    exact account.devices.take slot ⟨i⟩

/-- A request takes slots and windows, and gives none back. A clone that begins
    takes a slot for its child and one for the thread of it. -/
def Grants (k m d : Nat) (t : Tables) (begins : Prop) (u : Tables) : Prop :=
  ∃ j l e, Account (k + j) (m + l) (d + e) u ∧ u.heapCount = t.heapCount + j ∧ j ≤ e ∧
    (begins → 0 < j ∧ 0 < l)

theorem Elsewhere.grants (elsewhere : Elsewhere t u) (account : Account k m d t) :
    Grants k m d t False u := by
  obtain ⟨e, devices⟩ := elsewhere.devices d account.devices
  refine ⟨0, 0, e, ⟨account.processes.congr elsewhere.processes,
    account.threads.congr elsewhere.threads, devices⟩, elsewhere.pool, Nat.zero_le e, False.elim⟩

theorem Elsewhere.refl (t : Tables) : Elsewhere t t :=
  ⟨fun _ => Iff.rfl, fun _ => Iff.rfl, fun _ granted => ⟨0, granted⟩, rfl⟩

theorem destroyProcess_elsewhere (t : Tables) (i : Nat) :
    Elsewhere t (destroyProcessStructure t i).2 := by
  unfold destroyProcessStructure
  split
  · exact .refl t
  rename_i process there
  split_ifs
  · exact .refl t
  · exact .refl t
  · exact .refl t
  · refine ⟨fun j => ?_, fun _ => Iff.rfl, fun _ granted => ⟨0, granted⟩, rfl⟩
    by_cases here : j = i
    · simp [here, there]
    · simp [here]

theorem destroyThread_elsewhere (t : Tables) (i : Nat) :
    Elsewhere t (destroyThreadStructure t i).2 := by
  unfold destroyThreadStructure
  split
  · exact .refl t
  rename_i thread there
  split_ifs
  · exact .refl t
  · exact .refl t
  · exact .refl t
  · refine ⟨fun _ => Iff.rfl, fun j => ?_, fun _ granted => ⟨0, granted⟩, rfl⟩
    by_cases here : j = i
    · simp [here, there]
    · simp [here]

theorem serve_grants {request : Request} (account : Account k m d t) (meets : request.guard t) :
    Returns (serve t request) fun out => Grants k m d t (request.begins t) out.2 := by
  have nothing : ∀ begins : Prop, ¬begins → Grants k m d t begins t := fun begins no =>
    ⟨0, 0, 0, account, rfl, Nat.le_refl 0, fun yes => absurd yes no⟩
  cases request with
  | createProcess found args =>
      refine returns_map.mpr (createProcessImp_effect.mono ?_)
      rintro _ (rfl | ⟨i, slot, rfl | ⟨pid, process, free, rfl⟩⟩)
      · exact nothing _ id
      · exact ⟨0, 0, 1, account.addDevice slot, rfl, Nat.zero_le 1, False.elim⟩
      · have registered := (account.addDevice slot).register free process
        exact ⟨1, 0, 1, registered, rfl, Nat.le_refl 1, False.elim⟩
  | createThread found args =>
      refine returns_map.mpr (createThreadImp_effect.mono ?_)
      rintro _ (rfl | ⟨tid, free, rfl⟩)
      · exact nothing _ id
      · exact ⟨0, 1, 0, account.registerThread free _, rfl, Nat.le_refl 0, False.elim⟩
  | clone found filename pid flags =>
      refine returns_map.mpr (copyProcess_effect.mono ?_)
      rintro ⟨value, u⟩ (⟨no, same⟩ | ⟨begins, child, tid, spawned, _⟩)
      · cases same
        exact nothing _ no
      · exact ⟨1, 1, 1, account.spawned spawned, spawned.pool.1, Nat.le_refl 1,
          fun _ => ⟨Nat.one_pos, Nat.one_pos⟩⟩
  | destroyProcess i => exact returns_ok.mpr ((destroyProcess_elsewhere t i).grants account)
  | destroyThread i => exact returns_ok.mpr ((destroyThread_elsewhere t i).grants account)
  | elsewhere later => exact returns_ok.mpr (Elsewhere.grants meets account)

end Steps

section Runs

/-- The slots that the run takes, in order, and how many clones begin in it. -/
structure History where
  pids : List Nat
  tids : List Nat
  clones : Nat

def History.none : History := ⟨[], [], 0⟩

open Classical in
noncomputable def note (h : History) (t : Tables) (request : Request) (out : Reply × Tables) :
    History where
  pids := h.pids ++ newly t.teList out.2.teList 0 PROCESS_COUNT_MAX
  tids := h.tids ++ newly t.threadList out.2.threadList USER_THRESHOLD_TID THREAD_COUNT_MAX
  clones := if request.begins t then h.clones + 1 else h.clones

/-- What a run has handed out, when it began with so many slots taken. -/
structure Numbered (n m d c : Nat) (h : History) (t : Tables) : Prop where
  pids : h.pids = List.range' n h.pids.length
  tids : h.tids = List.range' (USER_THRESHOLD_TID + m) h.tids.length
  account : ∃ e, h.pids.length ≤ e ∧ Account (n + h.pids.length) (m + h.tids.length) (d + e) t
  windows : t.heapCount = c + h.pids.length
  children : h.clones ≤ h.pids.length
  clones : h.clones ≤ h.tids.length

variable {t u : Tables} {n m d c : Nat}

theorem numbered_step {h : History} {request : Request} {reply : Reply}
    (holds : Numbered n m d c h t) (meets : request.guard t)
    (served : serve t request = .ok (reply, u)) :
    Numbered n m d c (note h t request (reply, u)) u := by
  obtain ⟨pids, tids, ⟨e, tall, account⟩, windows, children, clones⟩ := holds
  obtain ⟨j, l, e', later, counted, devices, begun⟩ := serve_grants account meets _ served
  have morePids := newly_eq account.processes later.processes
  have moreTids := newly_eq account.threads later.threads
  rw [Nat.zero_add] at morePids
  rw [← Nat.add_assoc] at moreTids
  have pidCount : (note h t request (reply, u)).pids.length = h.pids.length + j := by
    simp [note, morePids]
  have tidCount : (note h t request (reply, u)).tids.length = h.tids.length + l := by
    simp [note, moreTids]
  have more : (note h t request (reply, u)).clones ≤ h.pids.length + j ∧
      (note h t request (reply, u)).clones ≤ h.tids.length + l := by
    by_cases begins : request.begins t
    · obtain ⟨child, thread⟩ := begun begins
      simp only [note, begins, if_true]
      omega
    · simp only [note, begins, if_false]
      omega
  refine ⟨?_, ?_, ⟨e + e', ?_, ?_⟩, ?_, ?_, ?_⟩
  · rw [pidCount, ← List.range'_append_1, ← pids]
    exact congrArg (h.pids ++ ·) morePids
  · rw [tidCount, ← List.range'_append_1, ← tids]
    exact congrArg (h.tids ++ ·) moreTids
  · rw [pidCount]
    omega
  · rw [pidCount, tidCount, ← Nat.add_assoc, ← Nat.add_assoc, ← Nat.add_assoc]
    exact later
  · rw [pidCount, counted, windows, Nat.add_assoc]
  · rw [pidCount]
    exact more.1
  · rw [tidCount]
    exact more.2

structure Handed (n m d : Nat) (t : Tables) (h : History) (u : Tables) : Prop where
  pids : h.pids = List.range' n h.pids.length
  tids : h.tids = List.range' (USER_THRESHOLD_TID + m) h.tids.length
  processes : n + h.pids.length ≤ PROCESS_COUNT_MAX
  threads : USER_THRESHOLD_TID + m + h.tids.length ≤ THREAD_COUNT_MAX
  devices : d + h.pids.length ≤ DEVICE_LIST_MAX
  windows : u.heapCount = t.heapCount + h.pids.length
  children : h.clones ≤ h.pids.length
  clones : h.clones ≤ h.tids.length

/-- Pids and tids are handed out in order, each once in the life of the kernel,
    whatever is destroyed; a clone that begins costs one of each, also when it fails. -/
theorem numbers_never_return {requests : List Request} {outs : List Reply} {h : History}
    (account : Account n m d t)
    (guarded : Guarded (observe note serve) (fun seen request => request.guard seen.2)
      (History.none, t) requests)
    (served : run (observe note serve) (History.none, t) requests = .ok (outs, (h, u))) :
    Handed n m d t h u := by
  have start : Numbered n m d t.heapCount History.none t :=
    ⟨rfl, rfl, ⟨0, Nat.le_refl 0, account⟩, rfl, Nat.le_refl 0, Nat.le_refl 0⟩
  have keep : ∀ (seen : History × Tables) (request : Request) (reply : Reply)
      (next : History × Tables), Numbered n m d t.heapCount seen.1 seen.2 →
        request.guard seen.2 → observe note serve seen request = .ok (reply, next) →
          Numbered n m d t.heapCount next.1 next.2 := by
    intro seen request reply next holds meets first
    obtain ⟨stepped, noted⟩ := observe_ok first
    rw [noted]
    exact numbered_step holds meets stepped
  have last : Numbered n m d t.heapCount h u := run_keeps keep start guarded served
  obtain ⟨e, tall, account⟩ := last.account
  have threads := account.threads.inside
  have processes := account.processes.inside
  have devices := account.devices.inside
  exact ⟨last.pids, last.tids, by omega, by omega, by omega, last.windows, last.children,
    last.clones⟩

/-- A thread of the shell is created, destroyed, and created again: the second one
    gets the next tid. -/
def again : List Request :=
  [.createThread enough ⟨1, some [97], RING3⟩, .destroyThread 101,
    .createThread enough ⟨1, some [97], RING3⟩]

theorem again_handed : ∃ outs h u,
    run (observe note serve) (History.none, booted) again = .ok (outs, (h, u)) ∧
      Handed 2 1 0 booted h u := by
  have served : ∃ outs u, run serve booted again = .ok (outs, u) := ⟨_, _, rfl⟩
  have account : Account 2 1 0 booted := by
    refine ⟨⟨by decide, fun i _ _ => ?_⟩, ⟨by decide, fun i low _ => ?_⟩,
      ⟨by decide, fun i _ _ => ?_⟩⟩
    · by_cases kernel : i = 0
      · simp [booted, kernel]
      · by_cases shell : i = 1
        · simp [booted, shell]
        · simp [booted, kernel, shell]
          omega
    · by_cases first : i = 100
      · simp [booted, first, USER_THRESHOLD_TID]
      · simp only [USER_THRESHOLD_TID] at low
        simp [booted, first, USER_THRESHOLD_TID]
        omega
    · simp [booted]
  obtain ⟨outs, u, served⟩ := served
  have seen : ∃ h, run (observe note serve) (History.none, booted) again = .ok (outs, (h, u)) :=
    observed_of_run served
  obtain ⟨h, observed⟩ := seen
  refine ⟨outs, h, u, observed, numbers_never_return account ?_ observed⟩
  exact ⟨trivial, fun _ _ _ => ⟨trivial, fun _ _ _ => ⟨trivial, fun _ _ _ => trivial⟩⟩⟩

end Runs

end Gramado.Ke.Creation
