/-
Runs of timer ticks, the kernel changing its threads in between. Nothing keeps the
threads of the run list READY until their turn comes, so that a tick is answered
for if the thread behind the current one is still fit when the tick comes.
-/
import Gramado.Ke.Dispatch
import Gramado.Lib.Machine

namespace Gramado.Ke.Sched

open Gramado.Lib
open Gramado.Lib.Fallible
open Gramado.Lib.Machine

def Thread.quantumOver (t : Thread) : Bool :=
  t.endQuantumRequested || t.quantum ≤ t.counters.running + 1

/-- The thread as a tick leaves it that takes the core from it. -/
def Thread.left (t : Thread) (jiffies : UInt64) : Thread :=
  let saved := if t.quantumOver then t.tick.save.expire else t.tick.save
  if t.sleepAsked then saved.sleep jiffies else saved

def Kernel.left (k : Kernel) (i : Tid) (t : Thread) : Kernel :=
  (k.setCurrentProcess t.tgid).set i (t.left k.jiffies)

/-- The thread `j`, which is in standby, can be started from the thread `i`. -/
def Spawnable (k : Kernel) (i j : Tid) : Prop :=
  j ≠ i ∧ ∃ t, k.threadList j = some t ∧ ¬t.saved ∧ t.te ≠ none ∧
    place PROCESS_COUNT_MAX t.tgid ≠ none

/-- The tick may take the core from the thread. -/
def Preempts (k : Kernel) (t : Thread) : Prop :=
  k.taskSwitch = .unlocked ∧ t.isPreemptable

/-- The current thread `i` and its owner are in their tables, and if the core is taken
    from the thread there is another one, in standby or in the queue, that can have it. -/
structure Fit (k : Kernel) (i : Tid) (t : Thread) : Prop where
  counted : Counted k
  current : toTid k.lapic.currentTid = some i
  there : k.threadList i = some t
  valid : t.valid
  owned : ∃ p process, Owned k t p process
  status : k.taskSwitch ≠ .other
  resumable : k.taskSwitch = .unlocked → ¬t.callbackInProgress
  standby : Preempts k t → t.quantumOver → ∀ j, checkForStandby k = some j → Spawnable k i j
  next : Preempts k t →
    t.quantumOver ∧ checkForStandby k = none ∨ ¬t.quantumOver ∧ t.sleepAsked →
      HasNext (k.left i t)

section Ticks

variable {k : Kernel} {i j tid : Tid} {t u : Thread}

theorem quantumOver_iff : t.quantumOver = true ↔
    ¬t.tick.save.counters.running < t.tick.save.quantum := by
  unfold Thread.quantumOver Thread.save Thread.tick
  by_cases requested : t.endQuantumRequested
  · simp [requested]
  · simp [requested]

theorem save_frame : t.tick.save.valid = t.valid ∧ t.tick.save.state = t.state ∧
    t.tick.save.isPreemptable = t.isPreemptable ∧ t.tick.save.sleepAsked = t.sleepAsked ∧
    t.tick.save.saved := by
  simp only [Thread.save]
  split
  · exact ⟨rfl, rfl, rfl, rfl, rfl⟩
  · exact ⟨rfl, rfl, rfl, rfl, rfl⟩

theorem expire_frame : t.expire.valid = t.valid ∧ t.expire.sleepAsked = t.sleepAsked ∧
    t.expire.saved = t.saved ∧ (t.expire.state = .standby ↔ t.state = .standby) := by
  unfold Thread.expire
  split
  · next running =>
      rw [running]
      exact ⟨rfl, rfl, rfl, by simp⟩
  · exact ⟨rfl, rfl, rfl, Iff.rfl⟩

theorem inStandby_iff : k.inStandby j = true ↔ ∃ t, k.threadList j = some t ∧ t.valid ∧
    t.state = .standby ∧ k.initThread ≠ some j := by
  unfold Kernel.inStandby
  cases k.threadList j with
  | none => simp
  | some t => simp [and_assoc]

theorem checkForStandby_some (found : checkForStandby k = some j) : k.inStandby j := by
  unfold checkForStandby at found
  generalize List.finRange THREAD_COUNT_MAX = places at found
  exact List.find?_some found

/-- The current thread is found in standby after it has been stored if it was before. -/
theorem checkForStandby_set (there : k.threadList i = some t) (valid : u.valid = t.valid)
    (state : u.state = .standby ↔ t.state = .standby) :
    checkForStandby (k.set i u) = checkForStandby k := by
  have same : (k.set i u).inStandby = k.inStandby := by
    funext j
    rw [Bool.eq_iff_iff, inStandby_iff, inStandby_iff]
    by_cases here : j = i
    · rw [here, set_self, there]
      simp only [Option.some.injEq, exists_eq_left', valid, state]
      exact Iff.rfl
    · rw [set_other here]
      exact Iff.rfl
  rw [checkForStandby, same, checkForStandby]

theorem startThread_eq {p : Nat} (valid : t.valid) :
    startThread k j t p = (startProcess (({ k.set j (t.spawn k.initThread) with
      taskSwitch := .unlocked
      schedulerInfo := { k.schedulerInfo with locked := false } } : Kernel).setCurrentProcess
        t.tgid) p).setCurrentTid j.toInt32 := by
  have still : (t.spawn k.initThread).valid := valid
  simp only [startThread, setCurrentThread]
  split
  · next absent =>
      have stored : (k.set j (t.spawn k.initThread)).threadList j = none := absent
      rw [set_self] at stored
      cases stored
  · next u there =>
      have stored : (k.set j (t.spawn k.initThread)).threadList j = some u := there
      rw [set_self] at stored
      cases stored
      rw [if_pos still]
      rfl

theorem spawn_iff (isStandby : k.inStandby j) :
    Meets (spawnThread k j) (fun out => Proper out.2 out.1) ↔
      Counted k ∧ ∃ t, k.threadList j = some t ∧ ¬t.saved ∧ t.te ≠ none ∧
        place PROCESS_COUNT_MAX t.tgid ≠ none := by
  rcases inStandby_iff.mp isStandby with ⟨t, there, valid, state, -⟩
  unfold spawnThread
  rw [there]
  simp only [meets_ite, meets_error, and_false, false_or, Option.some.injEq, exists_eq_left']
  cases owner : place PROCESS_COUNT_MAX t.tgid with
  | none => simp
  | some p =>
      have counts : Counted (startThread k j t p) ↔ Counted k := by
        rw [startThread_eq valid]
        exact Iff.rfl
      have running : Running (startThread k j t p) j := by
        rw [startThread_eq valid]
        exact ⟨rfl, t.spawn k.initThread, set_self, rfl, rfl⟩
      simp only [meets_bind, meets_count, meets_pure, counts]
      constructor
      · rintro ⟨-, -, saved, te, counted, -⟩
        exact ⟨counted, saved, te, by simp⟩
      · rintro ⟨counted, saved, te, -⟩
        exact ⟨by simp [valid], by simp [state], saved, te, counted, running⟩

theorem setCurrentThread_kept : (setCurrentThread k j).threadList = k.threadList ∧
    (setCurrentThread k j).settings = k.settings := by
  unfold setCurrentThread
  split
  · exact ⟨rfl, rfl⟩
  · split
    · exact ⟨rfl, rfl⟩
    · exact ⟨rfl, rfl⟩

theorem finishExecuting_iff (rr : k.schedulerInfo.policy = .rr) (there : k.threadList i = some t)
    (past : t.quantumOver) :
    Meets (finishExecuting ((k.setCurrentProcess t.tgid).set i t.tick.save) i t.tick.save)
      (fun out => Proper out.2 out.1) ↔
    Counted k ∧ (∀ j, checkForStandby k = some j → Spawnable k i j) ∧
      (checkForStandby k = none → HasNext (k.left i t)) := by
  rcases @save_frame t with ⟨valid, state, -, asked, saved⟩
  rcases @expire_frame t.tick.save with ⟨valid', asked', saved', standby⟩
  -- Saving and expiring the thread makes no thread a standby one.
  have search : checkForStandby ((k.setCurrentProcess t.tgid).set i t.tick.save.expire) =
      checkForStandby k := by
    have stored : (k.setCurrentProcess t.tgid).threadList i = some t := there
    rw [checkForStandby_set stored (valid'.trans valid) (state ▸ standby)]
    have same : (k.setCurrentProcess t.tgid).inStandby = k.inStandby := rfl
    rw [checkForStandby, same, checkForStandby]
  rw [finishExecuting, set_set]
  unfold afterQuantum
  rw [search]
  cases found : checkForStandby k with
  | some j =>
      let stored : Kernel := (k.setCurrentProcess t.tgid).set i t.tick.save.expire
      have isStandby : stored.inStandby j := by
        rw [← search] at found
        exact checkForStandby_some found
      rcases @setCurrentThread_kept stored j with ⟨threads, settings⟩
      have still : (setCurrentThread stored j).inStandby j := by
        rw [inStandby_iff] at isStandby ⊢
        rw [threads, show (setCurrentThread stored j).initThread = stored.initThread from
          congrArg Prod.fst settings]
        exact isStandby
      have counts : Counted (setCurrentThread stored j) ↔ Counted k := by
        have block : (setCurrentThread stored j).dispatchCountBlock = k.dispatchCountBlock :=
          congrArg (fun s => s.2.2.1) settings
        rw [Counted, Counted, block]
      simp only [reduceCtorEq, false_implies, and_true, Option.some.injEq, forall_eq']
      rw [show Meets _ _ ↔ _ from spawn_iff still, counts, threads]
      refine and_congr_right fun _ => ?_
      -- A thread that was just saved is not spawned.
      by_cases here : j = i
      · rw [here]
        constructor
        · rintro ⟨u, same, unsaved, -⟩
          have equal : stored.threadList i = some t.tick.save.expire := set_self
          rw [equal] at same
          cases same
          exact absurd (saved'.trans saved) unsaved
        · rintro ⟨apart, -⟩
          exact absurd rfl apart
      · have other : stored.threadList j = k.threadList j := set_other here
        rw [other]
        exact ⟨fun fit => ⟨here, fit⟩, fun fit => fit.2⟩
  | none =>
      -- No standby thread: the one that expired is put to sleep if it asked for it, and the queue
      -- decides.
      have left : (if t.tick.save.expire.sleepAsked then
          ((k.setCurrentProcess t.tgid).set i t.tick.save.expire).set i
            (t.tick.save.expire.sleep k.jiffies)
          else (k.setCurrentProcess t.tgid).set i t.tick.save.expire) = k.left i t := by
        unfold Kernel.left Thread.left
        rw [asked', asked, if_pos past]
        split
        · exact set_set
        · rfl
      have counts : Counted (k.left i t) ↔ Counted k := Iff.rfl
      simp only [reduceCtorEq, false_implies, forall_true_left, implies_true, true_and]
      change Meets (zeroGravity (if t.tick.save.expire.sleepAsked then
          ((k.setCurrentProcess t.tgid).set i t.tick.save.expire).set i
            (t.tick.save.expire.sleep k.jiffies)
          else (k.setCurrentProcess t.tgid).set i t.tick.save.expire)) _ ↔ _
      have policy : (k.left i t).schedulerInfo.policy = .rr := rr
      rw [left, zeroGravity_iff policy, counts]

theorem switchSaved_iff (rr : k.schedulerInfo.policy = .rr) (there : k.threadList i = some t) :
    Meets (switchSaved ((k.setCurrentProcess t.tgid).set i t.tick.save) i t.tick.save)
      (fun out => Proper out.2 out.1) ↔
    Counted k ∧
      (t.isPreemptable → t.quantumOver → ∀ j, checkForStandby k = some j → Spawnable k i j) ∧
      (t.isPreemptable →
        t.quantumOver ∧ checkForStandby k = none ∨ ¬t.quantumOver ∧ t.sleepAsked →
          HasNext (k.left i t)) := by
  rcases @save_frame t with ⟨-, -, preemptable, asked, -⟩
  have keeps : Counted ((k.setCurrentProcess t.tgid).set i t.tick.save) ↔ Counted k := Iff.rfl
  have inTime : t.tick.save.counters.running < t.tick.save.quantum ↔ ¬t.quantumOver := by
    rw [quantumOver_iff, not_not]
  unfold switchSaved
  rw [preemptable]
  -- By the three ends of the function: not preemptable, past its quantum, in time.
  by_cases isPreemptable : t.isPreemptable
  · rw [isPreemptable, if_neg (by simp)]
    by_cases past : t.quantumOver
    · rw [if_neg (fun less => inTime.mp less past), finishExecuting_iff rr there past]
      constructor
      · rintro ⟨counted, standby, next⟩
        refine ⟨counted, fun _ _ => standby, ?_⟩
        rintro - (⟨-, nobody⟩ | ⟨inside, -⟩)
        · exact next nobody
        · exact absurd past inside
      · rintro ⟨counted, standby, next⟩
        exact ⟨counted, standby rfl past, fun nobody => next rfl (Or.inl ⟨past, nobody⟩)⟩
    · rw [if_pos (inTime.mpr past), asked]
      by_cases asleep : t.sleepAsked
      · have left : ((k.setCurrentProcess t.tgid).set i t.tick.save).set i
            (t.tick.save.sleep ((k.setCurrentProcess t.tgid).set i t.tick.save).jiffies) =
              k.left i t := by
          unfold Kernel.left Thread.left
          rw [if_pos asleep, if_neg past]
          exact set_set
        have policy : (k.left i t).schedulerInfo.policy = .rr := rr
        have counts : Counted (k.left i t) ↔ Counted k := Iff.rfl
        rw [if_pos asleep, left, zeroGravity_iff policy, counts]
        constructor
        · rintro ⟨counted, next⟩
          exact ⟨counted, fun _ isOver => absurd isOver past, fun _ _ => next⟩
        · rintro ⟨counted, -, next⟩
          exact ⟨counted, next rfl (Or.inr ⟨past, asleep⟩)⟩
      · rw [if_neg asleep, meets_keep, keeps]
        constructor
        · rintro ⟨counted, -⟩
          refine ⟨counted, fun _ isOver => absurd isOver past, ?_⟩
          rintro - (⟨isOver, -⟩ | ⟨-, isAsked⟩)
          · exact absurd isOver past
          · exact absurd isAsked asleep
        · rintro ⟨counted, -⟩
          exact ⟨counted, trivial⟩
  · have fixed : t.isPreemptable = false := by simpa using isPreemptable
    rw [fixed, if_pos (by rfl), meets_keep, keeps]
    constructor
    · rintro ⟨counted, -⟩
      exact ⟨counted, by simp, by simp⟩
    · rintro ⟨counted, -⟩
      exact ⟨counted, trivial⟩

theorem switchCurrent_iff (rr : k.schedulerInfo.policy = .rr) (there : k.threadList i = some t) :
    Meets (switchCurrent ((k.setCurrentProcess t.tgid).set i t.tick) i t.tick)
      (fun out => Proper out.2 out.1) ↔
    Counted k ∧ k.taskSwitch ≠ .other ∧ (k.taskSwitch = .unlocked → ¬t.callbackInProgress) ∧
      (Preempts k t → t.quantumOver → ∀ j, checkForStandby k = some j → Spawnable k i j) ∧
      (Preempts k t →
        t.quantumOver ∧ checkForStandby k = none ∨ ¬t.quantumOver ∧ t.sleepAsked →
          HasNext (k.left i t)) := by
  have status : ((k.setCurrentProcess t.tgid).set i t.tick).taskSwitch = k.taskSwitch := rfl
  unfold switchCurrent Preempts
  rw [status]
  cases k.taskSwitch with
  | locked =>
      have keeps : Counted ((k.setCurrentProcess t.tgid).set i t.tick) ↔ Counted k := Iff.rfl
      simp only [meets_keep, keeps, Proper, and_true, reduceCtorEq, false_and, false_implies,
        ne_eq, not_false_eq_true]
  | other => simp
  | unlocked =>
      have callback : t.tick.callbackInProgress = t.callbackInProgress := rfl
      simp only [callback, meets_ite, meets_error, and_false, false_or, set_set,
        switchSaved_iff rr there, reduceCtorEq, ne_eq, not_false_eq_true, true_and,
        forall_true_left]
      constructor
      · rintro ⟨idle, counted, fit⟩
        exact ⟨counted, idle, fit⟩
      · rintro ⟨counted, idle, fit⟩
        exact ⟨idle, counted, fit⟩

theorem threadSwitch_iff (rr : k.schedulerInfo.policy = .rr) :
    Meets (threadSwitch k) (fun out => Proper out.2 out.1) ↔ ∃ i t, Fit k i t := by
  simp only [threadSwitch]
  rw [meets_bind, meets_currentThread]
  refine exists_congr fun i => exists_congr fun t => ?_
  rw [meets_bind, meets_currentProcess]
  constructor
  · rintro ⟨current, there, valid, owned, switched⟩
    rcases (switchCurrent_iff rr there).mp switched with
      ⟨counted, status, resumable, standby, next⟩
    exact ⟨counted, current, there, valid, owned, status, resumable, standby, next⟩
  · rintro ⟨counted, current, there, valid, owned, status, resumable, standby, next⟩
    exact ⟨current, there, valid, owned, (switchCurrent_iff rr there).mpr
      ⟨counted, status, resumable, standby, next⟩⟩

end Ticks

/-- The policy that the scheduler is configured for. -/
def Kernel.roundRobin (k : Kernel) : Prop :=
  k.schedulerInfo.policy = .rr

section Policy

variable {k : Kernel} {i tid target : Tid} {t : Thread} {flags : UInt64}

theorem keep_policy (rr : k.roundRobin) : Returns (keep k flags) fun out => out.2.roundRobin := by
  unfold keep
  rw [returns_bind]
  intro value counted
  rw [returns_pure]
  exact rr

theorem modify_policy {change : Thread → Thread} (rr : k.roundRobin) :
    (k.modify i change).roundRobin := by
  unfold Kernel.roundRobin
  rw [frame_schedulerInfo modify_frame]
  exact rr

theorem setCurrentThread_policy (rr : k.roundRobin) : (setCurrentThread k tid).roundRobin := by
  have policy : (setCurrentThread k tid).schedulerInfo.policy = k.schedulerInfo.policy :=
    congrArg (fun s => s.2.2.2) (@setCurrentThread_kept k tid).2
  exact policy.trans rr

theorem fallBack_policy (rr : k.roundRobin) : Returns (fallBack k) fun out => out.2.roundRobin := by
  unfold fallBack
  split
  · simp
  · rw [returns_ok]
    exact modify_policy rr

theorem dispatchTarget_policy (rr : k.roundRobin) :
    Returns (dispatchTarget k target) fun out => out.2.roundRobin := by
  have dispatches : ∀ k : Kernel, k.roundRobin →
      Returns (dispatcher k) fun out => out.2.2.roundRobin := by
    intro k rr
    unfold dispatcher
    split
    · simp
    · split
      · simp
      · simp only [returns_ite, returns_error, returns_ok, implies_true, true_and]
        intro _ _
        exact rr
  have owners : ∀ k : Kernel, k.roundRobin →
      Returns (targetProcess k target) fun k => k.roundRobin := by
    intro k rr
    unfold targetProcess
    split
    · simp
    · split
      · simp
      · split
        · simp
        · simp only [returns_ite, returns_error, returns_ok, implies_true, true_and]
          intro _ _ _
          exact rr
  simp only [dispatchTarget]
  rw [returns_bind]
  intro _ _
  refine returns_of_bind (dispatches _ (modify_policy rr)) ?_
  intro out isRr
  refine returns_of_bind (owners _ isRr) ?_
  intro k isRr
  rw [returns_pure]
  exact isRr

theorem dispatchCurrent_policy (rr : k.roundRobin) :
    Returns (dispatchCurrent k) fun out => out.2.roundRobin := by
  unfold dispatchCurrent
  split
  · simp
  · next tid current =>
      split
      · simp
      · next t there =>
          rw [returns_ite]
          refine ⟨by simp, fun _ => ?_⟩
          have ready : Returns (readyTarget k tid t) fun out => out.2.roundRobin := by
            unfold readyTarget
            rw [returns_ite]
            exact ⟨fun _ => fallBack_policy rr, fun _ => by rw [returns_ok]; exact rr⟩
          refine returns_of_bind ready ?_
          intro out isRr
          have wakeful : Returns (wakefulTarget out.2 out.1) fun out => out.2.roundRobin := by
            unfold wakefulTarget
            split
            · simp
            · rw [returns_ite, returns_ite]
              exact ⟨fun _ => ⟨by simp, fun _ => fallBack_policy isRr⟩,
                fun _ => by rw [returns_ok]; exact isRr⟩
          refine returns_of_bind wakeful ?_
          intro out isRr
          exact dispatchTarget_policy isRr

theorem scheduler_policy (rr : k.roundRobin) :
    Returns (scheduler k) fun out => out.2.roundRobin := by
  have first : ∀ (k : Kernel) tid, k.roundRobin →
      Returns (checkFirst k tid) fun out => out.2.roundRobin := by
    intro k tid rr
    unfold checkFirst
    split
    · simp
    · split
      · simp
      · simp only [returns_ite, returns_error, returns_ok, implies_true, true_and]
        intro _ _
        exact rr
  have round : Returns (schedulerRr { k with systemRunning := false })
      fun out => out.2.roundRobin := by
    rintro ⟨tid, k'⟩ done
    have policy := congrArg (fun s => s.2.2.2) (schedulerRr_settings done)
    exact policy.trans rr
  have policy : k.schedulerInfo.policy = .rr := rr
  simp only [scheduler]
  rw [policy]
  simp only [returns_ite, returns_error, implies_true, true_and]
  intro _ _ _
  refine returns_of_bind round ?_
  intro out isRr
  exact first out.2 out.1 isRr

theorem zeroGravity_policy (rr : k.roundRobin) :
    Returns (zeroGravity k) fun out => out.2.roundRobin := by
  unfold zeroGravity
  rw [returns_ite]
  refine ⟨by simp, fun _ => ?_⟩
  split
  · simp
  · next head isHead =>
      split
      · next next behind =>
          unfold nextFromQueue
          split
          · simp
          · rw [returns_ite]
            refine ⟨fun _ => ?_, by simp⟩
            apply dispatchCurrent_policy
            exact rr
      · have round : Returns (psScheduler k) fun out => out.2.roundRobin := by
          unfold psScheduler
          rw [returns_ite, returns_ite]
          refine ⟨fun _ => by rw [returns_ok]; exact rr, fun _ => ⟨by simp, fun _ => ?_⟩⟩
          rintro ⟨n, k'⟩ done
          cases called : scheduler k with
          | error stop =>
              rw [called] at done
              cases done
          | ok out =>
              rw [called] at done
              cases done
              exact scheduler_policy rr out called
        refine returns_of_bind round ?_
        intro out isRr
        apply dispatchCurrent_policy
        exact isRr

theorem spawnThread_policy (rr : k.roundRobin) :
    Returns (spawnThread k tid) fun out => out.2.roundRobin := by
  have started : ∀ t p, (startThread k tid t p).roundRobin := by
    intro t p
    simp only [startThread]
    apply setCurrentThread_policy
    exact rr
  unfold spawnThread
  split
  · simp
  · next t there =>
      simp only [returns_ite, returns_error, implies_true, true_and]
      intro _ _ _ _
      split
      · simp
      · next p owner =>
          rw [returns_bind]
          intro _ _
          rw [returns_pure]
          exact started t p

theorem switchSaved_policy (rr : k.roundRobin) :
    Returns (switchSaved k i t) fun out => out.2.roundRobin := by
  have quantum : Returns (finishExecuting k i t) fun out => out.2.roundRobin := by
    unfold finishExecuting afterQuantum
    split
    · apply spawnThread_policy
      apply setCurrentThread_policy
      exact rr
    · apply zeroGravity_policy
      split
      · exact rr
      · exact rr
  have asleep : Returns (zeroGravity (k.set i (t.sleep k.jiffies)))
      fun out => out.2.roundRobin := zeroGravity_policy rr
  unfold switchSaved
  simp only [returns_ite]
  exact ⟨fun _ => keep_policy rr, fun _ =>
    ⟨fun _ => ⟨fun _ => asleep, fun _ => keep_policy rr⟩, fun _ => quantum⟩⟩

theorem threadSwitch_policy (rr : k.roundRobin) :
    Returns (threadSwitch k) fun out => out.2.roundRobin := by
  have process : ∀ t, Returns (currentProcess k t) fun k => k.roundRobin := by
    intro t
    unfold currentProcess
    split
    · simp
    · split
      · simp
      · simp only [returns_ite, returns_error, returns_ok, implies_true, true_and]
        intro _ _
        exact rr
  simp only [threadSwitch]
  rw [returns_bind]
  intro found _
  refine returns_of_bind (process found.2) ?_
  intro k rr
  unfold switchCurrent
  split
  · exact keep_policy rr
  · simp
  · rw [returns_ite]
    exact ⟨by simp, fun _ => switchSaved_policy rr⟩

end Policy

/-- A change of the kernel between two ticks, or a tick. The policy is written once,
    before the first of them. -/
inductive Event where
  | change (between : Kernel → Kernel)
      (policy : ∀ k, (between k).schedulerInfo.policy = k.schedulerInfo.policy)
  | tick

def happen (k : Kernel) : Event → Except Stop (Option Outcome × Kernel)
  | .change between _ => .ok (none, between k)
  | .tick => (threadSwitch k).map fun out => (some out.1, out.2)

/-- What a tick asks of the kernel that it finds. -/
def Answerable (k : Kernel) : Event → Prop
  | .change _ _ => True
  | .tick => ∃ i t, Fit k i t

def AnsweredFor (_ : Kernel) (_ : Event) (out : Option Outcome × Kernel) : Prop :=
  ∀ outcome, out.1 = some outcome → Proper out.2 outcome

section Runs

variable {k k' : Kernel} {event : Event}

theorem happen_policy {out : Option Outcome} (rr : k.roundRobin)
    (done : happen k event = .ok (out, k')) : k'.roundRobin := by
  cases event with
  | change between policy =>
      cases done
      exact (policy k).trans rr
  | tick =>
      cases switched : threadSwitch k with
      | error stop =>
          simp only [happen] at done
          rw [switched] at done
          cases done
      | ok result =>
          simp only [happen] at done
          rw [switched] at done
          cases done
          exact threadSwitch_policy rr result switched

theorem happen_iff (rr : k.roundRobin) :
    Answerable k event ↔ ∃ out, happen k event = .ok out ∧ AnsweredFor k event out := by
  cases event with
  | change between policy =>
      refine iff_of_true trivial ⟨(none, between k), rfl, ?_⟩
      intro outcome impossible
      cases impossible
  | tick =>
      have proper : (∃ out, happen k .tick = .ok out ∧ AnsweredFor k .tick out) ↔
          Meets (threadSwitch k) fun out => Proper out.2 out.1 := by
        change Meets ((threadSwitch k).map _) _ ↔ _
        rw [meets_map]
        refine meets_congr fun out _ => ?_
        constructor
        · intro all
          exact all out.1 rfl
        · rintro proper outcome same
          cases same
          exact proper
      rw [proper, threadSwitch_iff rr]
      exact Iff.rfl

theorem thread_switches_iff (k : Kernel) (events : List Event) (rr : k.roundRobin) :
    Guarded happen Answerable k events ↔
      (∃ outs k', run happen k events = .ok (outs, k')) ∧ Along happen AnsweredFor k events := by
  have exact : ∀ k event, Kernel.roundRobin k → (Answerable k event ↔
      ∃ out, happen k event = .ok out ∧ AnsweredFor k event out) :=
    fun k event rr => happen_iff rr
  have keep : ∀ k event out k', Kernel.roundRobin k → happen k event = .ok (out, k') →
      Kernel.roundRobin k' := fun k event out k' rr done => happen_policy rr done
  exact guarded_iff_along exact keep events rr

end Runs

/-- A thread is blocked between two ticks. -/
def blockThread (tid : Tid) : Event :=
  .change (fun k => k.modify tid fun t => t.doBlocked k.jiffies) fun _ =>
    congrArg SchedulerInfo.policy (frame_schedulerInfo modify_frame)

def expiring : Thread :=
  { idleThread with isPreemptable := true, endQuantumRequested := true }

def waiting : Thread :=
  { control with tgid := 1, isPreemptable := true }

/-- The idle thread at the end of its quantum, and a thread behind it. -/
def atQuantumEnd : Kernel :=
  { (beforeRound fun i => if i = 1 then some waiting else none).set INIT_TID expiring with
    teList := fun p =>
      if p ≤ 1 then some { owner with pid := Int32.ofNat p, pml4PA := 4096 } else none
    systemRunning := true
    threadsCounter := 2
    taskSwitch := .unlocked
    dispatchCountBlock := some 1234 }

def stopOf {α : Type} : Except Stop α → Option Stop
  | .error stop => some stop
  | .ok _ => none

theorem blocked_stops : stopOf (schedulerRr atQuantumEnd >>= fun out =>
    run happen out.2 [blockThread 1, .tick]) = some (.panic "ts: Unexpected error\n") := by
  decide +kernel

theorem atQuantumEnd_runList :
    ∃ k', schedulerRr atQuantumEnd = .ok (INIT_TID, k') ∧ k'.roundRobin ∧
      RunList atQuantumEnd.idleThread k' ∧
      run happen k' [blockThread 1, .tick] = .error (.panic "ts: Unexpected error\n") := by
  have start : Startable atQuantumEnd expiring := ⟨rfl, rfl, rfl, rfl, rfl, rfl⟩
  have calm : ∀ j t, j ≠ INIT_TID → atQuantumEnd.threadList j = some t →
      t.hasEventFromDs = false ∧ t.state ≠ .zombie := by
    intro j t other there
    simp only [atQuantumEnd, set_other other, beforeRound, if_neg other] at there
    split at there
    · cases there
      exact ⟨rfl, by decide⟩
    · cases there
  rcases runList_of_calm start calm with ⟨k', done, runList⟩
  have stops := blocked_stops
  rw [done] at stops
  have policy : k'.schedulerInfo.policy = .rr :=
    congrArg (fun s => s.2.2.2) (schedulerRr_settings done)
  refine ⟨k', done, policy, runList, ?_⟩
  cases served : run happen k' [blockThread 1, .tick] with
  | error stop =>
      have stopped : stopOf (run happen k' [blockThread 1, .tick]) = _ := stops
      rw [served] at stopped
      rw [Option.some.inj stopped]
  | ok out =>
      have stopped : stopOf (run happen k' [blockThread 1, .tick]) = _ := stops
      rw [served] at stopped
      cases stopped

theorem blocked_thread_panics :
    ∃ k k' tid, schedulerRr k = .ok (tid, k') ∧ RunList k.idleThread k' ∧
      run happen k' [blockThread 1, .tick] = .error (.panic "ts: Unexpected error\n") := by
  rcases atQuantumEnd_runList with ⟨k', done, -, runList, stops⟩
  exact ⟨atQuantumEnd, k', INIT_TID, done, runList, stops⟩

theorem blocked_thread_not_answerable :
    ∃ k', schedulerRr atQuantumEnd = .ok (INIT_TID, k') ∧
      ¬Guarded happen Answerable k' [blockThread 1, .tick] := by
  rcases atQuantumEnd_runList with ⟨k', done, policy, -, stops⟩
  refine ⟨k', done, ?_⟩
  intro guarded
  rcases (thread_switches_iff k' [blockThread 1, .tick] policy).mp guarded with ⟨⟨outs, k'', ok⟩, -⟩
  rw [stops] at ok
  cases ok

end Gramado.Ke.Sched
