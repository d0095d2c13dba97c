/-
What the switcher and the dispatcher come to, call by call: when each of them
returns, and what it leaves. A thread that is put in RUNNING is looked up by the
current tid, and its process by the local pointer.
-/
import Gramado.Ke.RunList
import Gramado.Ke.Switch
import Gramado.Lib.Fallible

namespace Gramado.Ke.Sched

open Gramado.Lib
open Gramado.Lib.Fallible

def Counted (k : Kernel) : Prop :=
  k.dispatchCountBlock = some 1234

/-- The process `p` owns the thread. -/
structure Owned (k : Kernel) (t : Thread) (p : Nat) (process : Process) : Prop where
  numbered : place PROCESS_COUNT_MAX t.tgid = some p
  there : k.teList p = some process
  valid : process.valid
  pid : process.pid = t.tgid

/-- The thread runs, is recorded as the current one, and its owner as the current process. -/
structure Running (k : Kernel) (tid : Tid) : Prop where
  recorded : k.lapic.currentTid = tid.toInt32
  running : ∃ t, k.threadList tid = some t ∧ t.state = .running ∧ k.lapic.currentPid = t.tgid

/-- `found` is the thread as the dispatcher has found it. A thread in standby is
    started without the dispatcher. -/
def Proper (k : Kernel) : Outcome → Prop
  | .kept _ => True
  | .spawned tid => Running k tid
  | .dispatched tid found => Running k tid ∧ found.state = .ready ∧ ¬found.sleepInProgress

/-- The thread can be put on the core. -/
structure Dispatchable (k : Kernel) (t : Thread) : Prop where
  valid : t.valid
  ready : t.state = .ready
  awake : ¬t.sleepInProgress
  owned : ∃ p process, Owned k t p process ∧ process.pml4PA ≠ 0

section Lookups

variable {k : Kernel} {i tid target : Tid} {n : Int32} {t : Thread} {flags : UInt64}

theorem toTid_toInt32 : toTid i.toInt32 = some i := by
  have small := i.isLt
  unfold THREAD_COUNT_MAX at small
  have value : i.toInt32.toInt = i.val := Int32.toInt_ofNat_of_lt (by omega)
  have inside : 0 ≤ i.toInt32.toInt ∧ i.toInt32.toInt.toNat < THREAD_COUNT_MAX := by
    rw [value]
    exact ⟨Int.natCast_nonneg _, i.isLt⟩
  rw [toTid, dif_pos inside, Option.some.injEq]
  apply Fin.ext
  change i.toInt32.toInt.toNat = i.val
  rw [value, Int.toNat_natCast]

theorem toInt32_of_toTid (there : toTid n = some i) : i.toInt32 = n := by
  unfold toTid at there
  split at there
  · next inside =>
      cases there
      apply Int32.toInt_inj.mp
      have small := inside.2
      unfold THREAD_COUNT_MAX at small
      change (Int32.ofNat n.toInt.toNat).toInt = n.toInt
      rw [Int32.toInt_ofNat_of_lt (by omega), Int.toNat_of_nonneg inside.1]
  · cases there

theorem meets_count {post : Unit → Prop} :
    Meets (incrementDispatcherCount k) post ↔ Counted k ∧ post () := by
  unfold incrementDispatcherCount Counted
  cases k.dispatchCountBlock with
  | none => simp
  | some magic => simp

theorem meets_keep {post : Outcome × Kernel → Prop} :
    Meets (keep k flags) post ↔ Counted k ∧ post (.kept flags, k) := by
  unfold keep
  rw [meets_bind, meets_count, meets_pure]

theorem meets_currentThread {post : Tid × Thread → Prop} :
    Meets (currentThread k) post ↔ ∃ i t, toTid k.lapic.currentTid = some i ∧
      k.threadList i = some t ∧ t.valid ∧ post (i, t) := by
  unfold currentThread
  cases current : toTid k.lapic.currentTid with
  | none => simp
  | some i =>
      cases there : k.threadList i with
      | none => simp [there]
      | some t => simp [there]

theorem meets_currentProcess {post : Kernel → Prop} :
    Meets (currentProcess k t) post ↔
      (∃ p process, Owned k t p process) ∧ post (k.setCurrentProcess t.tgid) := by
  constructor
  · intro meets
    unfold currentProcess at meets
    split at meets
    · exact absurd meets (by simp)
    · next p numbered =>
        split at meets
        · exact absurd meets (by simp)
        · next process there =>
            simp only [meets_ite, meets_error, meets_ok, and_false, false_or] at meets
            rcases meets with ⟨valid, pid, holds⟩
            refine ⟨⟨p, process, numbered, there, ?_, not_not.mp pid⟩, holds⟩
            simpa using valid
  · rintro ⟨⟨p, process, numbered, there, valid, pid⟩, holds⟩
    unfold currentProcess
    rw [numbered]
    simp [there, valid, pid, holds]

theorem meets_targetProcess {post : Kernel → Prop} (there : k.threadList target = some t) :
    Meets (targetProcess k target) post ↔
      (∃ p process, Owned k t p process ∧ process.pml4PA ≠ 0) ∧
        post (k.setCurrentProcess t.tgid) := by
  constructor
  · intro meets
    unfold targetProcess at meets
    rw [there] at meets
    simp only at meets
    split at meets
    · exact absurd meets (by simp)
    · next p numbered =>
        split at meets
        · exact absurd meets (by simp)
        · next process found =>
            simp only [meets_ite, meets_error, meets_ok, and_false, false_or] at meets
            rcases meets with ⟨valid, pid, pml4, holds⟩
            rw [not_not] at pid
            rw [pid] at holds
            refine ⟨⟨p, process, ⟨numbered, found, ?_, pid⟩, pml4⟩, holds⟩
            simpa using valid
  · rintro ⟨⟨p, process, ⟨numbered, found, valid, pid⟩, pml4⟩, holds⟩
    have bounded : place THREAD_COUNT_MAX t.tgid = some p := numbered
    unfold targetProcess
    rw [there]
    simp [bounded, found, valid, pid, pml4, holds]

theorem meets_dispatcher {post : Tid × Thread × Kernel → Prop}
    (current : toTid k.lapic.currentTid = some tid) (there : k.threadList tid = some t) :
    Meets (dispatcher k) post ↔ t.magic = 1234 ∧ t.state = .ready ∧
      post (tid, t, { k.set tid t.run with currentThread := some tid }) := by
  unfold dispatcher
  rw [current]
  simp only
  rw [there]
  simp

end Lookups

/-- The kernel after the dispatch of a thread that the switcher does not turn away from. -/
def dispatched (k : Kernel) (tid : Tid) (t : Thread) : Kernel :=
  { k.set tid t.clean.run with currentThread := some tid }.setCurrentProcess t.tgid

section Dispatching

variable {k k' : Kernel} {tid target : Tid} {t t' : Thread} {p : Nat} {process : Process}

theorem owned_congr (teList : k'.teList = k.teList) (tgid : t'.tgid = t.tgid) :
    Owned k' t' p process ↔ Owned k t p process := by
  constructor
  · rintro ⟨numbered, there, valid, pid⟩
    exact ⟨tgid ▸ numbered, teList ▸ there, valid, pid.trans tgid⟩
  · rintro ⟨numbered, there, valid, pid⟩
    exact ⟨tgid.symm ▸ numbered, teList.symm ▸ there, valid, pid.trans tgid.symm⟩

theorem meets_dispatchTarget {post : Outcome × Kernel → Prop}
    (current : toTid k.lapic.currentTid = some tid) (there : k.threadList tid = some t)
    (valid : t.valid) (ready : t.state = .ready) :
    Meets (dispatchTarget k tid) post ↔ Counted k ∧
      (∃ p process, Owned k t p process ∧ process.pml4PA ≠ 0) ∧
        post (.dispatched tid t.clean, dispatched k tid t) := by
  have stored : (k.set tid t.clean).threadList tid = some t.clean := set_self
  have running : ({ (k.set tid t.clean).set tid t.clean.run with
      currentThread := some tid } : Kernel).threadList tid = some t.clean.run := set_self
  have owner : (∃ p process, Owned { (k.set tid t.clean).set tid t.clean.run with
        currentThread := some tid } t.clean.run p process ∧ process.pml4PA ≠ 0) ↔
      ∃ p process, Owned k t p process ∧ process.pml4PA ≠ 0 := by
    have same : ∀ p process, Owned { (k.set tid t.clean).set tid t.clean.run with
        currentThread := some tid } t.clean.run p process ↔ Owned k t p process :=
      fun p process => owned_congr rfl rfl
    simp only [same]
  have isReady : t.clean.magic = 1234 ∧ t.clean.state = .ready := ⟨valid_magic valid, ready⟩
  simp only [dispatchTarget]
  rw [modify_some there, meets_bind, meets_count, meets_bind,
    meets_dispatcher (k := k.set tid t.clean) current stored, meets_bind,
    meets_targetProcess running, owner, meets_pure, set_set]
  constructor
  · rintro ⟨counted, -, -, owned, holds⟩
    exact ⟨counted, owned, holds⟩
  · rintro ⟨counted, owned, holds⟩
    exact ⟨counted, isReady.1, isReady.2, owned, holds⟩

theorem dispatched_proper (current : toTid k.lapic.currentTid = some tid)
    (ready : t.state = .ready) (awake : ¬t.sleepInProgress) :
    Proper (dispatched k tid t) (.dispatched tid t.clean) := by
  refine ⟨⟨(toInt32_of_toTid current).symm, t.clean.run, set_self, rfl, rfl⟩, ready, awake⟩

/-- A sleeping thread is run all the same: the switcher only turns its own pointer away. -/
theorem asleep_not_proper (current : toTid k.lapic.currentTid = some tid)
    (there : k.threadList tid = some t) (asleep : t.sleepInProgress) :
    ¬Meets (wakefulTarget k tid >>= fun out => dispatchTarget out.2 out.1)
      fun out => Proper out.2 out.1 := by
  unfold wakefulTarget
  rw [there]
  simp only
  rw [if_pos asleep]
  split
  · simp
  · next other =>
      unfold fallBack
      split
      · simp
      · next init isInit =>
          have apart : tid ≠ init := by
            rintro rfl
            exact other isInit
          rw [meets_bind, meets_ok]
          simp only [dispatchTarget]
          have found : ((k.modify init fun t => { t with state := .ready, next := none }).modify
              init Thread.clean).threadList tid = some t := by
            rw [modify_other apart, modify_other apart, there]
          have still : toTid ((k.modify init fun t =>
              { t with state := .ready, next := none }).modify init
                Thread.clean).lapic.currentTid = some tid := by
            rw [frame_lapic modify_frame, frame_lapic modify_frame, current]
          rw [meets_bind, meets_count, meets_bind, meets_dispatcher still found, meets_bind]
          rintro ⟨-, -, -, a, -, proper⟩
          rw [meets_pure] at proper
          exact proper.2.2 asleep

/-- The dispatch of a READY thread is proper if and only if the thread may run. -/
theorem dispatchCurrent_iff (current : toTid k.lapic.currentTid = some tid)
    (there : k.threadList tid = some t) (isReady : t.valid → t.state = .ready) :
    Meets (dispatchCurrent k) (fun out => Proper out.2 out.1) ↔ Counted k ∧ Dispatchable k t := by
  unfold dispatchCurrent
  rw [current]
  simp only
  rw [there]
  simp only
  by_cases valid : t.valid
  · have ready := isReady valid
    have same : readyTarget k tid t = .ok (tid, k) := by
      rw [readyTarget, if_neg (not_not_intro ready)]
    rw [valid, if_neg (by simp), same, meets_bind, meets_ok]
    by_cases asleep : t.sleepInProgress
    · constructor
      · intro meets
        exact absurd meets (asleep_not_proper current there asleep)
      · rintro ⟨-, dispatchable⟩
        exact absurd asleep dispatchable.awake
    · have kept : wakefulTarget k tid = .ok (tid, k) := by
        rw [wakefulTarget, there]
        simp only
        rw [if_neg asleep]
      rw [kept, meets_bind, meets_ok, meets_dispatchTarget current there valid ready]
      constructor
      · rintro ⟨counted, owned, -⟩
        exact ⟨counted, valid, ready, asleep, owned⟩
      · rintro ⟨counted, dispatchable⟩
        exact ⟨counted, dispatchable.owned, dispatched_proper current ready asleep⟩
  · have invalid : t.valid = false := by simpa using valid
    rw [invalid]
    constructor
    · simp
    · rintro ⟨-, dispatchable⟩
      exact absurd dispatchable.valid valid

end Dispatching

/-- What the switcher needs of the kernel, and a round never writes. -/
def Kernel.settings (k : Kernel) : Option Tid × Option Tid × Option Int32 × Policy :=
  (k.initThread, k.idleThread, k.dispatchCountBlock, k.schedulerInfo.policy)

section Rounds

variable {k k' : Kernel} {i idle tid : Tid} {t : Thread} {list : List Tid}

theorem frame_settings (same : k'.frame = k.frame) : k'.settings = k.settings := by
  have equal : k'.frame.settings = k.frame.settings := by rw [same]
  exact equal

theorem setNext_settings {thread next : Option Tid} (done : setNext k thread next = .ok k') :
    k'.settings = k.settings := by
  unfold setNext at done
  split at done
  · cases done
  · cases done
    exact frame_settings modify_frame

theorem linkThread_settings (done : linkThread k i = .ok k') : k'.settings = k.settings := by
  unfold linkThread at done
  cases linked : setNext k k.lapic.p1q (some i) with
  | error stop =>
      rw [linked] at done
      cases done
  | ok middle =>
      rw [linked] at done
      cases done
      have kept : middle.settings = k.settings := setNext_settings linked
      exact kept

theorem rrTurn_settings {round round' : Kernel × Nat} (done : rrTurn idle round i = .ok round') :
    round'.1.settings = round.1.settings := by
  rcases round with ⟨k, ready⟩
  simp only [rrTurn] at done
  split at done
  · cases done
    rfl
  · next t there =>
      generalize t.attend (decide (i = idle)) k.jiffies = out at done
      rcases out with ⟨turn, t'⟩
      cases turn with
      | passed =>
          cases done
          rfl
      | exited =>
          cases done
          change (forgetForeground (k.set i t') i).settings = k.settings
          unfold forgetForeground
          split <;> rfl
      | cleaned =>
          simp only [rrAfter] at done
          cases gone : onZombie (k.set i t') i with
          | error stop =>
              rw [gone] at done
              cases done
          | ok k₁ =>
              rw [gone] at done
              cases done
              have kept : k₁.settings = (k.set i t').settings :=
                frame_settings (onZombie_frame gone)
              exact kept
      | linked =>
          simp only [rrAfter] at done
          cases linked : linkThread (k.set i t') i with
          | error stop =>
              rw [linked] at done
              cases done
          | ok k₁ =>
              rw [linked] at done
              cases done
              have kept : k₁.settings = (k.set i t').settings := linkThread_settings linked
              exact kept

theorem rrFinish_settings {ready : Nat} (done : rrFinish k idle ready = .ok (tid, k')) :
    k'.settings = k.settings := by
  simp only [rrFinish] at done
  generalize counted : { k with
    schedulerInfo := { k.schedulerInfo with rrReadyThreadsInRound := ready } } = k₁ at done
  have balanced : (loadBalancer k₁).settings = k.settings :=
    (frame_settings loadBalancer_frame).trans (by rw [← counted]; rfl)
  cases cut : setNext (loadBalancer k₁) (loadBalancer k₁).lapic.p1q none with
  | error stop =>
      rw [cut] at done
      cases done
  | ok k₂ =>
      rw [cut] at done
      cases done
      exact (setNext_settings cut).trans balanced

theorem schedulerRr_settings (done : schedulerRr k = .ok (tid, k')) :
    k'.settings = k.settings := by
  rcases startable_of_done done with ⟨t, start⟩
  rw [schedulerRr_startable start] at done
  simp only [rrRound] at done
  generalize begun : ({ k with lapic := k.lapic.allQueues none } : Kernel).modify INIT_TID
    (fun t => t.asIdle k.jiffies) = k₁ at done
  have first : k₁.settings = k.settings := by
    rw [← begun]
    exact frame_settings (k := { k with lapic := k.lapic.allQueues none }) modify_frame
  cases run : places.foldlM (rrTurn INIT_TID)
      ({ k₁ with lapic := k₁.lapic.allQueues (some INIT_TID) }, 0) with
  | error stop =>
      rw [run] at done
      cases done
  | ok out =>
      rw [run] at done
      have kept : out.1.settings = k₁.settings :=
        Scan.foldlM_keeps (fun round => round.1.settings)
          (fun _ _ _ turn => rrTurn_settings turn) run
      exact (rrFinish_settings done).trans (kept.trans first)

theorem cleaned_congr (threads : k'.threadList = k.threadList) (jiffies : k'.jiffies = k.jiffies) :
    Cleaned k' i ↔ Cleaned k i := by
  have upTo : ∀ n (i : Tid), i.val = n → (Cleaned k' i ↔ Cleaned k i) := by
    intro n
    induction n using Nat.strong_induction_on with
    | _ n ih =>
        intro i here
        have touches : ∀ c t, Touches k' c t ↔ Touches k c t := by
          intro c t
          rw [Touches, Touches, Kernel.teOf, Kernel.teOf, threads]
        have earlier : ∀ t, (∀ c, c < i → Cleaned k' c → ¬Touches k' c t) ↔
            ∀ c, c < i → Cleaned k c → ¬Touches k c t := by
          intro t
          refine forall_congr' fun c => imp_congr_right fun before => ?_
          have less : c.val < n := here ▸ before
          rw [ih c.val less c rfl, touches]
        rw [Cleaned, Cleaned]
        simp only [threads, jiffies, earlier]
  exact upTo i.val i rfl

end Rounds

/-- A round can be run, and the idle thread comes out of it fit for the core. -/
structure Schedulable (k : Kernel) (t : Thread) : Prop where
  unlocked : ¬k.schedulerInfo.locked
  systemRunning : k.systemRunning
  startable : Startable k t
  awake : ¬t.sleepInProgress
  kept : ∀ c, Cleaned k c → t.te ≠ none → t.te = k.teOf c → t.wait4tid = c.toInt32
  owned : ∃ p process, Owned k t p process ∧ process.pml4PA ≠ 0 ∧
    ∀ c, Cleaned k c → k.teOf c ≠ some p

/-- The queue goes on to a thread that can be put on the core, or a round gives one. -/
def HasNext (k : Kernel) : Prop :=
  k.threadsCounter ≠ 0 ∧ ∃ head, k.lapic.currentq.bind k.threadList = some head ∧
    ((∃ next t, head.next = some next ∧ k.threadList next = some t ∧ Dispatchable k t) ∨
      (head.next = none ∧ ∃ t, Schedulable k t))

section Choosing

variable {k k' : Kernel} {tid next : Tid} {t t' head : Thread} {list : List Tid}

theorem settled_idle {n : Nat} : (settled k n INIT_TID t).tgid = t.tgid ∧
    (settled k n INIT_TID t).sleepInProgress = t.sleepInProgress := by
  have idle : (turned k INIT_TID t).tgid = t.tgid ∧
      (turned k INIT_TID t).sleepInProgress = t.sleepInProgress := by
    rw [turned, if_pos rfl]
    unfold Thread.asIdle Thread.doReady
    split <;> exact ⟨rfl, rfl⟩
  rw [settled]
  rcases @after_cases k (fun c => INIT_TID < c ∧ c.val < n ∧ Cleaned k c)
      (turned k INIT_TID t) with ⟨same, -⟩ | ⟨same, -⟩ | ⟨same, -⟩
  · rw [same]
    exact idle
  · rw [same]
    exact idle
  · rw [same]
    exact idle

/-- The idle thread after the round can be put on the core if no zombie has taken it
    or its process. -/
theorem idle_dispatchable_iff (start : Startable k t) (ended : Ended k k' list)
    (there : k'.threadList INIT_TID = some t') :
    (t'.valid → t'.state = .ready) ∧ (Dispatchable k' t' ↔ ¬t.sleepInProgress ∧
      ¬Taken k INIT_TID t ∧ ∃ p process, Owned k t p process ∧ process.pml4PA ≠ 0 ∧
        ∀ c, Cleaned k c → k.teOf c ≠ some p) := by
  rcases slot_of_ended ended start.there with ⟨u, found, same⟩
  rw [there] at found
  cases found
  have tgid : t'.tgid = t.tgid := by
    have outline : t'.outline.tgid = (settled k THREAD_COUNT_MAX INIT_TID t).outline.tgid := by
      rw [same]
    exact outline.trans settled_idle.1
  have sleeps : t'.sleepInProgress = t.sleepInProgress := by
    have outline : t'.outline.sleepInProgress =
        (settled k THREAD_COUNT_MAX INIT_TID t).outline.sleepInProgress := by rw [same]
    exact outline.trans settled_idle.2
  -- Its process survives the round if no thread that is cleaned belongs to it.
  have owned : (∃ p process, Owned k' t' p process ∧ process.pml4PA ≠ 0) ↔
      ∃ p process, Owned k t p process ∧ process.pml4PA ≠ 0 ∧
        ∀ c, Cleaned k c → k.teOf c ≠ some p := by
    constructor
    · rintro ⟨p, process, ⟨numbered, registered, valid, pid⟩, pml4⟩
      have spared : ∀ c, Cleaned k c → k.teOf c ≠ some p := by
        intro c cleaned te
        have dead := ended.gone c p process cleaned te registered
        rw [Process.valid, Bool.and_eq_true, decide_eq_true_eq] at valid
        exact dead valid.2
      rw [ended.kept p spared] at registered
      exact ⟨p, process, ⟨tgid ▸ numbered, registered, valid, pid.trans tgid⟩, pml4, spared⟩
    · rintro ⟨p, process, ⟨numbered, registered, valid, pid⟩, pml4, spared⟩
      rw [← ended.kept p spared] at registered
      exact ⟨p, process,
        ⟨tgid.symm ▸ numbered, registered, valid, pid.trans tgid.symm⟩, pml4⟩
  -- Taken with another thread's process, or left as it was.
  rcases settled_of_linked start.there (fun _ => start.valid) (Or.inl rfl) with
    ⟨taken, gone⟩ | ⟨spared, valid, ready⟩
  · rw [← outline_valid same] at gone
    refine ⟨fun valid => absurd valid gone, ?_⟩
    constructor
    · intro dispatchable
      exact absurd dispatchable.valid gone
    · rintro ⟨-, spared, -⟩
      exact absurd taken spared
  · rw [← outline_valid same] at valid
    rw [← outline_state same] at ready
    refine ⟨fun _ => ready, ?_⟩
    constructor
    · intro dispatchable
      exact ⟨sleeps ▸ dispatchable.awake, spared, owned.mp dispatchable.owned⟩
    · rintro ⟨awake, -, some_owner⟩
      exact ⟨valid, ready, sleeps.symm ▸ awake, owned.mpr some_owner⟩

theorem not_taken_iff : ¬Taken k INIT_TID t ↔
    ∀ c, Cleaned k c → t.te ≠ none → t.te = k.teOf c → t.wait4tid = c.toInt32 := by
  constructor
  · intro spared c cleaned some_te shares
    by_contra waits
    have behind : INIT_TID < c := by
      rw [Cleaned] at cleaned
      have other : c.val ≠ 0 := fun zero => cleaned.1 (Fin.ext zero)
      change 0 < c.val
      omega
    exact spared ⟨c, behind, cleaned, some_te, shares, waits⟩
  · rintro spared ⟨c, -, cleaned, some_te, shares, waits⟩
    exact waits (spared c cleaned some_te shares)

theorem dispatchable_congr (teList : k'.teList = k.teList) :
    Dispatchable k' t ↔ Dispatchable k t := by
  constructor
  · rintro ⟨valid, ready, awake, p, process, owned, pml4⟩
    exact ⟨valid, ready, awake, p, process, (owned_congr teList rfl).mp owned, pml4⟩
  · rintro ⟨valid, ready, awake, p, process, owned, pml4⟩
    exact ⟨valid, ready, awake, p, process, (owned_congr teList rfl).mpr owned, pml4⟩

/-- What a round may do to the idle thread is seen in the tables alone. -/
theorem paused_fit (threads : k'.threadList = k.threadList) (jiffies : k'.jiffies = k.jiffies)
    (teList : k'.teList = k.teList) :
    (¬t.sleepInProgress ∧ ¬Taken k' INIT_TID t ∧ ∃ p process, Owned k' t p process ∧
      process.pml4PA ≠ 0 ∧ ∀ c, Cleaned k' c → k'.teOf c ≠ some p) ↔
    (¬t.sleepInProgress ∧ ¬Taken k INIT_TID t ∧ ∃ p process, Owned k t p process ∧
      process.pml4PA ≠ 0 ∧ ∀ c, Cleaned k c → k.teOf c ≠ some p) := by
  have zombies : ∀ c, Cleaned k' c ↔ Cleaned k c := fun c => cleaned_congr threads jiffies
  have teOf : ∀ c, k'.teOf c = k.teOf c := fun c => by rw [Kernel.teOf, Kernel.teOf, threads]
  have owned : ∀ p process, Owned k' t p process ↔ Owned k t p process := fun p process =>
    owned_congr teList rfl
  simp only [Taken, zombies, teOf, owned]

theorem meets_checkFirst {post : Tid × Kernel → Prop} (idleThread : k.idleThread = some tid)
    (there : k.threadList tid = some t) :
    Meets (checkFirst k tid) post ↔
      t.magic = 1234 ∧ post (tid, { k with systemRunning := true }) := by
  unfold checkFirst
  split
  · next absent =>
      rw [idleThread] at absent
      cases absent
  · next idle isIdle =>
      rw [idleThread] at isIdle
      cases isIdle
      rw [there]
      simp

/-- The round as the scheduler calls it, and the validation of what it gives. -/
theorem round_meets_iff (counter : k.threadsCounter ≠ 0) (rr : k.schedulerInfo.policy = .rr) :
    Meets (scheduler k >>= fun out => dispatchCurrent (out.2.setCurrentTid out.1.toInt32))
      (fun out => Proper out.2 out.1) ↔
    Counted k ∧ k.systemRunning ∧ ∃ t, Startable k t ∧ ¬t.sleepInProgress ∧
      ¬Taken k INIT_TID t ∧ ∃ p process, Owned k t p process ∧ process.pml4PA ≠ 0 ∧
        ∀ c, Cleaned k c → k.teOf c ≠ some p := by
  by_cases running : k.systemRunning
  · by_cases initialized : k.schedulerInfo.initialized
    · -- The queue is built with the system stopped, and starts with the idle thread.
      let paused : Kernel := { k with systemRunning := false }
      have calls : scheduler k = schedulerRr paused >>= fun out => checkFirst out.2 out.1 := by
        simp only [scheduler]
        rw [running, if_neg (by simp), if_neg counter, initialized, if_neg (by simp), rr]
      have same : ∀ t, Startable paused t ↔ Startable k t := by
        intro t
        constructor
        · rintro ⟨isInitialized, policy, idleThread, initThread, there, valid⟩
          exact ⟨isInitialized, policy, idleThread, initThread, there, valid⟩
        · rintro ⟨isInitialized, policy, idleThread, initThread, there, valid⟩
          exact ⟨isInitialized, policy, idleThread, initThread, there, valid⟩
      rw [calls, meets_bind, meets_bind]
      by_cases startable : ∃ t, Startable k t
      · rcases startable with ⟨t, start⟩
        rcases schedulerRr_ok ((same t).mpr start) with ⟨k', list, done, ended⟩
        have settings := schedulerRr_settings done
        have idleThread : k'.idleThread = some INIT_TID :=
          (congrArg (fun s => s.2.1) settings).trans start.idleThread
        have counted : Counted k' ↔ Counted k := by
          have block : k'.dispatchCountBlock = k.dispatchCountBlock :=
            congrArg (fun s => s.2.2.1) settings
          rw [Counted, Counted, block]
        rcases slot_of_ended ended start.there with ⟨t', there, -⟩
        rcases idle_dispatchable_iff ((same t).mpr start) ended there with ⟨ready, dispatchable⟩
        rw [@paused_fit k paused t rfl rfl rfl] at dispatchable
        let after : Kernel :=
          { k' with systemRunning := true }.setCurrentTid INIT_TID.toInt32
        have dispatch := @dispatchCurrent_iff after INIT_TID t' toTid_toInt32 there ready
        have moved : Dispatchable after t' ↔ Dispatchable k' t' := dispatchable_congr rfl
        rw [moved, show Counted after ↔ Counted k from counted, dispatchable] at dispatch
        rw [done, meets_ok, meets_checkFirst idleThread there]
        constructor
        · rintro ⟨-, proper⟩
          rcases dispatch.mp proper with ⟨isCounted, fit⟩
          exact ⟨isCounted, running, t, start, fit⟩
        · rintro ⟨isCounted, -, u, start', fit⟩
          -- There is one idle thread.
          have unique : u = t := by
            have twice := start'.there
            rw [start.there] at twice
            exact (Option.some.inj twice).symm
          subst unique
          have magic : t'.magic = 1234 := valid_magic (dispatchable.mpr fit).valid
          exact ⟨magic, dispatch.mpr ⟨isCounted, fit⟩⟩
      · constructor
        · rintro ⟨⟨tid, k'⟩, done, -⟩
          rcases startable_of_done done with ⟨t, start⟩
          exact absurd ⟨t, (same t).mp start⟩ startable
        · rintro ⟨-, -, t, start, -⟩
          exact absurd ⟨t, start⟩ startable
    · constructor
      · intro meets
        simp [scheduler, running, initialized, counter] at meets
      · rintro ⟨-, -, t, start, -⟩
        exact absurd start.initialized initialized
  · constructor
    · intro meets
      simp [scheduler, running] at meets
    · rintro ⟨-, isRunning, -⟩
      exact absurd isRunning running

theorem nextFromQueue_iff :
    Meets (nextFromQueue k next) (fun out => Proper out.2 out.1) ↔
      Counted k ∧ ∃ t, k.threadList next = some t ∧ Dispatchable k t := by
  unfold nextFromQueue
  cases there : k.threadList next with
  | none => simp
  | some t =>
      simp only [meets_ite, meets_error, and_false, or_false, Option.some.injEq,
        exists_eq_left']
      have dispatch := @dispatchCurrent_iff (k.setCurrentTid next.toInt32) next t
        toTid_toInt32 there
      have moved : Dispatchable (k.setCurrentTid next.toInt32) t ↔ Dispatchable k t :=
        dispatchable_congr rfl
      rw [moved] at dispatch
      constructor
      · rintro ⟨⟨-, ready⟩, proper⟩
        exact (dispatch fun _ => ready).mp proper
      · rintro ⟨counted, fit⟩
        exact ⟨⟨fit.valid, fit.ready⟩, (dispatch fun _ => fit.ready).mpr ⟨counted, fit⟩⟩

theorem newRound_iff (counter : k.threadsCounter ≠ 0) (rr : k.schedulerInfo.policy = .rr) :
    Meets (psScheduler k >>= fun out => dispatchCurrent (out.2.setCurrentTid out.1))
      (fun out => Proper out.2 out.1) ↔ Counted k ∧ ∃ t, Schedulable k t := by
  unfold psScheduler
  by_cases locked : k.schedulerInfo.locked
  · have nowhere : toTid (k.setCurrentTid (-1)).lapic.currentTid = none := by
      have negative : toTid (-1) = none := by decide
      exact negative
    rw [if_pos locked, meets_bind, meets_ok, dispatchCurrent, nowhere]
    constructor
    · simp
    · rintro ⟨-, t, fit⟩
      exact absurd locked fit.unlocked
  · have round := round_meets_iff counter rr
    rw [meets_bind] at round
    rw [if_neg locked, if_neg counter, meets_bind, meets_map, round]
    constructor
    · rintro ⟨counted, running, t, start, awake, kept, owned⟩
      exact ⟨counted, t, locked, running, start, awake, not_taken_iff.mp kept, owned⟩
    · rintro ⟨counted, t, -, running, start, awake, kept, owned⟩
      exact ⟨counted, running, t, start, awake, not_taken_iff.mpr kept, owned⟩

theorem zeroGravity_iff (rr : k.schedulerInfo.policy = .rr) :
    Meets (zeroGravity k) (fun out => Proper out.2 out.1) ↔ Counted k ∧ HasNext k := by
  unfold zeroGravity HasNext
  by_cases counter : k.threadsCounter = 0
  · rw [if_pos counter]
    constructor
    · simp
    · rintro ⟨-, some_threads, -⟩
      exact absurd counter some_threads
  · rw [if_neg counter]
    cases isHead : k.lapic.currentq.bind k.threadList with
    | none => simp
    | some head =>
        simp only [Option.some.injEq, exists_eq_left']
        cases behind : head.next with
        | some next =>
            simp only [reduceCtorEq, false_and, or_false]
            rw [nextFromQueue_iff]
            have moved : ∀ t, Dispatchable { k with
                lapic := { k.lapic with currentq := some next } } t ↔ Dispatchable k t :=
              fun t => dispatchable_congr rfl
            simp only [moved]
            constructor
            · rintro ⟨counted, t, there, fit⟩
              exact ⟨counted, counter, next, t, rfl, there, fit⟩
            · rintro ⟨counted, -, u, t, same, there, fit⟩
              cases same
              exact ⟨counted, t, there, fit⟩
        | none =>
            rw [newRound_iff counter rr]
            constructor
            · rintro ⟨counted, fit⟩
              exact ⟨counted, counter, Or.inr ⟨rfl, fit⟩⟩
            · rintro ⟨counted, -, ⟨next, t, absent, -⟩ | ⟨-, fit⟩⟩
              · cases absent
              · exact ⟨counted, fit⟩

end Choosing

end Gramado.Ke.Sched
