/-
The tables of threads and processes, and the state changes of schedi.c. A thread
is known by its tid, which is its place in threadList, and a process by its pid,
its place in teList: a structure is registered in that place when it is created,
and stays there. A field that is only compared with TRUE is a Bool.
-/
import Gramado.Ke
import Mathlib.Data.Fin.Basic

namespace Gramado.Ke.Sched

abbrev THREAD_COUNT_MAX : Nat := 512
def PROCESS_COUNT_MAX : Nat := 512
def PRIORITY_P1 : UInt64 := 1
def PRIORITY_P2 : UInt64 := 2
def PRIORITY_P3 : UInt64 := 3
def PRIORITY_P4 : UInt64 := 4
def PRIORITY_P5 : UInt64 := 5
def PRIORITY_P6 : UInt64 := 6
def PRIORITY_MIN : UInt64 := PRIORITY_P1
def PRIORITY_MAX : UInt64 := PRIORITY_P6
def PRIORITY_SYSTEM_THRESHOLD : UInt64 := PRIORITY_P4
def CONFIG_QUANTUM_MULTIPLIER : UInt64 := 2
def QUANTUM_Q1 : UInt64 := CONFIG_QUANTUM_MULTIPLIER * 1
def QUANTUM_Q2 : UInt64 := CONFIG_QUANTUM_MULTIPLIER * 2
def QUANTUM_Q3 : UInt64 := CONFIG_QUANTUM_MULTIPLIER * 3
def QUANTUM_Q4 : UInt64 := CONFIG_QUANTUM_MULTIPLIER * 4
def QUANTUM_Q5 : UInt64 := CONFIG_QUANTUM_MULTIPLIER * 5
def QUANTUM_Q6 : UInt64 := CONFIG_QUANTUM_MULTIPLIER * 6
def QUANTUM_MIN : UInt64 := QUANTUM_Q1
def QUANTUM_MAX : UInt64 := QUANTUM_Q6
def QUANTUM_NORMAL_THRESHOLD : UInt64 := QUANTUM_Q1
def QUANTUM_NORMAL_BALANCED : UInt64 := QUANTUM_Q2
def IM_RAW_INPUT : UInt32 := 1
def IM_MESSAGE_INPUT : UInt32 := 2

instance : NeZero THREAD_COUNT_MAX := ⟨by decide⟩

abbrev Tid := Fin THREAD_COUNT_MAX

def INIT_TID : Tid := ⟨0, by decide⟩

/-- The `int` that a tid is compared with. -/
def Tid.toInt32 (tid : Tid) : Int32 := Int32.ofNat tid.val

inductive ThreadState where
  | created
  | initialized
  | standby
  | zombie
  | dead
  | ready
  | running
  | waiting
  | blocked
  | waitingForReuse
  deriving DecidableEq, Inhabited, Repr

inductive ProcessState where
  | created
  | initialized
  | running
  | blocked
  | terminated
  | inMemory
  | outOfMemory
  | waitingForReuse
  deriving DecidableEq, Inhabited, Repr

inductive WaitReason where
  | null
  | wait4pid
  | wait4tid
  | pexit
  | texit
  | semaphore
  | mutex
  | condition
  | rwlock
  | blocked
  | yield
  | preempted
  | priorityBoost
  | io
  | timer
  | signal
  | interrupt
  | loop
  | test
  | breakpoint
  | trace
  deriving DecidableEq, Inhabited, Repr

/-- How long the thread has been in its states, in ticks and in milliseconds. -/
structure Counters where
  standby : UInt64
  standbyMs : UInt64
  running : UInt64
  runningMs : UInt64
  ready : UInt64
  readyMs : UInt64
  waiting : UInt64
  waitingMs : UInt64
  blocked : UInt64
  blockedMs : UInt64
  deriving DecidableEq, Inhabited, Repr

/-- What the scheduler and the task switcher use of `struct thread_d`. -/
structure Thread where
  availableForReuse : Bool
  used : Bool
  magic : Int32
  state : ThreadState
  te : Option Nat
  tgid : Int32
  next : Option Tid
  basePriority : UInt64
  priority : UInt64
  quantum : UInt64
  credits : UInt64
  inputMode : UInt32
  waitReason : WaitReason
  wait4tid : Int32
  wait4tidPending : Bool
  hasEventFromDs : Bool
  blockInProgress : Bool
  exitInProgress : Bool
  sleepInProgress : Bool
  sleepPhase : Int32
  desiredSleepMs : UInt64
  readyJiffy : UInt64
  waitingJiffy : UInt64
  blockedJiffy : UInt64
  zombieJiffy : UInt64
  wakeJiffy : UInt64
  alarm : UInt64
  counters : Counters
  scheduledCount : UInt64
  step : UInt64
  totalTimeMs : UInt64
  preempted : Bool
  isPreemptable : Bool
  endQuantumRequested : Bool
  callbackInProgress : Bool
  saved : Bool
  deriving DecidableEq, Inhabited, Repr

/-- What they use of `struct te_d`. `flower` is the control thread. -/
structure Process where
  availableForReuse : Bool
  used : Bool
  magic : Int32
  pid : Int32
  state : ProcessState
  flower : Option Tid
  pml4PA : UInt64
  deriving DecidableEq, Inhabited, Repr

structure DisplayServer where
  initialized : Bool
  tid : Int32
  deriving DecidableEq, Inhabited, Repr

/-- `lapic_info[0]`. -/
structure Lapic where
  p1q : Option Tid
  p2q : Option Tid
  p3q : Option Tid
  p4q : Option Tid
  p5q : Option Tid
  p6q : Option Tid
  currentq : Option Tid
  currentTid : Int32
  currentPid : Int32
  deriving DecidableEq, Inhabited, Repr

inductive Policy where
  | rr
  | priorityInterleaving
  | other
  deriving DecidableEq, Inhabited, Repr

structure SchedulerInfo where
  initialized : Bool
  locked : Bool
  policy : Policy
  rrRoundCounter : UInt64
  rrReadyThreadsInRound : Nat
  stage : UInt64
  maxStage : UInt64
  deriving DecidableEq, Inhabited, Repr

/-- `task_switch_status`. -/
inductive TaskSwitch where
  | locked
  | unlocked
  | other
  deriving DecidableEq, Inhabited, Repr

/-- `dispatchCountBlock` is the magic number of the block, if there is one, and
    `currentThread` the one that the dispatcher writes down. -/
structure Kernel where
  threadList : Tid → Option Thread
  teList : Nat → Option Process
  initThread : Option Tid
  idleThread : Option Tid
  foregroundThread : Int32
  displayServer : DisplayServer
  lapic : Lapic
  schedulerInfo : SchedulerInfo
  systemRunning : Bool
  stageSelectionCount : Nat → UInt64
  threadsCounter : UInt64
  jiffies : UInt64
  taskSwitch : TaskSwitch
  dispatchCountBlock : Option Int32
  currentThread : Option Tid
  deriving Inhabited

def Thread.valid (t : Thread) : Bool :=
  t.used && t.magic = 1234

def Process.valid (p : Process) : Bool :=
  p.used && p.magic = 1234

def Kernel.set (k : Kernel) (tid : Tid) (t : Thread) : Kernel :=
  { k with threadList := fun i => if i = tid then some t else k.threadList i }

/-- A change of the structure behind a pointer. -/
def Kernel.modify (k : Kernel) (tid : Tid) (change : Thread → Thread) : Kernel :=
  match k.threadList tid with
  | none => k
  | some t => k.set tid (change t)

/-- What `do_thread_ready` and its like do, for the thread's own tid. -/
def Thread.doReady (t : Thread) (jiffies : UInt64) : Thread :=
  if t.valid then { t with readyJiffy := jiffies, state := .ready } else t

def Thread.doBlocked (t : Thread) (jiffies : UInt64) : Thread :=
  if t.valid then { t with blockedJiffy := jiffies, state := .blocked } else t

def setForegroundThread (k : Kernel) (tid : Tid) : Kernel :=
  if tid.toInt32 = k.foregroundThread then
    k
  else
    match k.threadList tid with
    | none => k
    | some t => if t.valid then { k with foregroundThread := tid.toInt32 } else k

/-- All but the tables and the two thread ids that a change of a thread may touch. -/
def Kernel.frame (k : Kernel) : Kernel :=
  { k with
    threadList := fun _ => none
    teList := fun _ => none
    foregroundThread := 0
    displayServer := default }

section Frames

variable {k k' : Kernel}

theorem frame_initThread (same : k'.frame = k.frame) : k'.initThread = k.initThread := by
  have equal : k'.frame.initThread = k.frame.initThread := by rw [same]
  exact equal

theorem frame_idleThread (same : k'.frame = k.frame) : k'.idleThread = k.idleThread := by
  have equal : k'.frame.idleThread = k.frame.idleThread := by rw [same]
  exact equal

theorem frame_lapic (same : k'.frame = k.frame) : k'.lapic = k.lapic := by
  have equal : k'.frame.lapic = k.frame.lapic := by rw [same]
  exact equal

theorem frame_schedulerInfo (same : k'.frame = k.frame) : k'.schedulerInfo = k.schedulerInfo := by
  have equal : k'.frame.schedulerInfo = k.frame.schedulerInfo := by rw [same]
  exact equal

theorem frame_jiffies (same : k'.frame = k.frame) : k'.jiffies = k.jiffies := by
  have equal : k'.frame.jiffies = k.frame.jiffies := by rw [same]
  exact equal

end Frames

section Tables

variable {k : Kernel} {i j : Tid} {t u : Thread} {change : Thread → Thread}

theorem valid_magic (valid : t.valid) : t.magic = 1234 := by
  rw [Thread.valid, Bool.and_eq_true, decide_eq_true_eq] at valid
  exact valid.2

@[simp] theorem set_self : (k.set i t).threadList i = some t := if_pos rfl

theorem set_other (apart : j ≠ i) : (k.set i t).threadList j = k.threadList j := if_neg apart

theorem set_set : (k.set i t).set i u = k.set i u := by
  have equal : ((k.set i t).set i u).threadList = (k.set i u).threadList := by
    funext j
    by_cases same : j = i
    · rw [same, set_self, set_self]
    · rw [set_other same, set_other same, set_other same]
  change { k with threadList := ((k.set i t).set i u).threadList } = k.set i u
  rw [equal]
  rfl

theorem modify_some (there : k.threadList i = some t) : k.modify i change = k.set i (change t) := by
  rw [Kernel.modify, there]

theorem modify_other (apart : j ≠ i) : (k.modify i change).threadList j = k.threadList j := by
  unfold Kernel.modify
  split
  · rfl
  · exact set_other apart

theorem modify_self : (k.modify i change).threadList i = (k.threadList i).map change := by
  cases there : k.threadList i with
  | none => rw [Kernel.modify, there, there]; rfl
  | some t => rw [modify_some there, set_self]; rfl

@[simp] theorem modify_teList : (k.modify i change).teList = k.teList := by
  unfold Kernel.modify
  split <;> rfl

theorem modify_map {α : Type} {see : Thread → α} (same : ∀ t, see (change t) = see t) :
    ((k.modify i change).threadList j).map see = (k.threadList j).map see := by
  by_cases here : j = i
  · rw [here, modify_self, Option.map_map]
    exact congrArg (fun f => (k.threadList i).map f) (funext same)
  · rw [modify_other here]

theorem setForegroundThread_threadList :
    (setForegroundThread k i).threadList = k.threadList := by
  unfold setForegroundThread
  split
  · rfl
  · split
    · rfl
    · split <;> rfl

theorem setForegroundThread_teList : (setForegroundThread k i).teList = k.teList := by
  unfold setForegroundThread
  split
  · rfl
  · split
    · rfl
    · split <;> rfl

@[simp] theorem set_frame : (k.set i t).frame = k.frame := rfl

@[simp] theorem modify_frame : (k.modify i change).frame = k.frame := by
  unfold Kernel.modify
  split <;> rfl

@[simp] theorem setForegroundThread_frame : (setForegroundThread k i).frame = k.frame := by
  unfold setForegroundThread
  split
  · rfl
  · split
    · rfl
    · split <;> rfl

end Tables

end Gramado.Ke.Sched
