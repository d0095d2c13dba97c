/-
The task switcher of ts.c with the dispatcher, one call a timer tick. The switcher
keeps its target in a local pointer, and the dispatcher looks the thread up again
by the current tid. The context is saved and restored elsewhere, and the jump of a
spawn to ring 3 is left out; `die()` is given as a panic with the text before it.
-/
import Gramado.Ke.Sched

namespace Gramado.Ke.Sched

def JIFFY_FREQ : UInt64 := 1000

inductive Outcome where
  | kept (flags : UInt64)
  | spawned (tid : Tid)
  | dispatched (tid : Tid) (found : Thread)
  deriving DecidableEq, Repr

/-- The place that an `int` names, if it is in bounds. -/
def place (bound : Nat) (n : Int32) : Option Nat :=
  if 0 ≤ n.toInt ∧ n.toInt < bound then some n.toInt.toNat else none

def toTid (n : Int32) : Option Tid :=
  if inside : 0 ≤ n.toInt ∧ n.toInt.toNat < THREAD_COUNT_MAX then
    some ⟨n.toInt.toNat, inside.2⟩
  else
    none

def incrementDispatcherCount (k : Kernel) : Except Stop Unit :=
  match k.dispatchCountBlock with
  | none => .error (.panic "IncrementDispatcherCount:\n")
  | some magic =>
      if magic ≠ 1234 then .error (.panic "IncrementDispatcherCount: validation\n") else .ok ()

def Kernel.setCurrentProcess (k : Kernel) (pid : Int32) : Kernel :=
  { k with lapic := { k.lapic with currentPid := pid } }

def Kernel.setCurrentTid (k : Kernel) (tid : Int32) : Kernel :=
  { k with lapic := { k.lapic with currentTid := tid } }

def setCurrentThread (k : Kernel) (tid : Tid) : Kernel :=
  match k.threadList tid with
  | none => k
  | some t => if t.valid then k.setCurrentTid tid.toInt32 else k

def currentThread (k : Kernel) : Except Stop (Tid × Thread) :=
  match toTid k.lapic.currentTid with
  | none => .error (.panic "ts: CurrentTID\n")
  | some tid =>
      match k.threadList tid with
      | none => .error (.panic "ts: CurrentThread\n")
      | some t =>
          if !t.valid then .error (.panic "ts: CurrentThread validation\n") else .ok (tid, t)

def currentProcess (k : Kernel) (t : Thread) : Except Stop Kernel :=
  match place PROCESS_COUNT_MAX t.tgid with
  | none => .error (.panic "ts: te_id\n")
  | some p =>
      match k.teList p with
      | none => .error (.panic "ts: CurrentProcess\n")
      | some process =>
          if !process.valid then
            .error (.panic "ts: CurrentProcess validation\n")
          else if process.pid ≠ t.tgid then
            .error (.panic "ts: CurrentProcess->pid != te_id\n")
          else
            .ok (k.setCurrentProcess t.tgid)

def Thread.tick (t : Thread) : Thread :=
  let running := t.counters.running + 1
  { t with
    step := t.step + 1
    totalTimeMs := (t.step + 1) * 1000 / JIFFY_FREQ
    counters := { t.counters with running, runningMs := running * 1000 / JIFFY_FREQ } }

def Thread.save (t : Thread) : Thread :=
  let t := { t with saved := true }
  if t.endQuantumRequested then
    { t with endQuantumRequested := false, counters := { t.counters with running := t.quantum } }
  else
    t

def Thread.expire (t : Thread) : Thread :=
  if t.state = .running then
    { t with state := .ready, counters := { t.counters with ready := 0 }, preempted := true }
  else
    t

/-- A sleep has been asked for, and the thread does not sleep yet. -/
def Thread.sleepAsked (t : Thread) : Bool :=
  t.sleepInProgress && t.sleepPhase = 1

def Thread.sleep (t : Thread) (jiffies : UInt64) : Thread :=
  { t with
    sleepPhase := 2
    counters := { t.counters with running := t.quantum }
    state := .waiting
    waitingJiffy := jiffies
    wakeJiffy := jiffies + t.desiredSleepMs }

def Thread.clean (t : Thread) : Thread :=
  { t with
    counters := default
    basePriority := min t.basePriority PRIORITY_MAX
    priority := min t.priority PRIORITY_MAX
    quantum := min t.quantum QUANTUM_MAX }

def Thread.run (t : Thread) : Thread :=
  { t with
    state := .running
    counters := { t.counters with
      running := 0, runningMs := 0, ready := 0, readyMs := 0
      waiting := 0, waitingMs := 0, blocked := 0, blockedMs := 0 }
    basePriority := max t.basePriority PRIORITY_MIN
    priority := max t.priority PRIORITY_MIN
    quantum := max t.quantum QUANTUM_MIN
    saved := false }

def Thread.spawn (t : Thread) (init : Option Tid) : Thread :=
  { t with
    saved := false
    sleepInProgress := false
    exitInProgress := false
    counters := default
    step := 0
    totalTimeMs := 0
    next := init
    state := .running }

def keep (k : Kernel) (flags : UInt64) : Except Stop (Outcome × Kernel) := do
  incrementDispatcherCount k
  return (.kept flags, k)

def dispatcher (k : Kernel) : Except Stop (Tid × Thread × Kernel) :=
  match toTid k.lapic.currentTid with
  | none => .error (.panic "dispatcher: TargetTID\n")
  | some tid =>
      match k.threadList tid with
      | none => .error (.panic "dispatcher: TargetThread\n")
      | some t =>
          if t.magic ≠ 1234 then
            .error (.panic "dispatcher: magic\n")
          else if t.state ≠ .ready then
            .error (.panic "dispatcher: state\n")
          else
            .ok (tid, t, { k.set tid t.run with currentThread := some tid })

/-- The switcher turns to the idle thread; the current tid stays as it is. -/
def fallBack (k : Kernel) : Except Stop (Tid × Kernel) :=
  match k.initThread with
  | none => .error (.fault "InitThread")
  | some init => .ok (init, k.modify init fun t => { t with state := .ready, next := none })

def readyTarget (k : Kernel) (target : Tid) (t : Thread) : Except Stop (Tid × Kernel) :=
  if t.state ≠ .ready then fallBack k else .ok (target, k)

def wakefulTarget (k : Kernel) (target : Tid) : Except Stop (Tid × Kernel) :=
  match k.threadList target with
  | none => .error (.fault "TargetThread")
  | some t =>
      if t.sleepInProgress then
        if k.initThread = some target then
          .error (.panic "__thread_switch: Init thread [idle] is sleeping #test\n")
        else
          fallBack k
      else
        .ok (target, k)

/-- The process of the thread that the switcher takes for the current one. -/
def targetProcess (k : Kernel) (target : Tid) : Except Stop Kernel :=
  match k.threadList target with
  | none => .error (.fault "TargetThread")
  | some t =>
      match place THREAD_COUNT_MAX t.tgid with
      | none => .error (.panic "ts: targetthread_OwnerPID ERROR\n")
      | some p =>
          match k.teList p with
          | none => .error (.panic "ts: TargetProcess struct fail\n")
          | some process =>
              if !process.valid then
                .error (.panic "ts: TargetProcess validation\n")
              else if process.pid ≠ t.tgid then
                .error (.panic "ts: TargetProcess->pid != targetthread_OwnerPID\n")
              else if process.pml4PA = 0 then
                .error (.panic "ts: Process pml4 fail\n")
              else
                .ok (k.setCurrentProcess process.pid)

def dispatchTarget (k : Kernel) (target : Tid) : Except Stop (Outcome × Kernel) := do
  let k := k.modify target Thread.clean
  incrementDispatcherCount k
  let (tid, found, k) ← dispatcher k
  let k ← targetProcess k target
  return (.dispatched tid found, k)

def dispatchCurrent (k : Kernel) : Except Stop (Outcome × Kernel) :=
  match toTid k.lapic.currentTid with
  | none => .error (.panic "ts-dispatch_current: lapic_info[__lapic_info_id].current_tid\n")
  | some tid =>
      match k.threadList tid with
      | none => .error (.panic "ts-dispatch_current: TargetThread\n")
      | some t =>
          if !t.valid then
            .error (.panic "ts-dispatch_current: validation\n")
          else do
            let (target, k) ← readyTarget k tid t
            let (target, k) ← wakefulTarget k target
            dispatchTarget k target

/-- The first thread of a round has to be the idle thread. -/
def checkFirst (k : Kernel) (first : Tid) : Except Stop (Tid × Kernel) :=
  match k.idleThread with
  | none => .error (.panic "scheduler: Idle\n")
  | some idle =>
      match k.threadList idle with
      | none => .error (.fault "Idle")
      | some t =>
          if t.magic ≠ 1234 then
            .error (.panic "scheduler: Idle validation\n")
          else if first ≠ idle then
            .error (.panic "scheduler: first_tid != Idle->tid\n")
          else
            .ok (first, { k with systemRunning := true })

def scheduler (k : Kernel) : Except Stop (Tid × Kernel) :=
  if !k.systemRunning then
    .error (.panic "scheduler: system_state\n")
  else if k.threadsCounter = 0 then
    .error (.panic "scheduler: UPProcessorBlock.threads_counter == 0\n")
  else if !k.schedulerInfo.initialized then
    .error (.panic "scheduler: SchedulerInfo.initialized\n")
  else do
    let k := { k with systemRunning := false }
    let (first, k) ←
      match k.schedulerInfo.policy with
      | .rr => schedulerRr k
      | .priorityInterleaving => schedulerPriorityInterleaving k
      | .other => .error (.panic "scheduler: Invalid policy\n")
    checkFirst k first

def psScheduler (k : Kernel) : Except Stop (Int32 × Kernel) :=
  if k.schedulerInfo.locked then
    .ok (-1, k)
  else if k.threadsCounter = 0 then
    .error (.panic "psScheduler: No threads\n")
  else
    (scheduler k).map fun out => (out.1.toInt32, out.2)

def nextFromQueue (k : Kernel) (next : Tid) : Except Stop (Outcome × Kernel) :=
  match k.threadList next with
  | none => .error (.fault "currentq")
  | some t =>
      if t.valid ∧ t.state = .ready then
        dispatchCurrent (k.setCurrentTid next.toInt32)
      else
        .error (.panic "ts: Unexpected error\n")

/-- The thread behind the head of the queue, or the first of a new round. -/
def zeroGravity (k : Kernel) : Except Stop (Outcome × Kernel) :=
  if k.threadsCounter = 0 then
    .error (.panic "ts: No threads\n")
  else
    match k.lapic.currentq.bind k.threadList with
    | none => .error (.fault "currentq")
    | some head =>
        match head.next with
        | some next =>
            nextFromQueue { k with lapic := { k.lapic with currentq := some next } } next
        | none => do
            let (tid, k) ← psScheduler k
            dispatchCurrent (k.setCurrentTid tid)

def Kernel.inStandby (k : Kernel) (i : Tid) : Bool :=
  match k.threadList i with
  | none => false
  | some t => t.valid && t.state = .standby && k.initThread ≠ some i

def checkForStandby (k : Kernel) : Option Tid :=
  (List.finRange THREAD_COUNT_MAX).find? k.inStandby

def startProcess (k : Kernel) (p : Nat) : Kernel :=
  { k with
    teList := fun q =>
      if q = p then
        (k.teList p).map fun process =>
          if process.magic = 1234 then { process with state := .running } else process
      else
        k.teList q }

/-- The first run of a thread unlocks the switcher and the scheduler. -/
def startThread (k : Kernel) (tid : Tid) (t : Thread) (p : Nat) : Kernel :=
  let k := k.set tid (t.spawn k.initThread)
  let k := { k with
    taskSwitch := .unlocked
    schedulerInfo := { k.schedulerInfo with locked := false } }
  setCurrentThread (startProcess (k.setCurrentProcess t.tgid) p) tid

def spawnThread (k : Kernel) (tid : Tid) : Except Stop (Outcome × Kernel) :=
  match k.threadList tid with
  | none => .error (.panic "__spawn_thread_by_tid_imp: target_thread\n")
  | some t =>
      if !t.valid then
        .error (.panic "__spawn_thread_by_tid_imp: target_thread validation\n")
      else if t.state ≠ .standby then
        .error (.panic "__spawn_thread_by_tid_imp: not in Standby\n")
      else if t.saved then
        .error (.panic "__spawn_thread_by_tid_imp: Saved\n")
      else if t.te = none then
        .error (.panic "__spawn_thread_by_tid_imp: target_thread->te\n")
      else
        match place PROCESS_COUNT_MAX t.tgid with
        | none => .error (.panic "__spawn_thread_by_tid_imp: cur_teid\n")
        | some p => do
            incrementDispatcherCount (startThread k tid t p)
            return (.spawned tid, startThread k tid t p)

/-- A thread in standby is started, if there is one, and if not the current thread
    goes to sleep where it has asked for it. -/
def afterQuantum (k : Kernel) (current : Tid) (t : Thread) : Except Stop (Outcome × Kernel) :=
  match checkForStandby k with
  | some tid => spawnThread (setCurrentThread k tid) tid
  | none => zeroGravity (if t.sleepAsked then k.set current (t.sleep k.jiffies) else k)

def finishExecuting (k : Kernel) (current : Tid) (t : Thread) : Except Stop (Outcome × Kernel) :=
  afterQuantum (k.set current t.expire) current t.expire

def switchSaved (k : Kernel) (current : Tid) (t : Thread) : Except Stop (Outcome × Kernel) :=
  if !t.isPreemptable then
    keep k 0x80
  else if t.counters.running < t.quantum then
    if t.sleepAsked then
      zeroGravity (k.set current (t.sleep k.jiffies))
    else
      keep k 0x80
  else
    finishExecuting k current t

def switchCurrent (k : Kernel) (current : Tid) (t : Thread) : Except Stop (Outcome × Kernel) :=
  match k.taskSwitch with
  | .locked => keep k 0
  | .other => .error (.panic "ts: task_switch_status != UNLOCKED\n")
  | .unlocked =>
      if t.callbackInProgress then
        .error (.panic "ts: Cant save context. Callback in progress\n")
      else
        switchSaved (k.set current t.save) current t.save

def threadSwitch (k : Kernel) : Except Stop (Outcome × Kernel) := do
  let (current, t) ← currentThread k
  let k ← currentProcess k t
  switchCurrent (k.set current t.tick) current t.tick

end Gramado.Ke.Sched
