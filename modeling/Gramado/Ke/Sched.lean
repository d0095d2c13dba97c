/-
The two schedulers of sched.c. Each round walks the table once, from the thread
1 on: it delivers what is pending to a thread and links the thread, if it is
ready, behind the last one.
-/
import Gramado.Ke.Zombie

namespace Gramado.Ke.Sched

/-- What a round does with a thread when its turn comes. -/
inductive Turn where
  | passed
  | exited
  | cleaned
  | linked
  deriving DecidableEq, Repr

/-- The waits that an event from the display server ends. -/
def WaitReason.wakeable : WaitReason → Bool
  | .yield => true
  | .preempted => true
  | .priorityBoost => true
  | .blocked => true
  | .loop => true
  | _ => false

def Thread.deliver (t : Thread) (jiffies : UInt64) : Thread :=
  if (t.state = .waiting ∨ t.state = .blocked) ∧ t.waitReason.wakeable then
    { t.doReady jiffies with waitReason := .null, hasEventFromDs := false }
  else
    { t with hasEventFromDs := false }

def Thread.block (t : Thread) (jiffies : UInt64) : Thread :=
  { t.doBlocked jiffies with waitReason := .loop, blockInProgress := false }

def Thread.exit (t : Thread) : Thread :=
  { t with state := .zombie, exitInProgress := false }

def Thread.checkAlarm (t : Thread) (jiffies : UInt64) : Thread :=
  if t.valid ∧ t.state = .waiting ∧ jiffies > t.alarm then { t with alarm := 0 } else t

def Thread.checkSleep (t : Thread) (jiffies : UInt64) : Thread :=
  if t.sleepInProgress ∧ jiffies ≥ t.wakeJiffy ∧ t.sleepPhase = 2 then
    { t.doReady jiffies with sleepInProgress := false, sleepPhase := 0, desiredSleepMs := 0 }
  else
    t

def balancePriority (basePriority : UInt64) : UInt64 :=
  if basePriority < PRIORITY_MIN then
    PRIORITY_MIN
  else if basePriority > PRIORITY_MAX then
    PRIORITY_MAX
  else
    basePriority

/-- The foreground thread and the display server get the same quantum as all others. -/
def Thread.schedule (t : Thread) : Thread :=
  let t :=
    { t with
      preempted := false
      counters := { t.counters with running := 0, runningMs := 0 }
      scheduledCount := t.scheduledCount + 1
      basePriority := balancePriority t.basePriority
      priority := balancePriority t.basePriority
      quantum := QUANTUM_NORMAL_BALANCED }
  if t.credits ≥ 2 then { t with quantum := t.quantum + 1, credits := 0 } else t

/-- The turn of a thread that nothing has been delivered to. -/
def Thread.pick (t : Thread) (jiffies : UInt64) : Turn × Thread :=
  let t := (t.checkAlarm jiffies).checkSleep jiffies
  if t.valid ∧ t.state = .zombie then
    (.cleaned, t)
  else if t.valid ∧ t.state = .ready then
    (.linked, t.schedule)
  else
    (.passed, t)

def Thread.startWait (t : Thread) : Thread :=
  if t.wait4tidPending then { t with wait4tidPending := false, state := .blocked } else t

def Thread.proceed (t : Thread) (isIdle : Bool) (jiffies : UInt64) : Turn × Thread :=
  if t.blockInProgress then
    (.passed, t.block jiffies)
  else if t.exitInProgress ∧ !isIdle then
    (.exited, t.exit)
  else
    t.pick jiffies

def Thread.attend (t : Thread) (isIdle : Bool) (jiffies : UInt64) : Turn × Thread :=
  if t.magic = 1234 then
    if t.hasEventFromDs then
      (.passed, t.deliver jiffies)
    else
      t.startWait.proceed isIdle jiffies
  else
    t.pick jiffies

def setNext (k : Kernel) (thread next : Option Tid) : Except Stop Kernel :=
  match thread with
  | none => .error (.fault "next")
  | some i => .ok (k.modify i fun t => { t with next })

/-- The thread `i` becomes the last of the list. -/
def linkThread (k : Kernel) (i : Tid) : Except Stop Kernel := do
  let k ← setNext k k.lapic.p1q (some i)
  return { k with lapic := { k.lapic with p1q := some i } }

def forgetForeground (k : Kernel) (tid : Tid) : Kernel :=
  if tid.toInt32 = k.foregroundThread then { k with foregroundThread := -1 } else k

/-- The end of a turn, the thread being stored. -/
def rrAfter (k : Kernel) (ready : Nat) (i : Tid) : Turn → Except Stop (Kernel × Nat)
  | .passed => .ok (k, ready)
  | .exited => .ok (forgetForeground k i, ready)
  | .cleaned => (onZombie k i).map fun k => (k, ready)
  | .linked => (linkThread k i).map fun k => (k, ready + 1)

/-- One turn of the loop over threadList, with the number of threads linked so far. -/
def rrTurn (idle : Tid) (round : Kernel × Nat) (i : Tid) : Except Stop (Kernel × Nat) :=
  let (k, ready) := round
  match k.threadList i with
  | none => .ok (k, ready)
  | some t =>
      let (turn, t) := t.attend (i = idle) k.jiffies
      rrAfter (k.set i t) ready i turn

/-- The threads that a round looks at: all but the first. -/
def places : List Tid :=
  (List.finRange THREAD_COUNT_MAX).tail

def loadBalancer (k : Kernel) : Kernel :=
  match k.initThread with
  | none => k
  | some init =>
      k.modify init fun t =>
        if t.valid then
          { t with
            quantum :=
              if k.schedulerInfo.rrReadyThreadsInRound > 3 then
                QUANTUM_NORMAL_THRESHOLD
              else
                QUANTUM_NORMAL_BALANCED }
        else
          t

def Lapic.allQueues (lapic : Lapic) (head : Option Tid) : Lapic :=
  { lapic with
    p1q := head, p2q := head, p3q := head, p4q := head, p5q := head, p6q := head
    currentq := head }

def Thread.asIdle (t : Thread) (jiffies : UInt64) : Thread :=
  { t with
    basePriority := PRIORITY_SYSTEM_THRESHOLD
    priority := PRIORITY_SYSTEM_THRESHOLD
    quantum := QUANTUM_NORMAL_THRESHOLD }.doReady jiffies

/-- The list is cut behind its last thread. -/
def rrFinish (k : Kernel) (idle : Tid) (ready : Nat) : Except Stop (Tid × Kernel) := do
  let k := { k with schedulerInfo := { k.schedulerInfo with rrReadyThreadsInRound := ready } }
  let k := loadBalancer k
  let k ← setNext k k.lapic.p1q none
  let rounds := k.schedulerInfo.rrRoundCounter + 1
  return (idle, { k with schedulerInfo := { k.schedulerInfo with rrRoundCounter := rounds } })

def rrRound (k : Kernel) (idle : Tid) : Except Stop (Tid × Kernel) := do
  let k := k.modify idle fun t => t.asIdle k.jiffies
  let k := { k with lapic := k.lapic.allQueues (some idle) }
  let (k, ready) ← places.foldlM (rrTurn idle) (k, 0)
  rrFinish k idle ready

def schedulerRr (k : Kernel) : Except Stop (Tid × Kernel) :=
  let k := { k with lapic := k.lapic.allQueues none }
  if !k.schedulerInfo.initialized then
    .error (.panic "__scheduler_rr: Scheduler not initialized\n")
  else if k.schedulerInfo.policy ≠ .rr then
    .error (.panic "__scheduler_rr: Scheduler policy\n")
  else
    match k.idleThread with
    | none => .error (.panic "__scheduler_rr: Idle\n")
    | some idle =>
        match k.threadList idle with
        | none => .error (.panic "__scheduler_rr: Idle validation\n")
        | some t =>
            if !t.valid then
              .error (.panic "__scheduler_rr: Idle validation\n")
            else if k.initThread ≠ some idle then
              .error (.panic "__scheduler_rr: Idle != InitThread\n")
            else if idle ≠ INIT_TID then
              .error (.panic "__scheduler_rr: FirstTID\n")
            else
              rrRound k idle

/-- The turn of a thread when the queue of a stage is built. -/
def Thread.attendStage (t : Thread) (isInit : Bool) (priority quantum jiffies : UInt64) :
    Turn × Thread :=
  if t.valid then
    let t := (t.checkAlarm jiffies).checkSleep jiffies
    if t.exitInProgress ∧ !isInit then
      (.exited, t.exit)
    else if t.state = .zombie then
      (.cleaned, t)
    else if t.priority = priority ∧ t.state = .ready then
      (.linked,
        { t with
          preempted := false
          next := none
          counters := { t.counters with running := 0 }
          scheduledCount := t.scheduledCount + 1
          quantum := if isInit then t.quantum else quantum })
    else
      (.passed, t)
  else
    (.passed, t)

def stageAfter (k : Kernel) (tail i : Tid) : Turn → Except Stop (Kernel × Tid)
  | .passed => .ok (k, tail)
  | .exited => .ok (forgetForeground k i, tail)
  | .cleaned => (onZombie k i).map fun k => (k, tail)
  | .linked => .ok (k.modify tail fun t => { t with next := some i }, i)

/-- One turn of the loop, with the last thread of the queue so far. -/
def stageTurn (init : Tid) (priority quantum : UInt64) (round : Kernel × Tid) (i : Tid) :
    Except Stop (Kernel × Tid) :=
  let (k, tail) := round
  match k.threadList i with
  | none => .ok (k, tail)
  | some t =>
      let (turn, t) := t.attendStage (i = init) priority quantum k.jiffies
      stageAfter (k.set i t) tail i turn

def targetQuantum (priority : UInt64) : UInt64 :=
  match priority.toNat with
  | 6 => QUANTUM_Q6
  | 5 => QUANTUM_Q5
  | 4 => QUANTUM_Q4
  | 3 => QUANTUM_Q3
  | 2 => QUANTUM_Q2
  | 1 => QUANTUM_Q1
  | _ => QUANTUM_NORMAL_THRESHOLD

def countStage (k : Kernel) (stage : Nat) : Kernel :=
  { k with
    stageSelectionCount := fun n =>
      if n = stage then k.stageSelectionCount n + 1 else k.stageSelectionCount n }

/-- The init thread is the head of the queue, as the idle thread. -/
def buildStageQueue (k : Kernel) (init : Tid) (stage : Nat) (priority : UInt64) :
    Except Stop Kernel := do
  let k := countStage k stage
  let initQuantum := if k.displayServer.initialized then QUANTUM_MIN else QUANTUM_MAX
  let k := k.modify init fun t => { t with quantum := initQuantum, next := none }
  let (k, tail) ← places.foldlM (stageTurn init priority (targetQuantum priority)) (k, init)
  return k.modify tail fun t => { t with next := none }

def Lapic.setQueue (lapic : Lapic) (queue : Nat) (head : Option Tid) : Lapic :=
  let lapic := { lapic with currentq := head }
  match queue with
  | 1 => { lapic with p1q := head }
  | 2 => { lapic with p2q := head }
  | 3 => { lapic with p3q := head }
  | 4 => { lapic with p4q := head }
  | 5 => { lapic with p5q := head }
  | _ => { lapic with p6q := head }

def Kernel.setStage (k : Kernel) (stage : UInt64) : Kernel :=
  { k with schedulerInfo := { k.schedulerInfo with stage } }

def selectQueue (k : Kernel) (init : Tid) (queue : Nat) (priority next : UInt64) :
    Except Stop Kernel := do
  let k ← buildStageQueue k init queue priority
  return { k with lapic := k.lapic.setQueue queue (some init) }.setStage next

def runStage (k : Kernel) (init : Tid) (stage : UInt64) : Except Stop Kernel :=
  match stage.toNat with
  | 0 =>
      let k := { k with lapic := k.lapic.allQueues (some init) }
      let k := k.modify init fun t => { t with next := none }
      .ok ((countStage k 0).setStage 1)
  | 1 => selectQueue k init 6 PRIORITY_P6 2
  | 2 => selectQueue k init 5 PRIORITY_P5 3
  | 3 => selectQueue k init 4 PRIORITY_P4 4
  | 4 => selectQueue k init 3 PRIORITY_P3 5
  | 5 => selectQueue k init 2 PRIORITY_P2 6
  | 6 => selectQueue k init 1 PRIORITY_P1 1
  | _ =>
      let k := k.modify init fun t => { t with next := none }
      .ok ({ k with lapic := k.lapic.setQueue 1 (some init) }.setStage 0)

def currentStage (info : SchedulerInfo) : UInt64 :=
  if info.stage > info.maxStage then 1 else info.stage

def schedulerPriorityInterleaving (k : Kernel) : Except Stop (Tid × Kernel) :=
  if !k.schedulerInfo.initialized then
    .error (.panic "__scheduler_priorityinterleaving: Scheduler not initialized\n")
  else if k.schedulerInfo.policy ≠ .priorityInterleaving then
    .error (.panic "__scheduler_priorityinterleaving: Scheduler policy\n")
  else
    match k.initThread with
    | none => .error (.panic "__scheduler_priorityinterleaving: InitThread validation\n")
    | some init =>
        match k.threadList init with
        | none => .error (.panic "__scheduler_priorityinterleaving: InitThread validation\n")
        | some t =>
            if t.magic ≠ 1234 then
              .error (.panic "__scheduler_priorityinterleaving: InitThread validation\n")
            else
              let stage := currentStage k.schedulerInfo
              (runStage (k.setStage stage) init stage).map fun k => (init, k)

end Gramado.Ke.Sched
