/-
How processes and threads are registered and destroyed: te.c and thread.c over
teList, threadList, the devices of dev.c and the counter of the heap pool. A
structure is known by the slot that it is registered in, as in Thread.lean, and
a file by its number, 0 for NULL. What the heap says to the allocations of a
call, counted from 0, is part of the call.
-/
import Gramado.Ke.Thread
import Gramado.Lib.Fallible
import Gramado.Lib.Grants

namespace Gramado.Ke.Creation

open Function
open Gramado.Ke.Sched (PROCESS_COUNT_MAX THREAD_COUNT_MAX)
open Gramado.Lib.Fallible Gramado.Lib.Grants

def GRAMADO_PID_BASE : Nat := 0
def USER_THRESHOLD_TID : Nat := 100
def DEVICE_LIST_MAX : Nat := 512
def NUMBER_OF_FILES : Nat := 32
def MSG_QUEUE_MAX : Nat := 64
def RING0 : UInt32 := 0
def RING3 : UInt32 := 3

section Structures

/-- What the creation and the clone of processes use of `struct te_d`. -/
structure Te where
  used : Bool
  magic : Int32
  pid : Nat
  cpl : UInt32
  pml4VA : UInt64
  pdpt0VA : UInt64
  pd0VA : UInt64
  flower : Option Nat
  objects : Nat → Nat
  isTerminal : Bool
  heapStart : UInt64
  heapSize : UInt64
  heapEnd : UInt64

/-- What they use of `struct thread_d`, with the process by its pid. -/
structure Th where
  used : Bool
  magic : Int32
  tid : Nat
  te : Option Nat
  tgid : Nat
  cpl : UInt32
  iopl : UInt32

structure Device where
  index : Nat

structure Tables where
  teList : Nat → Option Te
  threadList : Nat → Option Th
  deviceList : Nat → Option Device
  fdCounter : Nat → Int
  heappoolVa : UInt64
  heapCount : Nat
  heapSize : UInt64
  threadsCounter : Nat
  currentPid : Int
  currentTid : Int

/-- What a call finds: what the heap answers, and the standard streams. -/
structure Found where
  kmalloc : Nat → Except Stop Bool
  standardStreams : Bool
  stdin : Nat
  stdout : Nat
  stderr : Nat

end Structures

section Devices

/-- An allocation without which the kernel panics. -/
def allocate (found : Found) (n : Nat) (text : String) : Except Stop Unit := do
  if ← found.kmalloc n then
    pure ()
  else
    .error (.panic text)

def Tables.addDevice (t : Tables) (i : Nat) : Tables :=
  { t with deviceList := update t.deviceList i (some ⟨i⟩) }

def devmgrDeviceObject (found : Found) (n : Nat) (t : Tables) : Except Stop Tables :=
  match nextFree t.deviceList 0 DEVICE_LIST_MAX with
  | none => .error (.panic "devmgr_device_object: Overflow\n")
  | some i => do
      allocate found n "devmgr_device_object: d\n"
      pure (t.addDevice i)

/-- `tty_create`, whose allocations start with the number `n`. -/
def ttyCreate (found : Found) (n : Nat) (t : Tables) : Except Stop Tables := do
  allocate found n "tty_create: __tty\n"
  allocate found (n + 1) "tty_create: __file\n"
  allocate found (n + 2) "devmgr_register_tty_device: new_mount_point\n"
  devmgrDeviceObject found (n + 3) t

end Devices

section Processes

/-- The structure as `teObject` leaves it. -/
def teObject : Te where
  used := false
  magic := 0
  pid := 0
  cpl := 0
  pml4VA := 0
  pdpt0VA := 0
  pd0VA := 0
  flower := none
  objects := fun _ => 0
  isTerminal := false
  heapStart := 0
  heapSize := 0
  heapEnd := 0

def getNewPid (t : Tables) : Option Nat :=
  nextFree t.teList GRAMADO_PID_BASE PROCESS_COUNT_MAX

/-- The next window of the heap pool goes to the process, which is registered. -/
def Tables.register (t : Tables) (pid : Nat) (process : Te) : Tables :=
  let start := t.heappoolVa + UInt64.ofNat t.heapCount * t.heapSize
  { t with
    heapCount := t.heapCount + 1
    teList := update t.teList pid (some { process with
      used := true, magic := 1234, pid := pid
      heapStart := start, heapSize := t.heapSize, heapEnd := start + t.heapSize }) }

/-- The flower is still NULL when its context is written; the address is in the
    area of ring 0 that begins at 0, where nothing of this is. -/
def createAndInitializeProcessObject (found : Found) (t : Tables) :
    Except Stop (Option Nat × Tables) := do
  if ¬(← found.kmalloc 0) then
    pure (none, t)
  else
    match getNewPid t with
    | none => pure (none, t)
    | some pid => do
        let t ← ttyCreate found 1 t
        if t.heappoolVa = 0 then
          .error (.panic "create_and_initialize_process_object: g_heappool_va\n")
        else if t.heapCount = 0 then
          .error (.panic "create_and_initialize_process_object: g_heap_count\n")
        else if t.heapSize = 0 then
          .error (.panic "create_and_initialize_process_object: g_heap_size\n")
        else
          pure (some pid, t.register pid teObject)

/-- The arguments of `create_process` that are looked at or kept. -/
structure ProcessArgs where
  baseAddress : UInt64
  ppid : Int
  name : Option (List UInt8)
  cpl : UInt32
  pml4VA : UInt64
  pdpt0VA : UInt64
  pd0VA : UInt64

/-- A string with nothing before its end. -/
def blank (name : List UInt8) : Bool :=
  name.headD 0 = 0

def ProcessArgs.check (args : ProcessArgs) : Except Stop Unit :=
  if args.baseAddress = 0 then
    .error (.panic "create_process: base_address\n")
  else if args.ppid < 0 then
    .error (.panic "create_process: ppid\n")
  else
    match args.name with
    | none => .error (.panic "create_process: name\n")
    | some name =>
        if blank name then
          .error (.panic "create_process: *name\n")
        else if args.pml4VA = 0 then
          .error (.panic "create_process: pml4_va\n")
        else if args.pdpt0VA = 0 then
          .error (.panic "create_process: pdpt0_va\n")
        else if args.pd0VA = 0 then
          .error (.panic "create_process: pd0_va\n")
        else
          pure ()

/-- `__initialize_process_common_elements`: the standard streams are checked and
    the process gets a tty. -/
def initializeProcessCommonElements (found : Found) (t : Tables) : Except Stop Tables :=
  if found.standardStreams ≠ true then
    .error (.panic "__initialize_process_common_elements: Standard stream is not initialized\n")
  else if found.stdin = 0 then
    .error (.panic "__initialize_process_common_elements: stdin\n")
  else if found.stdout = 0 then
    .error (.panic "__initialize_process_common_elements: stdout\n")
  else if found.stderr = 0 then
    .error (.panic "__initialize_process_common_elements: stderr\n")
  else
    ttyCreate found 1 t

def standardObjects (found : Found) (fd : Nat) : Nat :=
  match fd with
  | 0 => found.stdin
  | 1 => found.stdout
  | 2 => found.stderr
  | _ => 0

/-- The tty is there before the pid is looked for, and stays when there is none.
    The limit of the pool is only written to the log. -/
def createProcessImp (found : Found) (args : ProcessArgs) (t : Tables) :
    Except Stop (Option Nat × Tables) := do
  args.check
  if ¬(← found.kmalloc 0) then
    pure (none, t)
  else
    let t ← initializeProcessCommonElements found t
    match getNewPid t with
    | none => pure (none, t)
    | some pid =>
        if args.cpl ≠ RING0 ∧ args.cpl ≠ RING3 then
          .error (.panic "create_process: cpl\n")
        else if t.heappoolVa = 0 then
          .error (.panic "create_process: g_heappool_va\n")
        else if t.heapSize = 0 then
          .error (.panic "create_process: g_heap_size\n")
        else
          pure (some pid, t.register pid { teObject with
            cpl := args.cpl, pml4VA := args.pml4VA, pdpt0VA := args.pdpt0VA
            pd0VA := args.pd0VA, objects := standardObjects found })

/-- `destroy_process_structure` for the structure registered in a slot. -/
def destroyProcessStructure (t : Tables) (i : Nat) : Int × Tables :=
  match t.teList i with
  | none => (-1, t)
  | some process =>
      if process.used ≠ true then
        (-1, t)
      else if process.pid ≥ PROCESS_COUNT_MAX then
        (-1, t)
      else if process.pid ≠ i then
        (-1, t)
      else
        (0, { t with
          teList := update t.teList i (some { process with magic := 0, used := false }) })

end Processes

section Threads

structure ThreadArgs where
  pid : Int
  name : Option (List UInt8)
  cpl : UInt32

/-- The scan for a free tid goes over the same slots three times. -/
def emptySlot (threadList : Nat → Option Th) : Nat → Option Nat
  | 0 => none
  | cycles + 1 =>
      match nextFree threadList USER_THRESHOLD_TID THREAD_COUNT_MAX with
      | some tid => some tid
      | none => emptySlot threadList cycles

/-- The message structures of a thread's queue. -/
def allocateMessages (found : Found) (n : Nat) : Nat → Except Stop Unit
  | 0 => pure ()
  | left + 1 => do
      allocate found n "__ps_initialize_thread_common_elements: tmp"
      allocateMessages found (n + 1) left

/-- The structure of a new thread. -/
def newThread (tid pid : Nat) (cpl : UInt32) : Th :=
  ⟨true, 1234, tid, some pid, pid, cpl, if cpl = RING0 then 0 else 3⟩

def Tables.registerThread (t : Tables) (tid : Nat) (thread : Th) : Tables :=
  { t with
    threadList := update t.threadList tid (some thread)
    threadsCounter := t.threadsCounter + 1 }

/-- The part of `create_thread_imp` behind the checks. The window of the thread
    may be NULL. -/
def createThreadOf (found : Found) (pid : Nat) (cpl : UInt32) (t : Tables) :
    Except Stop (Option Nat × Tables) := do
  if ¬(← found.kmalloc 0) then
    pure (none, t)
  else
    allocateMessages found 1 MSG_QUEUE_MAX
    match emptySlot t.threadList 3 with
    | none => pure (none, t)
    | some tid => do
        let _ ← found.kmalloc (1 + MSG_QUEUE_MAX)
        allocate found (2 + MSG_QUEUE_MAX) "create_thread: r\n"
        let t := t.registerThread tid (newThread tid pid cpl)
        if t.threadsCounter ≥ THREAD_COUNT_MAX then
          .error (.panic "create_thread: [FAIL] UPProcessorBlock.threads_counter \n")
        else
          pure (some tid, t)

def createThreadImp (found : Found) (args : ThreadArgs) (t : Tables) :
    Except Stop (Option Nat × Tables) :=
  if args.pid < 0 then
    pure (none, t)
  else
    match args.name with
    | none => pure (none, t)
    | some name =>
        if blank name then
          pure (none, t)
        else if args.cpl ≠ RING0 ∧ args.cpl ≠ RING3 then
          pure (none, t)
        else if args.pid ≥ PROCESS_COUNT_MAX then
          pure (none, t)
        else
          match t.teList args.pid.toNat with
          | none => pure (none, t)
          | some process =>
              if process.used ≠ true then
                pure (none, t)
              else if process.magic ≠ 1234 then
                pure (none, t)
              else
                createThreadOf found args.pid.toNat args.cpl t

/-- `destroy_thread_structure` for the structure registered in a slot. -/
def destroyThreadStructure (t : Tables) (i : Nat) : Int × Tables :=
  match t.threadList i with
  | none => (-1, t)
  | some thread =>
      if thread.used ≠ true then
        (-1, t)
      else if thread.tid ≥ THREAD_COUNT_MAX then
        (-1, t)
      else if thread.tid ≠ i then
        (-1, t)
      else
        (0, { t with
          threadList := update t.threadList i (some { thread with magic := 0, used := false }) })

end Threads

section Effects

variable {found : Found} {args : ProcessArgs} {t : Tables} {n : Nat}

theorem ttyCreate_effect : Returns (ttyCreate found n t) fun t' =>
    ∃ i, nextFree t.deviceList 0 DEVICE_LIST_MAX = some i ∧ t' = t.addDevice i := by
  unfold ttyCreate
  refine returns_bind.mpr fun _ _ => returns_bind.mpr fun _ _ => returns_bind.mpr fun _ _ => ?_
  unfold devmgrDeviceObject
  split
  · simp
  · rename_i i free
    exact returns_bind.mpr fun _ _ => returns_pure.mpr ⟨i, free, rfl⟩

/-- A process is registered whole, with a device for its tty, or not at all. -/
theorem createAndInitializeProcessObject_effect :
    Returns (createAndInitializeProcessObject found t) fun out => out = (none, t) ∨
      ∃ pid i, getNewPid t = some pid ∧ nextFree t.deviceList 0 DEVICE_LIST_MAX = some i ∧
        out = (some pid, (t.addDevice i).register pid teObject) := by
  refine returns_bind.mpr fun given _ => returns_ite.mpr ⟨fun _ => returns_pure.mpr (.inl rfl), ?_⟩
  intro _
  split
  · exact returns_pure.mpr (.inl rfl)
  · rename_i pid free
    refine returns_of_bind ttyCreate_effect ?_
    rintro _ ⟨i, slot, rfl⟩
    refine returns_ite.mpr ⟨by simp, fun _ => returns_ite.mpr ⟨by simp, fun _ => ?_⟩⟩
    exact returns_ite.mpr ⟨by simp, fun _ => returns_pure.mpr (.inr ⟨pid, i, free, slot, rfl⟩)⟩

theorem initializeProcessCommonElements_effect :
    Returns (initializeProcessCommonElements found t) fun t' =>
      ∃ i, nextFree t.deviceList 0 DEVICE_LIST_MAX = some i ∧ t' = t.addDevice i := by
  unfold initializeProcessCommonElements
  refine returns_ite.mpr ⟨by simp, fun _ => returns_ite.mpr ⟨by simp, fun _ => ?_⟩⟩
  refine returns_ite.mpr ⟨by simp, fun _ => returns_ite.mpr ⟨by simp, fun _ => ?_⟩⟩
  exact ttyCreate_effect

theorem createProcessImp_effect : Returns (createProcessImp found args t) fun out =>
    out = (none, t) ∨ ∃ i, nextFree t.deviceList 0 DEVICE_LIST_MAX = some i ∧
      (out = (none, t.addDevice i) ∨ ∃ pid process, getNewPid t = some pid ∧
        out = (some pid, (t.addDevice i).register pid process)) := by
  refine returns_bind.mpr fun _ _ => returns_bind.mpr fun given _ => ?_
  refine returns_ite.mpr ⟨fun _ => returns_pure.mpr (.inl rfl), fun _ => ?_⟩
  refine returns_of_bind initializeProcessCommonElements_effect ?_
  rintro _ ⟨i, slot, rfl⟩
  split
  · exact returns_pure.mpr (.inr ⟨i, slot, .inl rfl⟩)
  · rename_i pid free
    refine returns_ite.mpr ⟨by simp, fun _ => returns_ite.mpr ⟨by simp, fun _ => ?_⟩⟩
    refine returns_ite.mpr ⟨by simp, fun _ => returns_pure.mpr ?_⟩
    exact .inr ⟨i, slot, .inr ⟨pid, _, free, rfl⟩⟩

theorem emptySlot_eq {threadList : Nat → Option Th} (cycles : Nat) :
    emptySlot threadList (cycles + 1) =
      nextFree threadList USER_THRESHOLD_TID THREAD_COUNT_MAX := by
  induction cycles with
  | zero =>
      rw [emptySlot]
      split
      · rename_i tid free
        exact free.symm
      · rename_i full
        exact full.symm
  | succ cycles ih =>
      rw [emptySlot]
      split
      · rename_i tid free
        exact free.symm
      · exact ih

theorem createThreadOf_effect {pid : Nat} {cpl : UInt32} :
    Returns (createThreadOf found pid cpl t) fun out => out = (none, t) ∨
      ∃ tid, nextFree t.threadList USER_THRESHOLD_TID THREAD_COUNT_MAX = some tid ∧
        out = (some tid, t.registerThread tid (newThread tid pid cpl)) := by
  refine returns_bind.mpr fun given _ => returns_ite.mpr ⟨fun _ => returns_pure.mpr (.inl rfl), ?_⟩
  refine fun _ => returns_bind.mpr fun _ _ => ?_
  rw [emptySlot_eq]
  split
  · exact returns_pure.mpr (.inl rfl)
  · rename_i tid free
    refine returns_bind.mpr fun _ _ => returns_bind.mpr fun _ _ => ?_
    exact returns_ite.mpr ⟨by simp, fun _ => returns_pure.mpr (.inr ⟨tid, free, rfl⟩)⟩

theorem createThreadImp_effect {args : ThreadArgs} :
    Returns (createThreadImp found args t) fun out => out = (none, t) ∨
      ∃ tid, nextFree t.threadList USER_THRESHOLD_TID THREAD_COUNT_MAX = some tid ∧
        out = (some tid, t.registerThread tid (newThread tid args.pid.toNat args.cpl)) := by
  have nothing : Returns (pure (none, t) : Except Stop (Option Nat × Tables)) fun out =>
      out = (none, t) ∨
        ∃ tid, nextFree t.threadList USER_THRESHOLD_TID THREAD_COUNT_MAX = some tid ∧
          out = (some tid, t.registerThread tid (newThread tid args.pid.toNat args.cpl)) :=
    returns_pure.mpr (.inl rfl)
  unfold createThreadImp
  refine returns_ite.mpr ⟨fun _ => nothing, fun _ => ?_⟩
  split
  · exact nothing
  · refine returns_ite.mpr ⟨fun _ => nothing, fun _ => returns_ite.mpr ⟨fun _ => nothing, ?_⟩⟩
    refine fun _ => returns_ite.mpr ⟨fun _ => nothing, fun _ => ?_⟩
    split
    · exact nothing
    · refine returns_ite.mpr ⟨fun _ => nothing, fun _ => returns_ite.mpr ⟨fun _ => nothing, ?_⟩⟩
      exact fun _ => createThreadOf_effect

end Effects

end Gramado.Ke.Creation
