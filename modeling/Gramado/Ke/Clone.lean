/-
`copy_process00` of clone.c. What the loader, the page tables and the file table
answer is part of a call. From the creation of the child on nothing is undone:
when the image cannot be loaded the call fails, and the child stays.
-/
import Gramado.Ke.Creation
import Gramado.Lib.Fallible

namespace Gramado.Ke.Creation

open Function
open Gramado.Ke.Sched (PROCESS_COUNT_MAX THREAD_COUNT_MAX)
open Gramado.Lib.Fallible Gramado.Lib.Grants

def F_CLONE_UNIX_STYLE : UInt64 := 0x0002
def F_CLONE_RETURN_TID : UInt64 := 0x0004

/-- The pids of the kernel, and the value of a reserved descriptor. -/
def GRAMADO_PID_KERNEL : Nat := 0
def RESERVED : Nat := 216

/-- What a clone finds: the allocations of the two creations, the tables that
    are cloned, the place for the image, and what the loader says of the file. -/
structure CloneFound where
  process : Found
  thread : Found
  pml4 : Except Stop UInt64
  allocMemoryForImageAndStack : Except Stop Int
  childImage : UInt64
  childImagePA : UInt64
  newFile : Nat → Except Stop Nat
  fsLoadImage : Except Stop Int
  fsCheckELFFile : Except Stop Int
  tablePointer : UInt64
  pd0VA : UInt64
  pd0PA : UInt64
  pdpt0VA : UInt64
  pdpt0PA : UInt64

section Copies

/-- Every descriptor of the copy is one more for its file. -/
def addReferences (objects : Nat → Nat) (fdCounter : Nat → Int) : Nat → Int :=
  (List.range NUMBER_OF_FILES).foldl (fun counter i =>
    if objects i = 0 then counter
    else update counter (objects i) (counter (objects i) + 1)) fdCounter

def freeSpot (objects : Nat → Nat) : Option Nat :=
  (List.range' 3 27).find? fun i => objects i = 0

/-- The two connectors go to the first two free slots of a process. -/
def connect (objects : Nat → Nat) (connector1 connector2 : Nat) (who : String) :
    Except Stop (Nat → Nat) :=
  match freeSpot objects with
  | none => .error (.panic ("copy_process_struct: No spot1 for " ++ who ++ "\n"))
  | some spot1 =>
      match freeSpot (update objects spot1 RESERVED) with
      | none => .error (.panic ("copy_process_struct: No spot2 for " ++ who ++ "\n"))
      | some spot2 => .ok (update (update objects spot1 connector1) spot2 connector2)

def Tables.setProcess (t : Tables) (pid : Nat) (process : Te) : Tables :=
  { t with teList := update t.teList pid (some process) }

def Tables.setThread (t : Tables) (tid : Nat) (thread : Th) : Tables :=
  { t with threadList := update t.threadList tid (some thread) }

/-- The child's descriptors are those of the parent. A parent that is a terminal
    is connected with its child by two new files. -/
def copyObjects (found : CloneFound) (parent child : Nat) (p1 p2 : Te) (t : Tables) :
    Except Stop Tables := do
  let p2 := { p2 with
    used := p1.used, magic := p1.magic, cpl := p1.cpl
    objects := fun i => if i < NUMBER_OF_FILES then p1.objects i else p2.objects i }
  let t := { t with fdCounter := addReferences p1.objects t.fdCounter }
  if p1.isTerminal then
    let connector1 ← found.newFile 0
    let connector2 ← found.newFile 1
    let t := { t with fdCounter := update (update t.fdCounter connector1 1) connector2 1 }
    let objects1 ← connect p1.objects connector1 connector2 "Process1"
    let objects2 ← connect p2.objects connector1 connector2 "Process2"
    pure ((t.setProcess parent { p1 with objects := objects1 }).setProcess child
      { p2 with objects := objects2, isTerminal := false })
  else
    pure (t.setProcess child p2)

def copyProcessStruct (found : CloneFound) (parent child : Nat) (t : Tables) :
    Except Stop (Int × Tables) :=
  match t.teList parent with
  | none => .ok (1, t)
  | some p1 =>
      if p1.used ≠ true ∨ p1.magic ≠ 1234 then
        .ok (1, t)
      else
        match t.teList child with
        | none => .ok (1, t)
        | some p2 =>
            if p2.used ≠ true ∨ p2.magic ≠ 1234 then
              .ok (1, t)
            else do
              let t ← copyObjects found parent child p1 p2 t
              pure (0, t)

/-- The thread is created for the process of its father. -/
def copyThreadStruct (found : Found) (father : Nat) (t : Tables) :
    Except Stop (Nat × Tables) :=
  match t.threadList father with
  | none => .error (.panic "copy_thread_struct: father\n")
  | some thread =>
      if thread.magic ≠ 1234 then
        .error (.panic "copy_thread_struct: father validation\n")
      else if thread.cpl ≠ RING3 then
        .error (.panic "copy_thread_struct: father_cpl!=RING3\n")
      else do
        let name := "clone-thread".toUTF8.data.toList
        let (created, t) ← createThreadImp found ⟨thread.tgid, some name, thread.cpl⟩ t
        match created with
        | none => .error (.panic "copy_thread_struct: clone\n")
        | some tid =>
            if thread.iopl ≠ 3 then
              .error (.panic "copy_thread_struct: clone rflags_initial_iopl\n")
            else
              pure (tid, t)

end Copies

section Clone

/-- The checks of the parent, which is the current process, and of its flower
    thread, which is the current thread. They give the flower's tid. -/
def checkParent (pid : Int) (t : Tables) : Except Stop (Option Nat) :=
  if pid < 0 ∨ pid ≥ PROCESS_COUNT_MAX then
    .ok none
  else
    match t.teList pid.toNat with
    | none => .ok none
    | some parent =>
        if parent.used ≠ true ∨ parent.magic ≠ 1234 then
          .ok none
        else if parent.cpl ≠ RING3 then
          .error (.panic "copy_process00: cpl != RING3\n")
        else if parent.pml4VA = 0 ∨ parent.pdpt0VA = 0 ∨ parent.pd0VA = 0 then
          .ok none
        else
          match parent.flower.bind t.threadList with
          | none => .error (.panic "copy_process00: parent_thread\n")
          | some thread =>
              if thread.magic ≠ 1234 then
                .error (.panic "copy_process00: parent_thread validation\n")
              else if thread.cpl ≠ RING3 then
                .error (.panic "copy_process00: parent_thread->cpl\n")
              else if thread.tgid ≠ parent.pid then
                .error (.panic "copy_process00: parent_thread->tgid\n")
              else if t.currentTid ≠ thread.tid then
                .error (.panic "copy_process00: CallerTID mismatched\n")
              else if pid ≠ parent.pid then
                .error (.panic "copy_process00: parent_pid mismatched\n")
              else if parent.pid ≥ PROCESS_COUNT_MAX then
                .error (.panic "copy_process00: parent_process->pid limits\n")
              else if t.currentPid ≠ parent.pid then
                .error (.panic "copy_process00: CurrentPID != parent_process->pid\n")
              else
                .ok parent.flower

/-- The child's tables of pages, which the image goes into. -/
def buildTables (found : CloneFound) (child : Nat) (t : Tables) : Except Stop Tables :=
  match t.teList child with
  | none => .error (.fault "child_process")
  | some process =>
      if process.pml4VA = 0 then
        .error (.panic "copy_process00: [2nd time] child_process->pml4_VA\n")
      else if process.pdpt0VA = 0 then
        .error (.panic "copy_process00: [2nd time] child_process->pdpt0_VA\n")
      else if process.pd0VA = 0 then
        .error (.panic "copy_process00: [2nd time] child_process->pd0_VA\n")
      else if found.tablePointer = 0 then
        .error (.panic "copy_process00: [FAIL] ptVA\n")
      else if found.pd0VA = 0 then
        .error (.panic "copy_process00: child_process->pd0_VA==0\n")
      else if found.pd0PA = 0 then
        .error (.panic "copy_process00: child_process->pd0_PA==0\n")
      else if found.pdpt0VA = 0 then
        .error (.panic "copy_process00: child_process->pdpt0_VA == 0\n")
      else if found.pdpt0PA = 0 then
        .error (.panic "copy_process00: child_process->pdpt0_PA == 0\n")
      else
        .ok (t.setProcess child { process with pd0VA := found.pd0VA, pdpt0VA := found.pdpt0VA })

/-- The image is loaded into the child, which is complete but for it. -/
def loadChild (found : CloneFound) (child thread : Nat) (flags : UInt64) (t : Tables) :
    Except Stop (Int × Tables) := do
  if found.childImage = 0 then
    .error (.panic "copy_process00: [FAIL] child_process->Image\n")
  else if found.childImagePA = 0 then
    .error (.panic "copy_process00: [FAIL] child_process->ImagePA\n")
  else if (← found.fsLoadImage) ≠ 0 then
    pure (-1, t)
  else if (← found.fsCheckELFFile) < 0 then
    pure (-1, t)
  else
    let t ← buildTables found child t
    if flags &&& F_CLONE_RETURN_TID ≠ 0 then
      pure (thread, t)
    else
      pure (child, t)

/-- The child with the addresses of its tables, before the structure is copied. -/
def Te.adopt (process parent : Te) (pml4 : UInt64) : Te :=
  { process with pml4VA := pml4, pdpt0VA := parent.pdpt0VA, pd0VA := parent.pd0VA }

/-- Behind the creation of the child. -/
def fillChild (found : CloneFound) (parent flower child : Nat) (pml4 : UInt64) (flags : UInt64)
    (t : Tables) : Except Stop (Int × Tables) := do
  if child = parent then
    .error (.panic "copy_process00: child_pid == parent_pid\n")
  else if child = GRAMADO_PID_KERNEL then
    .error (.panic "copy_process00: child_pid == GRAMADO_PID_KERNEL\n")
  else
    let p1 ← need (t.teList parent) (.fault "parent_process")
    let p2 ← need (t.teList child) (.fault "child_process")
    let t := t.setProcess child (p2.adopt p1 pml4)
    if (← found.allocMemoryForImageAndStack) ≠ 0 then
      .error (.panic "copy_process00: on alloc_memory_for_image_and_stack()\n")
    else
      let (status, t) ← copyProcessStruct found parent child t
      if status ≠ 0 then
        .error (.panic "copy_process00: on copy_process_struct()\n")
      else
        let (tid, t) ← copyThreadStruct found.thread flower t
        let p2 ← need (t.teList child) (.fault "child_process")
        let thread ← need (t.threadList tid) (.fault "child_thread")
        loadChild found child tid flags
          ((t.setProcess child { p2 with flower := some tid }).setThread tid
            { thread with te := some child, tgid := child })

def copyProcess00 (found : CloneFound) (filename : Option (List UInt8)) (pid : Int)
    (flags : UInt64) (t : Tables) : Except Stop (Int × Tables) := do
  match filename with
  | none => .error (.panic "copy_process00: filename\n")
  | some name =>
      if blank name then
        .error (.panic "copy_process00: *filename\n")
      else if flags &&& F_CLONE_UNIX_STYLE ≠ 0 then
        pure (-1, t)
      else
        let pml4 ← found.pml4
        if pml4 = 0 then
          .error (.panic "copy_process00: _pml4\n")
        else
          match ← checkParent pid t with
          | none => pure (-1, t)
          | some flower => do
              let (created, t) ← createAndInitializeProcessObject found.process t
              match created with
              | none => pure (-1, t)
              | some child => fillChild found pid.toNat flower child pml4 flags t

/-- `copy_process`, which looks at the pid before everything else. -/
def copyProcess (found : CloneFound) (filename : Option (List UInt8)) (pid : Int)
    (flags : UInt64) (t : Tables) : Except Stop (Int × Tables) :=
  if pid < 0 ∨ pid ≥ PROCESS_COUNT_MAX then
    .ok (-1, t)
  else
    copyProcess00 found filename pid flags t

end Clone

section Effects

variable {found : CloneFound} {t t' : Tables} {parent child tid : Nat} {p1 p2 : Te} {flags : UInt64}

/-- What the copy of the structure leaves. -/
structure Copied (parent child : Nat) (p1 p2 : Te) (t t' : Tables) : Prop where
  original : ∃ objects, t'.teList parent = some { p1 with objects := objects }
  copy : ∃ objects, t'.teList child = some { p2 with
    used := p1.used, magic := p1.magic, cpl := p1.cpl, objects := objects }
  others : ∀ pid, pid ≠ parent → pid ≠ child → t'.teList pid = t.teList pid
  plain : p1.isTerminal = false → t'.teList parent = t.teList parent ∧
    t'.fdCounter = addReferences p1.objects t.fdCounter
  rest : t' = { t with teList := t'.teList, fdCounter := t'.fdCounter }

theorem copyObjects_effect (there : t.teList parent = some p1) (apart : child ≠ parent)
    (window : p2.isTerminal = false) :
    Returns (copyObjects found parent child p1 p2 t) (Copied parent child p1 p2 t) := by
  unfold copyObjects
  refine returns_ite.mpr ⟨fun terminal => ?_, fun plain => ?_⟩
  · refine returns_bind.mpr fun connector1 _ => returns_bind.mpr fun connector2 _ => ?_
    refine returns_bind.mpr fun objects1 _ => returns_bind.mpr fun objects2 _ => ?_
    refine returns_pure.mpr ⟨⟨objects1, ?_⟩, ⟨objects2, ?_⟩, ?_, ?_, rfl⟩
    · simp [Tables.setProcess, apart.symm]
    · simp [Tables.setProcess, window]
    · intro pid parent child
      simp [Tables.setProcess, parent, child]
    · intro plain
      rw [plain] at terminal
      cases terminal
  · refine returns_pure.mpr ⟨⟨p1.objects, ?_⟩, ⟨_, update_self ..⟩, ?_, ?_, rfl⟩
    · simp [Tables.setProcess, apart.symm, there]
    · intro pid _ child
      simp [Tables.setProcess, child]
    · intro _
      simp [Tables.setProcess, apart.symm]

theorem copyProcessStruct_effect (there : t.teList parent = some p1)
    (made : t.teList child = some p2) (apart : child ≠ parent) (window : p2.isTerminal = false) :
    Returns (copyProcessStruct found parent child t) fun out =>
      out.1 = 0 → (p1.used = true ∧ p1.magic = 1234) ∧ Copied parent child p1 p2 t out.2 := by
  unfold copyProcessStruct
  rw [there, made]
  simp only
  refine returns_ite.mpr ⟨by simp, fun valid => returns_ite.mpr ⟨by simp, fun _ => ?_⟩⟩
  rw [not_or, not_not, not_not] at valid
  refine returns_of_bind (copyObjects_effect there apart window) fun u copied => ?_
  exact returns_pure.mpr fun _ => ⟨valid, copied⟩

theorem copyThreadStruct_effect {found : Found} {father : Nat} {thread : Th}
    (there : t.threadList father = some thread) :
    Returns (copyThreadStruct found father t) fun out =>
      nextFree t.threadList USER_THRESHOLD_TID THREAD_COUNT_MAX = some out.1 ∧
        out.2 = t.registerThread out.1 (newThread out.1 thread.tgid RING3) := by
  unfold copyThreadStruct
  rw [there]
  simp only
  refine returns_ite.mpr ⟨by simp, fun _ => returns_ite.mpr ⟨by simp, fun level => ?_⟩⟩
  rw [not_not] at level
  refine returns_of_bind createThreadImp_effect ?_
  rintro ⟨created, u⟩ (nothing | ⟨tid, free, made⟩)
  · cases nothing
    simp
  · cases made
    refine returns_ite.mpr ⟨by simp, fun _ => returns_pure.mpr ⟨free, ?_⟩⟩
    rw [level]
    rfl

theorem buildTables_effect {process : Te} (there : t.teList child = some process) :
    Returns (buildTables found child t) fun t' =>
      t' = t.setProcess child { process with pd0VA := found.pd0VA, pdpt0VA := found.pdpt0VA } := by
  unfold buildTables
  rw [there]
  simp only
  refine returns_ite.mpr ⟨by simp, fun _ => returns_ite.mpr ⟨by simp, fun _ => ?_⟩⟩
  refine returns_ite.mpr ⟨by simp, fun _ => returns_ite.mpr ⟨by simp, fun _ => ?_⟩⟩
  refine returns_ite.mpr ⟨by simp, fun _ => returns_ite.mpr ⟨by simp, fun _ => ?_⟩⟩
  refine returns_ite.mpr ⟨by simp, fun _ => returns_ite.mpr ⟨by simp, fun _ => ?_⟩⟩
  exact returns_ok.mpr rfl

/-- The image is not there, or is not one. -/
def Unloadable (found : CloneFound) : Prop :=
  (∃ status, found.fsLoadImage = .ok status ∧ status ≠ 0) ∨
    ∃ status, found.fsCheckELFFile = .ok status ∧ status < 0

/-- The number that a clone returns. -/
def answer (child tid : Nat) (flags : UInt64) : Int :=
  if flags &&& F_CLONE_RETURN_TID ≠ 0 then tid else child

theorem loadChild_effect {process : Te} (there : t.teList child = some process) :
    Returns (loadChild found child tid flags t) fun out =>
      (Unloadable found ∧ out = (-1, t)) ∨
        (¬Unloadable found ∧ out = (answer child tid flags, t.setProcess child
          { process with pd0VA := found.pd0VA, pdpt0VA := found.pdpt0VA })) := by
  unfold loadChild
  refine returns_ite.mpr ⟨by simp, fun _ => returns_ite.mpr ⟨by simp, fun _ => ?_⟩⟩
  refine returns_bind.mpr fun status load => returns_ite.mpr ⟨fun missing => ?_, fun loaded => ?_⟩
  · exact returns_pure.mpr (.inl ⟨.inl ⟨status, load, missing⟩, rfl⟩)
  refine returns_bind.mpr fun check elf => returns_ite.mpr ⟨fun wrong => ?_, fun right => ?_⟩
  · exact returns_pure.mpr (.inl ⟨.inr ⟨check, elf, wrong⟩, rfl⟩)
  have loadable : ¬Unloadable found := by
    rintro (⟨status', load', missing⟩ | ⟨check', elf', wrong⟩)
    · cases load.symm.trans load'
      exact loaded missing
    · cases elf.symm.trans elf'
      exact right wrong
  refine returns_of_bind (buildTables_effect there) ?_
  rintro _ rfl
  unfold answer
  refine returns_ite.mpr ⟨fun asks => ?_, fun plain => ?_⟩
  · exact returns_pure.mpr (.inr ⟨loadable, by rw [if_pos asks]⟩)
  · exact returns_pure.mpr (.inr ⟨loadable, by rw [if_neg plain]⟩)

/-- The parent of a clone that goes on is a valid process of ring 3, and its flower
    a registered thread. -/
theorem checkParent_effect {pid : Int} : Returns (checkParent pid t) fun out =>
    ∀ flower, out = some flower → ∃ p1 thread, t.teList pid.toNat = some p1 ∧ p1.cpl = RING3 ∧
      t.threadList flower = some thread ∧ thread.tgid = p1.pid := by
  unfold checkParent
  refine returns_ite.mpr ⟨by simp, fun _ => ?_⟩
  split
  · simp
  rename_i p1 there
  refine returns_ite.mpr ⟨by simp, fun _ => returns_ite.mpr ⟨by simp, fun level => ?_⟩⟩
  refine returns_ite.mpr ⟨by simp, fun _ => ?_⟩
  split
  · simp
  rename_i thread father
  refine returns_ite.mpr ⟨by simp, fun _ => returns_ite.mpr ⟨by simp, fun _ => ?_⟩⟩
  refine returns_ite.mpr ⟨by simp, fun group => returns_ite.mpr ⟨by simp, fun _ => ?_⟩⟩
  refine returns_ite.mpr ⟨by simp, fun _ => returns_ite.mpr ⟨by simp, fun _ => ?_⟩⟩
  refine returns_ite.mpr ⟨by simp, fun _ => returns_ok.mpr fun flower is => ?_⟩
  rw [is, Option.bind_some] at father
  exact ⟨p1, thread, there, not_not.mp level, father, not_not.mp group⟩

/-- A clone that registered its child, and what it did beside. -/
structure Spawned (parent child tid : Nat) (t t' : Tables) : Prop where
  firstPid : getNewPid t = some child
  firstTid : nextFree t.threadList USER_THRESHOLD_TID THREAD_COUNT_MAX = some tid
  device : ∃ i, nextFree t.deviceList 0 DEVICE_LIST_MAX = some i ∧
    t'.deviceList = update t.deviceList i (some ⟨i⟩)
  process : ∃ p, t'.teList child = some p ∧ p.used = true ∧ p.magic = 1234 ∧ p.pid = child ∧
    p.cpl = RING3 ∧ p.flower = some tid ∧
      p.heapStart = t.heappoolVa + UInt64.ofNat t.heapCount * t.heapSize ∧
        p.heapSize = t.heapSize ∧ p.heapEnd = p.heapStart + t.heapSize
  thread : t'.threadList tid = some ⟨true, 1234, tid, some child, child, RING3, 3⟩
  processes : ∀ other, other ≠ child → other ≠ parent → t'.teList other = t.teList other
  threads : ∀ other, other ≠ tid → t'.threadList other = t.threadList other
  original : ∃ p1 objects, t.teList parent = some p1 ∧
    t'.teList parent = some { p1 with objects := objects } ∧ (p1.isTerminal = false →
      t'.teList parent = t.teList parent ∧ t'.fdCounter = addReferences p1.objects t.fdCounter)
  pool : t'.heapCount = t.heapCount + 1 ∧ t'.heappoolVa = t.heappoolVa ∧ t'.heapSize = t.heapSize
  apart : child ≠ parent

theorem Spawned.tables {process : Te} {a b : UInt64} (spawned : Spawned parent child tid t t')
    (there : t'.teList child = some process) : Spawned parent child tid t
      (t'.setProcess child { process with pd0VA := a, pdpt0VA := b }) := by
  have others : ∀ other, other ≠ child →
      (t'.setProcess child { process with pd0VA := a, pdpt0VA := b }).teList other =
        t'.teList other := fun other apart => update_of_ne apart ..
  refine { spawned with process := ?_, processes := ?_, original := ?_ }
  · obtain ⟨p, is, holds⟩ := spawned.process
    rw [there, Option.some.injEq] at is
    subst is
    exact ⟨_, update_self .., holds⟩
  · intro other apart stranger
    rw [others other apart, spawned.processes other apart stranger]
  · rw [others parent (Ne.symm spawned.apart)]
    exact spawned.original

theorem fillChild_effect {pml4 : UInt64} {i flower : Nat} {thread : Th}
    (there : t.teList parent = some p1) (ring : p1.cpl = RING3)
    (father : t.threadList flower = some thread) (free : getNewPid t = some child)
    (slot : nextFree t.deviceList 0 DEVICE_LIST_MAX = some i) :
    Returns (fillChild found parent flower child pml4 flags
      ((t.addDevice i).register child teObject)) fun out =>
        ∃ tid, Spawned parent child tid t out.2 ∧ ((Unloadable found ∧ out.1 = -1) ∨
          (¬Unloadable found ∧ out.1 = answer child tid flags)) := by
  unfold fillChild
  refine returns_ite.mpr ⟨by simp, fun apart => returns_ite.mpr ⟨by simp, fun _ => ?_⟩⟩
  have before : ((t.addDevice i).register child teObject).teList parent = some p1 := by
    simpa [Tables.register, Tables.addDevice, Ne.symm apart] using there
  refine returns_bind.mpr fun p1' found1 => ?_
  rw [need_ok, before, Option.some.injEq] at found1
  subst found1
  refine returns_bind.mpr fun p2 found2 => ?_
  rw [need_ok] at found2
  simp only [Tables.register, update_self, Option.some.injEq] at found2
  refine returns_bind.mpr fun status _ => returns_ite.mpr ⟨by simp, fun _ => ?_⟩
  -- The copy of the structure starts from the child with its addresses.
  have whole : (((t.addDevice i).register child teObject).setProcess child
      (p2.adopt p1 pml4)).teList child = some (p2.adopt p1 pml4) := update_self ..
  have still : (((t.addDevice i).register child teObject).setProcess child
      (p2.adopt p1 pml4)).teList parent = some p1 := by
    rw [← before]
    exact update_of_ne (Ne.symm apart) ..
  have plain : (p2.adopt p1 pml4).isTerminal = false := by
    rw [← found2]
    rfl
  refine returns_of_bind (copyProcessStruct_effect still whole apart plain) ?_
  rintro ⟨done, u⟩ copies
  refine returns_ite.mpr ⟨by simp, fun zero => ?_⟩
  obtain ⟨valid, copied⟩ := copies (not_not.mp zero)
  simp only at copied
  have threads : u.threadList = t.threadList := by
    rw [copied.rest]
    rfl
  have flowering : u.threadList flower = some thread := by rw [threads, father]
  refine returns_of_bind (copyThreadStruct_effect flowering) ?_
  rintro ⟨tid, v⟩ ⟨empty, made⟩
  simp only at made
  subst made
  obtain ⟨objects2, child_is⟩ := copied.copy
  obtain ⟨objects1, parent_is⟩ := copied.original
  refine returns_bind.mpr fun p3 found3 => ?_
  rw [need_ok] at found3
  have child_is := Option.some.inj (child_is.symm.trans found3)
  refine returns_bind.mpr fun th found4 => ?_
  rw [need_ok] at found4
  simp only [Tables.registerThread, update_self, Option.some.injEq] at found4
  subst found4
  -- The child and its thread are registered, and the image is what is left.
  have spawned : Spawned parent child tid t
      (((u.registerThread tid (newThread tid thread.tgid RING3)).setProcess child
        { p3 with flower := some tid }).setThread tid
          { newThread tid thread.tgid RING3 with te := some child, tgid := child }) := by
    refine ⟨free, ?_, ⟨i, slot, ?_⟩, ⟨_, update_self .., ?_⟩, ?_, ?_, ?_, ?_, ?_, apart⟩
    · rw [← threads]
      exact empty
    · simp only [Tables.setThread, Tables.setProcess, Tables.registerThread]
      rw [copied.rest]
      rfl
    · subst child_is found2
      exact ⟨valid.1, valid.2, rfl, ring, rfl, rfl, rfl, rfl⟩
    · refine (update_self ..).trans ?_
      simp [newThread, RING0, RING3]
    · intro other apart stranger
      have kept := copied.others other stranger apart
      simpa [Tables.setThread, Tables.setProcess, Tables.registerThread, Tables.register,
        Tables.addDevice, apart] using kept
    · intro other apart
      simp [Tables.setThread, Tables.setProcess, Tables.registerThread, apart, threads]
    · have here : (((u.registerThread tid (newThread tid thread.tgid RING3)).setProcess child
          { p3 with flower := some tid }).setThread tid
            { newThread tid thread.tgid RING3 with te := some child, tgid := child }).teList
            parent =
              u.teList parent := update_of_ne (Ne.symm apart) ..
      refine ⟨p1, objects1, there, here.trans parent_is, fun window => ?_⟩
      obtain ⟨same, counted⟩ := copied.plain window
      exact ⟨here.trans (same.trans (still.trans there.symm)), counted⟩
    · have count : u.heapCount = t.heapCount + 1 := by
        rw [copied.rest]
        rfl
      have start : u.heappoolVa = t.heappoolVa := by
        rw [copied.rest]
        rfl
      have size : u.heapSize = t.heapSize := by
        rw [copied.rest]
        rfl
      exact ⟨count, start, size⟩
  refine (loadChild_effect (update_self ..)).mono ?_
  rintro out (⟨unloadable, rfl⟩ | ⟨loadable, rfl⟩)
  · exact ⟨tid, spawned, .inl ⟨unloadable, rfl⟩⟩
  · exact ⟨tid, spawned.tables (update_self ..), .inr ⟨loadable, rfl⟩⟩

/-- What lets a clone create its child. -/
def Begins (found : CloneFound) (pid : Int) (flags : UInt64) (t : Tables) : Prop :=
  flags &&& F_CLONE_UNIX_STYLE = 0 ∧ (∃ flower, checkParent pid t = .ok (some flower)) ∧
    found.process.kmalloc 0 = .ok true ∧ getNewPid t ≠ none

/-- A clone that does not begin changes nothing. One that begins registers its child,
    and answers whether the image could be loaded. -/
def Clones (found : CloneFound) (pid : Int) (flags : UInt64) (t : Tables) (out : Int × Tables) :
    Prop :=
  (¬Begins found pid flags t ∧ out = (-1, t)) ∨
    (Begins found pid flags t ∧ ∃ child tid, Spawned pid.toNat child tid t out.2 ∧
      ((Unloadable found ∧ out.1 = -1) ∨ (¬Unloadable found ∧ out.1 = answer child tid flags)))

theorem createAndInitialize_none {found : Found} (ready : found.kmalloc 0 = .ok true)
    (room : getNewPid t ≠ none) :
    Returns (createAndInitializeProcessObject found t) fun out => out.1 ≠ none := by
  unfold createAndInitializeProcessObject
  refine returns_bind.mpr fun given answered => ?_
  cases ready.symm.trans answered
  refine returns_ite.mpr ⟨by simp, fun _ => ?_⟩
  split
  · rename_i full
    exact absurd full room
  · refine returns_bind.mpr fun _ _ => ?_
    refine returns_ite.mpr ⟨by simp, fun _ => returns_ite.mpr ⟨by simp, fun _ => ?_⟩⟩
    exact returns_ite.mpr ⟨by simp, fun _ => returns_pure.mpr (by simp)⟩

theorem createAndInitialize_some {found : Found} {u : Tables}
    (made : createAndInitializeProcessObject found t = .ok (some child, u)) :
    found.kmalloc 0 = .ok true ∧ getNewPid t ≠ none := by
  have ready : Returns (createAndInitializeProcessObject found t) fun out => out.1 ≠ none →
      found.kmalloc 0 = .ok true ∧ getNewPid t ≠ none := by
    unfold createAndInitializeProcessObject
    refine returns_bind.mpr fun given answered => returns_ite.mpr ⟨by simp, fun room => ?_⟩
    rw [not_not] at room
    rw [answered, room]
    split
    · simp
    · rename_i pid free
      refine returns_bind.mpr fun _ _ => ?_
      refine returns_ite.mpr ⟨by simp, fun _ => returns_ite.mpr ⟨by simp, fun _ => ?_⟩⟩
      exact returns_ite.mpr ⟨by simp, fun _ => returns_pure.mpr fun _ => ⟨rfl, by simp [free]⟩⟩
  exact ready _ made (by simp)

theorem copyProcess00_effect {filename : Option (List UInt8)} {pid : Int} :
    Returns (copyProcess00 found filename pid flags t) (Clones found pid flags t) := by
  unfold copyProcess00
  cases filename with
  | none => simp
  | some name =>
      refine returns_ite.mpr ⟨by simp, fun _ => returns_ite.mpr ⟨fun unix => ?_, fun style => ?_⟩⟩
      · exact returns_pure.mpr (.inl ⟨fun begins => unix begins.1, rfl⟩)
      rw [not_not] at style
      refine returns_bind.mpr fun pml4 _ => returns_ite.mpr ⟨by simp, fun _ => ?_⟩
      refine returns_bind.mpr fun checked check => ?_
      cases checked with
      | none =>
          refine returns_pure.mpr (.inl ⟨fun begins => ?_, rfl⟩)
          obtain ⟨_, ⟨flower, other⟩, _⟩ := begins
          cases check.symm.trans other
      | some flower =>
          refine returns_bind.mpr ?_
          rintro ⟨created, u⟩ made
          rcases createAndInitializeProcessObject_effect _ made with
            nothing | ⟨child, i, free, slot, whole⟩
          · cases nothing
            refine returns_pure.mpr (.inl ⟨fun begins => ?_, rfl⟩)
            exact createAndInitialize_none begins.2.2.1 begins.2.2.2 _ made rfl
          · cases whole
            obtain ⟨p1, thread, there, ring, father, _⟩ := checkParent_effect _ check flower rfl
            have begins : Begins found pid flags t :=
              ⟨style, ⟨flower, check⟩, createAndInitialize_some made⟩
            refine (fillChild_effect there ring father free slot).mono fun out spawned => ?_
            obtain ⟨tid, spawned, done⟩ := spawned
            exact .inr ⟨begins, child, tid, spawned, done⟩

theorem copyProcess_effect {filename : Option (List UInt8)} {pid : Int} :
    Returns (copyProcess found filename pid flags t) (Clones found pid flags t) := by
  refine returns_ite.mpr ⟨fun outside => returns_ok.mpr (.inl ⟨fun begins => ?_, rfl⟩), ?_⟩
  · obtain ⟨_, ⟨flower, checked⟩, _⟩ := begins
    rw [checkParent, if_pos outside] at checked
    cases checked
  · exact fun _ => copyProcess00_effect

/-- A clone that does not begin changes nothing. One that begins has registered its
    child and the thread of it in free slots when it returns, and fails if and only
    if the image cannot be loaded, with the child left there. -/
theorem clone_is_whole {filename : Option (List UInt8)} {pid value : Int}
    (returned : copyProcess found filename pid flags t = .ok (value, t')) :
    (¬Begins found pid flags t → value = -1 ∧ t' = t) ∧
      (Begins found pid flags t → ∃ child tid, t.teList child = none ∧ t.threadList tid = none ∧
        Spawned pid.toNat child tid t t' ∧ (value = -1 ↔ Unloadable found) ∧
          (¬Unloadable found → value = answer child tid flags)) := by
  rcases copyProcess_effect _ returned with ⟨no, same⟩ | ⟨begins, child, tid, spawned, outcome⟩
  · cases same
    exact ⟨fun _ => ⟨rfl, rfl⟩, fun begins => absurd begins no⟩
  refine ⟨fun no => absurd begins no, fun _ => ⟨child, tid, ?_, ?_, spawned, ?_⟩⟩
  · exact (nextFree_some spawned.firstPid).2.2
  · exact (nextFree_some spawned.firstTid).2.2
  rcases outcome with ⟨unloadable, failed⟩ | ⟨loadable, answered⟩
  · exact ⟨iff_of_true failed unloadable, fun loadable => absurd unloadable loadable⟩
  · refine ⟨iff_of_false ?_ loadable, fun _ => answered⟩
    -- A pid and a tid are no errors.
    have natural : 0 ≤ answer child tid flags := by
      unfold answer
      split_ifs
      · exact Int.natCast_nonneg tid
      · exact Int.natCast_nonneg child
    intro failed
    omega

end Effects

section Boot

/-- The kernel process, and the shell with its thread as the current one. -/
def kernelProcess : Te :=
  { teObject with used := true, magic := 1234 }

def shell : Te :=
  { teObject with
    used := true, magic := 1234, pid := 1, cpl := RING3, flower := some 100
    pml4VA := 4096, pdpt0VA := 8192, pd0VA := 12288 }

def booted : Tables where
  teList := fun i => if i = 0 then some kernelProcess else if i = 1 then some shell else none
  threadList := fun i => if i = 100 then some (newThread 100 1 RING3) else none
  deviceList := fun _ => none
  fdCounter := fun _ => 0
  heappoolVa := 0x30800000
  heapCount := 2
  heapSize := 32768
  threadsCounter := 1
  currentPid := 1
  currentTid := 100

/-- There is memory for everything, and the file is an image. -/
def enough : Found :=
  ⟨fun _ => .ok true, true, 1, 2, 3⟩

def image : CloneFound where
  process := enough
  thread := enough
  pml4 := .ok 4096
  allocMemoryForImageAndStack := .ok 0
  childImage := 4096
  childImagePA := 4096
  newFile := fun i => .ok (4 + i)
  fsLoadImage := .ok 0
  fsCheckELFFile := .ok 0
  tablePointer := 4096
  pd0VA := 4096
  pd0PA := 4096
  pdpt0VA := 4096
  pdpt0PA := 4096

end Boot

/-- The shell clones itself: its child is the process 2. -/
theorem shell_clones : ∃ t' child tid, copyProcess image (some [97]) 1 0 booted = .ok (2, t') ∧
    Spawned 1 child tid booted t' ∧ (2 : Int) = answer child tid 0 := by
  have returns : ∃ t', copyProcess image (some [97]) 1 0 booted = .ok (2, t') := ⟨_, rfl⟩
  have begins : Begins image 1 0 booted := ⟨rfl, ⟨100, rfl⟩, rfl, nofun⟩
  obtain ⟨t', returned⟩ := returns
  obtain ⟨child, tid, _, _, spawned, same, answered⟩ := (clone_is_whole returned).2 begins
  have loadable : ¬Unloadable image := fun unloadable => absurd (same.mpr unloadable) (by decide)
  exact ⟨t', child, tid, returned, spawned, answered loadable⟩

end Gramado.Ke.Creation
