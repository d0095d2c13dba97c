/-
`sys_pipe` of pipe.c: two slots of the current process, four objects from the kernel heap,
and what is undone where one of them is missing. Pointers are numbers, 0 for NULL.
-/
import Gramado.Fs.Pipe
import Gramado.Lib.Search
import Mathlib.Logic.Function.Basic

namespace Gramado.Fs.PipeCreation

open Gramado.Lib
open Function

def OPEN_MAX : Nat := 32

/-- The fields of `struct file_d` that `sys_pipe` sets, `can_read` to `can_connect` being
    those of `sync`. -/
structure FileObject where
  used : Bool
  magic : Int
  object : ObjectType
  pid : Int
  uid : Int
  gid : Int
  senderPid : Int
  receiverPid : Int
  action : Int
  canRead : Bool
  canWrite : Bool
  canExecute : Bool
  canAccept : Bool
  canConnect : Bool
  tmpfname : Nat
  base : Nat
  p : Nat
  lbfsize : Int
  fsize : Int
  cnt : Int
  r : Int
  w : Int
  fd : Nat
  pipeInfo : Nat

/-- `struct pipe_info_d` -/
structure PipeObject where
  base : Nat
  bufferSize : Int
  counter : Int
  writePos : Int
  readPos : Int

structure Process where
  used : Bool
  magic : Int
  objects : Nat → Nat

/-- The current process with its user and group, the caller's array, and the structures
    that lie in the kernel heap. -/
structure System where
  currentProcess : Int
  currentUser : Int
  currentGroup : Int
  process : Option Process
  pipefd : Int × Int
  files : Nat → FileObject
  pipes : Nat → PipeObject

def System.setObjects (s : System) (process : Process) (objects : Nat → Nat) : System :=
  { s with process := some { process with objects := objects } }

/-- The first free slot from `low` on. -/
def freeSlot (process : Process) (low : Nat) : Option Nat :=
  Search.first OPEN_MAX fun i => low ≤ i ∧ process.objects i = 0

/-- What is set in a file structure; `pipe_info` stays as it was in the heap. -/
def initFile (s : System) (raw : FileObject) (shBuff slot : Nat) : FileObject :=
  { raw with
    used := true
    magic := 1234
    object := .pipe
    pid := s.currentProcess
    uid := s.currentUser
    gid := s.currentGroup
    senderPid := -1
    receiverPid := -1
    action := 0
    canRead := true
    canWrite := true
    canExecute := false
    canAccept := false
    canConnect := false
    tmpfname := 0
    base := shBuff
    p := shBuff
    lbfsize := BUFSIZ
    fsize := 0
    cnt := BUFSIZ
    r := 0
    w := 0
    fd := slot }

/-- Both structures are set, put into the slots, and the slots are given to the caller. -/
def install (s : System) (process : Process) (slot1 slot2 shBuff f1 f2 : Nat) : System :=
  let files := update s.files f1 (initFile s (s.files f1) shBuff slot1)
  let files := update files f2 (initFile s (files f2) shBuff slot2)
  { s.setObjects process (update (update process.objects slot1 f1) slot2 f2) with
    files := files
    pipefd := (slot1, slot2) }

/-- The pipe information is set and linked to both structures. -/
def link (s : System) (shBuff f1 f2 pi : Nat) : System :=
  let files := update s.files f1 { s.files f1 with pipeInfo := pi }
  { s with
    pipes := update s.pipes pi ⟨shBuff, BUFSIZ, 0, 0, 0⟩
    files := update files f2 { files f2 with pipeInfo := pi } }

/-- `kmalloc` says what its calls return, the first one being number 0. -/
def sysPipe (s : System) (kmalloc : Nat → Nat) : Int × System :=
  match s.process with
  | none => (-1, s)
  | some process =>
      if process.used ≠ true ∨ process.magic ≠ 1234 then
        (-1, s)
      else
        let slot1 := freeSlot process 3
        -- without a first slot, -1 + 1 is where the second search begins
        let slot2 := freeSlot process (slot1.elim 0 fun slot => slot + 1)
        match slot1, slot2 with
        | some slot1, some slot2 =>
            let cleared := s.setObjects process (update (update process.objects slot1 0) slot2 0)
            if kmalloc 0 = 0 then
              (-1, cleared)
            else if kmalloc 1 = 0 ∨ kmalloc 2 = 0 then
              (-1, cleared)
            else
              let s := install s process slot1 slot2 (kmalloc 0) (kmalloc 1) (kmalloc 2)
              if kmalloc 3 = 0 then
                (-1, s)
              else
                (0, link s (kmalloc 0) (kmalloc 1) (kmalloc 2) (kmalloc 3))
        | _, _ => (-1, s)

/-- Nothing that the process or the caller has was changed. -/
def Untouched (s t : System) : Prop :=
  t.process = s.process ∧ t.pipefd = s.pipefd

/-- Two slots that were free are taken by the ends of one pipe, and no other slot. -/
structure Opened (s t : System) (process : Process) (slot1 slot2 f1 f2 : Nat) : Prop where
  before : s.process = some process
  apart : slot1 ≠ slot2
  free1 : process.objects slot1 = 0
  free2 : process.objects slot2 = 0
  objects : t.process =
    some { process with objects := update (update process.objects slot1 f1) slot2 f2 }
  pipefd : t.pipefd = ((slot1 : Int), (slot2 : Int))
  some1 : f1 ≠ 0
  some2 : f2 ≠ 0
  pipe1 : (t.files f1).object = .pipe
  pipe2 : (t.files f2).object = .pipe
  shared : (t.files f1).pipeInfo = (t.files f2).pipeInfo
  some_pipe : (t.files f1).pipeInfo ≠ 0

/-- The first end is for reading only, the second for writing only. -/
def OneWay (t : System) (f1 f2 : Nat) : Prop :=
  (t.files f1).canRead = true ∧ (t.files f1).canWrite = false ∧
    (t.files f2).canRead = false ∧ (t.files f2).canWrite = true

def Atomic (s : System) (out : Int × System) : Prop :=
  (out.1 < 0 → Untouched s out.2) ∧
    (out.1 = 0 → ∃ process slot1 slot2 f1 f2,
      Opened s out.2 process slot1 slot2 f1 f2 ∧ OneWay out.2 f1 f2)

/-- The call comes to the point where the two files are installed. -/
structure Installs (s : System) (kmalloc : Nat → Nat) (process : Process) : Prop where
  current : s.process = some process
  valid : process.used = true ∧ process.magic = 1234
  two_free : ∃ i j, 3 ≤ i ∧ i < j ∧ j < OPEN_MAX ∧ process.objects i = 0 ∧ process.objects j = 0
  buffer : kmalloc 0 ≠ 0
  files : kmalloc 1 ≠ 0 ∧ kmalloc 2 ≠ 0

section Slots

variable {process : Process}

theorem freeSlot_eq_some {low slot : Nat} : freeSlot process low = some slot ↔
    (low ≤ slot ∧ process.objects slot = 0) ∧ slot < OPEN_MAX ∧
      ∀ j, j < slot → ¬(low ≤ j ∧ process.objects j = 0) :=
  Search.first_eq_some

theorem freeSlot_eq_none {low : Nat} : freeSlot process low = none ↔
    ∀ j, j < OPEN_MAX → ¬(low ≤ j ∧ process.objects j = 0) :=
  Search.first_eq_none

/-- The searches succeed exactly if there are two free slots from 3 on. -/
theorem two_slots : (∃ slot1 slot2, freeSlot process 3 = some slot1 ∧
      freeSlot process (slot1 + 1) = some slot2) ↔
    ∃ i j, 3 ≤ i ∧ i < j ∧ j < OPEN_MAX ∧ process.objects i = 0 ∧ process.objects j = 0 := by
  constructor
  · rintro ⟨slot1, slot2, first, second⟩
    rw [freeSlot_eq_some] at first second
    obtain ⟨⟨low, free1⟩, -, -⟩ := first
    obtain ⟨⟨behind, free2⟩, inside, -⟩ := second
    exact ⟨slot1, slot2, low, behind, inside, free1, free2⟩
  · rintro ⟨i, j, low, before, inside, free1, free2⟩
    obtain ⟨slot1, first⟩ := Option.ne_none_iff_exists'.mp fun none =>
      freeSlot_eq_none.mp none i (by omega) ⟨low, free1⟩
    have front := (freeSlot_eq_some.mp first).2.2
    have early : slot1 ≤ i := by
      by_contra late
      exact front i (by omega) ⟨low, free1⟩
    obtain ⟨slot2, second⟩ := Option.ne_none_iff_exists'.mp fun none =>
      @freeSlot_eq_none process (slot1 + 1) |>.mp none j inside ⟨by omega, free2⟩
    exact ⟨slot1, slot2, first, second⟩

end Slots

section Calls

variable {s : System} {kmalloc : Nat → Nat} {process : Process}

theorem clear_free {slot1 slot2 : Nat} (free1 : process.objects slot1 = 0)
    (free2 : process.objects slot2 = 0) :
    update (update process.objects slot1 0) slot2 0 = process.objects := by
  rw [← free1, update_eq_self, free1, ← free2, update_eq_self]

/-- A call that does not get to the installation fails and changes nothing. -/
theorem sysPipe_early (early : ∀ process, ¬Installs s kmalloc process) :
    (sysPipe s kmalloc).1 = -1 ∧ Untouched s (sysPipe s kmalloc).2 := by
  have same : Untouched s s := ⟨rfl, rfl⟩
  cases current : s.process with
  | none => simpa only [sysPipe, current, true_and] using same
  | some process =>
      by_cases invalid : process.used ≠ true ∨ process.magic ≠ 1234
      · simpa only [sysPipe, current, if_pos invalid, true_and] using same
      · have valid : process.used = true ∧ process.magic = 1234 := by
          simpa only [not_or, not_not] using invalid
        simp only [sysPipe, current, if_neg invalid]
        cases first : freeSlot process 3 with
        | none => simpa only [true_and] using same
        | some slot1 =>
            simp only [Option.elim_some]
            cases second : freeSlot process (slot1 + 1) with
            | none => simpa only [true_and] using same
            | some slot2 =>
                have slots := two_slots.mp ⟨slot1, slot2, first, second⟩
                have free1 := (freeSlot_eq_some.mp first).1.2
                have free2 := (freeSlot_eq_some.mp second).1.2
                have undone : Untouched s (s.setObjects process
                    (update (update process.objects slot1 0) slot2 0)) := by
                  rw [clear_free free1 free2]
                  exact ⟨current.symm, rfl⟩
                by_cases buffer : kmalloc 0 = 0
                · simpa only [if_pos buffer, true_and] using undone
                · by_cases files : kmalloc 1 = 0 ∨ kmalloc 2 = 0
                  · simpa only [if_neg buffer, if_pos files, true_and] using undone
                  · exact absurd ⟨current, valid, slots, buffer, not_or.mp files⟩ (early process)

/-- A call that gets there has taken two free slots, whatever it returns. -/
theorem sysPipe_late (late : Installs s kmalloc process) : ∃ slot1 slot2,
    freeSlot process 3 = some slot1 ∧ freeSlot process (slot1 + 1) = some slot2 ∧
      sysPipe s kmalloc =
        if kmalloc 3 = 0 then
          (-1, install s process slot1 slot2 (kmalloc 0) (kmalloc 1) (kmalloc 2))
        else
          (0, link (install s process slot1 slot2 (kmalloc 0) (kmalloc 1) (kmalloc 2))
            (kmalloc 0) (kmalloc 1) (kmalloc 2) (kmalloc 3)) := by
  obtain ⟨slot1, slot2, first, second⟩ := two_slots.mpr late.two_free
  have valid : ¬(process.used ≠ true ∨ process.magic ≠ 1234) := by
    rintro (unused | strange)
    · exact unused late.valid.1
    · exact strange late.valid.2
  refine ⟨slot1, slot2, first, second, ?_⟩
  simp only [sysPipe, late.current, if_neg valid, first, Option.elim_some, second,
    if_neg late.buffer, if_neg (not_or.mpr late.files)]

theorem link_files {shBuff f1 f2 pi k : Nat} : (link s shBuff f1 f2 pi).files k =
    if k = f1 ∨ k = f2 then { s.files k with pipeInfo := pi } else s.files k := by
  simp only [link, update_apply]
  split <;> split <;> simp_all

theorem install_files {slot1 slot2 shBuff f1 f2 k : Nat} (installed : k = f1 ∨ k = f2) :
    ∃ raw slot, (install s process slot1 slot2 shBuff f1 f2).files k =
      initFile s raw shBuff slot := by
  simp only [install, update_apply]
  by_cases second : k = f2
  · exact ⟨_, _, if_pos second⟩
  · rw [if_neg second, if_pos (installed.resolve_right second)]
    exact ⟨_, _, rfl⟩

theorem writable {slot1 slot2 k : Nat} (installed : k = kmalloc 1 ∨ k = kmalloc 2) :
    ((link (install s process slot1 slot2 (kmalloc 0) (kmalloc 1) (kmalloc 2))
      (kmalloc 0) (kmalloc 1) (kmalloc 2) (kmalloc 3)).files k).canWrite = true := by
  obtain ⟨raw, slot, file⟩ := @install_files s process slot1 slot2 (kmalloc 0) _ _ _ installed
  rw [link_files, if_pos installed, file]
  rfl

theorem sysPipe_opened (late : Installs s kmalloc process) (pi : kmalloc 3 ≠ 0) :
    (sysPipe s kmalloc).1 = 0 ∧ ∃ slot1 slot2,
      Opened s (sysPipe s kmalloc).2 process slot1 slot2 (kmalloc 1) (kmalloc 2) := by
  obtain ⟨slot1, slot2, first, second, done⟩ := sysPipe_late late
  rw [freeSlot_eq_some] at first second
  rw [done, if_neg pi]
  obtain ⟨raw1, fd1, file1⟩ := @install_files s process slot1 slot2 (kmalloc 0) (kmalloc 1)
    (kmalloc 2) _ (Or.inl rfl)
  obtain ⟨raw2, fd2, file2⟩ := @install_files s process slot1 slot2 (kmalloc 0) (kmalloc 1)
    (kmalloc 2) _ (Or.inr rfl)
  refine ⟨rfl, slot1, slot2, late.current, ?_, first.1.2, second.1.2, rfl, rfl, late.files.1,
    late.files.2, ?_, ?_, ?_, ?_⟩
  · have behind := second.1.1
    omega
  · rw [link_files, if_pos (Or.inl rfl), file1]
    rfl
  · rw [link_files, if_pos (Or.inr rfl), file2]
    rfl
  · rw [link_files, link_files, if_pos (Or.inl rfl), if_pos (Or.inr rfl)]
  · rw [link_files, if_pos (Or.inl rfl)]
    exact pi

end Calls

/-- A call does what is asked of it exactly if it fails before the files are installed: the
    exit behind that undoes nothing, and both ends are opened for reading and writing. -/
theorem sysPipe_atomic_iff (s : System) (kmalloc : Nat → Nat) :
    Atomic s (sysPipe s kmalloc) ↔ ∀ process, ¬Installs s kmalloc process := by
  constructor
  · rintro ⟨failed, opened⟩ process late
    obtain ⟨slot1, slot2, first, second, done⟩ := sysPipe_late late
    have free1 := (freeSlot_eq_some.mp first).1.2
    have behind := (freeSlot_eq_some.mp second).1.1
    rw [done] at failed opened
    by_cases none : kmalloc 3 = 0
    · rw [if_pos none] at failed
      -- the first slot was free, and is not
      have negative : (-1 : Int) < 0 := by decide
      have same := (failed negative).1
      rw [late.current] at same
      have taken := congrArg Process.objects (Option.some.inj same)
      have slot := congrFun taken slot1
      rw [free1] at slot
      change update (update process.objects slot1 (kmalloc 1)) slot2 (kmalloc 2) slot1 = 0 at slot
      rw [update_of_ne (by omega), update_self] at slot
      exact late.files.1 slot
    · rw [if_neg none] at opened
      obtain ⟨other, i, j, f1, f2, opened, one_way⟩ := opened rfl
      have same : other = process := Option.some.inj (opened.before.symm.trans late.current)
      subst same
      have objects := congrFun (congrArg Process.objects (Option.some.inj opened.objects)) i
      change update (update other.objects slot1 (kmalloc 1)) slot2 (kmalloc 2) i =
        update (update other.objects i f1) j f2 i at objects
      rw [update_of_ne opened.apart, update_self] at objects
      have installed : f1 = kmalloc 1 ∨ f1 = kmalloc 2 := by
        by_cases last : i = slot2
        · rw [last, update_self] at objects
          exact Or.inr objects.symm
        · rw [update_of_ne last] at objects
          by_cases front : i = slot1
          · rw [front, update_self] at objects
            exact Or.inl objects.symm
          · rw [update_of_ne front, opened.free1] at objects
            exact absurd objects.symm opened.some1
      have writes := @writable s kmalloc other slot1 slot2 f1 installed
      rw [one_way.2.1] at writes
      cases writes
  · intro early
    obtain ⟨value, same⟩ := sysPipe_early early
    refine ⟨fun _ => same, fun zero => ?_⟩
    rw [value] at zero
    cases zero

/-- The structure as the stream functions look at it: `_p` relative to `_base`, and the
    buffer as the memory from there on. -/
def FileObject.view (f : FileObject) (flags : UInt16) (mem : Nat → UInt8) : File where
  object := f.object
  used := f.used
  magic := f.magic
  base := fun k => mem (f.base + k.toNat)
  p := (f.p : Int) - f.base
  lbfsize := f.lbfsize
  fsize := f.fsize
  r := f.r
  w := f.w
  cnt := f.cnt
  flags := flags
  canRead := f.canRead
  canWrite := f.canWrite

/-- What is installed are the two ends that the reads and writes of a pipe begin with. -/
theorem initFile_view (s : System) (raw : FileObject) (shBuff slot : Nat) (flags : UInt16)
    (mem : Nat → UInt8) : (initFile s raw shBuff slot).view flags mem =
      pipeEnd (raw.view flags mem) fun k => mem (shBuff + k.toNat) := by
  simp [FileObject.view, initFile, pipeEnd]

/-- A process without files, whose call gets its first three objects only. -/
def idle : System where
  currentProcess := 0
  currentUser := 0
  currentGroup := 0
  process := some ⟨true, 1234, fun _ => 0⟩
  pipefd := (-1, -1)
  files := fun _ => ⟨false, 0, .other 0, 0, 0, 0, 0, 0, 0, false, false, false, false, false, 0, 0,
    0, 0, 0, 0, 0, 0, 0, 0⟩
  pipes := fun _ => ⟨0, 0, 0, 0, 0⟩

/-- The fourth allocation fails: -1 is returned, and two files are open. -/
theorem pipe_info_missing : ¬∀ (s : System) (kmalloc : Nat → Nat),
    Atomic s (sysPipe s kmalloc) := by
  intro all
  have late : Installs idle (fun k => if k = 3 then 0 else 0x1000 * (k + 1))
    ⟨true, 1234, fun _ => 0⟩ :=
    ⟨rfl, ⟨rfl, rfl⟩, ⟨3, 4, by decide, by decide, by decide, rfl, rfl⟩, by decide, by decide⟩
  exact (sysPipe_atomic_iff idle _).mp (all idle _) _ late

end Gramado.Fs.PipeCreation
