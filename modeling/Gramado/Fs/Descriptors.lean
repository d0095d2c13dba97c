/-
The calls that put file structures into the slots of a process and take them out:
`sys_dup`, `sys_dup2`, `sys_dup3` and `sys_pipe` of pipe.c, `fs_duplicate_fd`,
`__open_imp` and `__close_imp` of fslib.c, and `sys_open_device_by_number` of fs.c. The file
structures are numbered in the order in which the heap gives them, 0 for NULL. What the
routines of the disk and the other calls to the heap return is part of a request.
-/
import Gramado.Fs.Close
import Gramado.Gramnet.Http
import Gramado.Lib.References

namespace Gramado.Fs.Descriptors

open Gramado.Ke
open Gramado.Gramnet.Http (bytes)
open Gramado.Fs.Close (PROCESS_COUNT_MAX ObjectTypeVirtualConsole closeImp)
open Gramado.Fs.Fat16 (fat16SaveFile gramadoStrncmp strlen)
open Gramado.Fs.PipeCreation (OPEN_MAX Process freeSlot)
open Gramado.Lib
open Function

def EFAULT : Int := 14

def EMFILE : Int := 24

def STDOUT_FILENO : Int := 1

def O_CREAT : UInt32 := 0x0200

def DEVICE_LIST_MAX : Nat := 512

/-- The fields of `struct file_d` that `Close.FileObject` leaves out. `fd` is `_file`. -/
structure Counting where
  fdCounter : Int
  isDevice : Bool
  fd : Int

/-- An entry of `dev_dir`. -/
structure DevDirEntry where
  magic : Int
  initialized : Bool
  fp : Nat

/-- `struct device_d`, with `_fp` under the name `fp`. -/
structure Device where
  magic : Int
  mountPoint : Option (List UInt8)
  fp : Nat

/-- `made` is the number of the last file structure, and `running` says that `system_state` is
    `SYSTEM_RUNNING`. -/
structure System where
  core : Close.System
  counting : Nat → Counting
  made : Nat
  running : Bool
  devDir : Nat → DevDirEntry
  deviceList : Nat → Option Device

def System.pid (s : System) : Nat :=
  s.core.currentProcess.toNat

def System.setObjects (s : System) (p : Process) (objects : Nat → Nat) : System :=
  { s with core := { s.core with
      teList := update s.core.teList s.pid (some { p with objects := objects }) } }

def System.setObject (s : System) (p : Process) (fd fp : Nat) : System :=
  s.setObjects p (update p.objects fd fp)

def System.setFile (s : System) (f : Nat) (file : Close.FileObject) : System :=
  { s with core := { s.core with files := update s.core.files f file } }

def System.setCounting (s : System) (f : Nat) (counting : Counting) : System :=
  { s with counting := update s.counting f counting }

def System.addCounter (s : System) (f : Nat) (n : Int) : System :=
  s.setCounting f { s.counting f with fdCounter := (s.counting f).fdCounter + n }

section Duplicates

def getCurrentProcessStruct (s : System) : Option Process :=
  match s.core.teList s.pid with
  | none => none
  | some p => if p.used ≠ true ∨ p.magic ≠ 1234 then none else some p

def kFclose (s : System) (f : Nat) : Int × System :=
  if f = 0 then
    (EOF, s)
  else if (s.core.files f).used ≠ true then
    (EOF, s)
  else if (s.core.files f).magic ≠ 1234 then
    (EOF, s)
  else
    (0, s.setFile f { s.core.files f with used := true, magic := 4321 })

def sysDup (s : System) (oldfd : Int) : Int × System :=
  if oldfd < 0 ∨ oldfd ≥ OPEN_MAX then
    (-EBADF, s)
  else
    match getCurrentProcessStruct s with
    | none => (-EBADF, s)
    | some p =>
        let fp := p.objects oldfd.toNat
        if fp = 0 then
          (-EBADF, s)
        else
          match freeSlot p 0 with
          | none => (-EMFILE, s)
          | some newfd => (newfd, (s.setObject p newfd fp).addCounter fp 1)

/-- What `sys_dup2` and `sys_dup3` do to the structure that was in the slot. -/
def dropReference (s : System) (f : Nat) : System :=
  let t := s.addCounter f (-1)
  if (t.counting f).fdCounter ≤ 0 then (kFclose t f).2 else t

/-- Where both of them go on with a file for the slot. -/
def pointTo (s : System) (p : Process) (newfd fp : Nat) : System :=
  let old := p.objects newfd
  let t := if old ≠ 0 then (dropReference s old).setObject p newfd 0 else s
  (t.setObject p newfd fp).addCounter fp 1

def sysDup2 (s : System) (oldfd newfd : Int) : Int × System :=
  if oldfd < 0 ∨ oldfd ≥ OPEN_MAX ∨ newfd < 0 ∨ newfd ≥ OPEN_MAX then
    (-EBADF, s)
  else
    match getCurrentProcessStruct s with
    | none => (-EBADF, s)
    | some p =>
        let fp := p.objects oldfd.toNat
        if fp = 0 then
          (-EBADF, s)
        else if oldfd = newfd then
          (newfd, s)
        else
          (newfd, pointTo s p newfd.toNat fp)

/-- The flags are not looked at. -/
def sysDup3 (s : System) (oldfd newfd : Int) (_flags : Int) : Int × System :=
  if oldfd < 0 ∨ oldfd ≥ OPEN_MAX ∨ newfd < 0 ∨ newfd ≥ OPEN_MAX then
    (-EBADF, s)
  else if oldfd = newfd then
    (-EINVAL, s)
  else
    match getCurrentProcessStruct s with
    | none => (-EBADF, s)
    | some p =>
        let fp := p.objects oldfd.toNat
        if fp = 0 then
          (-EBADF, s)
        else
          (newfd, pointTo s p newfd.toNat fp)

def fsDuplicateFd (s : System) (oldfd start : Int) : Int × System :=
  if oldfd < 0 ∨ oldfd ≥ OPEN_MAX then
    (-EBADF, s)
  else if start < 0 ∨ start ≥ OPEN_MAX then
    (-EINVAL, s)
  else
    match s.core.teList s.pid with
    | none => (-EBADF, s)
    | some p =>
        if p.magic ≠ 1234 then
          (-EBADF, s)
        else
          let fp := p.objects oldfd.toNat
          if fp = 0 then
            (-EBADF, s)
          else if (s.core.files fp).magic ≠ 1234 then
            (-EBADF, s)
          else
            match freeSlot p start.toNat with
            | none => (-EMFILE, s)
            | some newfd => (newfd, s.setObject p newfd fp)

end Duplicates

section Devices

def sysOpenDeviceByNumber (s : System) (deviceIndex : Int) : Except Stop (Int × System) :=
  let entry := s.devDir deviceIndex.toNat
  if deviceIndex < 0 ∨ deviceIndex ≥ 32 then
    .ok (-EINVAL, s)
  else if entry.magic ≠ 1234 then
    .ok (-1, s)
  else if entry.initialized ≠ true then
    .ok (-1, s)
  else if entry.fp = 0 then
    .ok (-1, s)
  else if (s.core.files entry.fp).magic ≠ 1234 then
    .ok (-1, s)
  else if s.core.currentProcess < 0 ∨ s.core.currentProcess ≥ PROCESS_COUNT_MAX then
    .ok (-1, s)
  else
    match s.core.teList s.pid with
    | none => .ok (-1, s)
    | some p =>
        if p.used ≠ true ∨ p.magic ≠ 1234 then
          .ok (-1, s)
        else
          match freeSlot p 0 with
          | none => .error (.panic "sys_open_device_by_number: No slots!\n")
          | some slot => .ok (slot, s.setObject p slot entry.fp)

/-- The test that `devmgr_search_in_dev_list` makes of an entry. -/
def mountedAt (path : List UInt8) : Option Device → Bool
  | none => false
  | some device =>
      device.magic = 1234 ∧
        device.mountPoint.any fun mount => gramadoStrncmp mount path (strlen path) = 0

def devmgrSearchInDevList (s : System) (path : List UInt8) : Nat :=
  if strlen path ≥ 64 then
    0
  else
    match Search.first DEVICE_LIST_MAX fun i => mountedAt path (s.deviceList i) = true with
    | none => 0
    | some i => (s.deviceList i).elim 0 Device.fp

end Devices

section Opens

/-- What the routines of the disk and of the heap give `do_read_file_from_disk`, in the order
    in which it asks them, and how they leave the disk. The directories are those of
    `sdGRAMADO` and `sdDE`, set up and with an address. -/
structure Loading where
  sdGRAMADO : Bool
  sdDE : Bool
  status : Except Stop Int
  buff : Bool
  saved : Except Stop Int
  fp : Bool
  base : UInt64
  fileSize : Except Stop UInt64
  larger : UInt64
  loaded : Except Stop Int
  disk : Fat16.System

/-- Up to `__go`: whether the file is there, or was made. -/
def Loading.found (l : Loading) (fileName : List UInt8) (flags : UInt32) : Except Stop Bool :=
  let name := if fileName.head? = some 47 then fileName.tail else fileName
  if name.head? = some 64 ∧ l.sdGRAMADO ≠ true then
    .ok false
  else if name.head? = some 35 ∧ l.sdDE ≠ true then
    .ok false
  else do
    let status ← l.status
    if status = 1 then
      .ok true
    else if flags &&& O_CREAT = 0 then
      .ok false
    else if l.buff ≠ true then
      .ok false
    else
      let saved ← l.saved
      .ok (decide (saved ≥ 0))

/-- Whether the contents are loaded, and the buffer of the structure with its size. -/
def Loading.contents (l : Loading) : Except Stop (Bool × UInt64 × Int32) :=
  let load (base : UInt64) (lbfsize : Int32) : Except Stop (Bool × UInt64 × Int32) := do
    let status ← l.loaded
    .ok (decide (status ≥ 0), base, lbfsize)
  if l.base = 0 then
    .ok (false, 0, 1024)
  else do
    let fileSize ← l.fileSize
    -- `size_t` is `int`.
    let size := fileSize.toUInt32.toInt32
    if size ≤ 0 then
      .ok (false, l.base, 1024)
    else if size ≥ 1024 then
      if size > 8 * 1024 then
        .ok (false, l.base, 1024)
      else if l.larger = 0 then
        .ok (false, 0, 1024)
      else
        load l.larger (size + 8)
    else
      load l.base 1024

/-- The structure that is filled in for a file of the disk. -/
def System.newFile (s : System) (slot : Nat) (base : UInt64) (lbfsize : Int32) : System :=
  let t := (s.setFile (s.made + 1) ⟨true, 1234, .file, 0, none, lbfsize, base⟩).setCounting
    (s.made + 1) ⟨1, false, slot⟩
  { t with made := s.made + 1 }

def getCurrentProcessPointer (s : System) : Option Process :=
  if s.running ≠ true then
    none
  else if s.core.currentProcess < 0 ∨ s.core.currentProcess ≥ PROCESS_COUNT_MAX then
    none
  else
    getCurrentProcessStruct s

/-- The file pointer, none for NULL. A structure that cannot be filled stays in the heap. -/
def doReadFileFromDisk (s : System) (fileName : List UInt8) (flags : UInt32) (l : Loading) :
    Except Stop (Option Nat × System) := do
  let s := { s with core := { s.core with disk := l.disk } }
  let found ← l.found fileName flags
  if found ≠ true then
    .ok (none, s)
  else
    match getCurrentProcessPointer s with
    | none => .ok (none, s)
    | some p =>
        match freeSlot p 0 with
        | none => .ok (none, s)
        | some slot =>
            if l.fp ≠ true then
              .ok (none, s)
            else
              let out ← l.contents
              let t := s.newFile slot out.2.1 out.2.2
              if out.1 ≠ true then .ok (none, t) else .ok (some t.made, t.setObject p slot t.made)

/-- The names that are taken for the current console. -/
def consoleNames : List (List UInt8) :=
  ["/dev/tty", "/DEV/TTY", "/dev/console", "/DEV/CONSOLE"].map bytes

/-- What `__open_imp` makes of the file pointer. -/
def openedFd (s : System) : Option Nat → Int
  | none => -1
  | some fp =>
      if (s.core.files fp).used ≠ true ∨ (s.core.files fp).magic ≠ 1234 then -1
      else if (s.counting fp).fd < 0 ∨ (s.counting fp).fd > 31 then -1
      else (s.counting fp).fd

/-- `__open_imp`. A path is the string that the pointer leads to, none for NULL. -/
def openImp (s : System) (pathname : Option (List UInt8)) (flags : UInt32) (l : Loading) :
    Except Stop (Int × System) :=
  let path := pathname.getD []
  let name := (path.takeWhile (· ≠ 0)).take 254
  if name = [] then
    .ok (-EFAULT, s)
  else if s.core.currentProcess < 0 ∨ s.core.currentProcess ≥ PROCESS_COUNT_MAX then
    .ok (-1, s)
  else
    match s.core.teList s.pid with
    | none => .ok (-1, s)
    | some p =>
        if p.used ≠ true ∨ p.magic ≠ 1234 then
          .ok (-1, s)
        else if consoleNames.any fun console => gramadoStrncmp name console console.length = 0 then
          .ok (STDOUT_FILENO, s)
        else
          let fp := devmgrSearchInDevList s name
          if fp ≠ 0 ∧ (s.counting fp).isDevice = true then
            match freeSlot p 0 with
            | none => .ok (-EMFILE, s)
            | some fd =>
                let t := s.setCounting fp { s.counting fp with fd := fd }
                .ok (fd, (t.setObject p fd fp).addCounter fp 1)
          else do
            let out ← doReadFileFromDisk s name flags l
            .ok (openedFd out.2 out.1, out.2)

end Opens

section Pipes

/-- What the heap gives `sys_pipe`: the shared buffer, 0 for NULL, whether it gives the two
    file structures, and whether it gives the pipe information. -/
structure PipeHeap where
  shBuff : UInt64
  f1 : Bool
  f2 : Bool
  pi : Bool

/-- What is set in a file structure; everything else is what the heap has there. -/
def pipeFile (raw : Close.FileObject) (shBuff : UInt64) : Close.FileObject :=
  { raw with
    used := true
    magic := 1234
    object := .pipe
    tmpfname := none
    lbfsize := 1024
    base := shBuff }

/-- Both structures are set and put into the slots. -/
def installPipe (s : System) (p : Process) (slot1 slot2 : Nat) (shBuff : UInt64) : System :=
  let f1 := s.made + 1
  let f2 := s.made + 2
  let t := (s.setFile f1 (pipeFile (s.core.files f1) shBuff)).setFile f2
    (pipeFile (s.core.files f2) shBuff)
  let t := (t.setCounting f1 { s.counting f1 with fd := slot1 }).setCounting f2
    { s.counting f2 with fd := slot2 }
  { t.setObjects p (update (update p.objects slot1 f1) slot2 f2) with made := f2 }

def sysPipe (s : System) (heap : PipeHeap) : Int × System :=
  match s.core.teList s.pid with
  | none => (-1, s)
  | some p =>
      if p.used ≠ true ∨ p.magic ≠ 1234 then
        (-1, s)
      else
        let slot1 := freeSlot p 3
        -- without a first slot, -1 + 1 is where the second search begins
        let slot2 := freeSlot p (slot1.elim 0 fun slot => slot + 1)
        match slot1, slot2 with
        | some slot1, some slot2 =>
            let cleared := s.setObjects p (update (update p.objects slot1 0) slot2 0)
            if heap.shBuff = 0 then
              (-1, cleared)
            else if heap.f1 ≠ true ∨ heap.f2 ≠ true then
              (-1, cleared)
            else
              (if heap.pi = true then 0 else -1, installPipe s p slot1 slot2 heap.shBuff)
        | _, _ => (-1, s)

variable {s : System} {heap : PipeHeap}

/-- What the heap gives a call, with the numbers of the structures for their addresses. -/
structure HeapCalls (s : System) (heap : PipeHeap) (kmalloc : Nat → Nat) : Prop where
  shBuff : kmalloc 0 = heap.shBuff.toNat
  f1 : kmalloc 1 = if heap.f1 = true then s.made + 1 else 0
  f2 : kmalloc 2 = if heap.f2 = true then s.made + 2 else 0
  pi : kmalloc 3 = 0 ↔ heap.pi = false

/-- The call returns the same, with the same slots, as the one that has all fields of the
    structures. -/
theorem sysPipe_agrees {u : PipeCreation.System} {kmalloc : Nat → Nat}
    (process : u.process = s.core.teList s.pid) (calls : HeapCalls s heap kmalloc) :
    (sysPipe s heap).1 = (PipeCreation.sysPipe u kmalloc).1 ∧
      (sysPipe s heap).2.core.teList s.pid = (PipeCreation.sysPipe u kmalloc).2.process := by
  unfold sysPipe PipeCreation.sysPipe
  rw [process]
  cases listed : s.core.teList s.pid with
  | none => exact ⟨rfl, listed.trans (process.trans listed).symm⟩
  | some p =>
      have same : s.core.teList s.pid = u.process := process.symm
      by_cases invalid : p.used ≠ true ∨ p.magic ≠ 1234
      · simp only [if_pos invalid]
        exact ⟨trivial, same⟩
      · simp only [if_neg invalid]
        cases first : freeSlot p 3 with
        | none => exact ⟨rfl, same⟩
        | some slot1 =>
            simp only [Option.elim_some]
            cases second : freeSlot p (slot1 + 1) with
            | none => exact ⟨rfl, same⟩
            | some slot2 =>
                have set (objects : Nat → Nat) : (s.setObjects p objects).core.teList s.pid =
                    (u.setObjects p objects).process := by
                  simp only [System.setObjects, update_self, PipeCreation.System.setObjects]
                have given : kmalloc 0 = 0 ↔ heap.shBuff = 0 := by
                  rw [calls.shBuff, ← UInt64.toNat_zero, UInt64.toNat_inj]
                have files : (kmalloc 1 = 0 ∨ kmalloc 2 = 0) ↔
                  (heap.f1 ≠ true ∨ heap.f2 ≠ true) := by
                  rw [calls.f1, calls.f2]
                  cases heap.f1 <;> cases heap.f2 <;> simp
                by_cases buffer : heap.shBuff = 0
                · simp only [if_pos buffer, if_pos (given.mpr buffer)]
                  exact ⟨trivial, set _⟩
                · by_cases missing : heap.f1 ≠ true ∨ heap.f2 ≠ true
                  · simp only [if_neg buffer, if_neg (mt given.mp buffer), if_pos missing,
                      if_pos (files.mpr missing)]
                    exact ⟨trivial, set _⟩
                  · rw [not_or, not_not, not_not] at missing
                    have f1 := calls.f1
                    have f2 := calls.f2
                    rw [if_pos missing.1] at f1
                    rw [if_pos missing.2] at f2
                    have pi := calls.pi
                    simp only [if_neg buffer, if_neg (mt given.mp buffer), missing.1, missing.2,
                      f1, f2, ne_eq, not_true_eq_false, or_self, if_false, Nat.add_one_ne_zero]
                    cases info : heap.pi with
                    | false =>
                        rw [if_pos (pi.mpr info)]
                        exact ⟨rfl, set _⟩
                    | true =>
                        rw [if_neg (mt pi.mp (by simp [info]))]
                        exact ⟨rfl, set _⟩

end Pipes

section Runs

inductive Request where
  | dup (oldfd : Int)
  | dup2 (oldfd newfd : Int)
  | dup3 (oldfd newfd flags : Int)
  | duplicate (oldfd start : Int)
  | pipe (heap : PipeHeap)
  | openFile (pathname : Option (List UInt8)) (flags : UInt32) (loading : Loading)
  | openDevice (deviceIndex : Int)
  | close (fd : Int)

structure Call where
  pid : Fin 512
  request : Request

def sysClose (s : System) (fd : Int) : Except Stop (Int × System) :=
  if fd < 0 then
    .ok (-EBADF, s)
  else do
    let out ← closeImp s.core fd
    .ok (out.1, { s with core := out.2 })

def perform (s : System) : Request → Except Stop (Int × System)
  | .dup oldfd => .ok (sysDup s oldfd)
  | .dup2 oldfd newfd => .ok (sysDup2 s oldfd newfd)
  | .dup3 oldfd newfd flags => .ok (sysDup3 s oldfd newfd flags)
  | .duplicate oldfd start => .ok (fsDuplicateFd s oldfd start)
  | .pipe heap => .ok (sysPipe s heap)
  | .openFile pathname flags loading => openImp s pathname flags loading
  | .openDevice deviceIndex => sysOpenDeviceByNumber s deviceIndex
  | .close fd => sysClose s fd

def System.switchTo (s : System) (pid : Fin 512) : System :=
  { s with core := { s.core with currentProcess := (pid.val : Int) } }

/-- The process is the current one while it is served. -/
def serve (s : System) (call : Call) : Except Stop (Int × System) :=
  perform (s.switchTo call.pid) call.request

end Runs

end Gramado.Fs.Descriptors
