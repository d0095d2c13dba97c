/-
The counters of the file structures over runs of these calls. Three of them keep the
counters whatever they are given; the others do in part only, and a close never counts down.
-/
import Gramado.Fs.Descriptors
import Gramado.Lib.Machine
import Mathlib.Data.Fintype.Prod

namespace Gramado.Fs.DescriptorCounts

open Gramado.Ke
open Gramado.Fs.Close (PROCESS_COUNT_MAX ObjectTypeVirtualConsole closeImp closeFile)
open Gramado.Fs.Descriptors
open Gramado.Fs.Fat16 (fat16SaveFile)
open Gramado.Fs.PipeCreation (OPEN_MAX Process freeSlot freeSlot_eq_some)
open Gramado.Lib.Fallible
open Gramado.Lib.Machine
open Gramado.Lib.References
open Function

/-- A descriptor slot of a process. -/
abbrev Slot : Type := Fin 512 × Fin 32

def Valid (file : Close.FileObject) : Prop :=
  file.used = true ∧ file.magic = 1234

/-- What the slots of the listed processes point to. -/
def table (s : System) : Slot → Nat :=
  fun k => (s.core.teList k.1).elim 0 fun p => p.objects k.2

/-- The file structures as objects that slots refer to. -/
def pool (s : System) : Pool Slot Nat where
  table := table s
  counter := fun f => (s.counting f).fdCounter
  live := fun f => Valid (s.core.files f)

/-- The file that a descriptor of the current process leads to. -/
def fileOf (s : System) (fd : Int) : Nat :=
  (s.core.teList s.pid).elim 0 fun p => p.objects fd.toNat

/-- What is asked of a call of the current process. Behind it the counters of the open
    files are right and a file without a slot is released, also where a close says that it
    closed the last one. -/
structure Right (s : System) (request : Request) (out : Int × System) : Prop where
  sound : Sound 0 (pool s) (pool out.2)
  released : ∀ fd, request = .close fd → out.1 = 0 → references (table s) (fileOf s fd) = 1 →
    ¬Valid (out.2.core.files (fileOf s fd))

/-- The call of `fs_duplicate_fd` comes to its slot. -/
structure Duplicates (s : System) (oldfd start : Int) (p : Process) (slot : Nat) : Prop where
  descriptor : 0 ≤ oldfd ∧ oldfd < OPEN_MAX
  low : 0 ≤ start ∧ start < OPEN_MAX
  listed : s.core.teList s.pid = some p
  process : p.magic = 1234
  pointer : p.objects oldfd.toNat ≠ 0
  file : (s.core.files (p.objects oldfd.toNat)).magic = 1234
  free : freeSlot p start.toNat = some slot

/-- The current process is listed and valid. -/
structure Current (s : System) (p : Process) : Prop where
  listed : s.core.teList s.pid = some p
  used : p.used = true
  magic : p.magic = 1234

/-- The call of `sys_open_device_by_number` comes to its slot. -/
structure OpensNumber (s : System) (deviceIndex : Int) (p : Process) (slot : Nat) : Prop where
  index : 0 ≤ deviceIndex ∧ deviceIndex < 32
  entry : (s.devDir deviceIndex.toNat).magic = 1234
  initialized : (s.devDir deviceIndex.toNat).initialized = true
  pointer : (s.devDir deviceIndex.toNat).fp ≠ 0
  file : (s.core.files (s.devDir deviceIndex.toNat).fp).magic = 1234
  process : Current s p
  free : freeSlot p 0 = some slot

/-- The name that `__open_imp` works on. -/
def localCopy (pathname : Option (List UInt8)) : List UInt8 :=
  ((pathname.getD []).takeWhile (· ≠ 0)).take 254

/-- The call of `__open_imp` comes to the slot of a device. -/
structure OpensDevice (s : System) (pathname : Option (List UInt8)) (p : Process) (slot : Nat) :
    Prop where
  named : localCopy pathname ≠ []
  process : Current s p
  other : ¬consoleNames.any fun console =>
    Fat16.gramadoStrncmp (localCopy pathname) console console.length = 0
  pointer : devmgrSearchInDevList s (localCopy pathname) ≠ 0
  device : (s.counting (devmgrSearchInDevList s (localCopy pathname))).isDevice = true
  free : freeSlot p 0 = some slot

/-- The call of `sys_pipe` comes to its slots. -/
structure OpensPipe (s : System) (heap : PipeHeap) (p : Process) (slot1 slot2 : Nat) : Prop where
  process : Current s p
  first : freeSlot p 3 = some slot1
  second : freeSlot p (slot1 + 1) = some slot2
  buffer : heap.shBuff ≠ 0
  files : heap.f1 = true ∧ heap.f2 = true

structure Closes (s : System) (fd : Int) (p : Process) : Prop where
  descriptor : 3 ≤ fd ∧ fd < OPEN_MAX
  process : Current s p
  pointer : p.objects fd.toNat ≠ 0
  valid : Valid (s.core.files (p.objects fd.toNat))

/-- Pipes, terminals and regular files lose the slot and nothing else, unless the save of a
    regular file does not return; sockets and consoles keep it. -/
def ClosesRight (s : System) (f : Nat) : Prop :=
  match (s.core.files f).object with
  | .socket => (s.core.files f).socket = 0 ∨ references (table s) f ≠ 1
  | .pipe => False
  | .tty => False
  | .file => ∀ out, fat16SaveFile s.core.disk (s.core.files f).save ≠ .ok out
  | object => object = ObjectTypeVirtualConsole → references (table s) f ≠ 1

/-- When a call of the current process does what is asked of it. -/
def Careful (s : System) : Request → Prop
  | .dup _ => True
  | .dup2 _ _ => True
  | .dup3 _ _ _ => True
  | .duplicate oldfd start => ∀ p slot, ¬Duplicates s oldfd start p slot
  | .pipe heap => ∀ p slot1 slot2, OpensPipe s heap p slot1 slot2 →
      (s.counting (s.made + 1)).fdCounter = 1 ∧ (s.counting (s.made + 2)).fdCounter = 1
  | .openFile pathname _ _ => ∀ p slot, OpensDevice s pathname p slot →
      let fp := devmgrSearchInDevList s (localCopy pathname)
      Valid (s.core.files fp) ∧ (s.counting fp).fdCounter = references (table s) fp
  | .openDevice deviceIndex => ∀ p slot, OpensNumber s deviceIndex p slot →
      let fp := (s.devDir deviceIndex.toNat).fp
      Valid (s.core.files fp) ∧ (s.counting fp).fdCounter = references (table s) fp + 1
  | .close fd => ∀ p, Closes s fd p → ClosesRight s (p.objects fd.toNat)

/-- No structure that is in a slot or belongs to a device is still to be made. -/
structure Known (s : System) : Prop where
  slots : ∀ k, table s k ≤ s.made
  devDir : ∀ i, (s.devDir i).fp ≤ s.made
  deviceList : ∀ i device, s.deviceList i = some device → device.fp ≤ s.made

/-- The devices stay, and so do the numbers that were given. -/
structure Backs (s t : System) : Prop where
  made : s.made ≤ t.made
  devDir : t.devDir = s.devDir
  deviceList : t.deviceList = s.deviceList

section Setters

variable {s : System} {pid : Fin 512} {p : Process} {f g : Nat}

@[simp] theorem table_setFile {file : Close.FileObject} : table (s.setFile f file) = table s := rfl

@[simp] theorem table_setCounting {counting : Counting} :
    table (s.setCounting f counting) = table s := rfl

@[simp] theorem table_addCounter {n : Int} : table (s.addCounter f n) = table s := rfl

@[simp] theorem fdCounter_setObject {fd : Nat} :
    (s.setObject p fd f).counting = s.counting := rfl

@[simp] theorem files_setObject {fd : Nat} :
    (s.setObject p fd f).core.files = s.core.files := rfl

@[simp] theorem files_addCounter {n : Int} : (s.addCounter f n).core.files = s.core.files := rfl

theorem fdCounter_addCounter {n : Int} : ((s.addCounter f n).counting g).fdCounter =
    (s.counting g).fdCounter + if g = f then n else 0 := by
  by_cases same : g = f
  · simp [System.addCounter, System.setCounting, same]
  · simp [System.addCounter, System.setCounting, same]

theorem pid_eq (current : s.core.currentProcess = (pid.val : Int)) : s.pid = pid.val := by
  rw [System.pid, current]
  exact Int.toNat_natCast pid.val

theorem table_setObjects {objects : Nat → Nat}
    (current : s.core.currentProcess = (pid.val : Int)) :
    table (s.setObjects p objects) = fun k => if k.1 = pid then objects k.2 else table s k := by
  funext k
  simp only [table, System.setObjects, pid_eq current, update_apply, Fin.val_inj]
  split <;> rfl

theorem table_current (current : s.core.currentProcess = (pid.val : Int))
    (listed : s.core.teList s.pid = some p) (fd : Fin 32) : table s (pid, fd) = p.objects fd := by
  rw [pid_eq current] at listed
  simp [table, listed]

theorem table_setObject (current : s.core.currentProcess = (pid.val : Int))
    (listed : s.core.teList s.pid = some p) (fd : Fin 32) :
    table (s.setObject p fd f) = update (table s) (pid, fd) f := by
  funext k
  obtain ⟨owner, slot⟩ := k
  rw [System.setObject, table_setObjects current]
  beta_reduce
  by_cases here : owner = pid
  · subst owner
    rw [if_pos rfl]
    by_cases same : slot = fd
    · rw [same, update_self, update_self]
    · rw [update_of_ne (by simpa [Fin.val_inj] using same), update_of_ne (by simpa using same)]
      exact (table_current current listed slot).symm
  · rw [if_neg here, update_of_ne (by simp [here])]

theorem Backs.known {t : System} (backs : Backs s t) (known : Known s)
    (slots : ∀ k, table t k ≤ t.made) : Known t where
  slots := slots
  devDir := by
    rw [backs.devDir]
    exact fun i => (known.devDir i).trans backs.made
  deviceList := by
    rw [backs.deviceList]
    exact fun i device here => (known.deviceList i device here).trans backs.made

theorem setObject_slots {n : Nat} (listed : s.core.teList s.pid = some p) (made : f ≤ n)
    (slots : ∀ k, table s k ≤ n) (fd : Nat) (k : Slot) : table (s.setObject p fd f) k ≤ n := by
  have before := slots k
  simp only [table, System.setObject, System.setObjects, update_apply] at before ⊢
  by_cases here : k.1.val = s.pid
  · rw [if_pos here, Option.elim_some]
    change update p.objects fd f k.2 ≤ n
    rw [update_apply]
    rw [here, listed, Option.elim_some] at before
    split <;> assumption
  · rwa [if_neg here]

theorem freeSlot_bounds {low slot : Nat} (free : freeSlot p low = some slot) :
    slot < 32 ∧ p.objects slot = 0 := by
  have found := freeSlot_eq_some.mp free
  exact ⟨found.2.1, found.1.2⟩

end Setters

section Duplicates

variable {s : System} {pid : Fin 512} {p : Process} {oldfd newfd start : Int} {f g slot : Nat}

theorem current_of_struct (found : getCurrentProcessStruct s = some p) : Current s p := by
  unfold getCurrentProcessStruct at found
  split at found
  · cases found
  · rename_i q listed
    by_cases invalid : q.used ≠ true ∨ q.magic ≠ 1234
    · rw [if_pos invalid] at found
      cases found
    · rw [if_neg invalid] at found
      cases found
      rw [not_or, not_not, not_not] at invalid
      exact ⟨listed, invalid.1, invalid.2⟩

/-- An open descriptor of the current process. -/
structure Opened (s : System) (p : Process) (fd : Int) : Prop where
  process : s.core.teList s.pid = some p
  descriptor : 0 ≤ fd ∧ fd < OPEN_MAX
  pointer : p.objects fd.toNat ≠ 0

theorem sysDup_cases : (sysDup s oldfd).2 = s ∨ ∃ p slot, Opened s p oldfd ∧
    freeSlot p 0 = some slot ∧ (sysDup s oldfd).2 =
      (s.setObject p slot (p.objects oldfd.toNat)).addCounter (p.objects oldfd.toNat) 1 := by
  unfold sysDup
  by_cases outside : oldfd < 0 ∨ oldfd ≥ OPEN_MAX
  · exact Or.inl (by rw [if_pos outside])
  · rw [if_neg outside]
    rw [not_or, not_lt, ge_iff_le, not_le] at outside
    cases found : getCurrentProcessStruct s with
    | none => exact Or.inl rfl
    | some p =>
        by_cases null : p.objects oldfd.toNat = 0
        · exact Or.inl (by simp only [if_pos null])
        · simp only [if_neg null]
          cases free : freeSlot p 0 with
          | none => exact Or.inl rfl
          | some slot =>
              exact Or.inr ⟨p, slot, ⟨(current_of_struct found).listed, outside, null⟩, free, rfl⟩

/-- `sys_dup2` and `sys_dup3` come to the same step, for two different descriptors. -/
def PointsTo (s t : System) (oldfd newfd : Int) : Prop :=
  ∃ p, Opened s p oldfd ∧ (0 ≤ newfd ∧ newfd < OPEN_MAX) ∧ oldfd ≠ newfd ∧
    t = pointTo s p newfd.toNat (p.objects oldfd.toNat)

theorem sysDup2_cases : (sysDup2 s oldfd newfd).2 = s ∨
    PointsTo s (sysDup2 s oldfd newfd).2 oldfd newfd := by
  unfold sysDup2
  by_cases outside : oldfd < 0 ∨ oldfd ≥ OPEN_MAX ∨ newfd < 0 ∨ newfd ≥ OPEN_MAX
  · exact Or.inl (by rw [if_pos outside])
  · rw [if_neg outside]
    simp only [not_or, not_lt, ge_iff_le, not_le] at outside
    obtain ⟨old_low, old_high, new_low, new_high⟩ := outside
    cases found : getCurrentProcessStruct s with
    | none => exact Or.inl rfl
    | some p =>
        by_cases null : p.objects oldfd.toNat = 0
        · exact Or.inl (by simp only [if_pos null])
        · by_cases same : oldfd = newfd
          · exact Or.inl (by simp only [if_neg null, if_pos same])
          · simp only [if_neg null, if_neg same]
            exact Or.inr ⟨p, ⟨(current_of_struct found).listed, ⟨old_low, old_high⟩, null⟩,
              ⟨new_low, new_high⟩, same, rfl⟩

theorem sysDup3_cases {flags : Int} : (sysDup3 s oldfd newfd flags).2 = s ∨
    PointsTo s (sysDup3 s oldfd newfd flags).2 oldfd newfd := by
  unfold sysDup3
  by_cases outside : oldfd < 0 ∨ oldfd ≥ OPEN_MAX ∨ newfd < 0 ∨ newfd ≥ OPEN_MAX
  · exact Or.inl (by rw [if_pos outside])
  · rw [if_neg outside]
    simp only [not_or, not_lt, ge_iff_le, not_le] at outside
    obtain ⟨old_low, old_high, new_low, new_high⟩ := outside
    by_cases same : oldfd = newfd
    · exact Or.inl (by rw [if_pos same])
    · rw [if_neg same]
      cases found : getCurrentProcessStruct s with
      | none => exact Or.inl rfl
      | some p =>
          by_cases null : p.objects oldfd.toNat = 0
          · exact Or.inl (by simp only [if_pos null])
          · simp only [if_neg null]
            exact Or.inr ⟨p, ⟨(current_of_struct found).listed, ⟨old_low, old_high⟩, null⟩,
              ⟨new_low, new_high⟩, same, rfl⟩

theorem fsDuplicateFd_of_comes (comes : Duplicates s oldfd start p slot) :
    (fsDuplicateFd s oldfd start).2 = s.setObject p slot (p.objects oldfd.toNat) := by
  have inside : ¬(oldfd < 0 ∨ oldfd ≥ OPEN_MAX) := by
    have := comes.descriptor
    omega
  have low : ¬(start < 0 ∨ start ≥ OPEN_MAX) := by
    have := comes.low
    omega
  simp only [fsDuplicateFd, if_neg inside, if_neg low, comes.listed, comes.process,
    comes.pointer, comes.file, comes.free, ne_eq, not_true_eq_false, if_false]

theorem fsDuplicateFd_stays (fails : ∀ p slot, ¬Duplicates s oldfd start p slot) :
    (fsDuplicateFd s oldfd start).2 = s := by
  unfold fsDuplicateFd
  split
  · rfl
  · rename_i inside
    split
    · rfl
    · rename_i low
      split
      · rfl
      · rename_i p listed
        split
        · rfl
        · rename_i process
          dsimp only
          split
          · rfl
          · rename_i pointer
            split
            · rfl
            · rename_i file
              split
              · rfl
              · rename_i slot free
                simp only [not_or, not_lt, ge_iff_le, not_le] at inside low
                exact absurd ⟨inside, low, listed, not_not.mp process, pointer, not_not.mp file,
                  free⟩ (fails p slot)

end Duplicates

section Counts

variable {s t : System} {pid : Fin 512} {p : Process} {oldfd newfd start : Int} {f g slot : Nat}

/-- What has come into a free slot is counted if its counter is one more than its slots. -/
theorem gained_iff (current : s.core.currentProcess = (pid.val : Int))
    (counted : Counted 0 (pool s)) (listed : s.core.teList s.pid = some p)
    (free : slot < 32 ∧ p.objects slot = 0) (pointer : f ≠ 0)
    (gains : table t = table (s.setObject p slot f))
    (apart : ∀ g, g ≠ f → (t.counting g).fdCounter = (s.counting g).fdCounter ∧
      (Valid (t.core.files g) ↔ Valid (s.core.files g))) :
    Sound 0 (pool s) (pool t) ↔ Valid (t.core.files f) ∧
      (t.counting f).fdCounter = references (table s) f + 1 := by
  obtain ⟨inside, empty⟩ := free
  have cell : (pool s).table (pid, ⟨slot, inside⟩) = 0 := by
    change table s _ = 0
    rw [table_current current listed]
    exact empty
  have cells : (pool t).table = update (pool s).table (pid, ⟨slot, inside⟩) f := by
    change table t = update (table s) _ f
    rw [gains]
    exact table_setObject current listed ⟨slot, inside⟩
  exact sound_gained counted cell pointer cells apart

theorem opened_counted (current : s.core.currentProcess = (pid.val : Int))
    (counted : Counted 0 (pool s)) (opened : Opened s p oldfd) :
    0 < references (table s) (p.objects oldfd.toNat) ∧
      Valid (s.core.files (p.objects oldfd.toNat)) ∧
      (s.counting (p.objects oldfd.toNat)).fdCounter =
        references (table s) (p.objects oldfd.toNat) := by
  have inside : oldfd.toNat < 32 := by
    have bounds := opened.descriptor
    change _ ∧ oldfd < ((32 : Nat) : Int) at bounds
    omega
  have used := references_pos.mpr
    ⟨(pid, ⟨oldfd.toNat, inside⟩), table_current current opened.process _⟩
  exact ⟨used, counted _ opened.pointer used⟩

theorem dup_sound (current : s.core.currentProcess = (pid.val : Int))
    (counted : Counted 0 (pool s)) (opened : Opened s p oldfd)
    (free : slot < 32 ∧ p.objects slot = 0) : Sound 0 (pool s)
      (pool ((s.setObject p slot (p.objects oldfd.toNat)).addCounter
        (p.objects oldfd.toNat) 1)) := by
  obtain ⟨-, valid, counter⟩ := opened_counted current counted opened
  apply (gained_iff current counted opened.process free opened.pointer table_addCounter ?_).mpr
  · refine ⟨valid, ?_⟩
    rw [fdCounter_addCounter, if_pos rfl, fdCounter_setObject, counter]
  · intro g other
    rw [fdCounter_addCounter, if_neg other, fdCounter_setObject, add_zero]
    exact ⟨rfl, Iff.rfl⟩

theorem duplicate_not_sound (current : s.core.currentProcess = (pid.val : Int))
    (counted : Counted 0 (pool s)) (comes : Duplicates s oldfd start p slot) :
    ¬Sound 0 (pool s) (pool (s.setObject p slot (p.objects oldfd.toNat))) := by
  have opened : Opened s p oldfd := ⟨comes.listed, comes.descriptor, comes.pointer⟩
  obtain ⟨-, -, counter⟩ := opened_counted current counted opened
  rw [gained_iff current counted comes.listed (freeSlot_bounds comes.free) comes.pointer rfl
    fun _ _ => ⟨rfl, Iff.rfl⟩]
  rintro ⟨-, more⟩
  rw [fdCounter_setObject, counter] at more
  omega

end Counts

section Replacing

variable {s t : System} {pid : Fin 512} {p : Process} {oldfd newfd : Int} {f g slot : Nat}

theorem kFclose_valid (pointer : f ≠ 0) (valid : Valid (s.core.files f)) :
    kFclose s f = (0, s.setFile f { s.core.files f with used := true, magic := 4321 }) := by
  simp only [kFclose, if_neg pointer, valid.1, valid.2, ne_eq, not_true_eq_false, if_false]

/-- The slots stay, the counter goes down, and at 0 the structure is closed. -/
structure Droppable (s t : System) (f : Nat) : Prop where
  teList : t.core.teList = s.core.teList
  current : t.core.currentProcess = s.core.currentProcess
  counter : ∀ g, (t.counting g).fdCounter = (s.counting g).fdCounter + if g = f then -1 else 0
  closed : Valid (t.core.files f) ↔ 0 < (t.counting f).fdCounter
  others : ∀ g, g ≠ f → (Valid (t.core.files g) ↔ Valid (s.core.files g))
  backs : Backs s t ∧ t.made = s.made

theorem dropReference_drops (pointer : f ≠ 0) (valid : Valid (s.core.files f)) :
    Droppable s (dropReference s f) f := by
  have counter := fun g => @fdCounter_addCounter s f g (-1)
  by_cases last : ((s.addCounter f (-1)).counting f).fdCounter ≤ 0
  · have here : dropReference s f = (s.addCounter f (-1)).setFile f
        { s.core.files f with used := true, magic := 4321 } := by
      have still : Valid ((s.addCounter f (-1)).core.files f) := valid
      simp only [dropReference, if_pos last, kFclose_valid pointer still]
      rfl
    rw [here]
    refine ⟨rfl, rfl, counter, ?_, ?_, ⟨Nat.le_refl _, rfl, rfl⟩, rfl⟩
    · constructor
      · rintro ⟨-, magic⟩
        simp [System.setFile] at magic
      · intro more
        exact absurd more (not_lt.mpr last)
    · intro g other
      simp [System.setFile, update_of_ne other]
  · have here : dropReference s f = s.addCounter f (-1) := by
      simp only [dropReference, if_neg last]
    rw [here]
    exact ⟨rfl, rfl, counter, ⟨fun _ => not_le.mp last, fun _ => valid⟩, fun _ _ => Iff.rfl,
      ⟨Nat.le_refl _, rfl, rfl⟩, rfl⟩

theorem setObject_twice {first second fd : Nat} :
    table ((s.setObject p fd first).setObject p fd second) =
    table (s.setObject p fd second) := by
  funext k
  simp only [table, System.setObject, System.setObjects, System.pid, update_idem]

/-- A slot in use goes over to a file: what it had is counted down first, and may be the file
    that it is given. -/
structure Replaces (s t : System) (k : Slot) (f : Nat) : Prop where
  slots : table t = update (table s) k f
  counter : ∀ g, (t.counting g).fdCounter = (s.counting g).fdCounter +
    (if g = table s k then -1 else 0) + if g = f then 1 else 0
  closed : Valid (t.core.files (table s k)) ↔ 0 < (s.counting (table s k)).fdCounter - 1
  others : ∀ g, g ≠ table s k → (Valid (t.core.files g) ↔ Valid (s.core.files g))
  backs : Backs s t ∧ t.made = s.made

theorem pointTo_replaces (current : s.core.currentProcess = (pid.val : Int))
    (listed : s.core.teList s.pid = some p) {fd : Fin 32} (taken : table s (pid, fd) ≠ 0)
    (valid : Valid (s.core.files (table s (pid, fd)))) :
    Replaces s (pointTo s p fd f) (pid, fd) f := by
  have drops := dropReference_drops taken valid
  rw [table_current current listed] at taken drops
  have form : pointTo s p fd f = (((dropReference s (p.objects fd)).setObject p fd 0).setObject p
      fd f).addCounter f 1 := by
    simp only [pointTo, ne_eq, taken, not_false_eq_true, if_true]
  rw [form]
  constructor
  · have still : (dropReference s (p.objects fd)).core.teList
        (dropReference s (p.objects fd)).pid = some p := by
      rw [System.pid, drops.teList, drops.current]
      exact listed
    have same : table (dropReference s (p.objects fd)) = table s := by
      funext k
      simp only [table, drops.teList]
    rw [table_addCounter, setObject_twice, table_setObject (drops.current.trans current) still,
      same]
  · intro g
    rw [fdCounter_addCounter, fdCounter_setObject, fdCounter_setObject, drops.counter,
      table_current current listed]
  · rw [files_addCounter, files_setObject, files_setObject, table_current current listed,
      drops.closed, drops.counter, if_pos rfl]
    rfl
  · rw [table_current current listed]
    exact drops.others
  · obtain ⟨⟨made, devDir, deviceList⟩, same⟩ := drops.backs
    exact ⟨⟨made, devDir, deviceList⟩, same⟩

/-- The counters stay right where a slot in use goes over to a file in use. -/
theorem replaced_sound {k : Slot} (counted : Counted 0 (pool s)) (taken : table s k ≠ 0)
    (pointer : f ≠ 0) (used : ∃ j, j ≠ k ∧ table s j = f) (replaces : Replaces s t k f) :
    Sound 0 (pool s) (pool t) := by
  obtain ⟨j, apart, same⟩ := used
  have cells : 0 < references (pool s).table f := references_pos.mpr ⟨j, same⟩
  have before : _ ∧ (s.counting (table s k)).fdCounter = _ := counted _ taken references_of_cell
  by_cases itself : table s k = f
  · -- the file has another slot, so that it is not closed in between
    have two : 2 ≤ references (table s) (table s k) := references_two apart (same.trans itself.symm)
    change _ ∧ _ = ((references (table s) (table s k) : Nat) : Int) at before
    apply sound_of_kept counted
    · change table t = table s
      rw [replaces.slots, ← itself, update_eq_self]
    · intro g _
      change (t.counting g).fdCounter = (s.counting g).fdCounter ∧ (Valid _ ↔ Valid _)
      rw [replaces.counter, itself]
      by_cases here : g = f
      · refine ⟨by rw [if_pos here, if_pos here, neg_add_cancel_right], ?_⟩
        rw [here, ← itself, replaces.closed, before.2]
        exact ⟨fun _ => before.1, fun _ => by omega⟩
      · refine ⟨by rw [if_neg here, if_neg here, add_zero, add_zero], ?_⟩
        exact replaces.others g (by rwa [itself])
  · apply sound_replaced counted taken pointer itself cells replaces.slots
    · change (t.counting (table s k)).fdCounter = (s.counting (table s k)).fdCounter - 1
      rw [replaces.counter, if_pos rfl, if_neg itself, add_zero]
      rfl
    · change Valid (t.core.files (table s k)) ↔ 0 < (t.counting (table s k)).fdCounter
      rw [replaces.closed, replaces.counter, if_pos rfl, if_neg itself, add_zero]
      rfl
    · change (t.counting f).fdCounter = (s.counting f).fdCounter + 1
      rw [replaces.counter, if_neg (Ne.symm itself), if_pos rfl, add_zero]
    · exact replaces.others f (Ne.symm itself)
    · intro g out other
      change g ≠ table s k at out
      refine ⟨?_, replaces.others g out⟩
      change (t.counting g).fdCounter = (s.counting g).fdCounter
      rw [replaces.counter, if_neg out, if_neg other, add_zero, add_zero]

theorem pointTo_sound (current : s.core.currentProcess = (pid.val : Int))
    (counted : Counted 0 (pool s)) (opened : Opened s p oldfd)
    (inside : 0 ≤ newfd ∧ newfd < OPEN_MAX) (apart : oldfd ≠ newfd) :
    Sound 0 (pool s) (pool (pointTo s p newfd.toNat (p.objects oldfd.toNat))) := by
  have bounds := opened.descriptor
  change _ ∧ oldfd < ((32 : Nat) : Int) at bounds
  change _ ∧ newfd < ((32 : Nat) : Int) at inside
  obtain ⟨new, low⟩ : ∃ new : Fin 32, new.val = newfd.toNat := ⟨⟨newfd.toNat, by omega⟩, rfl⟩
  obtain ⟨old, here⟩ : ∃ old : Fin 32, old.val = oldfd.toNat := ⟨⟨oldfd.toNat, by omega⟩, rfl⟩
  have slot := table_current current opened.process new
  by_cases empty : p.objects newfd.toNat = 0
  · have form : pointTo s p newfd.toNat (p.objects oldfd.toNat) =
        (s.setObject p newfd.toNat (p.objects oldfd.toNat)).addCounter
          (p.objects oldfd.toNat) 1 := by
      simp only [pointTo, empty, ne_eq, not_true_eq_false, if_false]
    rw [form]
    exact dup_sound current counted opened ⟨by omega, empty⟩
  · rw [← low] at empty ⊢
    rw [← slot] at empty
    have valid := (counted _ empty references_of_cell).1
    have other : (pid, old) ≠ (pid, new) := by
      intro same
      have numbers := congrArg Fin.val (Prod.mk.inj same).2
      omega
    apply replaced_sound counted empty opened.pointer ⟨(pid, old), other, ?_⟩
      (pointTo_replaces current opened.process empty valid)
    rw [table_current current opened.process, here]

end Replacing

section Devices

variable {s t : System} {pid : Fin 512} {p : Process} {deviceIndex : Int} {slot : Nat}

theorem openNumber_of_comes (current : s.core.currentProcess = (pid.val : Int))
    (comes : OpensNumber s deviceIndex p slot) : sysOpenDeviceByNumber s deviceIndex =
      .ok (slot, s.setObject p slot (s.devDir deviceIndex.toNat).fp) := by
  have index : ¬(deviceIndex < 0 ∨ deviceIndex ≥ 32) := by
    have := comes.index
    omega
  have listed : ¬(s.core.currentProcess < 0 ∨ s.core.currentProcess ≥ PROCESS_COUNT_MAX) := by
    rw [current, PROCESS_COUNT_MAX]
    omega
  simp only [sysOpenDeviceByNumber, if_neg index, if_neg listed, comes.entry, comes.initialized,
    comes.pointer, comes.file, comes.process.listed, comes.process.used, comes.process.magic,
    comes.free, ne_eq, not_true_eq_false, or_self, if_false]

theorem openNumber_stays (fails : ∀ p slot, ¬OpensNumber s deviceIndex p slot) :
    Returns (sysOpenDeviceByNumber s deviceIndex) fun out => out.2 = s := by
  have same (v : Int) : Returns (.ok (v, s) : Except Stop (Int × System)) fun out => out.2 = s :=
    returns_ok.mpr rfl
  unfold sysOpenDeviceByNumber
  dsimp only
  split
  · exact same _
  · rename_i index
    split
    · exact same _
    · rename_i entry
      split
      · exact same _
      · rename_i initialized
        split
        · exact same _
        · rename_i pointer
          split
          · exact same _
          · rename_i file
            split
            · exact same _
            · split
              · exact same _
              · rename_i p listed
                split
                · exact same _
                · rename_i valid
                  split
                  · exact returns_error.mpr trivial
                  · rename_i slot free
                    simp only [not_or, not_not, not_lt, ge_iff_le, not_le] at index valid
                    exact absurd ⟨index, not_not.mp entry, not_not.mp initialized, pointer,
                      not_not.mp file, ⟨listed, valid.1, valid.2⟩, free⟩ (fails p slot)

/-- The structure of a device is put into the slot, and its counter is left as it is. -/
theorem openNumber_sound_iff (current : s.core.currentProcess = (pid.val : Int))
    (counted : Counted 0 (pool s)) (comes : OpensNumber s deviceIndex p slot) :
    Sound 0 (pool s) (pool (s.setObject p slot (s.devDir deviceIndex.toNat).fp)) ↔
      Valid (s.core.files (s.devDir deviceIndex.toNat).fp) ∧
        (s.counting (s.devDir deviceIndex.toNat).fp).fdCounter =
          references (table s) (s.devDir deviceIndex.toNat).fp + 1 :=
  gained_iff current counted comes.process.listed (freeSlot_bounds comes.free) comes.pointer rfl
    fun _ _ => ⟨rfl, Iff.rfl⟩

end Devices

section Opens

variable {s t : System} {pid : Fin 512} {p : Process} {pathname : Option (List UInt8)}
  {fileName : List UInt8} {flags : UInt32} {l : Loading} {slot : Nat}

/-- What a call that opens no device does: the disk changes, a structure may be made, and it
    may be put into a free slot. -/
inductive Loaded (s : System) : System → Prop
  | kept (disk : Fat16.System) : Loaded s { s with core := { s.core with disk := disk } }
  | made (disk : Fat16.System) (slot : Nat) (base : UInt64) (lbfsize : Int32) :
      Loaded s (System.newFile { s with core := { s.core with disk := disk } } slot base lbfsize)
  | installed (disk : Fat16.System) (p : Process) (slot : Nat) (base : UInt64) (lbfsize : Int32)
      (current : Current s p) (free : freeSlot p 0 = some slot) :
      Loaded s ((System.newFile { s with core := { s.core with disk := disk } } slot base
        lbfsize).setObject p slot (s.made + 1))

theorem loaded_self : Loaded s s := .kept s.core.disk

theorem current_of_pointer (found : getCurrentProcessPointer s = some p) : Current s p := by
  unfold getCurrentProcessPointer at found
  split at found
  · cases found
  · split at found
    · cases found
    · exact current_of_struct found

theorem doReadFileFromDisk_loaded :
    Returns (doReadFileFromDisk s fileName flags l) fun out => Loaded s out.2 := by
  unfold doReadFileFromDisk
  rw [returns_bind]
  intro found _
  split
  · exact returns_ok.mpr (.kept l.disk)
  · split
    · exact returns_ok.mpr (.kept l.disk)
    · rename_i p process
      split
      · exact returns_ok.mpr (.kept l.disk)
      · rename_i slot free
        split
        · exact returns_ok.mpr (.kept l.disk)
        · rw [returns_bind]
          rintro ⟨done, base, lbfsize⟩ _
          have current := current_of_pointer process
          split
          · exact returns_ok.mpr (.made l.disk slot base lbfsize)
          · exact returns_ok.mpr (.installed l.disk p slot base lbfsize
              ⟨current.listed, current.used, current.magic⟩ free)

/-- What the call for a device leads to. -/
def deviceOpened (s : System) (p : Process) (slot fp : Nat) : System :=
  ((s.setCounting fp { s.counting fp with fd := slot }).setObject p slot fp).addCounter fp 1

theorem openImp_of_comes (current : s.core.currentProcess = (pid.val : Int))
    (comes : OpensDevice s pathname p slot) : openImp s pathname flags l =
      .ok (slot, deviceOpened s p slot (devmgrSearchInDevList s (localCopy pathname))) := by
  have listed : ¬(s.core.currentProcess < 0 ∨ s.core.currentProcess ≥ PROCESS_COUNT_MAX) := by
    rw [current, PROCESS_COUNT_MAX]
    omega
  have named := comes.named
  have other := comes.other
  have pointer := comes.pointer
  have device := comes.device
  rw [localCopy] at named other pointer device
  simp only [openImp, if_neg named, if_neg listed, comes.process.listed, comes.process.used,
    comes.process.magic, comes.free, ne_eq, not_true_eq_false, or_self, if_false, if_neg other,
    pointer, device, not_false_eq_true, and_self, if_true, deviceOpened, localCopy]

theorem openImp_loaded (fails : ∀ p slot, ¬OpensDevice s pathname p slot) :
    Returns (openImp s pathname flags l) fun out => Loaded s out.2 := by
  have same (v : Int) : Returns (.ok (v, s) : Except Stop (Int × System))
      fun out => Loaded s out.2 := returns_ok.mpr loaded_self
  unfold openImp
  dsimp only
  split
  · exact same _
  · rename_i named
    split
    · exact same _
    · split
      · exact same _
      · rename_i p listed
        split
        · exact same _
        · rename_i valid
          split
          · exact same _
          · rename_i other
            split
            · rename_i device
              split
              · exact same _
              · rename_i slot free
                simp only [not_or, not_not] at valid
                exact absurd ⟨named, ⟨listed, valid.1, valid.2⟩, other, device.1, device.2, free⟩
                  (fails p slot)
            · rw [returns_bind]
              intro out read
              exact returns_ok.mpr (doReadFileFromDisk_loaded out read)

theorem deviceOpened_sound_iff (current : s.core.currentProcess = (pid.val : Int))
    (counted : Counted 0 (pool s)) (comes : OpensDevice s pathname p slot) :
    Sound 0 (pool s)
        (pool (deviceOpened s p slot (devmgrSearchInDevList s (localCopy pathname)))) ↔
      Valid (s.core.files (devmgrSearchInDevList s (localCopy pathname))) ∧
        (s.counting (devmgrSearchInDevList s (localCopy pathname))).fdCounter =
          references (table s) (devmgrSearchInDevList s (localCopy pathname)) := by
  have counter (f g : Nat) : ((deviceOpened s p slot f).counting g).fdCounter =
      (s.counting g).fdCounter + if g = f then 1 else 0 := by
    rw [deviceOpened, fdCounter_addCounter, fdCounter_setObject]
    by_cases same : g = f
    · simp [System.setCounting, same]
    · simp [System.setCounting, same]
  have gains (f : Nat) : table (deviceOpened s p slot f) = table (s.setObject p slot f) := rfl
  rw [gained_iff current counted comes.process.listed (freeSlot_bounds comes.free) comes.pointer
    (gains _), counter, if_pos rfl, Int.add_left_inj]
  · exact Iff.rfl
  · intro g other
    rw [counter, if_neg other, add_zero]
    exact ⟨rfl, Iff.rfl⟩

theorem references_unmade {f : Nat} (known : Known s) (later : s.made < f) :
    references (table s) f = 0 := by
  refine Nat.eq_zero_of_not_pos fun used => ?_
  obtain ⟨k, here⟩ := references_pos.mp used
  have := known.slots k
  omega

theorem fdCounter_newFile {base : UInt64} {lbfsize : Int32} {g : Nat} (other : g ≠ s.made + 1) :
    ((s.newFile slot base lbfsize).counting g).fdCounter = (s.counting g).fdCounter ∧
      (Valid ((s.newFile slot base lbfsize).core.files g) ↔ Valid (s.core.files g)) := by
  simp [System.newFile, System.setCounting, System.setFile, update_of_ne other]

theorem loaded_sound (current : s.core.currentProcess = (pid.val : Int)) (known : Known s)
    (counted : Counted 0 (pool s)) (loaded : Loaded s t) : Sound 0 (pool s) (pool t) := by
  have fresh := references_unmade known (Nat.lt_succ_self s.made)
  cases loaded with
  | kept disk => exact sound_self counted
  | made disk slot base lbfsize =>
      apply sound_of_kept counted
      · rfl
      · intro f used
        apply @fdCounter_newFile { s with core := { s.core with disk := disk } }
        rintro rfl
        exact absurd fresh (Nat.pos_iff_ne_zero.mp used)
  | installed disk p slot base lbfsize owner free =>
      have gains : table ((System.newFile { s with core := { s.core with disk := disk } } slot base
          lbfsize).setObject p slot (s.made + 1)) = table (s.setObject p slot (s.made + 1)) := rfl
      apply (gained_iff current counted owner.listed (freeSlot_bounds free) (Nat.succ_ne_zero _)
        gains ?_).mpr
      · rw [files_setObject, fdCounter_setObject]
        simp [System.newFile, System.setCounting, System.setFile, Valid, fresh]
      · intro g other
        exact @fdCounter_newFile { s with core := { s.core with disk := disk } } _ _ _ _ other

end Opens

section Pipes

variable {s t : System} {pid : Fin 512} {p : Process} {heap : PipeHeap} {slot slot1 slot2 : Nat}

theorem sysPipe_of_comes (comes : OpensPipe s heap p slot1 slot2) :
    (sysPipe s heap).2 = installPipe s p slot1 slot2 heap.shBuff := by
  have files : ¬(heap.f1 ≠ true ∨ heap.f2 ≠ true) := by
    simp [comes.files.1, comes.files.2]
  simp only [sysPipe, comes.process.listed, comes.process.used, comes.process.magic, ne_eq,
    not_true_eq_false, or_self, if_false, comes.first, Option.elim_some, comes.second,
    if_neg comes.buffer]
  rw [if_neg files]

theorem sysPipe_stays (fails : ∀ p slot1 slot2, ¬OpensPipe s heap p slot1 slot2) :
    (sysPipe s heap).2 = s := by
  unfold sysPipe
  split
  · rfl
  · rename_i p listed
    split
    · rfl
    · rename_i valid
      dsimp only
      split
      · rename_i slot1 slot2 first second
        rw [first, Option.elim_some] at second
        -- the slots were free, and clearing them changes nothing
        have cleared : s.setObjects p (update (update p.objects slot1 0) slot2 0) = s := by
          have same := PipeCreation.clear_free (freeSlot_bounds first).2 (freeSlot_bounds second).2
          rw [System.setObjects, same, ← listed, update_eq_self]
        split
        · exact cleared
        · rename_i buffer
          split
          · exact cleared
          · rename_i files
            simp only [not_or, not_not] at valid files
            exact absurd ⟨⟨listed, valid.1, valid.2⟩, first, second, buffer, files⟩
              (fails p slot1 slot2)
      · rfl

theorem installPipe_table (current : s.core.currentProcess = (pid.val : Int))
    (listed : s.core.teList s.pid = some p) {fd1 fd2 : Fin 32} {shBuff : UInt64} :
    table (installPipe s p fd1 fd2 shBuff) =
      update (update (table s) (pid, fd1) (s.made + 1)) (pid, fd2) (s.made + 2) := by
  rw [← table_setObject current listed fd1]
  have still : (s.setObject p fd1 (s.made + 1)).core.teList (s.setObject p fd1 (s.made + 1)).pid =
      some { p with objects := update p.objects fd1 (s.made + 1) } := by
    simp only [System.setObject, System.setObjects, System.pid, update_self]
  rw [← table_setObject _ still fd2]
  · funext k
    simp only [table, System.setObject, System.setObjects, System.pid, update_idem]
    rfl
  · exact current

theorem installPipe_counting {slot1 slot2 g : Nat} {shBuff : UInt64} :
    ((installPipe s p slot1 slot2 shBuff).counting g).fdCounter = (s.counting g).fdCounter := by
  by_cases second : g = s.made + 2
  · simp [installPipe, System.setObjects, System.setCounting, System.setFile, second]
  · by_cases first : g = s.made + 1
    · simp [installPipe, System.setObjects, System.setCounting, System.setFile, first]
    · simp [installPipe, System.setObjects, System.setCounting, System.setFile, first, second]

theorem installPipe_valid {slot1 slot2 g : Nat} {shBuff : UInt64} :
    Valid ((installPipe s p slot1 slot2 shBuff).core.files g) ↔
      g = s.made + 1 ∨ g = s.made + 2 ∨ Valid (s.core.files g) := by
  by_cases second : g = s.made + 2
  · simp [installPipe, System.setObjects, System.setCounting, System.setFile, second, pipeFile,
      Valid]
  · by_cases first : g = s.made + 1
    · simp [installPipe, System.setObjects, System.setCounting, System.setFile, first, pipeFile,
        Valid]
    · simp [installPipe, System.setObjects, System.setCounting, System.setFile, first, second]

theorem installPipe_references (current : s.core.currentProcess = (pid.val : Int))
    (known : Known s) (comes : OpensPipe s heap p slot1 slot2) (f : Nat) (pointer : f ≠ 0) :
    references (table (installPipe s p slot1 slot2 heap.shBuff)) f =
      if f = s.made + 1 ∨ f = s.made + 2 then 1 else references (table s) f := by
  obtain ⟨low1, free1⟩ := freeSlot_bounds comes.first
  obtain ⟨low2, free2⟩ := freeSlot_bounds comes.second
  have behind := (freeSlot_eq_some.mp comes.second).1.1
  have apart : ((pid, ⟨slot2, low2⟩) : Slot) ≠ (pid, ⟨slot1, low1⟩) := by
    intro same
    have numbers : slot2 = slot1 := congrArg Fin.val (Prod.mk.inj same).2
    omega
  have empty1 : table s (pid, ⟨slot1, low1⟩) = 0 :=
    (table_current current comes.process.listed ⟨slot1, low1⟩).trans free1
  have empty2 : table s (pid, ⟨slot2, low2⟩) = 0 :=
    (table_current current comes.process.listed ⟨slot2, low2⟩).trans free2
  have later : update (table s) (pid, ⟨slot1, low1⟩) (s.made + 1) (pid, ⟨slot2, low2⟩) = 0 := by
    rw [update_of_ne apart, empty2]
  rw [@installPipe_table s pid p current comes.process.listed ⟨slot1, low1⟩ ⟨slot2, low2⟩]
  by_cases first : f = s.made + 1
  · subst f
    rw [if_pos (Or.inl rfl), references_kept (by omega) (by omega), references_gained (by omega),
      references_unmade known (by omega)]
  · by_cases second : f = s.made + 2
    · subst f
      rw [if_pos (Or.inr rfl), references_gained (by omega), references_kept (by omega) (by omega),
        references_unmade known (by omega)]
    · rw [if_neg (not_or.mpr ⟨first, second⟩), references_kept (by omega) second,
        references_kept (by omega) first]

/-- Both ends are valid in one slot each, with the counters that the heap had there. -/
theorem installPipe_sound_iff (current : s.core.currentProcess = (pid.val : Int))
    (known : Known s) (counted : Counted 0 (pool s)) (comes : OpensPipe s heap p slot1 slot2) :
    Sound 0 (pool s) (pool (installPipe s p slot1 slot2 heap.shBuff)) ↔
      (s.counting (s.made + 1)).fdCounter = 1 ∧ (s.counting (s.made + 2)).fdCounter = 1 := by
  have cells := installPipe_references current known comes
  have kept (f : Nat) (pointer : f ≠ 0) (other : ¬(f = s.made + 1 ∨ f = s.made + 2)) :
      Kept (pool s) (pool (installPipe s p slot1 slot2 heap.shBuff)) f := by
    refine ⟨(cells f pointer).trans (if_neg other), fun _ => ⟨installPipe_counting, ?_⟩⟩
    change Valid _ ↔ Valid _
    rw [installPipe_valid, ← or_assoc, or_iff_right other]
  have used (f : Nat) (new : f = s.made + 1 ∨ f = s.made + 2) : f ≠ 0 ∧
      0 < references (pool (installPipe s p slot1 slot2 heap.shBuff)).table f := by
    have pointer : f ≠ 0 := by omega
    refine ⟨pointer, ?_⟩
    change 0 < references (table _) f
    rw [cells f pointer, if_pos new]
    exact Nat.one_pos
  have counter (f : Nat) (new : f = s.made + 1 ∨ f = s.made + 2) :
      (Valid ((installPipe s p slot1 slot2 heap.shBuff).core.files f) ∧
        ((installPipe s p slot1 slot2 heap.shBuff).counting f).fdCounter =
          references (table (installPipe s p slot1 slot2 heap.shBuff)) f) ↔
      (s.counting f).fdCounter = 1 := by
    rw [installPipe_valid, installPipe_counting, cells f (used f new).1, if_pos new, ← or_assoc,
      and_iff_right (Or.inl new)]
    exact Iff.rfl
  rw [sound_iff_counted counted kept used]
  constructor
  · intro both
    exact ⟨(counter _ (Or.inl rfl)).mp (both _ (Or.inl rfl)),
      (counter _ (Or.inr rfl)).mp (both _ (Or.inr rfl))⟩
  · rintro ⟨first, second⟩ f (rfl | rfl)
    · exact (counter _ (Or.inl rfl)).mpr first
    · exact (counter _ (Or.inr rfl)).mpr second

end Pipes

section Closes

variable {s t : System} {pid : Fin 512} {p : Process} {fd : Int} {out : Int × System}

theorem sysClose_stays (fails : ∀ p, ¬Closes s fd p) :
    Returns (sysClose s fd) fun out => out.1 ≠ 0 ∧ out.2 = s := by
  have same (v : Int) (error : v ≠ 0) :
      Returns (.ok (v, s.core) : Except Stop (Int × Close.System)) fun out =>
        Returns (.ok (out.1, { s with core := out.2 }) : Except Stop (Int × System)) fun out =>
          out.1 ≠ 0 ∧ out.2 = s := returns_ok.mpr (returns_ok.mpr ⟨error, rfl⟩)
  unfold sysClose
  split
  · exact returns_ok.mpr ⟨by simp [EBADF], rfl⟩
  · rw [returns_bind]
    unfold closeImp
    split
    · exact same _ (by simp [EBADF])
    · rename_i inside
      split
      · exact same _ (by simp [EBADF])
      · rename_i standard
        split
        · exact same _ (by decide)
        · split
          · exact same _ (by decide)
          · rename_i p listed
            split
            · exact same _ (by decide)
            · rename_i valid
              dsimp only
              split
              · exact same _ (by decide)
              · rename_i pointer
                split
                · exact same _ (by decide)
                · rename_i file
                  simp only [not_or, not_not, not_lt, ge_iff_le,
                    not_le] at inside standard valid file
                  have descriptor : 3 ≤ fd ∧ fd < OPEN_MAX := by omega
                  exact absurd ⟨descriptor, ⟨listed, valid.1, valid.2⟩, pointer, file⟩ (fails p)

theorem sysClose_of_comes (current : s.core.currentProcess = (pid.val : Int))
    (comes : Closes s fd p) : sysClose s fd =
      (closeFile s.core s.pid p fd.toNat (p.objects fd.toNat) >>= fun out =>
        .ok (out.1, { s with core := out.2 })) := by
  have descriptor := comes.descriptor
  have inside : ¬(fd < 0 ∨ fd ≥ OPEN_MAX) := by omega
  have standard : ¬(fd = 0 ∨ fd = 1 ∨ fd = 2) := by omega
  have process : ¬(s.core.currentProcess < 0 ∨ s.core.currentProcess ≥ PROCESS_COUNT_MAX) := by
    rw [current, PROCESS_COUNT_MAX]
    omega
  have listed := comes.process.listed
  rw [System.pid] at listed
  rw [sysClose, if_neg (by omega)]
  simp only [closeImp, if_neg inside, if_neg standard, if_neg process, listed,
    comes.process.used, comes.process.magic, comes.pointer, comes.valid.1, comes.valid.2, ne_eq,
    not_true_eq_false, or_self, if_false]
  rfl

theorem fileOf_closed (comes : Closes s fd p) : fileOf s fd = p.objects fd.toNat := by
  simp only [fileOf, comes.process.listed, Option.elim_some]

theorem cleared_not_right (current : s.core.currentProcess = (pid.val : Int))
    (counted : Counted 0 (pool s)) (comes : Closes s fd p)
    (cleared : table out.2 = table (s.setObject p fd.toNat 0))
    (counting : out.2.counting = s.counting)
    (valid : Valid (out.2.core.files (p.objects fd.toNat))) : ¬Right s (.close fd) out := by
  have descriptor := comes.descriptor
  change _ ∧ fd < ((32 : Nat) : Int) at descriptor
  obtain ⟨slot, number⟩ : ∃ slot : Fin 32, slot.val = fd.toNat := ⟨⟨fd.toNat, by omega⟩, rfl⟩
  rw [← number] at cleared valid
  have pointer := comes.pointer
  have before := comes.valid
  rw [← number] at pointer before
  have listed := comes.process.listed
  have cell := table_current current listed slot
  rw [← cell] at pointer before valid
  rw [table_setObject current listed] at cleared
  intro right
  refine not_sound_cleared counted pointer cleared ?_ ⟨fun _ => before, fun _ => valid⟩ right.sound
  change (out.2.counting _).fdCounter = _
  rw [counting]
  rfl

theorem idle_right_iff (counted : Counted 0 (pool s)) (comes : Closes s fd p) :
    Right s (.close fd) (0, s) ↔ references (table s) (p.objects fd.toNat) ≠ 1 := by
  constructor
  · intro right last
    have released := right.released fd rfl rfl
    rw [fileOf_closed comes] at released
    exact released last comes.valid
  · intro more
    refine ⟨sound_self counted, ?_⟩
    rintro other ⟨⟩ - last
    rw [fileOf_closed comes] at last
    exact absurd last more

theorem failed_right {v : Int} {request : Request} (error : v ≠ 0) (counted : Counted 0 (pool s)) :
    Right s request (v, s) :=
  ⟨sound_self counted, fun _ _ zero => absurd zero error⟩

theorem adjusted_valid {file : Close.FileObject} : Valid file.adjusted ↔ Valid file := by
  unfold Close.FileObject.adjusted
  split <;> exact Iff.rfl

theorem close_right_iff (current : s.core.currentProcess = (pid.val : Int))
    (counted : Counted 0 (pool s)) (comes : Closes s fd p) (served : sysClose s fd = .ok out) :
    Right s (.close fd) out ↔ ClosesRight s (p.objects fd.toNat) := by
  rw [sysClose_of_comes current comes] at served
  cases object : (s.core.files (p.objects fd.toNat)).object with
  | socket =>
      simp only [closeFile, object] at served
      by_cases null : (s.core.files (p.objects fd.toNat)).socket = 0
      · rw [if_pos null] at served
        cases served
        simp only [ClosesRight, object, null, true_or, iff_true]
        exact failed_right (by decide) counted
      · rw [if_neg null] at served
        cases served
        rw [ClosesRight, object]
        exact (idle_right_iff counted comes).trans (or_iff_right null).symm
  | pipe =>
      simp only [closeFile, object] at served
      cases served
      rw [ClosesRight, object]
      exact iff_false_intro (cleared_not_right current counted comes rfl rfl comes.valid)
  | tty =>
      simp only [closeFile, object] at served
      cases served
      rw [ClosesRight, object]
      exact iff_false_intro (cleared_not_right current counted comes rfl rfl comes.valid)
  | file =>
      simp only [closeFile, object] at served
      rw [ClosesRight, object]
      cases saved : fat16SaveFile s.core.disk (s.core.files (p.objects fd.toNat)).save with
      | error stop =>
          rw [Close.FileObject.save] at saved
          rw [saved] at served
          cases served
      | ok saving =>
          rw [Close.FileObject.save] at saved
          rw [saved] at served
          cases served
          -- the slot goes, whatever the save returned
          have here : ¬∀ result, (Except.ok saving : Except Stop _) ≠ .ok result :=
            fun never => never saving rfl
          simp only [here, iff_false]
          apply cleared_not_right current counted comes rfl rfl
          change Valid (update s.core.files (p.objects fd.toNat) _ (p.objects fd.toNat))
          rw [update_self]
          exact adjusted_valid.mpr comes.valid
  | ioBuffer =>
      simp only [closeFile, object] at served
      cases served
      have other : ObjectType.ioBuffer ≠ ObjectTypeVirtualConsole := by decide
      simp only [ClosesRight, object, other, false_implies, iff_true]
      exact failed_right (by decide) counted
  | other code =>
      simp only [closeFile, object] at served
      rw [ClosesRight, object]
      by_cases console : ObjectType.other code = ObjectTypeVirtualConsole
      · rw [if_pos console] at served
        cases served
        exact (idle_right_iff counted comes).trans ⟨fun more _ => more, fun more => more console⟩
      · rw [if_neg console] at served
        cases served
        simp only [console, false_implies, iff_true]
        exact failed_right (by decide) counted

theorem closeFile_backs (listed : s.core.teList s.pid = some p) (known : Known s) (fd fp : Nat) :
    Returns (closeFile s.core s.pid p fd fp) fun out => Known { s with core := out.2 } := by
  have same (v : Int) : Returns (.ok (v, s.core) : Except Stop (Int × Close.System))
      fun out => Known { s with core := out.2 } := returns_ok.mpr known
  have cleared (core : Close.System) (slots : core.teList = s.core.teList) : Known
      { s with core := core.clearSlot s.pid p fd } := by
    apply Backs.known (s := s) (t := { s with core := core.clearSlot s.pid p fd })
      ⟨Nat.le_refl _, rfl, rfl⟩ known
    have gone := setObject_slots listed (Nat.zero_le s.made) known.slots fd
    simpa only [table, Close.System.clearSlot, System.setObject, System.setObjects, slots]
      using gone
  unfold closeFile
  split
  · split
    · exact same _
    · exact same _
  · exact returns_ok.mpr (cleared s.core rfl)
  · exact returns_ok.mpr (cleared s.core rfl)
  · rw [returns_bind]
    intro out _
    exact returns_ok.mpr (cleared _ rfl)
  · split
    · exact same _
    · exact same _

/-- Where a close does not return it is in the save of a regular file. -/
theorem close_stopped {stop : Stop} (current : s.core.currentProcess = (pid.val : Int))
    (comes : Closes s fd p) (stopped : sysClose s fd = .error stop) :
    ClosesRight s (p.objects fd.toNat) := by
  rw [sysClose_of_comes current comes] at stopped
  cases object : (s.core.files (p.objects fd.toNat)).object with
  | socket =>
      simp only [closeFile, object] at stopped
      split at stopped <;> cases stopped
  | pipe =>
      simp only [closeFile, object] at stopped
      cases stopped
  | tty =>
      simp only [closeFile, object] at stopped
      cases stopped
  | file =>
      rw [ClosesRight, object]
      intro out saved
      rw [Close.FileObject.save] at saved
      simp only [closeFile, object, saved] at stopped
      cases stopped
  | ioBuffer =>
      simp only [closeFile, object] at stopped
      split at stopped <;> cases stopped
  | other code =>
      simp only [closeFile, object] at stopped
      split at stopped <;> cases stopped

end Closes

section Steps

variable {s : System} {pid : Fin 512} {request : Request} {out : Int × System}

theorem right_iff_sound (other : ∀ fd, request ≠ .close fd) :
    Right s request out ↔ Sound 0 (pool s) (pool out.2) :=
  ⟨Right.sound, fun sound => ⟨sound, fun fd same => absurd same (other fd)⟩⟩

theorem right_same (other : ∀ fd, request ≠ .close fd) (counted : Counted 0 (pool s))
    (same : out.2 = s) : Right s request out := by
  rw [right_iff_sound other, same]
  exact sound_self counted

theorem pointsTo_right (current : s.core.currentProcess = (pid.val : Int))
    (counted : Counted 0 (pool s)) {oldfd newfd : Int} (other : ∀ fd, request ≠ .close fd)
    (cases : out.2 = s ∨ PointsTo s out.2 oldfd newfd) : Right s request out := by
  rcases cases with same | ⟨p, opened, inside, apart, here⟩
  · exact right_same other counted same
  · rw [right_iff_sound other, here]
    exact pointTo_sound current counted opened inside apart

/-- A call that returns does what is asked of it if and only if it is a careful one. -/
theorem right_iff_careful (current : s.core.currentProcess = (pid.val : Int)) (known : Known s)
    (counted : Counted 0 (pool s)) (served : perform s request = .ok out) :
    Right s request out ↔ Careful s request := by
  cases request with
  | dup oldfd =>
      cases served
      refine iff_of_true ?_ trivial
      -- A descriptor of its own for the file counts one reference more, which is right.
      rcases @sysDup_cases s oldfd with same | ⟨p, slot, opened, free, here⟩
      · exact right_same (by simp) counted same
      · rw [right_iff_sound (by simp), here]
        exact dup_sound current counted opened (freeSlot_bounds free)
  | dup2 oldfd newfd =>
      cases served
      exact iff_of_true (pointsTo_right current counted (by simp) sysDup2_cases) trivial
  | dup3 oldfd newfd flags =>
      cases served
      exact iff_of_true (pointsTo_right current counted (by simp) sysDup3_cases) trivial
  | duplicate oldfd start =>
      cases served
      rw [right_iff_sound (by simp)]
      constructor
      · -- The duplicate points to the file, but the file does not count it.
        intro sound p slot comes
        rw [fsDuplicateFd_of_comes comes] at sound
        exact duplicate_not_sound current counted comes sound
      · intro fails
        rw [fsDuplicateFd_stays fails]
        exact sound_self counted
  | pipe heap =>
      cases served
      rw [right_iff_sound (by simp)]
      constructor
      · intro sound p slot1 slot2 comes
        rw [sysPipe_of_comes comes] at sound
        exact (installPipe_sound_iff current known counted comes).mp sound
      · intro careful
        by_cases opens : ∃ p slot1 slot2, OpensPipe s heap p slot1 slot2
        · obtain ⟨p, slot1, slot2, comes⟩ := opens
          rw [sysPipe_of_comes comes]
          exact (installPipe_sound_iff current known counted comes).mpr
            (careful p slot1 slot2 comes)
        · simp only [not_exists] at opens
          rw [sysPipe_stays opens]
          exact sound_self counted
  | openFile pathname flags loading =>
      change openImp s pathname flags loading = _ at served
      rw [right_iff_sound (by simp)]
      -- A name of a device or of the console is found without the disk.
      by_cases opens : ∃ p slot, OpensDevice s pathname p slot
      · obtain ⟨p, slot, comes⟩ := opens
        rw [openImp_of_comes current comes] at served
        cases served
        rw [deviceOpened_sound_iff current counted comes]
        exact ⟨fun right _ _ _ => right, fun careful => careful p slot comes⟩
      · simp only [not_exists] at opens
        refine iff_of_true ?_ fun p slot comes => absurd comes (opens p slot)
        exact loaded_sound current known counted (openImp_loaded opens out served)
  | openDevice deviceIndex =>
      change sysOpenDeviceByNumber s deviceIndex = _ at served
      rw [right_iff_sound (by simp)]
      by_cases opens : ∃ p slot, OpensNumber s deviceIndex p slot
      · obtain ⟨p, slot, comes⟩ := opens
        rw [openNumber_of_comes current comes] at served
        cases served
        rw [openNumber_sound_iff current counted comes]
        exact ⟨fun right _ _ _ => right, fun careful => careful p slot comes⟩
      · simp only [not_exists] at opens
        refine iff_of_true ?_ fun p slot comes => absurd comes (opens p slot)
        rw [openNumber_stays opens out served]
        exact sound_self counted
  | close fd =>
      change sysClose s fd = _ at served
      by_cases closes : ∃ p, Closes s fd p
      · obtain ⟨p, comes⟩ := closes
        rw [close_right_iff current counted comes served]
        -- There is one current process.
        refine ⟨fun right q other => ?_, fun careful => careful p comes⟩
        have same : q = p := Option.some.inj (other.process.listed.symm.trans comes.process.listed)
        rwa [same]
      · simp only [not_exists] at closes
        obtain ⟨error, same⟩ := sysClose_stays closes out served
        refine iff_of_true ⟨?_, fun _ _ zero => absurd zero error⟩
          fun p comes => absurd comes (closes p)
        rw [same]
        exact sound_self counted

theorem careful_of_stopped {stop : Stop} (current : s.core.currentProcess = (pid.val : Int))
    (stopped : perform s request = .error stop) : Careful s request := by
  cases request with
  | dup oldfd => trivial
  | dup2 oldfd newfd => trivial
  | dup3 oldfd newfd flags => trivial
  | duplicate oldfd start => cases stopped
  | pipe heap => cases stopped
  | openFile pathname flags loading =>
      intro p slot comes
      change openImp s pathname flags loading = _ at stopped
      rw [openImp_of_comes current comes] at stopped
      cases stopped
  | openDevice deviceIndex =>
      intro p slot comes
      change sysOpenDeviceByNumber s deviceIndex = _ at stopped
      rw [openNumber_of_comes current comes] at stopped
      cases stopped
  | close fd => exact fun p comes => close_stopped current comes stopped

theorem opened_made {p : Process} {fd : Int} (current : s.core.currentProcess = (pid.val : Int))
    (known : Known s) (opened : Opened s p fd) : p.objects fd.toNat ≤ s.made := by
  have bounds := opened.descriptor
  change _ ∧ fd < ((32 : Nat) : Int) at bounds
  have made := known.slots (pid, ⟨fd.toNat, by omega⟩)
  rwa [table_current current opened.process] at made

theorem known_setObject {t : System} {p : Process} {slot f : Nat} (known : Known s)
    (listed : s.core.teList s.pid = some p) (made : f ≤ s.made) (backs : Backs s t)
    (gains : table t = table (s.setObject p slot f)) : Known t := by
  apply backs.known known
  intro k
  rw [gains]
  exact (setObject_slots listed made known.slots slot k).trans backs.made

theorem pointsTo_known {oldfd newfd : Int} (current : s.core.currentProcess = (pid.val : Int))
    (known : Known s) (counted : Counted 0 (pool s))
    (cases : out.2 = s ∨ PointsTo s out.2 oldfd newfd) : Known out.2 := by
  rcases cases with same | ⟨p, opened, inside, apart, here⟩
  · rwa [same]
  · have made := opened_made current known opened
    change _ ∧ newfd < ((32 : Nat) : Int) at inside
    obtain ⟨new, low⟩ : ∃ new : Fin 32, new.val = newfd.toNat := ⟨⟨newfd.toNat, by omega⟩, rfl⟩
    rw [here]
    by_cases empty : p.objects newfd.toNat = 0
    · have form : pointTo s p newfd.toNat (p.objects oldfd.toNat) =
          (s.setObject p newfd.toNat (p.objects oldfd.toNat)).addCounter
            (p.objects oldfd.toNat) 1 := by
        simp only [pointTo, empty, ne_eq, not_true_eq_false, if_false]
      rw [form]
      exact known_setObject known opened.process made ⟨Nat.le_refl _, rfl, rfl⟩ rfl
    · rw [← low] at empty ⊢
      rw [← table_current current opened.process new] at empty
      have replaces := pointTo_replaces (f := p.objects oldfd.toNat) current opened.process empty
        (counted _ empty references_of_cell).1
      apply known_setObject known opened.process made replaces.backs.1
      rw [replaces.slots, table_setObject current opened.process]

theorem search_made (known : Known s) (path : List UInt8) :
    devmgrSearchInDevList s path ≤ s.made := by
  unfold devmgrSearchInDevList
  split
  · exact Nat.zero_le _
  · split
    · exact Nat.zero_le _
    · rename_i i found
      cases here : s.deviceList i with
      | none => exact Nat.zero_le _
      | some device => exact known.deviceList i device here

theorem loaded_known {t : System} (known : Known s) (loaded : Loaded s t) : Known t := by
  have later : ∀ k, table s k ≤ s.made + 1 := fun k => (known.slots k).trans (Nat.le_succ _)
  cases loaded with
  | kept disk => exact ⟨known.slots, known.devDir, known.deviceList⟩
  | made disk slot base lbfsize =>
      exact Backs.known (s := s) ⟨Nat.le_succ _, rfl, rfl⟩ known later
  | installed disk p slot base lbfsize owner free =>
      exact Backs.known (s := s) ⟨Nat.le_succ _, rfl, rfl⟩ known
        (setObject_slots owner.listed (Nat.le_refl _) later slot)

theorem perform_known (current : s.core.currentProcess = (pid.val : Int)) (known : Known s)
    (counted : Counted 0 (pool s)) (served : perform s request = .ok out) : Known out.2 := by
  cases request with
  | dup oldfd =>
      cases served
      rcases @sysDup_cases s oldfd with same | ⟨p, slot, opened, free, here⟩
      · rwa [same]
      · rw [here]
        exact known_setObject known opened.process (opened_made current known opened)
          ⟨Nat.le_refl _, rfl, rfl⟩ rfl
  | dup2 oldfd newfd =>
      cases served
      exact pointsTo_known current known counted sysDup2_cases
  | dup3 oldfd newfd flags =>
      cases served
      exact pointsTo_known current known counted sysDup3_cases
  | duplicate oldfd start =>
      cases served
      by_cases duplicates : ∃ p slot, Duplicates s oldfd start p slot
      · obtain ⟨p, slot, comes⟩ := duplicates
        rw [fsDuplicateFd_of_comes comes]
        exact known_setObject known comes.listed (opened_made current known
          ⟨comes.listed, comes.descriptor, comes.pointer⟩) ⟨Nat.le_refl _, rfl, rfl⟩ rfl
      · simp only [not_exists] at duplicates
        rwa [fsDuplicateFd_stays duplicates]
  | pipe heap =>
      cases served
      by_cases opens : ∃ p slot1 slot2, OpensPipe s heap p slot1 slot2
      · -- Two structures more, each with a slot of the process.
        obtain ⟨p, slot1, slot2, comes⟩ := opens
        rw [sysPipe_of_comes comes]
        have later : ∀ k, table s k ≤ s.made + 2 := fun k => (known.slots k).trans (by omega)
        apply Backs.known (s := s) (t := installPipe s p slot1 slot2 heap.shBuff)
          ⟨Nat.le_add_right _ 2, rfl, rfl⟩ known
        intro k
        have cells := @installPipe_table s pid p current comes.process.listed
          ⟨slot1, (freeSlot_bounds comes.first).1⟩ ⟨slot2, (freeSlot_bounds comes.second).1⟩
          heap.shBuff
        rw [cells, update_apply, update_apply]
        change _ ≤ s.made + 2
        split
        · exact Nat.le_refl _
        · split
          · omega
          · exact later k
      · simp only [not_exists] at opens
        rwa [sysPipe_stays opens]
  | openFile pathname flags loading =>
      change openImp s pathname flags loading = _ at served
      by_cases opens : ∃ p slot, OpensDevice s pathname p slot
      · obtain ⟨p, slot, comes⟩ := opens
        rw [openImp_of_comes current comes] at served
        cases served
        exact known_setObject known comes.process.listed (search_made known _)
          ⟨Nat.le_refl _, rfl, rfl⟩ rfl
      · simp only [not_exists] at opens
        exact loaded_known known (openImp_loaded opens out served)
  | openDevice deviceIndex =>
      change sysOpenDeviceByNumber s deviceIndex = _ at served
      by_cases opens : ∃ p slot, OpensNumber s deviceIndex p slot
      · obtain ⟨p, slot, comes⟩ := opens
        rw [openNumber_of_comes current comes] at served
        cases served
        exact known_setObject known comes.process.listed (known.devDir _)
          ⟨Nat.le_refl _, rfl, rfl⟩ rfl
      · simp only [not_exists] at opens
        rwa [openNumber_stays opens out served]
  | close fd =>
      change sysClose s fd = _ at served
      by_cases closes : ∃ p, Closes s fd p
      · obtain ⟨p, comes⟩ := closes
        rw [sysClose_of_comes current comes] at served
        -- The slot is cleared, and nothing else points to a structure that was not made.
        have returns : Returns (closeFile s.core s.pid p fd.toNat (p.objects fd.toNat) >>=
          fun out =>
            .ok (out.1, { s with core := out.2 })) fun out => Known out.2 := by
          rw [returns_bind]
          exact (closeFile_backs comes.process.listed known _ _).mono
            fun _ kept => returns_ok.mpr kept
        exact returns out served
      · simp only [not_exists] at closes
        rwa [(sysClose_stays closes out served).2]

end Steps

section Runs

/-- A system to begin with: every file in a slot is valid and has the right counter. -/
structure Start where
  system : System
  known : Known system
  counted : Counted 0 (pool system)

/-- What is asked of a call, and when it is met, while its process is the current one. -/
def CallRight (s : System) (call : Call) (out : Int × System) : Prop :=
  Right (s.switchTo call.pid) call.request out

def CallCareful (s : System) (call : Call) : Prop :=
  Careful (s.switchTo call.pid) call.request

theorem known_switchTo {s : System} (known : Known s) (pid : Fin 512) : Known (s.switchTo pid) :=
  ⟨known.slots, known.devDir, known.deviceList⟩

/-- In every run the counters are right, and files released, as long as the calls are careful
    ones: none duplicates through `fs_duplicate_fd` or closes a descriptor, but those that
    fail first, and what is opened has a counter that happens to be right. -/
theorem descriptors_counted_iff (start : Start) (calls : List Call) :
    Along serve CallRight start.system calls ↔ Guarded serve CallCareful start.system calls := by
  apply @along_iff_guarded_of_kept _ _ _ _ _ CallCareful (fun s => Known s ∧ Counted 0 (pool s))
  · rintro s call out ⟨known, counted⟩ served
    exact right_iff_careful rfl (known_switchTo known call.pid) counted served
  · rintro s call out ⟨known, counted⟩ served right
    exact ⟨perform_known rfl (known_switchTo known call.pid) counted served, right.sound.1⟩
  · intro s call stop stopped
    exact careful_of_stopped rfl stopped
  · exact ⟨start.known, start.counted⟩

end Runs

/-- A process that has a terminal in slot 3. -/
def terminalProcess : Process := ⟨true, 1234, fun i => if i = 3 then 1 else 0⟩

def oneTerminal : System where
  core :=
    { currentProcess := 1
      teList := fun pid => if pid = 1 then some terminalProcess else none
      files := fun _ => ⟨true, 1234, .tty, 0, none, 1024, 0⟩
      disk := FatRoundTrip.blank }
  counting := fun _ => ⟨1, false, 3⟩
  made := 1
  running := true
  devDir := fun _ => ⟨0, false, 0⟩
  deviceList := fun _ => none

theorem oneTerminal_table : table oneTerminal =
    update (fun _ => 0) (⟨1, by decide⟩, ⟨3, by decide⟩) 1 := by
  funext k
  obtain ⟨pid, slot⟩ := k
  by_cases here : pid.val = 1
  · by_cases third : slot.val = 3
    · simp [table, oneTerminal, terminalProcess, update_apply, Fin.ext_iff, here, third]
    · simp [table, oneTerminal, terminalProcess, Fin.ext_iff, here, third]
  · simp [table, oneTerminal, Fin.ext_iff, here]

def oneTerminalStart : Start where
  system := oneTerminal
  known := by
    refine ⟨fun k => ?_, fun _ => Nat.zero_le _, fun _ _ found => by cases found⟩
    rw [oneTerminal_table, update_apply]
    split
    · exact Nat.le_refl 1
    · exact Nat.zero_le 1
  counted := by
    intro f pointer used
    refine ⟨⟨rfl, rfl⟩, ?_⟩
    change 0 < references (table oneTerminal) f at used
    change (1 : Int) = (references (table oneTerminal) f : Nat)
    rw [oneTerminal_table] at used ⊢
    have none : references (fun _ : Slot => 0) f = 0 := by
      refine Nat.eq_zero_of_not_pos fun positive => ?_
      obtain ⟨k, here⟩ := references_pos.mp positive
      exact pointer here.symm
    have gained (k : Slot) : references (update (fun _ : Slot => 0) k 1) 1 =
        references (fun _ : Slot => 0) 1 + 1 := references_gained Nat.zero_ne_one
    have kept (k : Slot) (other : f ≠ 1) : references (update (fun _ : Slot => 0) k 1) f =
        references (fun _ : Slot => 0) f := references_kept pointer other
    by_cases one : f = 1
    · rw [one] at none ⊢
      rw [gained, none]
      rfl
    · rw [kept _ one, none] at used
      exact absurd used (Nat.lt_irrefl 0)

/-- A descriptor is duplicated and then closed: the counter stays at 2. -/
theorem duplicate_close_miscounts : ¬∀ (start : Start) (calls : List Call),
    Along serve CallRight start.system calls := by
  intro all
  have along := all oneTerminalStart [⟨⟨1, by decide⟩, .dup 3⟩, ⟨⟨1, by decide⟩, .close 3⟩]
  have guarded := (descriptors_counted_iff _ _).mp along
  have later := guarded.2 _ _ rfl
  exact later.1 { terminalProcess with objects := update terminalProcess.objects 0 1 }
    ⟨by decide, ⟨rfl, rfl, rfl⟩, by decide, rfl, rfl⟩

end Gramado.Fs.DescriptorCounts
