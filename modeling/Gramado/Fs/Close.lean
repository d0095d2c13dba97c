/-
`__close_imp` of fslib.c. A regular file is saved under the name in its file
structure, as whole sectors of its buffer, and what the save returns is not
looked at. The files of `do_read_file_from_disk` have no name.
-/
import Gramado.Fs.FatSave
import Gramado.Fs.PipeCreation

namespace Gramado.Fs.Close

open Gramado.Ke
open Gramado.Fs.Fat16
open Gramado.Fs.FatRoundTrip
open Gramado.Fs.FatSave
open Gramado.Fs.FatTable
open Gramado.Fs.FatWalk
open Gramado.Fs.PipeCreation (OPEN_MAX Process)
open Gramado.Lib.Fallible
open Gramado.Lib.Memory
open Function

def PROCESS_COUNT_MAX : Int := 512

def ObjectTypeVirtualConsole : ObjectType := .other 15

/-- The fields of `struct file_d` that a close looks at. Pointers are numbers,
    0 for NULL, and a name is the string that the pointer leads to. -/
structure FileObject where
  used : Bool
  magic : Int
  object : ObjectType
  socket : Nat
  tmpfname : Option (List UInt8)
  lbfsize : Int32
  base : UInt64

/-- `teList` has none where a pointer is NULL. -/
structure System where
  currentProcess : Int
  teList : Nat → Option Process
  files : Nat → FileObject
  disk : Fat16.System

def System.clearSlot (s : System) (pid : Nat) (p : Process) (fd : Nat) : System :=
  { s with teList := update s.teList pid (some { p with objects := update p.objects fd 0 }) }

/-- The buffer is given as a sector at least. -/
def FileObject.adjusted (file : FileObject) : FileObject :=
  if file.lbfsize < 512 then { file with lbfsize := 512 } else file

/-- What is given to `fat16SaveFile`, which treats an empty name as NULL. -/
def FileObject.saveArguments (file : FileObject) : SaveArguments where
  fatAddress := UInt64.ofNat VOLUME1_FAT_ADDRESS
  dirAddress := UInt64.ofNat VOLUME1_ROOTDIR_ADDRESS
  dirEntries := 512
  fileName := file.tmpfname.getD []
  sizeInSectors := (file.lbfsize / 512).toInt64.toUInt64
  sizeInBytes := file.lbfsize.toInt64.toUInt64
  fileAddress := file.base
  flag := 0x20

/-- From the file structure on. What `socket_close` does to the socket is left out. -/
def closeFile (s : System) (pid : Nat) (p : Process) (fd fp : Nat) : Except Stop (Int × System) :=
  match (s.files fp).object with
  | .socket => if (s.files fp).socket = 0 then .ok (-1, s) else .ok (0, s)
  | .pipe => .ok (0, s.clearSlot pid p fd)
  | .tty => .ok (0, s.clearSlot pid p fd)
  | .file => do
      let file := (s.files fp).adjusted
      let out ← fat16SaveFile s.disk file.saveArguments
      let s := { s with files := update s.files fp file, disk := out.2 }
      .ok (0, s.clearSlot pid p fd)
  | object => if object = ObjectTypeVirtualConsole then .ok (0, s) else .ok (-1, s)

def closeImp (s : System) (fd : Int) : Except Stop (Int × System) :=
  if fd < 0 ∨ fd ≥ OPEN_MAX then
    .ok (-EBADF, s)
  else if fd = 0 ∨ fd = 1 ∨ fd = 2 then
    .ok (-EBADF, s)
  else if s.currentProcess < 0 ∨ s.currentProcess ≥ PROCESS_COUNT_MAX then
    .ok (-1, s)
  else
    match s.teList s.currentProcess.toNat with
    | none => .ok (-1, s)
    | some p =>
        if p.used ≠ true ∨ p.magic ≠ 1234 then
          .ok (-1, s)
        else
          let fp := p.objects fd.toNat
          if fp = 0 then
            .ok (-1, s)
          else if (s.files fp).used ≠ true ∨ (s.files fp).magic ≠ 1234 then
            .ok (-1, s)
          else
            closeFile s s.currentProcess.toNat p fd.toNat fp

/-- The descriptor is one of the current process, for a regular file. -/
structure Regular (s : System) (fd : Int) (file : FileObject) : Prop where
  descriptor : 3 ≤ fd ∧ fd < OPEN_MAX
  pid : 0 ≤ s.currentProcess ∧ s.currentProcess < PROCESS_COUNT_MAX
  opened : ∃ p, s.teList s.currentProcess.toNat = some p ∧ p.used = true ∧ p.magic = 1234 ∧
    p.objects fd.toNat ≠ 0 ∧ s.files (p.objects fd.toNat) = file
  used : file.used = true
  magic : file.magic = 1234
  object : file.object = .file

/-- The save that the close of the file makes. -/
def FileObject.save (file : FileObject) : SaveArguments :=
  file.adjusted.saveArguments

def FileObject.contents (file : FileObject) (mem : Int → UInt8) : List UInt8 :=
  slice mem file.base.toNat file.lbfsize.toNatClampNeg

/-- A load under the file's name to any buffer that is large enough yields the
    bytes that its buffer had. -/
def Stored (s : System) (file : FileObject) (disk : Fat16.System) : Prop :=
  ∃ name, file.tmpfname = some name ∧ ∀ target : Target s.disk file.save, ∃ passes ended,
    fat16LoadFile disk { target.arguments with fileName := name } passes = .inl ended ∧
      ended.result = .ok 0 ∧
      slice ended.system.mem target.buffer.address.toNat file.lbfsize.toNatClampNeg =
        file.contents s.disk.mem

/-- Where the contents cannot be stored the close returns an error. -/
def Reports (s : System) (fd : Int) (file : FileObject) : Prop :=
  ∀ value after, closeImp s fd = .ok (value, after) →
    (∀ out, fat16SaveFile s.disk file.save = .ok out → out.1 ≠ 0) → value ≠ 0

/-- A close that returns 0 has stored the file, and one that cannot store it
    returns an error. -/
def Persists (s : System) (fd : Int) (file : FileObject) : Prop :=
  (∀ value after, closeImp s fd = .ok (value, after) → value = 0 →
    Stored s file after.disk) ∧ Reports s fd file

section Calls

variable {s : System} {t : Fat16.System} {fd : Int} {file : FileObject}

theorem closeImp_regular (regular : Regular s fd file) :
    ∃ after : Fat16.System → System, (∀ disk, (after disk).disk = disk) ∧
      closeImp s fd = (fat16SaveFile s.disk file.save >>= fun out => .ok (0, after out.2)) := by
  obtain ⟨p, listed, used, magic, some, here⟩ := regular.opened
  have descriptor := regular.descriptor
  have pid := regular.pid
  refine ⟨fun disk => System.clearSlot { s with
    files := update s.files (p.objects fd.toNat) file.adjusted, disk := disk }
      s.currentProcess.toNat p fd.toNat, fun _ => rfl, ?_⟩
  rw [closeImp, if_neg (by omega), if_neg (by omega), if_neg (by omega), listed]
  simp only [used, magic, some, here, regular.used, regular.magic, ne_eq, not_true_eq_false,
    or_self, if_false, closeFile, regular.object]
  rfl

end Calls

section Sizes

variable {file : FileObject} {x : Int32}

theorem toNat_long (some : 0 ≤ x.toInt) : x.toInt64.toUInt64.toNat = x.toInt.toNat := by
  have low : 0 ≤ x.toInt64 := by
    rw [Int64.le_iff_toInt_le, Int32.toInt_toInt64]
    exact some
  rw [Int64.toNat_toUInt64_of_le low, Int64.toNatClampNeg, Int32.toInt_toInt64]

theorem adjusted_lbfsize : file.adjusted.lbfsize.toInt = max 512 file.lbfsize.toInt := by
  have sector : (512 : Int32).toInt = 512 := by decide
  rw [FileObject.adjusted]
  split
  · rename_i small
    rw [Int32.lt_iff_toInt_lt, sector] at small
    change (512 : Int32).toInt = _
    omega
  · rename_i large
    rw [Int32.lt_iff_toInt_lt, sector] at large
    omega

theorem save_sectors :
    file.save.sizeInSectors.toNat = (max 512 file.lbfsize.toInt).toNat / 512 := by
  have sector : (512 : Int32).toInt = 512 := by decide
  have size := @adjusted_lbfsize file
  have quotient : (file.adjusted.lbfsize / 512).toInt = (max 512 file.lbfsize.toInt).tdiv 512 := by
    rw [Int32.toInt_div_of_ne_right _ _ (by decide), size, sector]
  change ((file.adjusted.lbfsize / 512).toInt64.toUInt64).toNat = _
  have low : 0 ≤ (file.adjusted.lbfsize / 512).toInt := by
    rw [quotient]
    exact Int.tdiv_nonneg (by omega) (by decide)
  rw [toNat_long low, quotient, Int.tdiv_eq_ediv_of_nonneg (by omega)]
  omega

end Sizes

/-- When the file is stored: behind an IDE port, with a name of eleven characters that the
    directory does not have, a buffer of whole sectors, and a save that can be made. -/
structure Keeps (s : System) (t : Fat16.System) (file : FileObject) : Prop where
  root : s.disk.root = some bootRoot
  ide : s.disk.controllerType ≠ .ahci
  named : ∃ name, file.tmpfname = some name ∧ name.length = 11 ∧ (∀ b ∈ name, b ≠ 0) ∧
    ∀ i, i < 512 → slice s.disk.ideDisk
      (SECTOR_SIZE * VOLUME1_ROOTDIR_LBA + (FAT16_ENTRY_SIZE * i : Nat)) 11 ≠ name
  whole : file.lbfsize.toInt ≤ 512 ∨ (512 : Int) ∣ file.lbfsize.toInt
  fits : file.base.toNat + SECTOR_SIZE * file.save.sizeInSectors.toNat < 2 ^ 64
  off : FileOff file.save
  served : Served t file.save

section Saves

variable {s : System} {t : Fat16.System} {fd : Int} {file : FileObject} {name : List UInt8}

theorem save_name (named : file.tmpfname = some name) : file.save.fileName = name := by
  have same : file.adjusted.tmpfname = file.tmpfname := by
    rw [FileObject.adjusted]
    split <;> rfl
  change file.adjusted.tmpfname.getD [] = name
  rw [same, named]
  rfl

theorem save_base : file.save.fileAddress = file.base := by
  change file.adjusted.base = file.base
  rw [FileObject.adjusted]
  split <;> rfl

theorem save_storedName (named : file.tmpfname = some name) (all : name.length = 11) :
    storedName file.save = name := by
  have flag : file.save.flag = 0x20 := rfl
  rw [storedName, flag, save_name named]
  apply List.ext_getElem
  · simp [all]
  · intro k few here
    have cases : k < 8 ∨ k = 8 ∨ k = 9 ∨ k = 10 := by omega
    obtain low | rfl | rfl | rfl := cases
    · rw [List.getElem_append_left (by simpa using low)]
      simp [here]
    · simp [all]
    · simp [all]
    · simp [all]

theorem Keeps.newFile (keeps : Keeps s t file) : ∃ new : NewFile s.disk, new.args = file.save := by
  obtain ⟨name, named, all, nonzero, absent⟩ := keeps.named
  have stored := save_storedName named all
  have sectors := @save_sectors file
  refine ⟨⟨file.save, rfl, ?_, ?_, ?_, keeps.off⟩, rfl⟩
  · intro none
    rw [none] at sectors
    change 0 = _ at sectors
    omega
  · rw [stored]
    exact nonzero
  · rw [stored]
    exact absent

theorem Keeps.covers (keeps : Keeps s t file) :
    file.lbfsize.toNatClampNeg ≤ SECTOR_SIZE * file.save.sizeInSectors.toNat := by
  have size : SECTOR_SIZE = 512 := rfl
  have whole := keeps.whole
  rw [save_sectors, size, Int32.toNatClampNeg]
  omega

/-- What was delivered sector by sector is the contents of the buffer. -/
theorem contents_delivered (keeps : Keeps s t file) {target : Target s.disk file.save}
    {before : Fat16.System} {ended : Ended}
    (delivered : Delivered s.disk file.save target.buffer before ended) :
    slice ended.system.mem target.buffer.address.toNat file.lbfsize.toNatClampNeg =
      file.contents s.disk.mem := by
  have fits := target.buffer.fits
  have room := target.room
  have inside := keeps.fits
  have small : SECTOR_SIZE * file.save.sizeInSectors.toNat < 2 ^ 64 := by omega
  let source : Buffer := ⟨file.base, UInt64.ofNat
    (SECTOR_SIZE * file.save.sizeInSectors.toNat), by
      rw [UInt64.toNat_ofNat_of_lt' small]
      exact inside⟩
  have sectors : ∀ k, k < file.save.sizeInSectors.toNat →
      slice ended.system.mem (target.buffer.address.toNat + (SECTOR_SIZE * k : Nat)) SECTOR_SIZE =
        slice s.disk.mem (file.base.toNat + (SECTOR_SIZE * k : Nat)) SECTOR_SIZE := by
    intro k few
    have below : SECTOR_SIZE * k ≤ SECTOR_SIZE * file.save.sizeInSectors.toNat :=
      Nat.mul_le_mul_left _ (Nat.le_of_lt few)
    have there := @addressAt_toNat target.buffer k (by omega)
    have here : (addressAt file.base k).toNat = _ := @addressAt_toNat source k (by
      change file.base.toNat + _ < _
      omega)
    have same := delivered.sectors k few
    rw [there, save_base, here] at same
    exact_mod_cast same
  have all := slice_blocks sectors
  have covers := keeps.covers
  rw [FileObject.contents, ← take_slice covers, ← take_slice covers, all]

theorem stored_of_keeps (keeps : Keeps s t file) {out : Int × Fat16.System}
    (saved : fat16SaveFile s.disk file.save = .ok out) (zero : out.1 = 0) :
    Stored s file out.2 := by
  obtain ⟨new, args⟩ := keeps.newFile
  obtain ⟨name, named, all, -⟩ := keeps.named
  have trip := roundTrip_saved ⟨s.disk, keeps.root, keeps.ide⟩ new (args ▸ saved) zero
  rw [args] at trip
  refine ⟨name, named, ?_⟩
  intro target
  obtain ⟨passes, ended, done, delivered⟩ := trip.load target
  refine ⟨passes, ended, ?_, delivered.result, contents_delivered keeps delivered⟩
  have same : target.arguments.fileName = name := save_storedName named all
  rw [← same]
  exact done

theorem save_refused (loads : (fsLoadRootdir s.disk >>= fsLoadFat) = .ok t)
    (refused : ¬Served t file.save) : ∃ out, fat16SaveFile s.disk file.save = .ok out ∧
      out.1 ≠ 0 := by
  by_cases passes : Passes file.save
  · obtain ⟨list, failed⟩ := searchAndSave_refused passes refused
    rw [← save_passes loads passes] at failed
    exact ⟨_, failed, fun zero => by cases zero⟩
  · have table : ¬file.save.fatAddress = 0 := by
      change ¬UInt64.ofNat VOLUME1_FAT_ADDRESS = 0
      decide
    have place : ¬file.save.dirAddress = 0 := by
      change ¬UInt64.ofNat VOLUME1_ROOTDIR_ADDRESS = 0
      decide
    have known : file.save.fatAddress.toNat = VOLUME1_FAT_ADDRESS := by
      change (UInt64.ofNat VOLUME1_FAT_ADDRESS).toNat = VOLUME1_FAT_ADDRESS
      decide
    have entries :
        ¬(file.save.dirEntries = 0 ∨ file.save.dirEntries.toInt > FAT16_ROOT_ENTRIES) := by
      change ¬((512 : Int32) = 0 ∨ (512 : Int32).toInt > 512)
      decide
    refine ⟨(-1, s.disk), ?_, fun zero => by cases zero⟩
    rw [fat16SaveFile, if_neg table, if_neg place, if_neg (not_not_intro known)]
    by_cases empty : file.save.fileName.getD 0 0 = 0
    · rw [if_pos empty]
    · rw [if_neg empty, if_neg entries]
      by_cases large : file.save.sizeInSectors > MaxFileSizeInSectors
      · rw [if_pos large]
      · exact absurd ⟨table, place, known, empty, entries, large⟩ passes

theorem closed_saved (regular : Regular s fd file) {value : Int} {later : System}
    (closed : closeImp s fd = .ok (value, later)) : value = 0 ∧ ∃ out,
      fat16SaveFile s.disk file.save = .ok out ∧ later.disk = out.2 := by
  obtain ⟨after, disk, close⟩ := closeImp_regular regular
  rw [close] at closed
  cases saved : fat16SaveFile s.disk file.save with
  | error stop =>
      rw [saved] at closed
      cases closed
  | ok out =>
      rw [saved] at closed
      cases closed
      exact ⟨rfl, out, rfl, disk out.2⟩

theorem zero_of_served (loads : (fsLoadRootdir s.disk >>= fsLoadFat) = .ok t)
    (served : Served t file.save) {out : Int × Fat16.System}
    (saved : fat16SaveFile s.disk file.save = .ok out) : out.1 = 0 := by
  rw [save_passes loads served.passes] at saved
  exact (searchAndSave_served served).1 out saved

theorem reports_iff (regular : Regular s fd file)
    (loads : (fsLoadRootdir s.disk >>= fsLoadFat) = .ok t) :
    Reports s fd file ↔ Served t file.save := by
  constructor
  · intro reports
    by_contra refused
    obtain ⟨out, failed, nonzero⟩ := save_refused loads refused
    obtain ⟨after, -, close⟩ := closeImp_regular regular
    rw [failed] at close
    refine reports 0 _ close ?_ rfl
    intro other same
    rw [failed] at same
    cases same
    exact nonzero
  · intro served value later closed fails
    obtain ⟨-, out, saved, -⟩ := closed_saved regular closed
    exact absurd (zero_of_served loads served saved) (fails out saved)

end Saves

/-- A close reports what it cannot store if and only if there is nothing of the kind, as it
    always returns 0. It keeps the whole of its promise for a file with a new name of eleven
    characters and a buffer of whole sectors. -/
theorem close_persists {s : System} {t : Fat16.System} {fd : Int} {file : FileObject}
    (regular : Regular s fd file) (loads : (fsLoadRootdir s.disk >>= fsLoadFat) = .ok t) :
    (Reports s fd file ↔ Served t file.save) ∧ (Keeps s t file → Persists s fd file) := by
  refine ⟨reports_iff regular loads, fun keeps => ⟨?_, ?_⟩⟩
  · intro value later closed _
    obtain ⟨-, out, saved, disk⟩ := closed_saved regular closed
    rw [disk]
    exact stored_of_keeps keeps saved (zero_of_served loads keeps.served saved)
  · exact (reports_iff regular loads).mpr keeps.served

/-- A file with a buffer of two sectors. -/
def twoSectors (tmpfname : Option (List UInt8)) : FileObject :=
  ⟨true, 1234, .file, 0, tmpfname, 1024, 0x200000⟩

/-- A process that has it in every slot, and a blank volume. -/
def oneProcess (tmpfname : Option (List UInt8)) : System where
  currentProcess := 1
  teList := fun _ => some ⟨true, 1234, fun _ => 7⟩
  files := fun _ => twoSectors tmpfname
  disk := blank

theorem oneProcess_regular {tmpfname : Option (List UInt8)} :
    Regular (oneProcess tmpfname) 3 (twoSectors tmpfname) := by
  refine ⟨by decide, ?_, ?_, rfl, rfl, rfl⟩
  · change 0 ≤ (1 : Int) ∧ (1 : Int) < 512
    decide
  · exact ⟨⟨true, 1234, fun _ => 7⟩, rfl, rfl, rfl, by decide, rfl⟩

theorem save_twoSectors : (twoSectors (some notesName)).save = saveNotes 0x20 := by
  rfl

theorem twoSectors_keeps : Keeps (oneProcess (some notesName)) blank
    (twoSectors (some notesName)) := by
  refine ⟨rfl, ?_, ⟨notesName, rfl, rfl, by simp [notesName], ?_⟩, Or.inr ?_, ?_, ?_, ?_⟩
  · change blank.controllerType ≠ .ahci
    exact blank_ready.ide
  · have absent := @notes_absent 0x20
    rwa [stored_notes] at absent
  · change (512 : Int) ∣ (1024 : Int32).toInt
    decide
  · rw [save_twoSectors]
    change UInt64.toNat 0x200000 + 512 * UInt64.toNat 2 < 2 ^ 64
    decide
  · rw [save_twoSectors]
    exact notes_off
  · rw [save_twoSectors]
    exact blank_served

/-- The file with a name is stored. -/
theorem named_file_persists : Persists (oneProcess (some notesName)) 3
    (twoSectors (some notesName)) :=
  (close_persists oneProcess_regular blank_loads).2 twoSectors_keeps

/-- The close of a file without a name returns 0. -/
theorem nameless_file_lost : ¬∀ (s : System) (fd : Int) (file : FileObject),
    Regular s fd file → Persists s fd file := by
  intro all
  have persists := all _ 3 _ (@oneProcess_regular none)
  have served := (reports_iff oneProcess_regular blank_loads).mp persists.2
  exact absurd rfl served.passes.named

end Gramado.Fs.Close
