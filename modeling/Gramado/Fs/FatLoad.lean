/-
Which cluster chains `fat16LoadFile` loads. Of the values that end a chain it
knows 0xFFF8 and 0xFFFF: behind any other one it goes on to the next pass, which
takes the value for a cluster out of limits. The file has to be smaller than the
buffer, also where the buffer has all of its sectors.
-/
import Gramado.Fs.FatTable
import Gramado.Fs.FatWalk

namespace Gramado.Fs.FatLoad

open Gramado.Ke
open Gramado.Fs.Fat16
open Gramado.Fs.FatTable
open Gramado.Fs.FatWalk
open Gramado.Lib.Fallible
open Gramado.Lib.Links
open Gramado.Lib.LittleEndian
open Gramado.Lib.Loop
open Gramado.Lib.Memory

section Sectors

variable {s t : System} {buffer : Buffer} {address : UInt64} {first c : UInt16} {k n : Nat}

theorem storeSector_bootDisk : bootDisk (storeSector s address c) = bootDisk s := by
  rw [storeSector]
  split
  · rfl
  · exact bootDisk_congr (storeMem_controllerType ..) (storeMem_ideDisk ..) (storeMem_ahciDisk ..)

theorem storeSector_mem (place : address ≠ 0) : (storeSector s address c).mem =
    store s.mem address.toNat (sectorOf (bootDisk s) (dataLba c)) := by
  rw [storeSector, if_neg place, storeMem_mem, bootDisk, dataLba]

/-- A buffer that `n` sectors go into. -/
structure Holds (buffer : Buffer) (n : Nat) : Prop where
  place : buffer.address ≠ 0
  room : SECTOR_SIZE * n ≤ buffer.size.toNat

theorem Holds.at_sector (holds : Holds buffer n) (inside : k < n) :
    (addressAt buffer.address k).toNat = buffer.address.toNat + SECTOR_SIZE * k := by
  have fits := buffer.fits
  have room := holds.room
  have below : SECTOR_SIZE * k ≤ SECTOR_SIZE * n := Nat.mul_le_mul_left _ (Nat.le_of_lt inside)
  exact addressAt_toNat (by omega)

theorem Holds.place_at (holds : Holds buffer n) (inside : k < n) :
    addressAt buffer.address k ≠ 0 := by
  intro zero
  have here := holds.at_sector inside
  have start := address_ne_zero holds.place
  rw [zero] at here
  have none : (0 : UInt64).toNat = 0 := rfl
  omega

theorem seen_bootDisk : bootDisk (seen s address first k).1 = bootDisk s := by
  induction k with
  | zero => rfl
  | succ k ih => rw [seen, storeSector_bootDisk, ih]

theorem seen_mem (holds : Holds buffer n) (inside : k < n) :
    (seen s buffer.address first (k + 1)).1.mem =
      store (seen s buffer.address first k).1.mem
        (buffer.address.toNat + SECTOR_SIZE * k : Nat)
        (sectorOf (bootDisk s) (dataLba (seen s buffer.address first k).2)) := by
  rw [seen]
  simp only
  rw [storeSector_mem (holds.place_at inside), holds.at_sector inside, seen_bootDisk]

theorem seen_rest (holds : Holds buffer n) (inside : k ≤ n) {j : Int}
    (outside : j < buffer.address.toNat ∨
      buffer.address.toNat + (SECTOR_SIZE * n : Nat) ≤ j) :
    (seen s buffer.address first k).1.mem j = s.mem j := by
  induction k with
  | zero => rfl
  | succ k ih =>
      rw [seen_mem holds inside, ← ih (Nat.le_of_succ_le inside)]
      have length : (sectorOf (bootDisk s)
          (dataLba (seen s buffer.address first k).2)).length = SECTOR_SIZE := length_slice
      have size : SECTOR_SIZE = 512 := rfl
      rw [size] at outside
      obtain before | behind := outside
      · exact store_before (by omega)
      · exact store_behind (by rw [length, size]; omega)

theorem seen_sector (holds : Holds buffer n) (inside : k ≤ n) {j : Nat} (early : j < k) :
    slice (seen s buffer.address first k).1.mem (addressAt buffer.address j).toNat SECTOR_SIZE =
      sectorOf (bootDisk s) (dataLba (seen s buffer.address first j).2) := by
  have here := holds.at_sector (Nat.lt_of_lt_of_le early inside)
  induction k with
  | zero => cases early
  | succ k ih =>
      rw [seen_mem holds inside, here]
      obtain before | rfl := Nat.lt_succ_iff_lt_or_eq.mp early
      · rw [← ih (Nat.le_of_succ_le inside) before, here]
        apply slice_congr
        intro i _ high
        apply store_before
        have size : SECTOR_SIZE = 512 := rfl
        rw [size] at high ⊢
        omega
      · have length : (sectorOf (bootDisk s)
            (dataLba (seen s buffer.address first j).2)).length = SECTOR_SIZE := length_slice
        have back := @slice_store _ (seen s buffer.address first j).1.mem
          (buffer.address.toNat + SECTOR_SIZE * j : Nat)
          (sectorOf (bootDisk s) (dataLba (seen s buffer.address first j).2))
        rwa [length] at back

/-- The link of the cluster is not in the buffer. -/
def LinkOff (buffer : Buffer) (n : Nat) (c : UInt16) : Prop :=
  VOLUME1_FAT_ADDRESS + 2 * c.toNat + 2 ≤ buffer.address.toNat ∨
    buffer.address.toNat + SECTOR_SIZE * n ≤ VOLUME1_FAT_ADDRESS + 2 * c.toNat

theorem seen_fat (holds : Holds buffer n) (inside : k ≤ n) (off : LinkOff buffer n c) :
    (seen s buffer.address first k).1.fat c = s.fat c := by
  apply shortAt_congr
  intro j low high
  apply seen_rest holds inside
  rw [LinkOff] at off
  omega

/-- Where the links are not written to they are followed as they were. -/
theorem seen_cluster (holds : Holds buffer n) (inside : k ≤ n)
    (off : ∀ j, j < k → LinkOff buffer n (s.fat^[j] first)) :
    (seen s buffer.address first k).2 = s.fat^[k] first := by
  induction k with
  | zero => rfl
  | succ k ih =>
      have here := ih (Nat.le_of_succ_le inside) fun j early => off j (Nat.lt_succ_of_lt early)
      have link := off k (Nat.lt_succ_self k)
      rw [← here] at link
      change (seen s buffer.address first (k + 1)).1.fat (seen s buffer.address first k).2 = _
      rw [seen_fat holds inside link, here, Function.iterate_succ_apply']

theorem seen_front (holds : Holds buffer n) (inside : k ≤ n) :
    slice (seen s buffer.address first k).1.mem buffer.address.toNat (SECTOR_SIZE * k) =
      (List.range k).flatMap fun j =>
        sectorOf (bootDisk s) (dataLba (seen s buffer.address first j).2) := by
  induction k with
  | zero => rfl
  | succ k ih =>
      have place : ((buffer.address.toNat + SECTOR_SIZE * k : Nat) : Int) =
          buffer.address.toNat + ((SECTOR_SIZE * k : Nat) : Int) := by
        push_cast
        rfl
      have length : (sectorOf (bootDisk s)
          (dataLba (seen s buffer.address first k).2)).length = SECTOR_SIZE := length_slice
      have both := @slice_store_behind _ (seen s buffer.address first k).1.mem
        buffer.address.toNat (SECTOR_SIZE * k)
        (sectorOf (bootDisk s) (dataLba (seen s buffer.address first k).2)) _ place
      rw [length] at both
      rw [seen_mem holds inside, Nat.mul_succ, both, ih (Nat.le_of_succ_le inside),
        List.range_succ, List.flatMap_append, List.flatMap_singleton]

end Sectors

section Begin

variable {s d : System} {args : LoadArguments} {i : Nat}

/-- The call passes the checks that come before the file is looked for. -/
structure Called (s : System) (args : LoadArguments) : Prop where
  table : args.fatAddress.toNat = VOLUME1_FAT_ADDRESS
  place : args.dirAddress ≠ 0
  entries : args.entries = FAT16_ROOT_ENTRIES
  some_room : args.bufferSize ≠ 0
  limit : args.bufferSize ≤ 512 * 4096
  root : ∃ root, s.root = some root ∧ root.used = true ∧ root.magic = 1234 ∧ ¬root.spc ≤ 0 ∧
    unsignedLong root.dirEntries = FAT16_ROOT_ENTRIES
  named : args.fileName.getD 0 0 ≠ 0
  short : strlen args.fileName ≤ 11

/-- `fat16LoadFile` between the size and the walk. -/
def afterSize (args : LoadArguments) (out : Nat × System) : Except Stop (Option Walk × System) :=
  if out.1 ≥ args.bufferSize then .ok (none, out.2) else findFirstCluster out.2 args

theorem beginLoad_called (called : Called s args) : beginLoad s args =
    fsGetFileSize s args.fileName args.dirAddress >>= afterSize args := by
  obtain ⟨root, boot, used, magic, spc, number⟩ := called.root
  have table : ¬args.fatAddress = 0 := by
    intro zero
    have known := called.table
    rw [zero] at known
    exact absurd known (by decide)
  have entries : ¬args.entries > FAT16_ROOT_ENTRIES := by
    rw [called.entries]
    exact Nat.lt_irrefl _
  have valid : ¬(root.used ≠ true ∨ root.magic ≠ 1234) := by
    rw [not_or]
    exact ⟨not_not_intro used, not_not_intro magic⟩
  rw [beginLoad, if_neg table, if_neg called.place, if_neg (not_not_intro called.table),
    if_neg entries, if_neg (not_not_intro called.entries), if_neg called.some_room,
    if_neg (Nat.not_lt.mpr called.limit), boot]
  change (if _ then _ else _) = _
  rw [if_neg valid, if_neg spc, if_neg (not_not_intro number), if_neg called.named,
    if_neg (Nat.not_lt.mpr called.short)]
  rfl

theorem beginLoad_uncalled (uncalled : ¬Called s args) :
    Returns (beginLoad s args) fun out => out.1 = none := by
  simp only [beginLoad, returns_ite, returns_error, returns_ok, returns_bind, returns_need,
    implies_true, true_and]
  intro _ place known most entries some_room limit root boot valid spc number named short
  rw [not_or, not_not, not_not] at valid
  exact absurd ⟨not_not.mp known, place, not_not.mp entries, some_room, Nat.not_lt.mp limit,
    ⟨root, boot, valid.1, valid.2, spc, not_not.mp number⟩, named, Nat.not_lt.mp short⟩ uncalled

/-- The directory that the call looks into, in memory: the root directory is
    read again. -/
def directoryLoaded (s : System) (args : LoadArguments) : Except Stop System :=
  if args.dirAddress.toNat = VOLUME1_ROOTDIR_ADDRESS then fsLoadRootdir s else .ok s

theorem directoryLoaded_ok : Returns (directoryLoaded s args) fun d =>
    Others s d ∧ bootDisk d = bootDisk s := by
  rw [directoryLoaded, returns_ite, returns_ok]
  constructor
  · intro _
    refine loadSequentialSectors_ok.mono ?_
    intro d read
    exact ⟨read.toOthers, bootDisk_congr read.controllerType read.ideDisk read.ahciDisk⟩
  · exact fun _ => ⟨Others.refl s, rfl⟩

theorem fsGetFileSize_found (called : Called s args) (reads : directoryLoaded s args = .ok d)
    (found : searchDirent d.mem args.dirAddress FAT16_ROOT_ENTRIES args.fileName
      (strlen args.fileName) = some i) :
    fsGetFileSize s args.fileName args.dirAddress =
      .ok (intAt d.mem (entryAddress args.dirAddress i + 28), d) := by
  obtain ⟨root, boot, -, -, spc, number⟩ := called.root
  have same := (directoryLoaded_ok d reads).1.root
  have some : ¬FAT16_ROOT_ENTRIES = 0 := by decide
  have short : min (strlen args.fileName) 11 = strlen args.fileName :=
    Nat.min_eq_left called.short
  rw [directoryLoaded] at reads
  rw [fsGetFileSize, if_neg called.named, if_neg called.place]
  by_cases root : args.dirAddress.toNat = VOLUME1_ROOTDIR_ADDRESS
  · rw [if_pos root] at reads
    simp only [if_pos root, reads, bind, Except.bind, same, boot, need, if_neg spc, if_neg some,
      short, number, found]
  · rw [if_neg root] at reads
    cases reads
    simp only [if_neg root, bind, Except.bind, boot, need, if_neg spc, if_neg some, short, number,
      found]

theorem findFirstCluster_of {t : System} {c : UInt16}
    (found : searchDirent d.mem args.dirAddress FAT16_ROOT_ENTRIES args.fileName
      (strlen args.fileName) = some i)
    (first : shortAt d.mem (entryAddress args.dirAddress i + 26) = c)
    (limits : ¬(c = 0 ∨ c > 0xFFF0)) (loads : fsLoadFat d = .ok t) :
    findFirstCluster d args = .ok (some (walkAt t args.buffer c 0), t) := by
  rw [walkAt_zero]
  unfold findFirstCluster
  simp only [found, first, if_neg limits, loads, bind, Except.bind]

end Begin

/-- Clusters of the data area that the table has a link for, and the values
    that end a chain. -/
def fatMarks : Marks UInt16 where
  cell := fun c => 2 ≤ c.toNat ∧ 2 * c.toNat + 2 ≤ SECTOR_SIZE * VOLUME1_FAT_SIZE
  ends := fun c => 0xFFF8 ≤ c
  apart := by
    rintro c ⟨-, high⟩ last
    have size : SECTOR_SIZE * VOLUME1_FAT_SIZE = 125952 := rfl
    have low : 65528 ≤ c.toNat := UInt16.le_iff_toNat_le.mp last
    omega

/-- A file that is there to be loaded: the search comes to its entry, and the
    entry starts a chain of `cells` in the table. The directory and the table
    are in memory, or are read to it from the disk. -/
structure ChainedFile (s : System) (args : LoadArguments) where
  directory : System
  table : System
  entry : Nat
  cells : List UInt16
  reads : directoryLoaded s args = .ok directory
  loads : fsLoadFat directory = .ok table
  found : searchDirent directory.mem args.dirAddress FAT16_ROOT_ENTRIES args.fileName
    (strlen args.fileName) = some entry
  chain : Chain fatMarks table.fat
    (shortAt directory.mem (entryAddress args.dirAddress entry + 26)) cells
  some_cluster : 0 < cells.length

namespace ChainedFile

variable {s : System} {args : LoadArguments}

def first (file : ChainedFile s args) : UInt16 :=
  shortAt file.directory.mem (entryAddress args.dirAddress file.entry + 26)

/-- The value that ends the chain. -/
def last (file : ChainedFile s args) : UInt16 :=
  file.table.fat^[file.cells.length] file.first

def size (file : ChainedFile s args) : Nat :=
  intAt file.directory.mem (entryAddress args.dirAddress file.entry + 28)

def contents (file : ChainedFile s args) : List UInt8 :=
  file.cells.flatMap fun c => sectorOf (bootDisk s) (dataLba c)

/-- The buffer of the call has the sectors of the file, none of them over the
    table. -/
structure Space (file : ChainedFile s args) : Prop where
  fits : args.buffer.toNat + args.bufferSizeInBytes.toNat < 2 ^ 64
  place : args.buffer ≠ 0
  room : SECTOR_SIZE * file.cells.length ≤ args.bufferSizeInBytes.toNat
  clear : args.buffer.toNat + SECTOR_SIZE * file.cells.length ≤ VOLUME1_FAT_ADDRESS ∨
    VOLUME1_FAT_ADDRESS + SECTOR_SIZE * VOLUME1_FAT_SIZE ≤ args.buffer.toNat

/-- The load returns 0, with the sectors of the chain in the buffer. -/
def IsLoaded (file : ChainedFile s args) : Prop :=
  ∃ passes ended, fat16LoadFile s args passes = .inl ended ∧ ended.result = .ok 0 ∧
    slice ended.system.mem args.buffer.toNat (SECTOR_SIZE * file.cells.length) = file.contents

/-- When the load accepts the file. -/
structure Accepted (file : ChainedFile s args) : Prop where
  called : Called s args
  larger : file.size < args.bufferSize
  few : file.cells.length / 2 ≤ CONFIG_IMAGESIZE_LIMIT_IN_KB
  valid : ∀ k, k < file.cells.length →
    checkAddressValidation s (addressAt args.buffer k).toNat = true
  onDisk : ∀ c ∈ file.cells, OnDisk s c
  last : file.last = 0xFFFF ∨ file.last = 0xFFF8

/-- `BufferSizeInBytes` bytes from the buffer on. -/
def Space.buffer {file : ChainedFile s args} (space : file.Space) : Buffer :=
  ⟨args.buffer, args.bufferSizeInBytes, space.fits⟩

section Walk

variable {file : ChainedFile s args} {k : Nat}

theorem Space.holds (space : file.Space) : Holds space.buffer file.cells.length :=
  ⟨space.place, space.room⟩

theorem others (file : ChainedFile s args) : Others s file.directory ∧
    bootDisk file.directory = bootDisk s :=
  directoryLoaded_ok _ file.reads

theorem table_bootDisk (file : ChainedFile s args) : bootDisk file.table = bootDisk s := by
  have loaded := fsLoadFat_ok _ file.loads
  rw [bootDisk_congr loaded.controllerType loaded.ideDisk loaded.ahciDisk, file.others.2]

theorem iterate_cell (file : ChainedFile s args) (few : k < file.cells.length) :
    file.table.fat^[k] file.first = file.cells[k] :=
  chain_iterate few file.chain

theorem last_ends (file : ChainedFile s args) : 0xFFF8 ≤ file.last :=
  chain_iterate_length file.chain

theorem seen_at (space : file.Space) (inside : k ≤ file.cells.length) :
    (seen file.table args.buffer file.first k).2 = file.table.fat^[k] file.first := by
  apply @seen_cluster _ space.buffer _ _ _ space.holds inside
  intro j early
  have few := Nat.lt_of_lt_of_le early inside
  rw [file.iterate_cell few]
  have cell := chain_cell file.chain (List.getElem_mem few)
  have clear := space.clear
  have table : 2 * file.cells[j].toNat + 2 ≤ SECTOR_SIZE * VOLUME1_FAT_SIZE := cell.2
  change _ ∨ args.buffer.toNat + SECTOR_SIZE * file.cells.length ≤ _
  change VOLUME1_FAT_ADDRESS + 2 * file.cells[j].toNat + 2 ≤ args.buffer.toNat ∨ _
  omega

theorem seen_cell (space : file.Space) (few : k < file.cells.length) :
    (seen file.table args.buffer file.first k).2 = file.cells[k] := by
  rw [seen_at space (Nat.le_of_lt few), file.iterate_cell few]

/-- A cluster of the chain can be read if its address is valid and the disk has
    its sector. -/
theorem goesOn_iff (space : file.Space) (few : k < file.cells.length) :
    GoesOn file.table args.buffer file.first k ↔
      checkAddressValidation s (addressAt args.buffer k).toNat = true ∧
        OnDisk s file.cells[k] := by
  have loaded := fsLoadFat_ok _ file.loads
  have others := file.others.1
  have place : addressAt args.buffer k ≠ 0 := space.holds.place_at few
  have cell := chain_cell file.chain (List.getElem_mem few)
  have size : SECTOR_SIZE * VOLUME1_FAT_SIZE = 125952 := rfl
  have high : 2 * file.cells[k].toNat + 2 ≤ SECTOR_SIZE * VOLUME1_FAT_SIZE := cell.2
  have some : file.cells[k] ≠ 0 := by
    intro zero
    have low : 2 ≤ file.cells[k].toNat := cell.1
    rw [zero] at low
    exact absurd low (by decide)
  have limit : file.cells[k] ≤ 0xFFF0 := by
    apply UInt16.le_iff_toNat_le.mpr
    change _ ≤ 65520
    omega
  have valid : checkAddressValidation file.table = checkAddressValidation s := by
    funext address
    rw [checkAddressValidation, loaded.backbufferVa, others.backbufferVa, checkAddressValidation]
  have controllerType : file.table.controllerType = s.controllerType :=
    loaded.controllerType.trans others.controllerType
  have sectors : file.table.numberOfSectorsInBootDisk = s.numberOfSectorsInBootDisk :=
    loaded.sectors.trans others.sectors
  rw [GoesOn, seen_cell space few, Readable, valid, controllerType, sectors, or_iff_right place,
    or_iff_not_imp_left, OnDisk, dataLba]
  constructor
  · rintro ⟨address, -, -, there⟩
    exact ⟨address, there⟩
  · rintro ⟨address, there⟩
    exact ⟨address, some, limit, there⟩

end Walk

section Begin

variable {file : ChainedFile s args} {k passes : Nat} {ended : Ended}

theorem findFirstCluster_file (file : ChainedFile s args) :
    findFirstCluster file.directory args =
      .ok (some (walkAt file.table args.buffer file.first 0), file.table) := by
  have few := file.some_cluster
  have cell := chain_cell file.chain (List.getElem_mem few)
  have first : file.first = file.cells[0] := file.iterate_cell few
  rw [← first] at cell
  have size : SECTOR_SIZE * VOLUME1_FAT_SIZE = 125952 := rfl
  have high : 2 * file.first.toNat + 2 ≤ SECTOR_SIZE * VOLUME1_FAT_SIZE := cell.2
  have limits : ¬(file.first = 0 ∨ file.first > 0xFFF0) := by
    rintro (none | above)
    · have low : 2 ≤ file.first.toNat := cell.1
      rw [none] at low
      exact absurd low (by decide)
    · have bound : 65520 < file.first.toNat := UInt16.lt_iff_toNat_lt.mp above
      omega
  exact findFirstCluster_of file.found rfl limits file.loads

/-- A call that passes its checks finds the file, and walks if it is smaller
    than the buffer. -/
theorem beginLoad_file (called : Called s args) (file : ChainedFile s args) :
    beginLoad s args =
      if file.size ≥ args.bufferSize then
        .ok (none, file.directory)
      else
        .ok (some (walkAt file.table args.buffer file.first 0), file.table) := by
  have size : fsGetFileSize s args.fileName args.dirAddress = .ok (file.size, file.directory) :=
    fsGetFileSize_found called file.reads file.found
  rw [beginLoad_called called, size]
  change afterSize args (file.size, file.directory) = _
  rw [afterSize, findFirstCluster_file]

theorem walk_of_zero (file : ChainedFile s args) (done : fat16LoadFile s args passes = .inl ended)
    (zero : ended.result = .ok 0) :
    Called s args ∧ file.size < args.bufferSize ∧
      after loopNextEntry passes (walkAt file.table args.buffer file.first 0) = .inl ended := by
  cases begins : beginLoad s args with
  | error stop =>
      rw [fat16LoadFile, begins] at done
      cases done
      cases zero
  | ok out =>
      obtain ⟨walk, t⟩ := out
      cases walk with
      | none =>
          rw [fat16LoadFile, begins] at done
          cases done
          cases zero
      | some walk =>
          have called : Called s args := by
            by_contra uncalled
            cases beginLoad_uncalled uncalled _ begins
          have starts := beginLoad_file called file
          rw [begins] at starts
          by_cases large : file.size ≥ args.bufferSize
          · rw [if_pos large] at starts
            cases starts
          · rw [if_neg large] at starts
            cases starts
            exact ⟨called, Nat.not_le.mp large, (fat16LoadFile_walk begins passes).symm.trans done⟩

end Begin

section Run

variable {file : ChainedFile s args} {k passes : Nat} {ended : Ended}

theorem pass_inside (space : file.Space) (few : k + 1 < file.cells.length)
    (goes : GoesOn file.table args.buffer file.first k) :
    loopNextEntry (walkAt file.table args.buffer file.first k) =
      .inr (walkAt file.table args.buffer file.first (k + 1)) := by
  have cell : 2 * file.cells[k + 1].toNat + 2 ≤ SECTOR_SIZE * VOLUME1_FAT_SIZE :=
    (chain_cell file.chain (List.getElem_mem few)).2
  have size : SECTOR_SIZE * VOLUME1_FAT_SIZE = 125952 := rfl
  obtain ⟨-, next⟩ | ⟨mark, -⟩ := pass_goes_on goes
  · exact next
  · rw [seen_cell space few] at mark
    -- A mark is above every cluster of the table.
    obtain same | same | same := mark <;> rw [same] at cell <;> exact absurd cell (by decide)

theorem goesOn_of_zero
    (done : after loopNextEntry passes (walkAt file.table args.buffer file.first 0) = .inl ended)
    (zero : ended.result = .ok 0) {k : Nat}
    (path : ∀ j, j < k → loopNextEntry (walkAt file.table args.buffer file.first j) =
      .inr (walkAt file.table args.buffer file.first (j + 1))) :
    GoesOn file.table args.buffer file.first k := by
  by_contra breaks
  obtain ⟨stop, breaksOff⟩ := pass_breaks_off breaks
  have stopped := after_path_done path breaksOff (Nat.lt_succ_self k)
  rw [after_unique done stopped] at zero
  cases zero

theorem goesOn_all (space : file.Space)
    (done : after loopNextEntry passes (walkAt file.table args.buffer file.first 0) = .inl ended)
    (zero : ended.result = .ok 0) (few : k < file.cells.length) :
    GoesOn file.table args.buffer file.first k := by
  induction k using Nat.strong_induction_on with
  | _ k ih =>
      apply goesOn_of_zero done zero
      intro j early
      have inside := Nat.lt_of_le_of_lt (Nat.succ_le_of_lt early) few
      exact pass_inside space inside (ih j early (Nat.lt_of_succ_lt inside))

/-- Behind the last cluster stands one of the two marks that the walk knows. -/
theorem last_of_zero (space : file.Space)
    (done : after loopNextEntry passes (walkAt file.table args.buffer file.first 0) = .inl ended)
    (zero : ended.result = .ok 0) :
    (file.last = 0xFFFF ∨ file.last = 0xFFF8) ∧
      file.cells.length / 2 ≤ CONFIG_IMAGESIZE_LIMIT_IN_KB := by
  obtain ⟨k, count⟩ := Nat.exists_eq_add_of_le' file.some_cluster
  have goes := goesOn_all space done zero (show k < file.cells.length by omega)
  have path : ∀ j, j < k → loopNextEntry (walkAt file.table args.buffer file.first j) =
      .inr (walkAt file.table args.buffer file.first (j + 1)) := fun j early =>
    pass_inside space (by omega) (goesOn_all space done zero (by omega))
  have last := seen_at space (Nat.le_refl _)
  change _ = file.last at last
  rw [count] at last ⊢
  have ends := file.last_ends
  have pass := loopNextEntry_walkAt goes
  rw [last] at pass
  by_cases known : file.last = 0xFFFF ∨ file.last = 0xFFF8
  · refine ⟨known, ?_⟩
    by_contra many
    have good : ¬file.last = 0xFFF7 := by
      obtain same | same := known <;> rw [same] <;> decide
    rw [if_neg good, if_pos known, if_pos (Nat.not_le.mp many)] at pass
    rw [after_unique done (after_path_done path pass (Nat.lt_succ_self k))] at zero
    cases zero
  · exfalso
    have good : ¬file.last = 0xFFF7 := by
      intro same
      rw [same] at ends
      exact absurd ends (by decide)
    -- The mark is taken for the next cluster.
    rw [if_neg good, if_neg known] at pass
    have onward := goesOn_of_zero done zero (k := k + 1) (by
      intro j early
      obtain before | rfl := Nat.lt_succ_iff_lt_or_eq.mp early
      · exact path j before
      · exact pass)
    have limit : file.last ≤ 0xFFF0 := by
      rw [← last]
      exact onward.2.2.1
    exact absurd (UInt16.le_trans ends limit) (by decide)

theorem accepted_of_loaded (space : file.Space) (loaded : file.IsLoaded) : file.Accepted := by
  obtain ⟨passes, ended, done, zero, -⟩ := loaded
  obtain ⟨called, larger, walk⟩ := walk_of_zero file done zero
  have last := last_of_zero space walk zero
  have goes : ∀ k (few : k < file.cells.length), checkAddressValidation s
      (addressAt args.buffer k).toNat = true ∧ OnDisk s file.cells[k] := fun k few =>
    (goesOn_iff space few).mp (goesOn_all space walk zero few)
  refine ⟨called, larger, last.2, fun k few => (goes k few).1, ?_, last.1⟩
  intro c member
  obtain ⟨k, few, rfl⟩ := List.mem_iff_getElem.mp member
  exact (goes k few).2

theorem seen_contents (space : file.Space) :
    slice (seen file.table args.buffer file.first file.cells.length).1.mem args.buffer.toNat
      (SECTOR_SIZE * file.cells.length) = file.contents := by
  rw [show args.buffer = space.buffer.address from rfl, seen_front space.holds (Nat.le_refl _),
    contents, List.flatMap_def, List.flatMap_def]
  congr 1
  apply List.ext_getElem
  · simp
  · intro k few _
    rw [List.length_map, List.length_range] at few
    rw [List.getElem_map, List.getElem_map, List.getElem_range, file.table_bootDisk]
    exact congrArg (fun c => sectorOf _ (dataLba c)) (seen_cell space few)

theorem loaded_of_accepted (space : file.Space) (accepted : file.Accepted) : file.IsLoaded := by
  obtain ⟨k, count⟩ := Nat.exists_eq_add_of_le' file.some_cluster
  have goes : ∀ j, j < file.cells.length → GoesOn file.table args.buffer file.first j := by
    intro j few
    exact (goesOn_iff space few).mpr
      ⟨accepted.valid j few, accepted.onDisk _ (List.getElem_mem few)⟩
  have last := seen_at space (Nat.le_refl _)
  change _ = file.last at last
  have few := accepted.few
  rw [count] at last few
  have good : ¬file.last = 0xFFF7 := by
    obtain same | same := accepted.last <;> rw [same] <;> decide
  have pass := loopNextEntry_walkAt (goes k (by omega))
  rw [last, if_neg good, if_pos accepted.last, if_neg (Nat.not_lt.mpr few)] at pass
  have path : ∀ j, j < k → loopNextEntry (walkAt file.table args.buffer file.first j) =
      .inr (walkAt file.table args.buffer file.first (j + 1)) := fun j early =>
    pass_inside space (by omega) (goes j (by omega))
  have begins := beginLoad_file accepted.called file
  rw [if_neg (Nat.not_le.mpr accepted.larger)] at begins
  refine ⟨k + 1, (walkAt file.table args.buffer file.first (k + 1)).ended (.ok 0), ?_, rfl, ?_⟩
  · exact (fat16LoadFile_walk begins (k + 1)).trans
      (after_path_done path pass (Nat.lt_succ_self k))
  · change slice (seen file.table args.buffer file.first (k + 1)).1.mem _ _ = _
    rw [← count]
    exact seen_contents space

end Run

end ChainedFile

/-- A file with a chain in the table is loaded to a buffer that has all of its
    sectors if and only if the call passes its checks, the size in the entry is
    below that of the buffer, the chain is no longer than an image may be, every
    sector has a valid address and is on the disk, and the chain ends in 0xFFF8
    or 0xFFFF. -/
theorem load_chain_iff {s : System} {args : LoadArguments} (file : ChainedFile s args)
    (space : file.Space) : file.IsLoaded ↔ file.Accepted :=
  ⟨ChainedFile.accepted_of_loaded space, ChainedFile.loaded_of_accepted space⟩

/-- A volume with one file of 600 bytes in the clusters 3 and 5, the mark behind them. -/
def twoClusters (mark : UInt16) : System :=
  System.setFat (System.setFat
    { threeSectors with mem := store (fun _ => 0) 0x200000 (directoryEntry notes 0x20 3 600) } 3 5)
    5 mark

/-- Its load to a buffer of two sectors. -/
def loadNotes : LoadArguments :=
  ⟨0x30000, 0x200000, 512, notes, 0x300000, 1024⟩

theorem notes_reads {mark : UInt16} :
    directoryLoaded (twoClusters mark) loadNotes = .ok (twoClusters mark) := by
  have other : ¬loadNotes.dirAddress.toNat = VOLUME1_ROOTDIR_ADDRESS := by
    change ¬UInt64.toNat 0x200000 = 0x70000
    decide
  rw [directoryLoaded, if_neg other]

theorem notes_loads {mark : UInt16} : fsLoadFat (twoClusters mark) = .ok (twoClusters mark) := by
  have loaded : (twoClusters mark).fatCacheLoaded = true := rfl
  rw [fsLoadFat, if_pos loaded]

theorem notes_entry {mark : UInt16} {k n : Nat} : slice (twoClusters mark).mem (0x200000 + k) n =
    slice (store (fun _ => 0) 0x200000 (directoryEntry notes 0x20 3 600)) (0x200000 + k) n := by
  apply slice_congr
  intro j low _
  have off : ¬OnTable j := by
    rintro ⟨-, below⟩
    omega
  exact (setFat_mem off).trans (setFat_mem off)

theorem notes_first {mark : UInt16} :
    shortAt (twoClusters mark).mem (entryAddress loadNotes.dirAddress 0 + 26) = 3 := by
  have place : (entryAddress loadNotes.dirAddress 0 + 26 : Int) = 0x200000 + (26 : Nat) := by
    decide
  rw [place, shortAt, notes_entry]
  decide

theorem notes_found {mark : UInt16} : searchDirent (twoClusters mark).mem loadNotes.dirAddress
    FAT16_ROOT_ENTRIES loadNotes.fileName (strlen loadNotes.fileName) = some 0 := by
  have place : (entryAddress loadNotes.dirAddress 0 : Int) = 0x200000 + (0 : Nat) := by decide
  have all : strlen loadNotes.fileName = 11 := by decide
  rw [searchDirent, List.find?_range_eq_some]
  refine ⟨?_, List.mem_range.mpr (by decide), fun j early => absurd early (Nat.not_lt_zero j)⟩
  rw [place, all, shortAt, notes_entry, notes_entry]
  decide

theorem notes_next {mark : UInt16} : (twoClusters mark).fat 3 = 5 := by
  rw [twoClusters, fat_setFat, setLink_of_ne (by decide), fat_setFat]
  exact if_pos rfl

theorem notes_mark {mark : UInt16} : (twoClusters mark).fat 5 = mark := by
  rw [twoClusters, fat_setFat]
  exact if_pos rfl

theorem notes_cell {c : UInt16} (inside : c = 3 ∨ c = 5) : fatMarks.cell c := by
  change 2 ≤ c.toNat ∧ 2 * c.toNat + 2 ≤ 512 * 246
  rcases inside with rfl | rfl <;> decide

theorem notes_chain {mark : UInt16} (ends : 0xFFF8 ≤ mark) :
    Chain fatMarks (twoClusters mark).fat
      (shortAt (twoClusters mark).mem (entryAddress loadNotes.dirAddress 0 + 26)) [3, 5] := by
  rw [notes_first]
  refine ⟨rfl, notes_cell (.inl rfl), notes_next, ?_⟩
  rw [notes_next, notes_mark]
  exact ⟨notes_cell (.inr rfl), ends⟩

/-- The file, with any value that ends a chain. -/
def notesFile (mark : UInt16) (ends : 0xFFF8 ≤ mark) :
    ChainedFile (twoClusters mark) loadNotes where
  directory := twoClusters mark
  table := twoClusters mark
  entry := 0
  cells := [3, 5]
  reads := notes_reads
  loads := notes_loads
  found := notes_found
  chain := notes_chain ends
  some_cluster := Nat.two_pos

theorem notes_space {mark : UInt16} {ends : 0xFFF8 ≤ mark} : (notesFile mark ends).Space := by
  constructor
  · change UInt64.toNat 0x300000 + UInt64.toNat 1024 < 2 ^ 64
    decide
  · change (0x300000 : UInt64) ≠ 0
    decide
  · change 512 * 2 ≤ UInt64.toNat 1024
    decide
  · right
    change 0x30000 + 512 * 246 ≤ UInt64.toNat 0x300000
    decide

theorem notes_last {mark : UInt16} {ends : 0xFFF8 ≤ mark} : (notesFile mark ends).last = mark := by
  change (twoClusters mark).fat ((twoClusters mark).fat
    (shortAt (twoClusters mark).mem (entryAddress loadNotes.dirAddress 0 + 26))) = mark
  rw [notes_first, notes_next, notes_mark]

theorem notes_accepted {mark : UInt16} {ends : 0xFFF8 ≤ mark}
    (known : mark = 0xFFFF ∨ mark = 0xFFF8) : (notesFile mark ends).Accepted := by
  have size : (notesFile mark ends).size = 600 := by
    have place : (entryAddress loadNotes.dirAddress 0 + 28 : Int) = 0x200000 + (28 : Nat) := by
      decide
    change intAt (twoClusters mark).mem (entryAddress loadNotes.dirAddress 0 + 28) = 600
    rw [place, intAt, notes_entry]
    decide
  refine ⟨⟨rfl, ?_, ?_, ?_, ?_, ⟨_, rfl, rfl, rfl, ?_, ?_⟩, ?_, ?_⟩, ?_, ?_, ?_, ?_, ?_⟩
  · change (0x200000 : UInt64) ≠ 0
    decide
  · change (512 : Int32).toUInt32.toNat % 0x10000 = 512
    decide
  · change UInt64.toNat 1024 % 2 ^ 32 ≠ 0
    decide
  · change UInt64.toNat 1024 % 2 ^ 32 ≤ 512 * 4096
    decide
  · decide
  · decide
  · change (78 : UInt8) ≠ 0
    decide
  · change strlen notes ≤ 11
    decide
  · rw [size]
    change 600 < UInt64.toNat 1024 % 2 ^ 32
    decide
  · change 2 / 2 ≤ 408
    decide
  · intro k few
    obtain rfl | rfl : k = 0 ∨ k = 1 := by
      change k < 2 at few
      omega
    · rfl
    · rfl
  · intro c member ata
    obtain rfl | rfl : c = 3 ∨ c = 5 := by simpa [notesFile] using member
    · change dataLba 3 < 65536
      decide
    · change dataLba 5 < 65536
      decide
  · rw [notes_last]
    exact known

/-- With 0xFFFF as its mark the file is loaded. -/
theorem notes_loaded : (notesFile 0xFFFF (by decide)).IsLoaded :=
  (load_chain_iff (notesFile 0xFFFF (by decide)) notes_space).mpr (notes_accepted (Or.inl rfl))

/-- With 0xFFFB it is not. -/
theorem other_mark_not_loaded : ¬∀ (s : System) (args : LoadArguments) (file : ChainedFile s args),
    file.Space → file.IsLoaded := by
  intro all
  have loaded := all _ _ (notesFile 0xFFFB (by decide)) notes_space
  have accepted := ChainedFile.accepted_of_loaded notes_space loaded
  have last := accepted.last
  rw [notes_last] at last
  exact absurd last (by decide)

end Gramado.Fs.FatLoad
