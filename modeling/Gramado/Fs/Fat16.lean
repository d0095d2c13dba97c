/-
FAT16 in the kernel: the caches of the allocation table and of the root
directory, `fat16SaveFile`, `fsGetFileSize` and `fat16LoadFile` of fat16.c, and
the sector transfers they use. Transfers between memory and disk are taken to
succeed where the code lets them start. One sector is one cluster.
-/
import Gramado.Ke
import Gramado.Lib.Fallible
import Gramado.Lib.LittleEndian
import Gramado.Lib.Loop

namespace Gramado.Fs.Fat16

open Gramado.Ke
open Gramado.Lib.Memory
open Gramado.Lib.LittleEndian
open Gramado.Lib.Fallible
open Gramado.Lib.Loop

def VOLUME1_FAT_ADDRESS : Nat := 0x30000

def VOLUME1_ROOTDIR_ADDRESS : Nat := 0x70000

def KERNELIMAGE_VA : Nat := 0x30000000

def FRONTBUFFER_VA : Nat := 0x30200000

def VOLUME1_FAT_LBA : Nat := 67

def VOLUME1_FAT_SIZE : Nat := 246

def VOLUME1_ROOTDIR_LBA : Nat := 559

def VOLUME1_DATAAREA_LBA : Nat := 591

def SECTOR_SIZE : Nat := 512

def FAT16_ROOT_ENTRIES : Nat := 512

def FAT16_ENTRY_SIZE : Nat := 32

def CLUSTERS_TO_SAVE_MAX : Nat := 32 * 1024

def CONFIG_IMAGESIZE_LIMIT_IN_KB : Nat := 408

/-- `BootDisk.controller_type`, of which one value is asked for. -/
inductive ControllerType where
  | ahci
  | other
  deriving DecidableEq, Repr

/-- The file system structure that `root` points to. -/
structure Root where
  used : Bool
  magic : Int
  spc : Int32
  dirEntries : Int32

/-- `clustersToSave` has the words of `fat16ClustersToSave` at 0 and up and what
    lies before the array below. -/
structure System where
  mem : Int → UInt8
  controllerType : ControllerType
  ideDisk : Int → UInt8
  ahciDisk : Int → UInt8
  numberOfSectorsInBootDisk : Nat
  fatCacheLoaded : Bool
  fatCacheSaved : Bool
  clustersToSave : Int → UInt16
  root : Option Root
  backbufferVa : Nat

/-- `fat[c]` -/
def System.fat (s : System) (c : UInt16) : UInt16 :=
  shortAt s.mem (VOLUME1_FAT_ADDRESS + 2 * c.toNat)

def System.setFat (s : System) (c v : UInt16) : System :=
  { s with mem := setShort s.mem (VOLUME1_FAT_ADDRESS + 2 * c.toNat) v }

def System.setCluster (s : System) (j : Nat) (c : UInt16) : System :=
  { s with clustersToSave := fun k => if k = j then c else s.clustersToSave k }

def System.storeMem (s : System) (address : Nat) (bytes : List UInt8) : System :=
  { s with mem := store s.mem address bytes }

def System.storeIde (s : System) (lba : Nat) (bytes : List UInt8) : System :=
  { s with ideDisk := store s.ideDisk (SECTOR_SIZE * lba) bytes }

def System.storeAhci (s : System) (lba : Nat) (bytes : List UInt8) : System :=
  { s with ahciDisk := store s.ahciDisk (SECTOR_SIZE * lba) bytes }

section Updates

variable (s : System) (address : Nat) (bytes : List UInt8) (c v : UInt16) (j : Nat)

@[simp] theorem storeMem_mem : (s.storeMem address bytes).mem = store s.mem address bytes := rfl

@[simp] theorem storeMem_controllerType :
    (s.storeMem address bytes).controllerType = s.controllerType := rfl

@[simp] theorem storeMem_ideDisk : (s.storeMem address bytes).ideDisk = s.ideDisk := rfl

@[simp] theorem storeMem_ahciDisk : (s.storeMem address bytes).ahciDisk = s.ahciDisk := rfl

@[simp] theorem storeMem_sectors : (s.storeMem address bytes).numberOfSectorsInBootDisk =
    s.numberOfSectorsInBootDisk := rfl

@[simp] theorem storeMem_fatCacheLoaded :
    (s.storeMem address bytes).fatCacheLoaded = s.fatCacheLoaded := rfl

@[simp] theorem storeMem_clustersToSave :
    (s.storeMem address bytes).clustersToSave = s.clustersToSave := rfl

@[simp] theorem storeMem_root : (s.storeMem address bytes).root = s.root := rfl

@[simp] theorem storeMem_backbufferVa :
    (s.storeMem address bytes).backbufferVa = s.backbufferVa := rfl

@[simp] theorem storeIde_ideDisk : (s.storeIde j bytes).ideDisk =
    store s.ideDisk (SECTOR_SIZE * j) bytes := rfl

@[simp] theorem storeAhci_ideDisk : (s.storeAhci j bytes).ideDisk = s.ideDisk := rfl

@[simp] theorem setFat_ideDisk : (s.setFat c v).ideDisk = s.ideDisk := rfl

end Updates

def sectorOf (disk : Int → UInt8) (lba : Nat) : List UInt8 :=
  slice disk (SECTOR_SIZE * lba) SECTOR_SIZE

def ahciReadSector (s : System) (address lba : Nat) : System :=
  s.storeMem address (sectorOf s.ahciDisk lba)

def ahciWriteSector (s : System) (address lba : Nat) : System :=
  s.storeAhci lba (slice s.mem address SECTOR_SIZE)

/-- The limits of `ataReadSector` and `ataWriteSector`. -/
def ataLimits (s : System) (noSize limits : String) (lba : Nat) : Except Stop Unit :=
  if s.controllerType = .ahci then
    .ok ()
  else if s.numberOfSectorsInBootDisk = 0 then
    .error (.panic noSize)
  else if lba ≥ s.numberOfSectorsInBootDisk then
    .error (.panic limits)
  else
    .ok ()

def ataReadSector (s : System) (address lba : Nat) : Except Stop System := do
  ataLimits s "ataReadSector: gNumberOfSectorsInBootDisk\n" "ataReadSector: lba limits\n" lba
  .ok (s.storeMem address (sectorOf s.ideDisk lba))

/-- Always the IDE port, also where the boot disk is not behind one. -/
def ataWriteSector (s : System) (address lba : Nat) : Except Stop System := do
  ataLimits s "ataWriteSector: gNumberOfSectorsInBootDisk\n" "ataWriteSector: lba limits\n" lba
  .ok (s.storeIde lba (slice s.mem address SECTOR_SIZE))

/-- One sector as `__load_sequential_sectors` and `read_lba` read it. -/
def readSector (s : System) (address lba : Nat) : Except Stop System :=
  if s.controllerType = .ahci then
    .ok (ahciReadSector s address lba)
  else
    ataReadSector s address lba

/-- One sector as `__do_save_sequence` writes it. -/
def writeSector (s : System) (address lba : Nat) : Except Stop System :=
  if s.controllerType = .ahci then
    .ok (ahciWriteSector s address lba)
  else
    ataWriteSector s address lba

/-- `read_lba`: nothing is read to address 0, and nobody looks at the result. The kernel sets
    g_currentvolume_fatbits to 16 as it starts, so that the other cases are never taken. -/
def readLba (s : System) (address lba : Nat) : Except Stop System :=
  if address = 0 then .ok s else readSector s address lba

def loadSequentialSectors (s : System) (address lba : Nat) : Nat → Except Stop System
  | 0 => .ok s
  | n + 1 => do
      let s ← loadSequentialSectors s address lba n
      readSector s (address + SECTOR_SIZE * n) (lba + n)

def doSaveSequence (s : System) (address lba : Nat) : Nat → Except Stop System
  | 0 => .ok s
  | n + 1 => do
      let s ← doSaveSequence s address lba n
      writeSector s (address + SECTOR_SIZE * n) (lba + n)

/-- Once only: the table in memory is the newer one from then on. -/
def fsLoadFat (s : System) : Except Stop System :=
  if s.fatCacheLoaded then
    .ok s
  else do
    let s ← loadSequentialSectors s VOLUME1_FAT_ADDRESS VOLUME1_FAT_LBA VOLUME1_FAT_SIZE
    .ok { s with fatCacheLoaded := true }

def fsLoadRootdir (s : System) : Except Stop System :=
  loadSequentialSectors s VOLUME1_ROOTDIR_ADDRESS VOLUME1_ROOTDIR_LBA 32

def atadskSaveRootdir (s : System) : Except Stop System :=
  doSaveSequence s VOLUME1_ROOTDIR_ADDRESS VOLUME1_ROOTDIR_LBA 32

def fsFat16CacheNotSaved (s : System) : System :=
  { s with fatCacheSaved := false }

/-- Where the sector behind `k` others lies in a buffer. -/
def addressAt (buffer : UInt64) (k : Nat) : UInt64 :=
  buffer + UInt64.ofNat (SECTOR_SIZE * k)

theorem addressAt_succ (buffer : UInt64) (k : Nat) :
    addressAt buffer k + UInt64.ofNat SECTOR_SIZE = addressAt buffer (k + 1) := by
  rw [addressAt, addressAt, Nat.mul_succ, UInt64.ofNat_add, UInt64.add_assoc]

/-- Where an entry of a directory lies. -/
def entryAddress (dirAddress : UInt64) (i : Nat) : Nat :=
  dirAddress.toNat + FAT16_ENTRY_SIZE * i

/-- The zero that a name ends in is the first of its bytes that is zero, or is
    right behind them. -/
def strlen (name : List UInt8) : Nat :=
  (name.takeWhile (· ≠ 0)).length

def gramadoStrncmp (s1 s2 : List UInt8) (len : Nat) : Int :=
  if (List.range len).all fun k => s1.getD k 0 == s2.getD k 0 then
    if s1.getD len 0 ≠ 0 ∨ s2.getD len 0 ≠ 0 then 2 else 0
  else
    1

/-- `findEmptyDirectoryEntry`, with `none` for -1. -/
def findEmptyDirectoryEntry (mem : Int → UInt8) (dirAddress : UInt64)
    (numberOfEntries : Int32) : Option Nat :=
  if dirAddress = 0 then
    none
  else
    (List.range numberOfEntries.toNatClampNeg).find? fun i => mem (entryAddress dirAddress i) == 0

/-- The search that `fat16LoadFile` and `fsGetFileSize` both make. -/
def searchDirent (mem : Int → UInt8) (dirAddress : UInt64) (entries : Nat)
    (fileName : List UInt8) (size : Nat) : Option Nat :=
  (List.range entries).find? fun i =>
    decide (shortAt mem (entryAddress dirAddress i) ≠ 0 ∧
      gramadoStrncmp fileName (slice mem (entryAddress dirAddress i) size ++ [0]) size = 0)

section Save

structure SaveArguments where
  fatAddress : UInt64
  dirAddress : UInt64
  dirEntries : Int32
  fileName : List UInt8
  sizeInSectors : UInt64
  sizeInBytes : UInt64
  fileAddress : UInt64
  flag : UInt8

def MaxFileSizeInSectors : UInt64 := 16

/-- The search for free clusters from `c` on, with `left` table entries to look
    at and `n` clusters to find. The list is ended only at one more free
    entry behind the last that is needed. -/
def searchEmptyEntries : Nat → Nat → Nat → Nat → System → Bool × System
  | 0, _, _, _, s => (false, s)
  | left + 1, c, j, n, s =>
      if s.fat (UInt16.ofNat c) = 0 then
        match n with
        | 0 => (true, s.setCluster j 0xFFF8)
        | n + 1 => searchEmptyEntries left (c + 1) (j + 1) n (s.setCluster j (UInt16.ofNat c))
      else
        searchEmptyEntries left (c + 1) j n s

/-- `DirEntry` -/
def directoryEntry (fileName : List UInt8) (flag : UInt8) (first : UInt16)
    (sizeInBytes : UInt64) : List UInt8 :=
  (List.range 8).map (fun k => fileName.getD k 0) ++
    (if flag = 0x10 then [0x20, 0x20, 0x20]
      else [fileName.getD 8 0, fileName.getD 9 0, fileName.getD 10 0]) ++
    [flag, 0, 0x97, 0xD3, 0xBA, 0xE2, 0x58, 0xE2, 0x58, 0, 0, 0xD3, 0xBA, 0xE2, 0x58] ++
    bytesOf 2 first.toNat ++
    (if flag = 0x10 then [0, 0, 0, 0] else bytesOf 4 sizeInBytes.toNat)

/-- The loop that chains the clusters of the list and writes a sector to each,
    from place `i` on. `left` is 17 - `i`: the loop fails where `i > 16`. -/
def saveClusters : Nat → Nat → UInt64 → System → Except Stop (Bool × System)
  | 0, _, _, s => .ok (false, s)
  | left + 1, i, address, s =>
      let next := s.clustersToSave i
      if next = 0xFFF8 then
        -- For `i = 0` this is the word before the array.
        .ok (true, s.setFat (s.clustersToSave (i - 1)) 0xFFF8)
      else do
        let s := s.setFat next (s.clustersToSave (i + 1))
        let s ← ataWriteSector s address.toNat (VOLUME1_DATAAREA_LBA + next.toNat - 2)
        saveClusters left (i + 1) (address + 512) s

/-- From `save_file` on. -/
def saveFile (args : SaveArguments) (s : System) : Except Stop (Int × System) :=
  match findEmptyDirectoryEntry s.mem args.dirAddress args.dirEntries with
  | none => .ok (-1, s)
  | some freeIndex => do
      let entry := directoryEntry args.fileName args.flag (s.clustersToSave 0) args.sizeInBytes
      let s := s.storeMem (entryAddress args.dirAddress freeIndex) entry
      let (done, s) ← saveClusters 17 0 args.fileAddress s
      if done then
        let s ← atadskSaveRootdir s
        .ok (0, fsFat16CacheNotSaved s)
      else
        .ok (-1, s)

def fat16SaveFile (s : System) (args : SaveArguments) : Except Stop (Int × System) :=
  if args.fatAddress = 0 then
    .error (.panic "fat16SaveFile: fat_address\n")
  else if args.dirAddress = 0 then
    .error (.panic "fat16SaveFile: dir_address\n")
  else if args.fatAddress.toNat ≠ VOLUME1_FAT_ADDRESS then
    .error (.panic "fat16SaveFile: fat_address\n")
  else if args.fileName.getD 0 0 = 0 then
    .ok (-1, s)
  else if args.dirEntries = 0 ∨ args.dirEntries.toInt > FAT16_ROOT_ENTRIES then
    .error (.panic "fat16SaveFile: [FAIL] max dir entries")
  else if args.sizeInSectors > MaxFileSizeInSectors then
    .ok (-1, s)
  else do
    let s ← fsLoadRootdir s
    let s ← fsLoadFat s
    let (found, s) := searchEmptyEntries CLUSTERS_TO_SAVE_MAX 3 0 args.sizeInSectors.toNat s
    if found then
      saveFile args s
    else
      .ok (-1, s)

end Save

section Load

structure LoadArguments where
  fatAddress : UInt64
  dirAddress : UInt64
  dirEntries : Int32
  fileName : List UInt8
  buffer : UInt64
  bufferSizeInBytes : UInt64

def fsGetFileSize (s : System) (fileName : List UInt8) (dirAddress : UInt64) :
    Except Stop (Nat × System) :=
  if fileName.getD 0 0 = 0 then
    .ok (0, s)
  else if dirAddress = 0 then
    .ok (0, s)
  else do
    let s ← if dirAddress.toNat = VOLUME1_ROOTDIR_ADDRESS then fsLoadRootdir s else .ok s
    let root ← need s.root (.panic "fsGetFileSize: [FAIL] No root file system!\n")
    if root.spc ≤ 0 then
      .error (.panic "fsGetFileSize: [FAIL] spc\n")
    else if unsignedLong root.dirEntries = 0 then
      .error (.panic "fsGetFileSize: [FAIL] max root entries\n")
    else
      let size := min (strlen fileName) 11
      match searchDirent s.mem dirAddress (unsignedLong root.dirEntries) fileName size with
      | none => .ok (0, s)
      | some i => .ok (intAt s.mem (entryAddress dirAddress i + 28), s)

def checkAddressValidation (s : System) (address : Nat) : Bool :=
  address ≠ VOLUME1_FAT_ADDRESS && address ≠ VOLUME1_ROOTDIR_ADDRESS &&
    address ≠ KERNELIMAGE_VA && address ≠ FRONTBUFFER_VA && address ≠ s.backbufferVa

/-- The variables of the walk along the cluster chain. `written` is not one of
    them: it keeps where sectors of the file were stored, last first. -/
structure Walk where
  system : System
  buffer : UInt64
  cluster : UInt16
  nreads : Nat
  written : List UInt64

/-- How a call ended, and where it stored sectors of the file. -/
structure Ended where
  result : Except Stop Int
  system : System
  written : List UInt64

/-- The sector of the current cluster is stored, and the table gives the next. -/
def readCluster (walk : Walk) : Except Stop Walk := do
  let s ← readLba walk.system walk.buffer.toNat (VOLUME1_DATAAREA_LBA + walk.cluster.toNat - 2)
  .ok
    { system := s
      buffer := walk.buffer + UInt64.ofNat SECTOR_SIZE
      cluster := s.fat walk.cluster
      nreads := walk.nreads + 1
      written := if walk.buffer = 0 then walk.written else walk.buffer :: walk.written }

def Walk.ended (walk : Walk) (result : Except Stop Int) : Ended :=
  ⟨result, walk.system, walk.written⟩

/-- One pass from `__loop_next_entry` on. -/
def loopNextEntry (walk : Walk) : Ended ⊕ Walk :=
  if checkAddressValidation walk.system walk.buffer.toNat = false then
    .inl (walk.ended (.error (.panic "fat16LoadFile: Not a valid address\n")))
  else if walk.cluster = 0 ∨ walk.cluster > 0xFFF0 then
    .inl (walk.ended (.error (.panic "fat16LoadFile: fat[] vector limits.\n")))
  else
    match readCluster walk with
    | .error stop => .inl (walk.ended (.error stop))
    | .ok walk =>
        if walk.cluster = 0xFFF7 then
          .inl (walk.ended (.error (.panic "fat16LoadFile: Bad cluster\n")))
        else if walk.cluster = 0xFFFF ∨ walk.cluster = 0xFFF8 then
          if walk.nreads / 2 > CONFIG_IMAGESIZE_LIMIT_IN_KB then
            .inl (walk.ended (.error (.panic "fat16LoadFile: nreads\n")))
          else
            .inl (walk.ended (.ok 0))
        else
          .inr walk

/-- From the search for the entry to the walk; `none` where the file is not
    found or its first cluster is out of limits. -/
def findFirstCluster (s : System) (args : LoadArguments) : Except Stop (Option Walk × System) :=
  match searchDirent s.mem args.dirAddress FAT16_ROOT_ENTRIES args.fileName
      (strlen args.fileName) with
  | none => .ok (none, s)
  | some i =>
      let cluster := shortAt s.mem (entryAddress args.dirAddress i + 26)
      if cluster = 0 ∨ cluster > 0xFFF0 then
        .ok (none, s)
      else do
        let s ← fsLoadFat s
        .ok (some ⟨s, args.buffer, cluster, 0, []⟩, s)

/-- `BufferSizeInBytes` -/
def LoadArguments.bufferSize (args : LoadArguments) : Nat :=
  args.bufferSizeInBytes.toNat % 2 ^ 32

/-- `DirEntries` -/
def LoadArguments.entries (args : LoadArguments) : Nat :=
  args.dirEntries.toUInt32.toNat % 0x10000

/-- `fat16LoadFile` up to the walk. -/
def beginLoad (s : System) (args : LoadArguments) : Except Stop (Option Walk × System) :=
  if args.fatAddress = 0 then
    .error (.panic "fat16LoadFile: fat_address\n")
  else if args.dirAddress = 0 then
    .error (.panic "fat16LoadFile: dir_address\n")
  else if args.fatAddress.toNat ≠ VOLUME1_FAT_ADDRESS then
    .error (.panic "fat16LoadFile: Not valid FAT address\n")
  else if args.entries > FAT16_ROOT_ENTRIES then
    .error (.panic "fat16LoadFile: DirEntries\n")
  else if args.entries ≠ FAT16_ROOT_ENTRIES then
    .error (.panic "fat16LoadFile: [DEBUG] DirEntries IS LESS THE 512\n")
  else if args.bufferSize = 0 then
    .error (.panic "fat16LoadFile: BufferSizeInBytes = 0\n")
  else if args.bufferSize > 512 * 4096 then
    .error (.panic "fat16LoadFile: BufferSizeInBytes limits\n")
  else do
    let root ← need s.root (.panic "fat16LoadFile: root\n")
    if root.used ≠ true ∨ root.magic ≠ 1234 then
      .error (.panic "fat16LoadFile: root validation\n")
    else if root.spc ≤ 0 then
      .error (.panic "fat16LoadFile: Spc\n")
    else if unsignedLong root.dirEntries ≠ FAT16_ROOT_ENTRIES then
      .error (.panic "fat16LoadFile: root->dir_entries\n")
    else if args.fileName.getD 0 0 = 0 then
      .ok (none, s)
    else if strlen args.fileName > 11 then
      .ok (none, s)
    else do
      let (fileSize, s) ← fsGetFileSize s args.fileName args.dirAddress
      if fileSize ≥ args.bufferSize then
        .ok (none, s)
      else
        findFirstCluster s args

/-- Where `fat16LoadFile` is after that many passes of its loop. -/
def fat16LoadFile (s : System) (args : LoadArguments) (passes : Nat) : Ended ⊕ Walk :=
  match beginLoad s args with
  | .error stop => .inl ⟨.error stop, s, []⟩
  | .ok (none, s) => .inl ⟨.ok (-1), s, []⟩
  | .ok (some walk, _) => after loopNextEntry passes walk

end Load

end Gramado.Fs.Fat16
