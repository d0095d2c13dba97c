/-
What was saved is loaded again, from whatever the caches held before the save.
A directory gets an entry of size 0 under a name without an extension, and the
entry of a file has the low 32 bits of its size; with that name and size the
round trip is exact.
-/
import Gramado.Fs.FatLoad
import Gramado.Fs.FatSearch

namespace Gramado.Fs.FatRoundTrip

open Gramado.Ke
open Gramado.Fs.Fat16
open Gramado.Fs.FatLoad
open Gramado.Fs.FatSearch
open Gramado.Fs.FatTable
open Gramado.Fs.FatWalk
open Gramado.Lib.Fallible
open Gramado.Lib.Links
open Gramado.Lib.LittleEndian
open Gramado.Lib.Loop
open Gramado.Lib.Memory

/-- The file system structure as it is initialized. -/
def bootRoot : Root := ⟨true, 1234, 1, 512⟩

/-- The eleven bytes of the name in the entry. -/
def storedName (args : SaveArguments) : List UInt8 :=
  (List.range 8).map (fun k => args.fileName.getD k 0) ++
    (if args.flag = 0x10 then [0x20, 0x20, 0x20]
      else [args.fileName.getD 8 0, args.fileName.getD 9 0, args.fileName.getD 10 0])

def recordedSize (args : SaveArguments) : Nat :=
  if args.flag = 0x10 then 0 else args.sizeInBytes.toNat % 2 ^ 32

/-- A volume behind an IDE port, with any contents of the disk and the caches. -/
structure Volume where
  system : System
  root : system.root = some bootRoot
  ide : system.controllerType ≠ .ahci

/-- A volume whose caches are those of the disk. -/
structure Ready (s : System) : Prop where
  mounted : Mounted s
  root : s.root = some bootRoot
  ide : s.controllerType ≠ .ahci

/-- A save to the root directory under a name that it does not have yet. -/
structure NewFile (s : System) where
  args : SaveArguments
  root : args.dirAddress = UInt64.ofNat VOLUME1_ROOTDIR_ADDRESS
  some_sector : args.sizeInSectors ≠ 0
  name : ∀ b ∈ storedName args, b ≠ 0
  absent : ∀ i, i < 512 → slice s.ideDisk
    (SECTOR_SIZE * VOLUME1_ROOTDIR_LBA + (FAT16_ENTRY_SIZE * i : Nat)) 11 ≠ storedName args
  off : FileOff args

/-- A buffer that the file can be loaded to. -/
structure Target (s : System) (args : SaveArguments) where
  buffer : Buffer
  place : buffer.address ≠ 0
  larger : recordedSize args < buffer.size.toNat
  limit : buffer.size.toNat ≤ 512 * 4096
  room : SECTOR_SIZE * args.sizeInSectors.toNat ≤ buffer.size.toNat
  off : SectorsOff buffer.address 0 args.sizeInSectors.toNat
  valid : ∀ k, k < args.sizeInSectors.toNat →
    checkAddressValidation s (addressAt buffer.address k).toNat = true

def Target.arguments {s : System} {args : SaveArguments} (target : Target s args) :
    LoadArguments :=
  ⟨UInt64.ofNat VOLUME1_FAT_ADDRESS, args.dirAddress, 512, storedName args,
    target.buffer.address, target.buffer.size⟩

section Names

variable {args : SaveArguments} {first : UInt16}

@[simp] theorem length_storedName : (storedName args).length = 11 := by
  unfold storedName
  split <;> rfl

theorem directoryEntry_name :
    (directoryEntry args.fileName args.flag first args.sizeInBytes).take 11 = storedName args := by
  unfold directoryEntry storedName
  split <;> rfl

theorem directoryEntry_size :
    ((directoryEntry args.fileName args.flag first args.sizeInBytes).drop 28).take 4 =
      if args.flag = 0x10 then [0, 0, 0, 0] else bytesOf 4 args.sizeInBytes.toNat := by
  unfold directoryEntry
  split <;> rfl

end Names

section Directory

variable {s : System} {file : NewFile s} {cells : List UInt16} {i : Nat} {out : Int × System}

theorem NewFile.offTable (file : NewFile s) : OffTable file.args.dirAddress := by
  rw [file.root]
  exact Or.inr (by decide)

theorem NewFile.address (file : NewFile s) (j : Nat) :
    entryAddress file.args.dirAddress j = VOLUME1_ROOTDIR_ADDRESS + FAT16_ENTRY_SIZE * j := by
  rw [file.root, entryAddress]
  rfl

theorem entry_bytes (inside : i < 512) (saved : Saved s file.args i cells out) {k n : Nat}
    (fits : k + n ≤ FAT16_ENTRY_SIZE) :
    slice out.2.mem (entryAddress file.args.dirAddress i + k) n =
      ((savedEntry file.args cells).drop k).take n := by
  have whole := saved_entry file.offTable inside saved
  have back : (slice out.2.mem (entryAddress file.args.dirAddress i) FAT16_ENTRY_SIZE).drop k =
      slice out.2.mem (entryAddress file.args.dirAddress i + k) (FAT16_ENTRY_SIZE - k) :=
    drop_slice (by omega)
  rw [← whole, back]
  exact (take_slice (by omega)).symm

theorem entry_kept (saved : Saved s file.args i cells out) {j : Nat} (inside : j < 512)
    (other : j ≠ i) {n : Nat} (fits : n ≤ FAT16_ENTRY_SIZE) :
    slice out.2.mem (entryAddress file.args.dirAddress j) n =
      slice s.mem (entryAddress file.args.dirAddress j) n := by
  have size : FAT16_ENTRY_SIZE = 32 := rfl
  have length : (savedEntry file.args cells).length = FAT16_ENTRY_SIZE := length_directoryEntry ..
  apply slice_congr
  intro k low high
  rw [saved.mem k (entry_offTable file.offTable inside low (by omega))]
  rw [file.address, size] at low high
  rcases Nat.lt_or_gt_of_ne other with before | behind
  · exact store_before (by rw [file.address, size]; omega)
  · exact store_behind (by rw [length, file.address, size]; omega)

theorem entry_name (inside : i < 512) (saved : Saved s file.args i cells out) :
    slice out.2.mem (entryAddress file.args.dirAddress i) 11 = storedName file.args := by
  have bytes := entry_bytes inside saved (k := 0) (n := 11) (by decide)
  change slice out.2.mem (entryAddress file.args.dirAddress i + 0) 11 = _ at bytes
  rw [Int.add_zero] at bytes
  rw [bytes, List.drop_zero]
  exact directoryEntry_name

theorem entry_size (inside : i < 512) (saved : Saved s file.args i cells out) :
    intAt out.2.mem (entryAddress file.args.dirAddress i + 28) = recordedSize file.args := by
  have bytes := entry_bytes inside saved (k := 28) (n := 4) (by decide)
  have spelt := bytes.trans directoryEntry_size
  rw [intAt, recordedSize]
  refine (congrArg number spelt).trans ?_
  split
  · rfl
  · exact number_bytesOf 4 _

theorem absent_cached (ready : Ready s) (file : NewFile s) {j : Nat} (inside : j < 512) :
    slice s.mem (entryAddress file.args.dirAddress j) 11 ≠ storedName file.args := by
  have size : FAT16_ENTRY_SIZE = 32 := rfl
  have image : SECTOR_SIZE * 32 = 16384 := rfl
  have part : ∀ {mem : Int → UInt8} {off : Int},
      slice mem (off + (FAT16_ENTRY_SIZE * j : Nat)) 11 =
        ((slice mem off (SECTOR_SIZE * 32)).drop (FAT16_ENTRY_SIZE * j)).take 11 := by
    intro mem off
    have bound : FAT16_ENTRY_SIZE * j ≤ SECTOR_SIZE * 32 := by
      rw [size, image]
      omega
    rw [drop_slice bound, take_slice (by rw [size, image]; omega)]
  have cached := ready.mounted.cached
  rw [bootDisk, if_neg ready.ide] at cached
  have absent := file.absent j inside
  rw [part, cached, ← part] at absent
  rw [file.address]
  exact_mod_cast absent

theorem search_saved (ready : Ready s) (inside : i < 512) (saved : Saved s file.args i cells out) :
    searchDirent out.2.mem file.args.dirAddress 512 (storedName file.args) 11 = some i := by
  have found := entry_name inside saved
  have compare : ∀ j, gramadoStrncmp (storedName file.args)
      (slice out.2.mem (entryAddress file.args.dirAddress j) 11 ++ [0]) 11 = 0 ↔
        slice out.2.mem (entryAddress file.args.dirAddress j) 11 = storedName file.args :=
    fun j => gramadoStrncmp_eq_zero length_storedName length_slice
  have first : out.2.mem (entryAddress file.args.dirAddress i) ≠ 0 := by
    apply file.name
    rw [← found, slice_succ]
    exact List.mem_cons_self ..
  rw [searchDirent, List.find?_range_eq_some]
  refine ⟨?_, List.mem_range.mpr inside, ?_⟩
  · exact decide_eq_true ⟨shortAt_ne_zero first, (compare i).mpr found⟩
  · intro j before
    rw [Bool.not_eq_true', decide_eq_false_iff_not]
    rintro ⟨-, equal⟩
    have same := (compare j).mp equal
    rw [entry_kept saved (by omega) (by omega) (by decide)] at same
    exact absent_cached ready file (by omega) same

theorem written_at {disk mem : Int → UInt8} {address : UInt64} {j k : Nat}
    (written : Written s disk mem address j cells) (few : k < cells.length) :
    OnDisk s cells[k] ∧ sectorOf disk (dataLba cells[k]) =
      slice mem (addressAt address (j + k)).toNat SECTOR_SIZE := by
  induction cells generalizing j k with
  | nil => cases few
  | cons c rest ih =>
      rcases written with ⟨there, here, later⟩
      cases k with
      | zero => exact ⟨there, here⟩
      | succ k =>
          have shifted := ih later (Nat.lt_of_succ_lt_succ few)
          rwa [Nat.add_right_comm, Nat.add_assoc] at shifted

theorem some_cluster (saved : Saved s file.args i cells out) : 0 < cells.length := by
  rw [saved.count]
  apply Nat.pos_of_ne_zero
  intro none
  exact file.some_sector (UInt64.toNat_inj.mp none)

end Directory

/-- A state after a save, and what of the state before it is still so. -/
structure After (s : System) (file : NewFile s) (i : Nat) (cells : List UInt16)
    (out : Int × System) : Prop where
  ready : Ready s
  inside : i < 512
  saved : Saved s file.args i cells out
  root : out.2.root = s.root
  controllerType : out.2.controllerType = s.controllerType
  sectors : out.2.numberOfSectorsInBootDisk = s.numberOfSectorsInBootDisk
  backbufferVa : out.2.backbufferVa = s.backbufferVa

section Begin

variable {s : System} {file : NewFile s} {cells : List UInt16} {i : Nat} {out : Int × System}

theorem reload (after : After s file i cells out) : fsLoadRootdir out.2 = .ok out.2 := by
  apply loadSequentialSectors_returns after.saved.mounted.cached
  intro _
  have nonempty := some_cluster after.saved
  have there := (written_at (after.saved.written file.off) nonempty).1 after.ready.ide
  have low := (after.saved.fresh _ (List.getElem_mem nonempty)).2.1
  have area : VOLUME1_DATAAREA_LBA = 591 := rfl
  have root : VOLUME1_ROOTDIR_LBA = 559 := rfl
  rw [dataLba, area] at there
  rw [after.sectors, root]
  omega

theorem stored_named (file : NewFile s) : (storedName file.args).getD 0 0 ≠ 0 := by
  have length : (storedName file.args).length = 11 := length_storedName
  apply file.name
  rw [List.getD_eq_getElem _ _ (by rw [length]; decide)]
  exact List.getElem_mem _

theorem strlen_stored (file : NewFile s) : strlen (storedName file.args) = 11 := by
  rw [strlen_of_nonzero file.name, length_storedName]

theorem size_saved (after : After s file i cells out) :
    fsGetFileSize out.2 (storedName file.args) file.args.dirAddress =
      .ok (recordedSize file.args, out.2) := by
  have place : file.args.dirAddress ≠ 0 := by
    rw [file.root]
    decide
  have root : file.args.dirAddress.toNat = VOLUME1_ROOTDIR_ADDRESS := by
    rw [file.root]
    rfl
  have boot : out.2.root = some bootRoot := after.root.trans after.ready.root
  rw [fsGetFileSize, if_neg (stored_named file), if_neg place, if_pos root, reload after]
  have entries : unsignedLong bootRoot.dirEntries = 512 := by decide
  have positive : ¬bootRoot.spc ≤ 0 := by decide
  have short : min (strlen (storedName file.args)) 11 = 11 := by
    rw [strlen_stored]
    rfl
  have search := search_saved after.ready after.inside after.saved
  simp only [bind, Except.bind, boot, need, if_neg positive, entries, short, search,
    entry_size after.inside after.saved]
  rfl

theorem head_fresh (after : After s file i cells out) :
    3 ≤ (cells.headD 0xFFF8).toNat ∧ (cells.headD 0xFFF8).toNat < 3 + CLUSTERS_TO_SAVE_MAX := by
  have nonempty := some_cluster after.saved
  have head : cells.headD 0xFFF8 ∈ cells := by
    cases cells with
    | nil => cases nonempty
    | cons c rest => exact List.mem_cons_self ..
  exact (after.saved.fresh _ head).2

/-- A cluster that the search can list is one that the walk can read. -/
theorem listed_limits {c : UInt16} (low : 3 ≤ c.toNat) (high : c.toNat < 3 + CLUSTERS_TO_SAVE_MAX) :
    c ≠ 0 ∧ c ≤ 0xFFF0 := by
  have most : CLUSTERS_TO_SAVE_MAX = 32768 := rfl
  have value : UInt16.toNat 0xFFF0 = 65520 := rfl
  constructor
  · rintro rfl
    exact absurd low (by decide)
  · apply UInt16.le_iff_toNat_le.mpr
    omega

theorem findFirstCluster_saved (after : After s file i cells out) (target : Target s file.args) :
    findFirstCluster out.2 target.arguments =
      .ok (some (walkAt out.2 target.buffer.address (cells.headD 0xFFF8) 0), out.2) := by
  have search : searchDirent out.2.mem target.arguments.dirAddress FAT16_ROOT_ENTRIES
      target.arguments.fileName (strlen target.arguments.fileName) = some i := by
    have all : strlen target.arguments.fileName = 11 := strlen_stored file
    rw [all]
    exact search_saved after.ready after.inside after.saved
  have first : shortAt out.2.mem (entryAddress target.arguments.dirAddress i + 26) =
      cells.headD 0xFFF8 := saved_firstCluster file.offTable after.inside after.saved
  have cached : fsLoadFat out.2 = .ok out.2 := by
    rw [fsLoadFat, if_pos after.saved.mounted.loaded]
  have fresh := head_fresh after
  have limits : ¬(cells.headD 0xFFF8 = 0 ∨ cells.headD 0xFFF8 > 0xFFF0) := by
    have valid := listed_limits fresh.1 fresh.2
    rintro (none | high)
    · exact valid.1 none
    · exact absurd valid.2 (UInt16.not_le.mpr high)
  exact findFirstCluster_of search first limits cached

theorem begin_saved (after : After s file i cells out) (target : Target s file.args) :
    beginLoad out.2 target.arguments =
      .ok (some (walkAt out.2 target.buffer.address (cells.headD 0xFFF8) 0), out.2) := by
  have boot : out.2.root = some bootRoot := after.root.trans after.ready.root
  have small := target.limit
  have larger := target.larger
  have size : target.arguments.bufferSize = target.buffer.size.toNat :=
    Nat.mod_eq_of_lt (show target.buffer.size.toNat < 2 ^ 32 by omega)
  have called : Called out.2 target.arguments := by
    refine ⟨rfl, ?_, ?_, by omega, by omega, ⟨bootRoot, boot, rfl, rfl, ?_, ?_⟩,
      stored_named file, ?_⟩
    · change file.args.dirAddress ≠ 0
      rw [file.root]
      decide
    · change (512 : Int32).toUInt32.toNat % 0x10000 = 512
      decide
    · decide
    · decide
    · have all : strlen target.arguments.fileName = 11 := strlen_stored file
      omega
  have sizes : fsGetFileSize out.2 target.arguments.fileName target.arguments.dirAddress =
      .ok (recordedSize file.args, out.2) := size_saved after
  have room : ¬recordedSize file.args ≥ target.arguments.bufferSize := by omega
  rw [beginLoad_called called, sizes]
  change afterSize target.arguments (recordedSize file.args, out.2) = _
  rw [afterSize, if_neg room, findFirstCluster_saved after target]

end Begin

section Walk

variable {s t : System} {buffer : Buffer} {address : UInt64} {c : UInt16} {k n : Nat}

/-- A chain as the save writes it: clusters of the list, and its end mark. -/
def savedMarks : Marks UInt16 where
  cell := fun c => 3 ≤ c.toNat ∧ c.toNat < 3 + CLUSTERS_TO_SAVE_MAX
  ends := fun c => c = 0xFFF8
  apart := by
    rintro c ⟨-, high⟩ rfl
    exact absurd high (by decide)

/-- What is assumed of a buffer of `n` sectors for the walk through it. -/
structure Wide (buffer : Buffer) (n : Nat) : Prop where
  place : buffer.address ≠ 0
  room : SECTOR_SIZE * n ≤ buffer.size.toNat
  off : SectorsOff buffer.address 0 n

theorem Wide.holds (wide : Wide buffer n) : Holds buffer n :=
  ⟨wide.place, wide.room⟩

theorem Wide.linkOff (wide : Wide buffer n) (some : 0 < n) (c : UInt16) :
    LinkOff buffer n c := by
  have base : VOLUME1_FAT_ADDRESS = 0x30000 := rfl
  have size : SECTOR_SIZE = 512 := rfl
  have small := c.toNat_lt
  -- The address of a byte of the link decides which sector it would be in.
  have away : ∀ j : Nat, OnTable j → ¬(buffer.address.toNat ≤ j ∧
      j < buffer.address.toNat + SECTOR_SIZE * n) := by
    rintro j on ⟨low, high⟩
    rw [size] at high
    have inside : (j - buffer.address.toNat) / 512 < n := by omega
    have here := wide.holds.at_sector inside
    rw [size] at here
    exact wide.off _ (Nat.zero_le _) inside j (by omega) (by rw [size]; omega) on
  have first := away (VOLUME1_FAT_ADDRESS + 2 * c.toNat) (by rw [OnTable, base]; omega)
  have second := away (VOLUME1_FAT_ADDRESS + 2 * c.toNat + 1) (by rw [OnTable, base]; omega)
  rw [size] at first second
  rw [LinkOff, size]
  omega

end Walk

/-- The load has succeeded: the sectors of the file, in order, are in the buffer
    and nothing else was stored. -/
structure Delivered (s : System) (args : SaveArguments) (buffer : Buffer) (before : System)
    (ended : Ended) : Prop where
  result : ended.result = .ok 0
  written : ended.written = writtenAt buffer.address args.sizeInSectors.toNat
  sectors : ∀ k, k < args.sizeInSectors.toNat →
    slice ended.system.mem (addressAt buffer.address k).toNat SECTOR_SIZE =
      slice s.mem (addressAt args.fileAddress k).toNat SECTOR_SIZE
  rest : ∀ j : Int, j < buffer.address.toNat ∨
    buffer.address.toNat + (SECTOR_SIZE * args.sizeInSectors.toNat : Nat) ≤ j →
      ended.system.mem j = before.mem j

section Load

variable {s : System} {file : NewFile s} {cells : List UInt16} {i k : Nat} {out : Int × System}

theorem saved_chain (after : After s file i cells out) :
    Chain savedMarks out.2.fat (cells.headD 0xFFF8) cells := by
  have nonempty := some_cluster after.saved
  have some : cells ≠ [] := List.ne_nil_of_length_pos nonempty
  rw [after.saved.fat, savedTable, if_neg some]
  exact link_chain after.saved.once (fun c member => (after.saved.fresh c member).2) rfl

theorem Target.wide (saved : Saved s file.args i cells out) (target : Target s file.args) :
    Wide target.buffer cells.length := by
  rw [saved.count]
  exact ⟨target.place, target.room, target.off⟩

theorem after_ide (after : After s file i cells out) : out.2.controllerType ≠ .ahci := by
  rw [after.controllerType]
  exact after.ready.ide

theorem seen_cell (after : After s file i cells out) (target : Target s file.args)
    (few : k < cells.length) :
    (seen out.2 target.buffer.address (cells.headD 0xFFF8) k).2 = cells[k] := by
  have wide := target.wide after.saved
  have some := some_cluster after.saved
  rw [seen_cluster wide.holds (Nat.le_of_lt few) fun _ _ => wide.linkOff some _]
  exact chain_iterate few (saved_chain after)

theorem seen_last (after : After s file i cells out) (target : Target s file.args) :
    (seen out.2 target.buffer.address (cells.headD 0xFFF8) cells.length).2 = 0xFFF8 := by
  have wide := target.wide after.saved
  have some := some_cluster after.saved
  rw [seen_cluster wide.holds (Nat.le_refl _) fun _ _ => wide.linkOff some _]
  exact chain_iterate_length (saved_chain after)

theorem goes_on_saved (after : After s file i cells out) (target : Target s file.args)
    (few : k < cells.length) :
    GoesOn out.2 target.buffer.address (cells.headD 0xFFF8) k := by
  have fresh := after.saved.fresh _ (List.getElem_mem few)
  have limits := listed_limits fresh.2.1 fresh.2.2
  have there := (written_at (after.saved.written file.off) few).1 after.ready.ide
  have valid := target.valid k (after.saved.count ▸ few)
  unfold GoesOn
  rw [seen_cell after target few]
  refine ⟨?_, limits.1, limits.2, Or.inr (Or.inr ?_)⟩
  · rw [← valid, checkAddressValidation, checkAddressValidation, after.backbufferVa]
  · rw [after.sectors]
    exact there

theorem pass_saved (after : After s file i cells out) (target : Target s file.args)
    (few : k + 1 < cells.length) :
    loopNextEntry (walkAt out.2 target.buffer.address (cells.headD 0xFFF8) k) =
      .inr (walkAt out.2 target.buffer.address (cells.headD 0xFFF8) (k + 1)) := by
  rcases pass_goes_on (goes_on_saved after target (Nat.lt_of_succ_lt few)) with
    ⟨-, next⟩ | ⟨mark, -⟩
  · exact next
  · rw [seen_cell after target few] at mark
    have fresh := after.saved.fresh _ (List.getElem_mem few)
    exfalso
    rcases mark with bad | last | last
    · rw [bad] at fresh
      exact absurd fresh.2.2 (by decide)
    · rw [last] at fresh
      exact absurd fresh.2.2 (by decide)
    · rw [last] at fresh
      exact absurd fresh.2.2 (by decide)

/-- After as many passes as the file has sectors the load has succeeded. -/
theorem load_saved (after : After s file i cells out) (target : Target s file.args)
    (small : cells.length ≤ 16) :
    fat16LoadFile out.2 target.arguments cells.length =
      .inl ((walkAt out.2 target.buffer.address (cells.headD 0xFFF8) cells.length).ended
        (.ok 0)) := by
  have begins := begin_saved after target
  have nonempty := some_cluster after.saved
  obtain ⟨n, length⟩ : ∃ n, cells.length = n + 1 := ⟨cells.length - 1, by omega⟩
  have last := seen_last after target
  rw [fat16LoadFile, begins]
  simp only
  rw [length] at last ⊢
  have path : ∀ k, k < n →
      loopNextEntry (walkAt out.2 target.buffer.address (cells.headD 0xFFF8) k) =
        .inr (walkAt out.2 target.buffer.address (cells.headD 0xFFF8) (k + 1)) :=
    fun k inside => pass_saved after target (by omega)
  have limit : CONFIG_IMAGESIZE_LIMIT_IN_KB = 408 := rfl
  have done := pass_last (goes_on_saved after target (k := n) (by omega)) last (by omega)
  exact after_path_done path done (Nat.lt_succ_self n)

theorem load_delivered (after : After s file i cells out) (target : Target s file.args) :
    Delivered s file.args target.buffer out.2
      ((walkAt out.2 target.buffer.address (cells.headD 0xFFF8) cells.length).ended (.ok 0)) := by
  have wide := target.wide after.saved
  constructor
  · rfl
  · rw [← after.saved.count]
    rfl
  · intro k few
    rw [← after.saved.count] at few
    have sector := @seen_sector out.2 _ (cells.headD 0xFFF8) _ _ wide.holds (Nat.le_refl _) _ few
    have disk : bootDisk out.2 = out.2.ideDisk := by
      rw [bootDisk, if_neg (after_ide after)]
    have written := (written_at (after.saved.written file.off) few).2
    rw [Nat.zero_add] at written
    rw [← written, ← seen_cell after target few, ← disk]
    exact sector
  · intro j outside
    rw [← after.saved.count] at outside
    exact seen_rest wide.holds (Nat.le_refl _) outside

end Load

section Caches

variable {s t : System} {args : SaveArguments} {out : Int × System}

/-- What the save makes of the caches before it looks for clusters. -/
structure Cached (s t : System) : Prop where
  mounted : Mounted t
  root : t.root = s.root
  controllerType : t.controllerType = s.controllerType
  backbufferVa : t.backbufferVa = s.backbufferVa
  ideDisk : t.ideDisk = s.ideDisk
  mem : ∀ k : Int, ¬OnTable k → k < 0x70000 ∨ 0x74000 ≤ k → t.mem k = s.mem k
  again : fsLoadRootdir t = .ok t

theorem loads_ok : Returns (fsLoadRootdir s >>= fsLoadFat) (Cached s) := by
  refine returns_of_bind loadSequentialSectors_ok ?_
  intro r read
  refine fsLoadFat_ok.mono ?_
  intro t table
  have start : VOLUME1_ROOTDIR_ADDRESS = 0x70000 := rfl
  have size : SECTOR_SIZE * 32 = 16384 := rfl
  have disk := bootDisk_congr (read.controllerType) read.ideDisk read.ahciDisk
  have later := bootDisk_congr (table.controllerType) table.ideDisk table.ahciDisk
  have cached : slice (bootDisk t) (SECTOR_SIZE * VOLUME1_ROOTDIR_LBA) (SECTOR_SIZE * 32) =
      slice t.mem VOLUME1_ROOTDIR_ADDRESS (SECTOR_SIZE * 32) := by
    rw [later, disk, ← read.read]
    refine (slice_congr ?_).symm
    intro k low _
    apply table.mem
    rw [OnTable]
    rw [start] at low
    omega
  refine ⟨⟨table.loaded, cached⟩, table.root.trans read.root,
    table.controllerType.trans read.controllerType, table.backbufferVa.trans read.backbufferVa,
    table.ideDisk.trans read.ideDisk, ?_, ?_⟩
  · intro k off outside
    rw [table.mem k off]
    apply read.rest
    rw [start, size]
    omega
  · apply loadSequentialSectors_returns cached
    intro ata
    rw [table.controllerType, read.controllerType] at ata
    rw [table.sectors, read.sectors]
    exact read.limit ata (by decide)

/-- The arguments pass the checks that come before the caches are loaded. -/
structure Passes (args : SaveArguments) : Prop where
  table : args.fatAddress ≠ 0
  place : args.dirAddress ≠ 0
  known : args.fatAddress.toNat = VOLUME1_FAT_ADDRESS
  named : args.fileName.getD 0 0 ≠ 0
  entries : ¬(args.dirEntries = 0 ∨ args.dirEntries.toInt > FAT16_ROOT_ENTRIES)
  small : ¬args.sizeInSectors > MaxFileSizeInSectors

theorem fat16SaveFile_stops (stops : ¬Passes args) :
    Returns (fat16SaveFile s args) fun out => out = (-1, s) := by
  simp only [fat16SaveFile, returns_ite, returns_error, returns_ok, implies_true, true_and]
  intro table place known named entries small
  exact (stops ⟨table, place, not_not.mp known, named, entries, small⟩).elim

/-- The search and the save, from loaded caches. -/
def searchAndSave (args : SaveArguments) (s : System) : Except Stop (Int × System) :=
  let (found, s) := searchEmptyEntries CLUSTERS_TO_SAVE_MAX 3 0 args.sizeInSectors.toNat s
  if found then saveFile args s else .ok (-1, s)

theorem fat16SaveFile_passes (passes : Passes args) :
    fat16SaveFile s args = (fsLoadRootdir s >>= fsLoadFat) >>= searchAndSave args := by
  rw [fat16SaveFile, if_neg passes.table, if_neg passes.place, if_neg (not_not.mpr passes.known),
    if_neg passes.named, if_neg passes.entries, if_neg passes.small]
  cases fsLoadRootdir s with
  | error stop => rfl
  | ok r => rfl

/-- A save that succeeds does what it does from the caches that it loaded. -/
theorem fat16SaveFile_cached (served : fat16SaveFile s args = .ok out) (zero : out.1 = 0) :
    ∃ t, Cached s t ∧ fat16SaveFile t args = .ok out := by
  have passes : Passes args := by
    by_contra stops
    rw [fat16SaveFile_stops stops out served] at zero
    cases zero
  rw [fat16SaveFile_passes passes] at served
  cases loads : fsLoadRootdir s >>= fsLoadFat with
  | error stop =>
      rw [loads] at served
      cases served
  | ok t =>
      rw [loads] at served
      have cached := loads_ok t loads
      have again : fsLoadRootdir t >>= fsLoadFat = .ok t := by
        rw [cached.again]
        change fsLoadFat t = .ok t
        rw [fsLoadFat, if_pos cached.mounted.loaded]
      refine ⟨t, cached, ?_⟩
      rw [fat16SaveFile_passes passes, again]
      exact served

end Caches

/-- After the save the size in the entry is found under the stored name, and
    every load to a buffer that is large enough delivers the sectors. -/
structure RoundTrip (s : System) (args : SaveArguments) (after : System) : Prop where
  size : fsGetFileSize after (storedName args) args.dirAddress = .ok (recordedSize args, after)
  load : ∀ target : Target s args, ∃ passes ended,
    fat16LoadFile after target.arguments passes = .inl ended ∧
      Delivered s args target.buffer after ended

section Saves

variable {s t : System} {file : NewFile s} {out : Int × System}

/-- A save from caches that are those of the disk is followed by its load. -/
theorem roundTrip_ready (ready : Ready s) (file : NewFile s)
    (served : fat16SaveFile s file.args = .ok out) (zero : out.1 = 0) :
    RoundTrip s file.args out.2 := by
  rcases fat16SaveFile_cases ready.mounted file.offTable out served with
    ⟨-, failed, -⟩ | ⟨goes, i, cells, list, inside, saved, others⟩
  · rw [zero] at failed
    cases failed
  · have after : After s file i cells out :=
      ⟨ready, inside, saved, others.root, others.controllerType, others.sectors,
        others.backbufferVa⟩
    have small : cells.length ≤ 16 := by
      rw [saved.count]
      exact UInt64.le_iff_toNat_le.mp goes.small
    refine ⟨size_saved after, ?_⟩
    intro target
    exact ⟨cells.length, _, load_saved after target small, load_delivered after target⟩

/-- The same file, over the caches that the save loads. -/
def NewFile.over (file : NewFile s) (cached : Cached s t) : NewFile t where
  args := file.args
  root := file.root
  some_sector := file.some_sector
  name := file.name
  absent := by
    rw [cached.ideDisk]
    exact file.absent
  off := file.off

def Target.over {args : SaveArguments} (target : Target s args) (cached : Cached s t) :
    Target t args where
  buffer := target.buffer
  place := target.place
  larger := target.larger
  limit := target.limit
  room := target.room
  off := target.off
  valid := by
    intro k inside
    have valid := target.valid k inside
    rwa [checkAddressValidation, ← cached.backbufferVa] at valid

theorem sectors_cached (file : NewFile s) (cached : Cached s t) {k : Nat}
    (inside : k < file.args.sizeInSectors.toNat) :
    slice t.mem (addressAt file.args.fileAddress k).toNat SECTOR_SIZE =
      slice s.mem (addressAt file.args.fileAddress k).toNat SECTOR_SIZE := by
  have table := file.off.table k (Nat.zero_le k) inside
  have directory := file.off.directory k inside
  have start : file.args.dirAddress.toNat = 0x70000 := by
    rw [file.root]
    rfl
  have image : FAT16_ENTRY_SIZE * FAT16_ROOT_ENTRIES = 16384 := rfl
  rw [start, image] at directory
  apply slice_congr
  intro j low high
  exact cached.mem j (table j low high) (by omega)

end Saves

theorem roundTrip_saved (volume : Volume) (file : NewFile volume.system)
    {out : Int × System} (served : fat16SaveFile volume.system file.args = .ok out)
    (zero : out.1 = 0) : RoundTrip volume.system file.args out.2 := by
  rcases fat16SaveFile_cached served zero with ⟨t, cached, again⟩
  have ready : Ready t := by
    refine ⟨cached.mounted, ?_, ?_⟩
    · rw [cached.root, volume.root]
    · rw [cached.controllerType]
      exact volume.ide
  have trip : RoundTrip t file.args out.2 := roundTrip_ready ready (file.over cached) again zero
  refine ⟨trip.size, ?_⟩
  intro target
  rcases trip.load (target.over cached) with ⟨passes, ended, done, delivered⟩
  refine ⟨passes, ended, done, delivered.result, delivered.written, ?_, delivered.rest⟩
  intro k inside
  rw [← sectors_cached file cached inside]
  exact delivered.sectors k inside

/-- A save of a new name to the root directory that returns 0 is found and
    loaded again. -/
theorem save_load_round_trip (volume : Volume) (file : NewFile volume.system)
    {out : Int × System} (served : fat16SaveFile volume.system file.args = .ok out)
    (zero : out.1 = 0) : RoundTrip volume.system file.args out.2 :=
  roundTrip_saved volume file served zero

/-- "NOTES" -/
def notesName : List UInt8 := [78, 79, 84, 69, 83, 32, 32, 32, 32, 32, 32]

/-- A blank volume behind an IDE port. -/
def blank : System where
  mem := fun _ => 0
  controllerType := .other
  ideDisk := fun _ => 0
  ahciDisk := fun _ => 0
  numberOfSectorsInBootDisk := 65536
  fatCacheLoaded := true
  fatCacheSaved := true
  clustersToSave := fun _ => 0
  root := some bootRoot
  backbufferVa := 0x10000000

def blankVolume : Volume :=
  ⟨blank, rfl, by decide⟩

theorem blank_ready : Ready blank := by
  refine ⟨⟨rfl, ?_⟩, rfl, by decide⟩
  have ata : ¬blank.controllerType = .ahci := by decide
  have disk : bootDisk blank = fun _ => 0 := by
    rw [bootDisk, if_neg ata]
    rfl
  have mem : blank.mem = fun _ => 0 := rfl
  simp only [slice, disk, mem]

/-- A save of two sectors with 1024 bytes: of a file (0x20) or a directory (0x10). -/
def saveNotes (flag : UInt8) : SaveArguments :=
  ⟨0x30000, 0x70000, 512, notesName, 2, 1024, 0x200000, flag⟩

theorem stored_notes {flag : UInt8} : storedName (saveNotes flag) = notesName := by
  unfold storedName
  split <;> rfl

theorem notes_named {flag : UInt8} : ∀ b ∈ storedName (saveNotes flag), b ≠ 0 := by
  rw [stored_notes]
  simp [notesName]

theorem notes_absent {flag : UInt8} : ∀ i, i < 512 → slice blank.ideDisk
    (SECTOR_SIZE * VOLUME1_ROOTDIR_LBA + (FAT16_ENTRY_SIZE * i : Nat)) 11 ≠
      storedName (saveNotes flag) := by
  intro i _
  rw [stored_notes]
  have zeros : slice blank.ideDisk
      (SECTOR_SIZE * VOLUME1_ROOTDIR_LBA + (FAT16_ENTRY_SIZE * i : Nat)) 11 =
        List.replicate 11 0 := rfl
  rw [zeros]
  decide

theorem notes_off {flag : UInt8} : FileOff (saveNotes flag) := by
  have sectors : ∀ k, k < 2 → (addressAt 0x200000 k).toNat = 0x200000 + 512 * k := by
    decide
  constructor
  · intro k _ inside j low _
    rw [show (saveNotes flag).fileAddress = 0x200000 from rfl, sectors k inside] at low
    rw [OnTable]
    omega
  · intro k inside
    right
    rw [show (saveNotes flag).fileAddress = 0x200000 from rfl, sectors k inside]
    have place : UInt64.toNat 0x70000 = 0x70000 := by decide
    have image : FAT16_ENTRY_SIZE * FAT16_ROOT_ENTRIES = 16384 := rfl
    rw [show (saveNotes flag).dirAddress = 0x70000 from rfl, place, image]
    omega

theorem notes_some_sector {flag : UInt8} : (saveNotes flag).sizeInSectors ≠ 0 := by
  change (2 : UInt64) ≠ 0
  decide

def newNotes (flag : UInt8) : NewFile blank where
  args := saveNotes flag
  root := rfl
  some_sector := notes_some_sector
  name := notes_named
  absent := notes_absent
  off := notes_off

/-- Whether a save returned 0. -/
def returnsZero : Except Stop (Int × System) → Bool
  | .ok out => out.1 == 0
  | .error _ => false

theorem returnsZero_iff {call : Except Stop (Int × System)} :
    returnsZero call = true ↔ ∃ out, call = .ok out ∧ out.1 = 0 := by
  cases call with
  | error stop =>
      constructor
      · intro zero
        cases zero
      · rintro ⟨out, failed, -⟩
        cases failed
  | ok out =>
      constructor
      · intro zero
        exact ⟨out, rfl, by simpa [returnsZero] using zero⟩
      · rintro ⟨other, same, zero⟩
        cases same
        simpa [returnsZero] using zero

theorem blank_loads : fsLoadRootdir blank >>= fsLoadFat = .ok blank := by
  have root : fsLoadRootdir blank = .ok blank :=
    loadSequentialSectors_returns blank_ready.mounted.cached (fun _ => by decide)
  have table : fsLoadFat blank = .ok blank := by
    rw [fsLoadFat, if_pos blank_ready.mounted.loaded]
  rw [root]
  exact table

theorem notes_passes {flag : UInt8} : Passes (saveNotes flag) := by
  constructor
  · change (0x30000 : UInt64) ≠ 0
    decide
  · change (0x70000 : UInt64) ≠ 0
    decide
  · rfl
  · change (78 : UInt8) ≠ 0
    decide
  · change ¬((512 : Int32) = 0 ∨ (512 : Int32).toInt > 512)
    decide
  · change ¬(2 : UInt64) > 16
    decide

theorem save_blank {flag : UInt8} :
    fat16SaveFile blank (saveNotes flag) = searchAndSave (saveNotes flag) blank := by
  rw [fat16SaveFile_passes notes_passes, blank_loads]
  generalize searchAndSave (saveNotes flag) = save
  rfl

/-- The file of two sectors is saved, and can be loaded. -/
theorem notes_round_trip : ∃ out, fat16SaveFile blank (saveNotes 0x20) = .ok out ∧ out.1 = 0 ∧
    RoundTrip blank (saveNotes 0x20) out.2 := by
  have zero : returnsZero (fat16SaveFile blank (saveNotes 0x20)) = true := by
    rw [save_blank]
    decide +kernel
  rcases returnsZero_iff.mp zero with ⟨out, served, value⟩
  exact ⟨out, served, value, save_load_round_trip blankVolume (newNotes 0x20) served value⟩

/-- The directory of 1024 bytes is saved, and has size 0 from then on. -/
theorem directory_has_no_size : ∃ out, fat16SaveFile blank (saveNotes 0x10) = .ok out ∧
    out.1 = 0 ∧ (saveNotes 0x10).sizeInBytes = 1024 ∧
    fsGetFileSize out.2 notesName 0x70000 = .ok (0, out.2) := by
  have zero : returnsZero (fat16SaveFile blank (saveNotes 0x10)) = true := by
    rw [save_blank]
    decide +kernel
  rcases returnsZero_iff.mp zero with ⟨out, served, value⟩
  have trip := roundTrip_ready blank_ready (newNotes 0x10) served value
  exact ⟨out, served, value, rfl, trip.size⟩

end Gramado.Fs.FatRoundTrip
