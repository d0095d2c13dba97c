/-
When `fat16SaveFile` saves and when it leaves everything alone. The search for
clusters ends only at a free one behind those that it needs, and starts at
cluster 3; an erased entry of a directory is not taken. The root directory is
read again before anything is looked for, so that a save that fails later has
changed a copy in memory that was not that of the disk.
-/
import Gramado.Fs.FatRoundTrip

namespace Gramado.Fs.FatSave

open Gramado.Ke
open Gramado.Fs.Fat16
open Gramado.Fs.FatTable
open Gramado.Fs.FatRoundTrip
open Gramado.Lib.Fallible
open Gramado.Lib.LittleEndian
open Gramado.Lib.Memory

/-- The clusters that the table has links for. -/
def tableLinks : Nat := SECTOR_SIZE / 2 * VOLUME1_FAT_SIZE

/-- How many of the `left` links from `c` on are free. -/
def freeLinks (s : System) (c left : Nat) : Nat :=
  (List.range' c left).countP fun k => s.fat (UInt16.ofNat k) = 0

section Search

variable {s : System} {args : SaveArguments}

theorem freeLinks_succ {c left : Nat} : freeLinks s c (left + 1) =
    freeLinks s (c + 1) left + if s.fat (UInt16.ofNat c) = 0 then 1 else 0 := by
  rw [freeLinks, List.range'_succ, List.countP_cons]
  simp only [decide_eq_true_eq]
  rfl

theorem freeLinks_eq_zero {c left : Nat}
    (used : ∀ k, c ≤ k → k < c + left → s.fat (UInt16.ofNat k) ≠ 0) : freeLinks s c left = 0 := by
  rw [freeLinks, List.countP_eq_zero]
  intro k member free
  have bounds := List.mem_range'_1.mp member
  exact used k bounds.1 bounds.2 (of_decide_eq_true free)

/-- The search succeeds where more links are free than it was asked for. -/
theorem searchEmptyEntries_iff {left c j n : Nat} :
    (searchEmptyEntries left c j n s).1 = true ↔ n < freeLinks s c left := by
  induction left generalizing c j n s with
  | zero => simp [searchEmptyEntries, freeLinks]
  | succ left ih =>
      rw [freeLinks_succ]
      by_cases free : s.fat (UInt16.ofNat c) = 0
      · cases n with
        | zero => simp [searchEmptyEntries, free]
        | succ n =>
            have later := @ih (s.setCluster j (UInt16.ofNat c)) (c + 1) (j + 1) n
            -- The list is not part of the table.
            have same : freeLinks (s.setCluster j (UInt16.ofNat c)) (c + 1) left =
                freeLinks s (c + 1) left := rfl
            simp only [searchEmptyEntries, free, if_true, later, same]
            exact Nat.add_lt_add_iff_right.symm
      · simp only [searchEmptyEntries, free, if_false, Nat.add_zero]
        exact ih

theorem findEmptyDirectoryEntry_iff {mem : Int → UInt8} {dirAddress : UInt64} {n : Int32}
    (place : dirAddress ≠ 0) : (findEmptyDirectoryEntry mem dirAddress n).isSome = true ↔
      ∃ i, i < n.toNatClampNeg ∧ mem (entryAddress dirAddress i) = 0 := by
  rw [findEmptyDirectoryEntry, if_neg place, List.find?_isSome]
  simp

end Search

section Chaining

variable {s t : System} {rest : List UInt16} {i left lba n address : Nat} {fileAddress : UInt64}

/-- The disk has a sector for every cluster of the table. -/
def Writable (s : System) : Prop :=
  s.controllerType ≠ .ahci →
    VOLUME1_DATAAREA_LBA + tableLinks - 2 ≤ s.numberOfSectorsInBootDisk

theorem Writable.of_others (writable : Writable s) (others : Others s t) : Writable t := by
  rwa [Writable, others.controllerType, others.sectors]

theorem ataLimits_inside {noSize limits : String}
    (inside : s.controllerType ≠ .ahci → lba < s.numberOfSectorsInBootDisk) :
    ataLimits s noSize limits lba = .ok () := by
  rw [ataLimits]
  by_cases ahci : s.controllerType = .ahci
  · rw [if_pos ahci]
  · have low := inside ahci
    rw [if_neg ahci, if_neg (by omega), if_neg (by omega)]

theorem ataWriteSector_meets
    (inside : s.controllerType ≠ .ahci → lba < s.numberOfSectorsInBootDisk) :
    Meets (ataWriteSector s address lba) (Others s) := by
  rw [ataWriteSector, ataLimits_inside inside]
  exact ⟨_, rfl, (storeIde_disksOnly _).toOthers⟩

theorem saveClusters_done (listed : Listed s.clustersToSave i rest)
    (unmarked : ∀ c ∈ rest, c ≠ 0xFFF8) (room : rest.length < left) :
    Returns (saveClusters left i fileAddress s) fun out => out.1 = true := by
  induction rest generalizing s i left fileAddress with
  | nil =>
      cases left with
      | zero => cases room
      | succ left => rw [saveClusters_last listed, returns_ok]
  | cons c rest ih =>
      cases left with
      | zero => cases room
      | succ left =>
          rw [saveClusters_step listed (unmarked c (List.mem_cons_self ..))]
          refine returns_of_bind ataWriteSector_ok ?_
          rintro t ⟨rfl, -⟩
          apply ih
          · exact_mod_cast listed.2
          · exact fun d member => unmarked d (List.mem_cons_of_mem _ member)
          · exact Nat.lt_of_succ_lt_succ room

theorem saveClusters_meets (listed : Listed s.clustersToSave i rest)
    (linked : ∀ c ∈ rest, c.toNat < tableLinks) (room : rest.length < left)
    (writable : Writable s) :
    Meets (saveClusters left i fileAddress s) fun out => Others s out.2 := by
  induction rest generalizing s i left fileAddress with
  | nil =>
      cases left with
      | zero => cases room
      | succ left =>
          rw [saveClusters_last listed, meets_ok]
          exact setFat_others
  | cons c rest ih =>
      cases left with
      | zero => cases room
      | succ left =>
          have inside := linked c (List.mem_cons_self ..)
          have links : tableLinks = 62976 := rfl
          have unmarked : c ≠ 0xFFF8 := by
            rintro rfl
            exact absurd inside (by decide)
          rw [saveClusters_step listed unmarked]
          have limit : s.controllerType ≠ .ahci →
              VOLUME1_DATAAREA_LBA + c.toNat - 2 < s.numberOfSectorsInBootDisk := by
            intro ata
            have bound := writable ata
            have area : VOLUME1_DATAAREA_LBA = 591 := rfl
            omega
          refine meets_of_bind (ataWriteSector_meets limit) ?_
          intro t wrote
          have others : Others s t := setFat_others.trans wrote
          have behind : Listed t.clustersToSave (i + 1 : Nat) rest := by
            rw [others.clustersToSave]
            exact_mod_cast listed.2
          have later := @ih t (i + 1) left (fileAddress + 512) behind
            (fun d member => linked d (List.mem_cons_of_mem _ member))
            (Nat.lt_of_succ_lt_succ room) (writable.of_others others)
          exact later.mono fun out => others.trans

theorem writeSector_meets
    (inside : s.controllerType ≠ .ahci → lba < s.numberOfSectorsInBootDisk) :
    Meets (writeSector s address lba) (Others s) := by
  rw [writeSector]
  by_cases ahci : s.controllerType = .ahci
  · rw [if_pos ahci, meets_ok]
    exact (storeAhci_disksOnly _).toOthers
  · rw [if_neg ahci]
    exact ataWriteSector_meets inside

theorem doSaveSequence_meets
    (inside : s.controllerType ≠ .ahci → lba + n ≤ s.numberOfSectorsInBootDisk) :
    Meets (doSaveSequence s address lba n) (Others s) := by
  induction n with
  | zero => exact meets_ok.mpr (Others.refl s)
  | succ n ih =>
      rw [doSaveSequence]
      have early := ih fun ata => by
        have bound := inside ata
        omega
      refine meets_of_bind early ?_
      intro t others
      have limit : t.controllerType ≠ .ahci → lba + n < t.numberOfSectorsInBootDisk := by
        rw [others.controllerType, others.sectors]
        intro ata
        have bound := inside ata
        omega
      exact (writeSector_meets limit).mono fun u => others.trans

theorem atadskSaveRootdir_meets (writable : Writable s) :
    Meets (atadskSaveRootdir s) (Others s) := by
  apply doSaveSequence_meets
  intro ata
  have bound := writable ata
  have area : VOLUME1_DATAAREA_LBA = 591 := rfl
  have root : VOLUME1_ROOTDIR_LBA = 559 := rfl
  have links : tableLinks = 62976 := rfl
  omega

end Chaining

/-- The arguments pass the checks, one more link is free than is needed in the
    part of the table that is searched, and an entry was never used. -/
structure Served (t : System) (args : SaveArguments) : Prop where
  passes : Passes args
  clusters : args.sizeInSectors.toNat < freeLinks t 3 CLUSTERS_TO_SAVE_MAX
  entry : ∃ i, i < args.dirEntries.toNatClampNeg ∧ t.mem (entryAddress args.dirAddress i) = 0

/-- As many clusters are free as are needed, an entry was never used or is
    erased, and the disk has the sectors of all clusters. -/
structure Feasible (t : System) (args : SaveArguments) : Prop where
  clusters : args.sizeInSectors.toNat ≤ freeLinks t 2 (tableLinks - 2)
  entry : ∃ i, i < args.dirEntries.toNatClampNeg ∧
    (t.mem (entryAddress args.dirAddress i) = 0 ∨ t.mem (entryAddress args.dirAddress i) = 0xE5)
  writable : Writable t

/-- The table in memory, the root directory in memory and the disks are the same. -/
structure Unchanged (s t : System) : Prop where
  table : slice t.mem VOLUME1_FAT_ADDRESS (SECTOR_SIZE * VOLUME1_FAT_SIZE) =
    slice s.mem VOLUME1_FAT_ADDRESS (SECTOR_SIZE * VOLUME1_FAT_SIZE)
  root : slice t.mem VOLUME1_ROOTDIR_ADDRESS (SECTOR_SIZE * 32) =
    slice s.mem VOLUME1_ROOTDIR_ADDRESS (SECTOR_SIZE * 32)
  ideDisk : t.ideDisk = s.ideDisk
  ahciDisk : t.ahciDisk = s.ahciDisk

/-- The copies in memory are those of the disk. A table that was loaded once is
    not read again. -/
structure InStep (s : System) : Prop where
  table : s.fatCacheLoaded = true ∨
    slice (bootDisk s) (SECTOR_SIZE * VOLUME1_FAT_LBA) (SECTOR_SIZE * VOLUME1_FAT_SIZE) =
      slice s.mem VOLUME1_FAT_ADDRESS (SECTOR_SIZE * VOLUME1_FAT_SIZE)
  root : slice (bootDisk s) (SECTOR_SIZE * VOLUME1_ROOTDIR_LBA) (SECTOR_SIZE * 32) =
    slice s.mem VOLUME1_ROOTDIR_ADDRESS (SECTOR_SIZE * 32)

section Calls

variable {s t u : System} {args : SaveArguments} {list : Int → UInt16}

theorem Unchanged.refl (s : System) : Unchanged s s :=
  ⟨rfl, rfl, rfl, rfl⟩

/-- Loading the copies changes nothing if and only if they are those of the disk. -/
theorem unchanged_loaded (loads : (fsLoadRootdir s >>= fsLoadFat) = .ok t) :
    Unchanged s (withList t list) ↔ InStep s := by
  cases read : fsLoadRootdir s with
  | error stop =>
      rw [read] at loads
      cases loads
  | ok r =>
      rw [read] at loads
      change fsLoadFat r = .ok t at loads
      have directory := loadSequentialSectors_ok r read
      have disk := bootDisk_congr directory.controllerType directory.ideDisk directory.ahciDisk
      have start : VOLUME1_ROOTDIR_ADDRESS = 0x70000 := rfl
      have size : SECTOR_SIZE * 32 = 16384 := rfl
      have base : VOLUME1_FAT_ADDRESS = 0x30000 := rfl
      have all : SECTOR_SIZE * VOLUME1_FAT_SIZE = 125952 := rfl
      -- The table lies elsewhere than the root directory.
      have table : slice r.mem VOLUME1_FAT_ADDRESS (SECTOR_SIZE * VOLUME1_FAT_SIZE) =
          slice s.mem VOLUME1_FAT_ADDRESS (SECTOR_SIZE * VOLUME1_FAT_SIZE) := by
        apply slice_congr
        intro k low high
        rw [base] at low high
        rw [all] at high
        exact directory.rest k (Or.inl (by rw [start]; omega))
      have loaded := fsLoadFat_ok t loads
      have root : slice t.mem VOLUME1_ROOTDIR_ADDRESS (SECTOR_SIZE * 32) =
          slice (bootDisk s) (SECTOR_SIZE * VOLUME1_ROOTDIR_LBA) (SECTOR_SIZE * 32) := by
        rw [← directory.read]
        apply slice_congr
        intro k low _
        rw [start] at low
        exact loaded.mem k (by rw [OnTable]; omega)
      have ideDisk : t.ideDisk = s.ideDisk := loaded.ideDisk.trans directory.ideDisk
      have ahciDisk : t.ahciDisk = s.ahciDisk := loaded.ahciDisk.trans directory.ahciDisk
      have fat : slice t.mem VOLUME1_FAT_ADDRESS (SECTOR_SIZE * VOLUME1_FAT_SIZE) =
          slice s.mem VOLUME1_FAT_ADDRESS (SECTOR_SIZE * VOLUME1_FAT_SIZE) ↔
            s.fatCacheLoaded = true ∨
              slice (bootDisk s) (SECTOR_SIZE * VOLUME1_FAT_LBA)
                  (SECTOR_SIZE * VOLUME1_FAT_SIZE) =
                slice s.mem VOLUME1_FAT_ADDRESS (SECTOR_SIZE * VOLUME1_FAT_SIZE) := by
        rw [fsLoadFat] at loads
        by_cases cached : r.fatCacheLoaded = true
        · rw [if_pos cached] at loads
          cases loads
          exact iff_of_true table (Or.inl (directory.fatCacheLoaded.symm.trans cached))
        · rw [if_neg cached] at loads
          have never : ¬s.fatCacheLoaded = true := directory.fatCacheLoaded ▸ cached
          obtain ⟨v, reads, same⟩ : ∃ v, loadSequentialSectors r VOLUME1_FAT_ADDRESS
              VOLUME1_FAT_LBA VOLUME1_FAT_SIZE = .ok v ∧ t.mem = v.mem := by
            cases reads : loadSequentialSectors r VOLUME1_FAT_ADDRESS VOLUME1_FAT_LBA
                VOLUME1_FAT_SIZE with
            | error stop =>
                rw [reads] at loads
                cases loads
            | ok v =>
                rw [reads] at loads
                cases loads
                exact ⟨v, rfl, rfl⟩
          have content := (loadSequentialSectors_ok v reads).read
          rw [disk] at content
          rw [same, content, or_iff_right never]
      constructor
      · intro unchanged
        exact ⟨fat.mp unchanged.table, root.symm.trans unchanged.root⟩
      · intro step
        exact ⟨fat.mpr step.table, root.trans step.root, ideDisk, ahciDisk⟩

/-- Without the free link or the entry the save fails, with nothing changed but
    the list. -/
theorem searchAndSave_refused (passes : Passes args) (refused : ¬Served t args) :
    ∃ list, searchAndSave args t = .ok (-1, withList t list) := by
  have relisted := searchEmptyEntries_relisted (s := t) CLUSTERS_TO_SAVE_MAX 3 0
    args.sizeInSectors.toNat
  have found := @searchEmptyEntries_iff t CLUSTERS_TO_SAVE_MAX 3 0 args.sizeInSectors.toNat
  cases search : searchEmptyEntries CLUSTERS_TO_SAVE_MAX 3 0 args.sizeInSectors.toNat t with
  | mk success u =>
      rw [search] at relisted found
      obtain ⟨list, rfl⟩ : ∃ list, u = withList t list := ⟨_, relisted.others⟩
      refine ⟨list, ?_⟩
      rw [searchAndSave, search]
      cases success with
      | false => rfl
      | true =>
          have none : findEmptyDirectoryEntry t.mem args.dirAddress args.dirEntries = none := by
            rw [← Option.not_isSome_iff_eq_none, findEmptyDirectoryEntry_iff passes.place]
            exact fun entry => refused ⟨passes, found.mp rfl, entry⟩
          change saveFile args (withList t list) = _
          rw [saveFile, show (withList t list).mem = t.mem from rfl, none]

theorem searchAndSave_served (served : Served t args) :
    Returns (searchAndSave args t) (fun out => out.1 = 0) ∧
      (Writable t → Meets (searchAndSave args t) fun out => out.1 = 0) := by
  have success := (@searchEmptyEntries_iff t CLUSTERS_TO_SAVE_MAX 3 0 _).mpr served.clusters
  obtain ⟨cells, count, -, listed, fresh⟩ := searchEmptyEntries_found (by decide) success
  have relisted := searchEmptyEntries_relisted (s := t) CLUSTERS_TO_SAVE_MAX 3 0
    args.sizeInSectors.toNat
  have some := (findEmptyDirectoryEntry_iff served.passes.place).mpr served.entry
  obtain ⟨i, entry⟩ := Option.isSome_iff_exists.mp some
  have small : args.sizeInSectors.toNat ≤ 16 :=
    UInt64.le_iff_toNat_le.mp (UInt64.not_lt.mp served.passes.small)
  -- The table has links for the clusters that were found, and none of them is the mark.
  have linked : ∀ c ∈ cells, c.toNat < tableLinks := by
    intro c member
    have high := (fresh c member).2.2
    have most : CLUSTERS_TO_SAVE_MAX = 32768 := rfl
    have links : tableLinks = 62976 := rfl
    omega
  have unmarked : ∀ c ∈ cells, c ≠ 0xFFF8 := by
    rintro c member rfl
    exact absurd (linked _ member) (by decide)
  have room : cells.length < 17 := by omega
  cases search : searchEmptyEntries CLUSTERS_TO_SAVE_MAX 3 0 args.sizeInSectors.toNat t with
  | mk found u =>
      rw [search] at success listed relisted
      obtain ⟨list, rfl⟩ : ∃ list, u = withList t list := ⟨_, relisted.others⟩
      obtain rfl : found = true := success
      have there : findEmptyDirectoryEntry (withList t list).mem args.dirAddress
          args.dirEntries = Option.some i := entry
      rw [searchAndSave, search]
      change Returns (saveFile args (withList t list)) _ ∧
        (Writable t → Meets (saveFile args (withList t list)) _)
      rw [saveFile, there]
      simp only
      have done := fun v => @saveClusters_done v cells 0 17 args.fileAddress
      constructor
      · refine returns_of_bind (done _ listed unmarked room) ?_
        rintro ⟨finished, v⟩ ends
        simp only at ends
        simp only [ends, if_true]
        exact returns_of_bind atadskSaveRootdir_ok fun w _ => returns_ok.mpr rfl
      · intro writable
        -- The entry is stored first, then the clusters, and last the directory on the disk.
        let stored := (withList t list).storeMem (entryAddress args.dirAddress i)
          (directoryEntry args.fileName args.flag ((withList t list).clustersToSave 0)
            args.sizeInBytes)
        obtain ⟨⟨finished, v⟩, ok, others⟩ :=
          @saveClusters_meets stored cells 0 17 args.fileAddress listed linked room writable
        obtain rfl : finished = true := done stored listed unmarked room _ ok
        have directory : Meets (atadskSaveRootdir v) (Others v) := by
          apply atadskSaveRootdir_meets
          exact Writable.of_others (s := stored) writable others
        rw [ok]
        change Meets (atadskSaveRootdir v >>= fun w => .ok (0, fsFat16CacheNotSaved w)) _
        exact meets_of_bind directory fun w _ => meets_ok.mpr rfl

/-- A save returns a failure code and has changed nothing, and a feasible one
    returns 0. -/
def AllOrNothing (s t : System) (args : SaveArguments) : Prop :=
  (∀ out, fat16SaveFile s args = .ok out → out.1 ≠ 0 → Unchanged s out.2) ∧
    (Feasible t args → ∃ out, fat16SaveFile s args = .ok out ∧ out.1 = 0)

theorem save_passes (loads : (fsLoadRootdir s >>= fsLoadFat) = .ok t) (passes : Passes args) :
    fat16SaveFile s args = searchAndSave args t := by
  rw [fat16SaveFile_passes passes, loads]
  rfl

end Calls

/-- With the table and the directory that the call finds, it fails with nothing
    changed or saves what is feasible if and only if a feasible save passes the
    checks, has one free link more than it needs among those searched and an
    entry that was never used, and a save that passes the checks and has not
    those finds copies in memory that are those of the disk. -/
theorem save_all_or_nothing_iff {s t : System} (loads : (fsLoadRootdir s >>= fsLoadFat) = .ok t)
    (args : SaveArguments) : AllOrNothing s t args ↔
      (Feasible t args → Served t args) ∧ (Passes args → ¬Served t args → InStep s) := by
  constructor
  · rintro ⟨nothing, all⟩
    constructor
    · intro feasible
      obtain ⟨out, ok, zero⟩ := all feasible
      have passes : Passes args := by
        -- A call that the checks stop does not return 0.
        by_contra stops
        rw [fat16SaveFile_stops stops out ok] at zero
        cases zero
      by_contra refused
      obtain ⟨list, failed⟩ := searchAndSave_refused passes refused
      rw [save_passes loads passes, failed] at ok
      cases ok
      cases zero
    · -- Refused behind the checks: the two tables have been loaded by then.
      intro passes refused
      obtain ⟨list, failed⟩ := searchAndSave_refused passes refused
      rw [← save_passes loads passes] at failed
      exact (unchanged_loaded loads).mp (nothing _ failed fun zero => by cases zero)
  · rintro ⟨feasibly, steps⟩
    constructor
    · intro out ok fails
      by_cases passes : Passes args
      · by_cases served : Served t args
        · rw [save_passes loads passes] at ok
          exact absurd ((searchAndSave_served served).1 out ok) fails
        · obtain ⟨list, failed⟩ := searchAndSave_refused passes served
          rw [save_passes loads passes, failed] at ok
          cases ok
          exact (unchanged_loaded loads).mpr (steps passes served)
      · rw [fat16SaveFile_stops passes out ok]
        exact Unchanged.refl s
    · intro feasible
      have served := feasibly feasible
      rw [save_passes loads served.passes]
      exact (searchAndSave_served served).2 feasible.writable

theorem blank_served : Served blank (saveNotes 0x20) := by
  have fat : ∀ c, blank.fat c = 0 := by
    intro c
    change shortAt (fun _ => 0) _ = 0
    rfl
  have free : freeLinks blank 3 CLUSTERS_TO_SAVE_MAX = CLUSTERS_TO_SAVE_MAX := by
    rw [freeLinks, List.countP_eq_length.mpr, List.length_range']
    intro k _
    exact decide_eq_true (fat _)
  refine ⟨notes_passes, ?_, 0, ?_, rfl⟩
  · rw [free]
    change 2 < 32 * 1024
    decide
  · change 0 < (512 : Int32).toNatClampNeg
    decide

/-- A save to the blank volume changes nothing or succeeds. -/
theorem blank_all_or_nothing : AllOrNothing blank blank (saveNotes 0x20) :=
  (save_all_or_nothing_iff blank_loads (saveNotes 0x20)).mpr
    ⟨fun _ => blank_served, fun _ refused => absurd blank_served refused⟩

/-- A volume with one free cluster, 3, and an empty root directory. -/
def oneFree : System :=
  { blank with
    mem := fun k =>
      if k = 0x30006 ∨ k = 0x30007 then 0 else if 0x30000 ≤ k ∧ k < 0x50000 then 0xFF else 0 }

def saveSector : SaveArguments :=
  { saveNotes 0x20 with sizeInSectors := 1 }

theorem oneFree_mem {k : Int} (behind : 0x50000 ≤ k) : oneFree.mem k = 0 := by
  have first : ¬(k = 0x30006 ∨ k = 0x30007) := by omega
  have second : ¬(0x30000 ≤ k ∧ k < 0x50000) := by omega
  change (if _ then _ else if _ then _ else _) = (0 : UInt8)
  rw [if_neg first, if_neg second]

theorem oneFree_loads : (fsLoadRootdir oneFree >>= fsLoadFat) = .ok oneFree := by
  have ata : ¬oneFree.controllerType = .ahci := by
    change ¬ControllerType.other = .ahci
    decide
  have same : slice (bootDisk oneFree) (SECTOR_SIZE * VOLUME1_ROOTDIR_LBA) (SECTOR_SIZE * 32) =
      slice oneFree.mem VOLUME1_ROOTDIR_ADDRESS (SECTOR_SIZE * 32) := by
    rw [bootDisk, if_neg ata, slice, slice]
    refine List.map_congr_left fun k _ => ?_
    have start : (0x50000 : Int) ≤ VOLUME1_ROOTDIR_ADDRESS + k := by
      change (0x50000 : Int) ≤ (0x70000 : Nat) + k
      omega
    exact (oneFree_mem start).symm
  have root : fsLoadRootdir oneFree = .ok oneFree :=
    loadSequentialSectors_returns same fun _ => by
      change 559 + 32 ≤ 65536
      decide
  have table : fsLoadFat oneFree = .ok oneFree := by
    have loaded : oneFree.fatCacheLoaded = true := by
      change blank.fatCacheLoaded = true
      exact blank_ready.mounted.loaded
    rw [fsLoadFat, if_pos loaded]
  rw [root]
  exact table

theorem oneFree_fat {c : UInt16} : oneFree.fat c = 0 ↔ c = 3 := by
  constructor
  · intro free
    by_contra other
    have small := c.toNat_lt
    have away : c.toNat ≠ 3 := fun same => other (UInt16.toNat_inj.mp same)
    have byte : oneFree.mem (VOLUME1_FAT_ADDRESS + 2 * c.toNat) = 0xFF := by
      change (if _ then _ else if _ then _ else _) = (0xFF : UInt8)
      have base : VOLUME1_FAT_ADDRESS = 0x30000 := rfl
      rw [if_neg (by omega), if_pos (by omega)]
    refine absurd free (shortAt_ne_zero ?_)
    rw [byte]
    decide
  · rintro rfl
    rfl

theorem oneFree_feasible : Feasible oneFree saveSector := by
  refine ⟨List.countP_pos_iff.mpr ⟨3, ?_, ?_⟩, ⟨0, ?_, Or.inl (oneFree_mem ?_)⟩, ?_⟩
  · rw [List.mem_range'_1]
    change 2 ≤ 3 ∧ 3 < 2 + (512 / 2 * 246 - 2)
    decide
  · exact decide_eq_true (oneFree_fat.mpr rfl)
  · change 0 < (512 : Int32).toNatClampNeg
    decide
  · change (0x50000 : Int) ≤ (UInt64.toNat 0x70000 + 32 * 0 : Nat)
    decide
  · intro _
    change 591 + 512 / 2 * 246 - 2 ≤ 65536
    decide

theorem oneFree_count {left : Nat} (few : left < 60000) : freeLinks oneFree 3 (left + 1) ≤ 1 := by
  have others : freeLinks oneFree (3 + 1) left = 0 := by
    apply freeLinks_eq_zero
    intro k low high free
    have small : k < 2 ^ 16 := by omega
    have value : (UInt16.ofNat k).toNat = k := UInt16.toNat_ofNat_of_lt' small
    have three := congrArg UInt16.toNat (oneFree_fat.mp free)
    rw [value] at three
    change k = 3 at three
    omega
  rw [freeLinks_succ, others]
  split
  · exact Nat.le_refl 1
  · exact Nat.zero_le 1

theorem oneFree_refused : ¬Served oneFree saveSector := by
  intro served
  have count : freeLinks oneFree 3 CLUSTERS_TO_SAVE_MAX ≤ 1 := @oneFree_count 32767 (by decide)
  have one : saveSector.sizeInSectors.toNat = 1 := rfl
  have clusters := served.clusters
  rw [one] at clusters
  exact absurd clusters (Nat.not_lt.mpr count)

/-- The last free cluster is not given to a file that needs one. -/
theorem last_free_cluster_refused : ¬∀ (s t : System) (args : SaveArguments),
    (fsLoadRootdir s >>= fsLoadFat) = .ok t → AllOrNothing s t args := by
  intro all
  obtain ⟨out, ok, zero⟩ := (all _ _ saveSector oneFree_loads).2 oneFree_feasible
  have notes := @notes_passes 0x20
  have small : ¬saveSector.sizeInSectors > MaxFileSizeInSectors := by
    change ¬(1 : UInt64) > 16
    decide
  have passes : Passes saveSector :=
    ⟨notes.table, notes.place, notes.known, notes.named, notes.entries, small⟩
  obtain ⟨list, failed⟩ := searchAndSave_refused passes oneFree_refused
  rw [save_passes oneFree_loads passes, failed] at ok
  cases ok
  cases zero

end Gramado.Fs.FatSave
