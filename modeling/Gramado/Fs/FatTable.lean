/-
What the save of a file does to the table, to the directories and to the disk,
where the caches in memory are those of the boot disk.
-/
import Gramado.Fs.Fat16
import Gramado.Lib.Links

namespace Gramado.Fs.FatTable

open Gramado.Ke
open Gramado.Fs.Fat16
open Gramado.Lib.Fallible
open Gramado.Lib.Links
open Gramado.Lib.LittleEndian
open Gramado.Lib.Memory

/-- The disk that the caches are read from and the root directory is saved to. -/
def bootDisk (s : System) : Int → UInt8 :=
  if s.controllerType = .ahci then s.ahciDisk else s.ideDisk

/-- The table was loaded, and the root directory in memory is that of the disk. -/
structure Mounted (s : System) : Prop where
  loaded : s.fatCacheLoaded = true
  cached : slice (bootDisk s) (SECTOR_SIZE * VOLUME1_ROOTDIR_LBA) (SECTOR_SIZE * 32) =
    slice s.mem VOLUME1_ROOTDIR_ADDRESS (SECTOR_SIZE * 32)

/-- The address is in the 64 K words that a cluster number can reach. -/
def OnTable (address : Int) : Prop :=
  0x30000 ≤ address ∧ address < 0x50000

section Frames

variable {s t : System} {c v : UInt16} {address : Nat} {bytes : List UInt8}

theorem fat_congr (same : ∀ k, OnTable k → t.mem k = s.mem k) : t.fat = s.fat := by
  funext c
  apply shortAt_congr
  intro k low high
  have small := c.toNat_lt
  have base : VOLUME1_FAT_ADDRESS = 0x30000 := rfl
  apply same
  constructor <;> omega

theorem fat_setFat : (s.setFat c v).fat = setLink s.fat c v := by
  funext e
  by_cases same : e = c
  · subst same
    simp [System.fat, System.setFat, setLink]
  · rw [setLink_of_ne same]
    apply shortAt_congr
    intro k low high
    have other : e.toNat ≠ c.toNat := fun equal => same (UInt16.toNat_inj.mp equal)
    exact setShort_apart (by omega)

theorem setFat_mem {k : Int} (off : ¬OnTable k) : (s.setFat c v).mem k = s.mem k := by
  apply setShort_apart
  have small := c.toNat_lt
  have base : VOLUME1_FAT_ADDRESS = 0x30000 := rfl
  rw [OnTable] at off
  omega

theorem fat_storeMem (off : ∀ k : Int, address ≤ k → k < address + bytes.length → ¬OnTable k) :
    (s.storeMem address bytes).fat = s.fat := by
  apply fat_congr
  intro k on
  by_cases before : k < address
  · exact store_before before
  · exact store_behind (by
      by_contra inside
      exact off k (by omega) (by omega) on)

theorem sectorOf_store {disk : Int → UInt8} {lba : Nat}
    (whole : bytes.length = SECTOR_SIZE) :
    sectorOf (store disk (SECTOR_SIZE * lba) bytes) lba = bytes := by
  rw [sectorOf, ← whole]
  exact slice_store

theorem sectorOf_store_ne {disk : Int → UInt8} {bytes : List UInt8} {l lba : Nat}
    (whole : bytes.length = SECTOR_SIZE) (other : l ≠ lba) :
    sectorOf (store disk (SECTOR_SIZE * lba) bytes) l = sectorOf disk l := by
  have size : SECTOR_SIZE = 512 := rfl
  apply slice_congr
  intro k low high
  rw [size] at whole low high ⊢
  rcases Nat.lt_or_gt_of_ne other with before | behind
  · exact store_before (by omega)
  · exact store_behind (by omega)

theorem storeMem_same (same : store s.mem address bytes = s.mem) :
    s.storeMem address bytes = s := by
  unfold System.storeMem
  rw [same]

end Frames

section Transfers

variable {s t : System} {address lba n : Nat}

theorem readSector_ok : Returns (readSector s address lba) fun t =>
    t = s.storeMem address (sectorOf (bootDisk s) lba) := by
  rw [readSector, bootDisk]
  by_cases ahci : s.controllerType = .ahci
  · rw [if_pos ahci, if_pos ahci]
    exact returns_ok.mpr rfl
  · rw [if_neg ahci, if_neg ahci, ataReadSector, returns_bind]
    exact fun _ _ => returns_ok.mpr rfl

theorem loadSequentialSectors_same
    (same : slice (bootDisk s) (SECTOR_SIZE * lba) (SECTOR_SIZE * n) =
      slice s.mem address (SECTOR_SIZE * n)) :
    Returns (loadSequentialSectors s address lba n) fun t => t = s := by
  induction n with
  | zero => exact returns_ok.mpr rfl
  | succ n ih =>
      rw [Nat.mul_succ, slice_add, slice_add] at same
      rcases List.append_inj same (by simp) with ⟨early, last⟩
      rw [loadSequentialSectors]
      refine returns_of_bind (ih early) ?_
      rintro t rfl
      refine readSector_ok.mono ?_
      rintro u rfl
      have sector : sectorOf (bootDisk t) (lba + n) =
          slice t.mem ((address + SECTOR_SIZE * n : Nat) : Int) SECTOR_SIZE := by
        have place : (SECTOR_SIZE : Int) * ((lba + n : Nat) : Int) =
            SECTOR_SIZE * lba + ((SECTOR_SIZE * n : Nat) : Int) := by
          push_cast
          rw [Int.mul_add]
        rw [sectorOf, place, last]
        push_cast
        rfl
      apply storeMem_same
      rw [sector]
      apply store_same
      rw [length_slice]

theorem readSector_returns (limit : s.controllerType ≠ .ahci →
    lba < s.numberOfSectorsInBootDisk) :
    readSector s address lba = .ok (s.storeMem address (sectorOf (bootDisk s) lba)) := by
  by_cases ahci : s.controllerType = .ahci
  · rw [readSector, if_pos ahci, bootDisk, if_pos ahci, ahciReadSector]
  · have inside := limit ahci
    have some : s.numberOfSectorsInBootDisk ≠ 0 := by omega
    have low : ¬lba ≥ s.numberOfSectorsInBootDisk := Nat.not_le.mpr inside
    rw [readSector, if_neg ahci, bootDisk, if_neg ahci, ataReadSector, ataLimits, if_neg ahci,
      if_neg some, if_neg low]
    rfl

/-- Reading what the memory holds returns where the disk has the sectors. -/
theorem loadSequentialSectors_returns
    (same : slice (bootDisk s) (SECTOR_SIZE * lba) (SECTOR_SIZE * n) =
      slice s.mem address (SECTOR_SIZE * n))
    (limit : s.controllerType ≠ .ahci → lba + n ≤ s.numberOfSectorsInBootDisk) :
    loadSequentialSectors s address lba n = .ok s := by
  induction n with
  | zero => rfl
  | succ n ih =>
      have whole := same
      rw [Nat.mul_succ, slice_add, slice_add] at whole
      have early := ih (List.append_inj whole (by simp)).1 fun ata => by
        have bound := limit ata
        omega
      have here : s.controllerType ≠ .ahci → lba + n < s.numberOfSectorsInBootDisk := by
        intro ata
        have bound := limit ata
        omega
      have step : loadSequentialSectors s address lba (n + 1) =
          .ok (s.storeMem (address + SECTOR_SIZE * n) (sectorOf (bootDisk s) (lba + n))) := by
        rw [loadSequentialSectors, early]
        exact readSector_returns here
      rw [step, loadSequentialSectors_same same _ step]

/-- Memory and disks apart, nothing differs that is looked at here. -/
structure Others (s t : System) : Prop where
  controllerType : t.controllerType = s.controllerType
  fatCacheLoaded : t.fatCacheLoaded = s.fatCacheLoaded
  clustersToSave : t.clustersToSave = s.clustersToSave
  sectors : t.numberOfSectorsInBootDisk = s.numberOfSectorsInBootDisk
  root : t.root = s.root
  backbufferVa : t.backbufferVa = s.backbufferVa

theorem Others.refl (s : System) : Others s s :=
  ⟨rfl, rfl, rfl, rfl, rfl, rfl⟩

theorem Others.trans {u : System} (first : Others s t) (second : Others t u) : Others s u where
  controllerType := second.controllerType.trans first.controllerType
  fatCacheLoaded := second.fatCacheLoaded.trans first.fatCacheLoaded
  clustersToSave := second.clustersToSave.trans first.clustersToSave
  sectors := second.sectors.trans first.sectors
  root := second.root.trans first.root
  backbufferVa := second.backbufferVa.trans first.backbufferVa

theorem storeMem_others (bytes : List UInt8) : Others s (s.storeMem address bytes) :=
  ⟨rfl, rfl, rfl, rfl, rfl, rfl⟩

theorem fsFat16CacheNotSaved_others : Others s (fsFat16CacheNotSaved s) :=
  ⟨rfl, rfl, rfl, rfl, rfl, rfl⟩

structure DisksOnly (s t : System) : Prop extends Others s t where
  mem : t.mem = s.mem

theorem DisksOnly.refl (s : System) : DisksOnly s s :=
  ⟨Others.refl s, rfl⟩

theorem DisksOnly.trans {u : System} (first : DisksOnly s t) (second : DisksOnly t u) :
    DisksOnly s u :=
  ⟨first.toOthers.trans second.toOthers, second.mem.trans first.mem⟩

theorem storeIde_disksOnly (bytes : List UInt8) : DisksOnly s (s.storeIde lba bytes) :=
  ⟨⟨rfl, rfl, rfl, rfl, rfl, rfl⟩, rfl⟩

theorem storeAhci_disksOnly (bytes : List UInt8) : DisksOnly s (s.storeAhci lba bytes) :=
  ⟨⟨rfl, rfl, rfl, rfl, rfl, rfl⟩, rfl⟩

theorem bootDisk_storeIde (ata : s.controllerType ≠ .ahci) (bytes : List UInt8) :
    bootDisk (s.storeIde lba bytes) = store (bootDisk s) (SECTOR_SIZE * lba) bytes := by
  have same : (s.storeIde lba bytes).controllerType = s.controllerType := rfl
  rw [bootDisk, same, if_neg ata, bootDisk, if_neg ata]
  rfl

theorem bootDisk_storeAhci (ahci : s.controllerType = .ahci) (bytes : List UInt8) :
    bootDisk (s.storeAhci lba bytes) = store (bootDisk s) (SECTOR_SIZE * lba) bytes := by
  have same : (s.storeAhci lba bytes).controllerType = s.controllerType := rfl
  rw [bootDisk, same, if_pos ahci, bootDisk, if_pos ahci]
  rfl

theorem writeSector_ok : Returns (writeSector s address lba) fun t => DisksOnly s t ∧
    bootDisk t = store (bootDisk s) (SECTOR_SIZE * lba) (slice s.mem address SECTOR_SIZE) := by
  rw [writeSector]
  by_cases ahci : s.controllerType = .ahci
  · rw [if_pos ahci, returns_ok, ahciWriteSector]
    exact ⟨storeAhci_disksOnly _, bootDisk_storeAhci ahci _⟩
  · rw [if_neg ahci, ataWriteSector, returns_bind]
    intro _ _
    rw [returns_ok]
    exact ⟨storeIde_disksOnly _, bootDisk_storeIde ahci _⟩

theorem ataLimits_ok {noSize limits : String} : Returns (ataLimits s noSize limits lba) fun _ =>
    s.controllerType ≠ .ahci → lba < s.numberOfSectorsInBootDisk := by
  simp only [ataLimits, returns_ite, returns_ok, returns_error, implies_true, true_and]
  constructor
  · exact fun ahci ata => absurd ahci ata
  · exact fun _ _ low _ => Nat.not_le.mp low

/-- What loading sectors leaves: the range is that of the disk, the rest as it was. -/
structure Loaded (s : System) (address lba n : Nat) (t : System) : Prop extends Others s t where
  ideDisk : t.ideDisk = s.ideDisk
  ahciDisk : t.ahciDisk = s.ahciDisk
  read : slice t.mem address (SECTOR_SIZE * n) =
    slice (bootDisk s) (SECTOR_SIZE * lba) (SECTOR_SIZE * n)
  rest : ∀ k : Int, k < address ∨ address + (SECTOR_SIZE * n : Nat) ≤ k → t.mem k = s.mem k
  limit : s.controllerType ≠ .ahci → 0 < n → lba + n ≤ s.numberOfSectorsInBootDisk

theorem bootDisk_congr (controllerType : t.controllerType = s.controllerType)
    (ideDisk : t.ideDisk = s.ideDisk) (ahciDisk : t.ahciDisk = s.ahciDisk) :
    bootDisk t = bootDisk s := by
  rw [bootDisk, controllerType, ideDisk, ahciDisk, bootDisk]

theorem readSector_limit : Returns (readSector s address lba) fun _ =>
    s.controllerType ≠ .ahci → lba < s.numberOfSectorsInBootDisk := by
  rw [readSector]
  by_cases ahci : s.controllerType = .ahci
  · rw [if_pos ahci, returns_ok]
    exact fun ata => absurd ahci ata
  · rw [if_neg ahci, ataReadSector]
    refine returns_of_bind ataLimits_ok ?_
    exact fun _ limit => returns_ok.mpr limit

theorem loadSequentialSectors_ok :
    Returns (loadSequentialSectors s address lba n) (Loaded s address lba n) := by
  induction n with
  | zero =>
      exact returns_ok.mpr ⟨Others.refl s, rfl, rfl, by simp, fun _ _ => rfl,
        fun _ some => absurd some (Nat.lt_irrefl 0)⟩
  | succ n ih =>
      rw [loadSequentialSectors]
      refine returns_of_bind ih ?_
      intro t early u served
      have limit := readSector_limit u served
      have disk := bootDisk_congr early.controllerType early.ideDisk early.ahciDisk
      have wrote := readSector_ok u served
      have place : (SECTOR_SIZE : Int) * ((lba + n : Nat) : Int) =
          SECTOR_SIZE * lba + ((SECTOR_SIZE * n : Nat) : Int) := by
        push_cast
        rw [Int.mul_add]
      have whole : (sectorOf (bootDisk t) (lba + n)).length = SECTOR_SIZE := length_slice
      have behind : ((address + SECTOR_SIZE * n : Nat) : Int) =
          address + ((SECTOR_SIZE * n : Nat) : Int) := by
        push_cast
        rfl
      have size : SECTOR_SIZE = 512 := rfl
      subst wrote
      refine ⟨early.toOthers.trans (storeMem_others _), ?_, ?_, ?_, ?_, ?_⟩
      · rw [storeMem_ideDisk, early.ideDisk]
      · rw [storeMem_ahciDisk, early.ahciDisk]
      · have both := @slice_store_behind _ t.mem address (SECTOR_SIZE * n)
          (sectorOf (bootDisk t) (lba + n)) _ behind
        rw [whole, early.read] at both
        rw [storeMem_mem, Nat.mul_succ, both, disk, sectorOf, place, slice_add]
      · intro k outside
        rw [Nat.mul_succ] at outside
        rw [storeMem_mem, ← early.rest k (by omega)]
        rcases outside with before | later
        · exact store_before (by omega)
        · exact store_behind (by rw [whole]; omega)
      · intro ata _
        have inside := limit (by rw [early.controllerType]; exact ata)
        rw [early.sectors] at inside
        omega

/-- The table is loaded if it was not, and memory off it stays. -/
structure TableLoaded (s t : System) : Prop where
  loaded : t.fatCacheLoaded = true
  root : t.root = s.root
  controllerType : t.controllerType = s.controllerType
  sectors : t.numberOfSectorsInBootDisk = s.numberOfSectorsInBootDisk
  backbufferVa : t.backbufferVa = s.backbufferVa
  ideDisk : t.ideDisk = s.ideDisk
  ahciDisk : t.ahciDisk = s.ahciDisk
  mem : ∀ k : Int, ¬OnTable k → t.mem k = s.mem k

theorem fsLoadFat_ok : Returns (fsLoadFat s) (TableLoaded s) := by
  rw [fsLoadFat]
  by_cases loaded : s.fatCacheLoaded = true
  · rw [if_pos loaded, returns_ok]
    exact ⟨loaded, rfl, rfl, rfl, rfl, rfl, rfl, fun _ _ => rfl⟩
  · rw [if_neg loaded]
    refine returns_of_bind loadSequentialSectors_ok ?_
    intro t read
    rw [returns_ok]
    refine ⟨rfl, read.root, read.controllerType, read.sectors, read.backbufferVa, read.ideDisk,
      read.ahciDisk, ?_⟩
    intro k off
    apply read.rest
    have start : VOLUME1_FAT_ADDRESS = 0x30000 := rfl
    have size : SECTOR_SIZE * VOLUME1_FAT_SIZE = 125952 := rfl
    rw [OnTable] at off
    rw [start, size]
    omega

theorem doSaveSequence_ok : Returns (doSaveSequence s address lba n) fun t => DisksOnly s t ∧
    slice (bootDisk t) (SECTOR_SIZE * lba) (SECTOR_SIZE * n) =
      slice s.mem address (SECTOR_SIZE * n) := by
  induction n with
  | zero => exact returns_ok.mpr ⟨DisksOnly.refl s, rfl⟩
  | succ n ih =>
      rw [doSaveSequence]
      refine returns_of_bind ih ?_
      rintro t ⟨others, early⟩
      refine writeSector_ok.mono ?_
      rintro u ⟨more, disk⟩
      refine ⟨others.trans more, ?_⟩
      have place : (SECTOR_SIZE : Int) * ((lba + n : Nat) : Int) =
          SECTOR_SIZE * lba + ((SECTOR_SIZE * n : Nat) : Int) := by
        push_cast
        rw [Int.mul_add]
      have length : (slice t.mem ((address + SECTOR_SIZE * n : Nat) : Int) SECTOR_SIZE).length =
          SECTOR_SIZE := length_slice
      have both : slice (store (bootDisk t) (SECTOR_SIZE * ((lba + n : Nat) : Int))
          (slice t.mem ((address + SECTOR_SIZE * n : Nat) : Int) SECTOR_SIZE)) (SECTOR_SIZE * lba)
            (SECTOR_SIZE * n + (slice t.mem ((address + SECTOR_SIZE * n : Nat) : Int)
              SECTOR_SIZE).length) = _ := slice_store_behind place
      rw [length, early, others.mem] at both
      rw [disk, Nat.mul_succ, others.mem, both, slice_add]
      push_cast
      rfl

theorem doSaveSequence_behind {l : Nat} (behind : lba + n ≤ l) :
    Returns (doSaveSequence s address lba n) fun t =>
      sectorOf t.ideDisk l = sectorOf s.ideDisk l := by
  induction n with
  | zero => exact returns_ok.mpr rfl
  | succ n ih =>
      rw [doSaveSequence]
      refine returns_of_bind (ih (by omega)) ?_
      intro t early
      have other : l ≠ lba + n := by omega
      rw [writeSector]
      by_cases ahci : t.controllerType = .ahci
      · rw [if_pos ahci, returns_ok, ahciWriteSector, storeAhci_ideDisk]
        exact early
      · rw [if_neg ahci, ataWriteSector, returns_bind]
        intro _ _
        rw [returns_ok, storeIde_ideDisk, sectorOf_store_ne length_slice other, early]

variable {args : SaveArguments}

theorem fsLoadRootdir_mounted (mounted : Mounted s) :
    Returns (fsLoadRootdir s) fun t => t = s :=
  loadSequentialSectors_same mounted.cached

theorem fsLoadFat_mounted (mounted : Mounted s) : Returns (fsLoadFat s) fun t => t = s := by
  rw [fsLoadFat, if_pos mounted.loaded]
  exact returns_ok.mpr rfl

end Transfers

section Clusters

variable {s t : System} {c : UInt16} {cells rest : List UInt16}

/-- The list has the clusters from place `i` on, and the end of list behind. -/
def Listed (list : Int → UInt16) : Int → List UInt16 → Prop
  | i, [] => list i = 0xFFF8
  | i, c :: rest => list i = c ∧ Listed list (i + 1) rest

theorem Listed.head {list : Int → UInt16} {i : Int} (listed : Listed list i cells) :
    list i = cells.headD 0xFFF8 := by
  cases cells with
  | nil => exact listed
  | cons c rest => exact listed.1

@[simp] theorem setCluster_clustersToSave (j : Nat) (k : Int) :
    (s.setCluster j c).clustersToSave k = if k = j then c else s.clustersToSave k := rfl

/-- The state with another list of clusters. -/
def withList (s : System) (list : Int → UInt16) : System :=
  { s with clustersToSave := list }

/-- What the search for free clusters leaves: the list from `j` on is new. -/
structure Relisted (s : System) (j : Nat) (t : System) : Prop where
  others : t = withList s t.clustersToSave
  before : ∀ k : Int, k < j → t.clustersToSave k = s.clustersToSave k

theorem Relisted.refl (j : Nat) : Relisted s j s :=
  ⟨rfl, fun _ _ => rfl⟩

theorem Relisted.of_setCluster {j : Nat} (later : Relisted (s.setCluster j c) (j + 1) t) :
    Relisted s j t := by
  constructor
  · exact later.others
  · intro k before
    rw [later.before k (by omega)]
    have other : k ≠ j := by omega
    simp [other]

theorem searchEmptyEntries_relisted (left c j n : Nat) :
    Relisted s j (searchEmptyEntries left c j n s).2 := by
  induction left generalizing c j n s with
  | zero => exact Relisted.refl j
  | succ left ih =>
      unfold searchEmptyEntries
      split
      · cases n with
        | zero => exact (Relisted.refl (s := s.setCluster j 0xFFF8) (j + 1)).of_setCluster
        | succ n => exact (ih (c + 1) (j + 1) n).of_setCluster
      · exact ih (c + 1) j n

/-- A search that succeeds has listed as many different free clusters as were
    asked for. -/
theorem searchEmptyEntries_found {left c j n : Nat} (bound : c + left ≤ 2 ^ 16)
    (found : (searchEmptyEntries left c j n s).1 = true) :
    ∃ cells, cells.length = n ∧ cells.Nodup ∧
      Listed (searchEmptyEntries left c j n s).2.clustersToSave j cells ∧
      ∀ e ∈ cells, s.fat e = 0 ∧ c ≤ e.toNat ∧ e.toNat < c + left := by
  induction left generalizing c j n s with
  | zero => cases found
  | succ left ih =>
      have small : c < 2 ^ 16 := by omega
      have here : (UInt16.ofNat c).toNat = c := UInt16.toNat_ofNat_of_lt' small
      unfold searchEmptyEntries at found ⊢
      split at found
      · rename_i free
        rw [if_pos free]
        cases n with
        | zero => exact ⟨[], rfl, List.nodup_nil, by simp [Listed], fun _ none => nomatch none⟩
        | succ n =>
            rcases ih (by omega) found with ⟨cells, count, once, listed, fresh⟩
            refine ⟨UInt16.ofNat c :: cells, by simp [count], ?_, ⟨?_, listed⟩, ?_⟩
            · apply List.nodup_cons.mpr
              constructor
              · intro again
                have low := (fresh _ again).2.1
                omega
              · exact once
            · rw [(searchEmptyEntries_relisted left (c + 1) (j + 1) n).before j (by omega)]
              simp
            · intro e member
              rcases List.mem_cons.mp member with rfl | later
              · exact ⟨free, by omega, by omega⟩
              · have valid := fresh e later
                exact ⟨valid.1, by omega, by omega⟩
      · rename_i taken
        rw [if_neg taken]
        rcases ih (by omega) found with ⟨cells, count, once, listed, fresh⟩
        refine ⟨cells, count, once, listed, ?_⟩
        intro e member
        have valid := fresh e member
        exact ⟨valid.1, by omega, by omega⟩

end Clusters

section Chaining

variable {s t : System} {args : SaveArguments} {c v : UInt16} {cells rest : List UInt16}
  {address lba : Nat}

theorem ataWriteSector_ok : Returns (ataWriteSector s address lba) fun t =>
    t = s.storeIde lba (slice s.mem address SECTOR_SIZE) ∧
      (s.controllerType ≠ .ahci → lba < s.numberOfSectorsInBootDisk) := by
  rw [ataWriteSector]
  refine returns_of_bind ataLimits_ok ?_
  exact fun _ limit => returns_ok.mpr ⟨rfl, limit⟩

/-- The clusters are chained in the table; memory off the table is untouched. -/
structure Linked (s : System) (rest : List UInt16) (t : System) : Prop extends Others s t where
  fat : t.fat = link 0xFFF8 s.fat rest
  mem : ∀ k, ¬OnTable k → t.mem k = s.mem k

theorem setFat_others : Others s (s.setFat c v) :=
  ⟨rfl, rfl, rfl, rfl, rfl, rfl⟩

theorem saveClusters_step {i left : Nat} {fileAddress : UInt64}
    (listed : Listed s.clustersToSave i (c :: rest)) (unmarked : c ≠ 0xFFF8) :
    saveClusters (left + 1) i fileAddress s =
      (ataWriteSector (s.setFat c (rest.headD 0xFFF8)) fileAddress.toNat
        (VOLUME1_DATAAREA_LBA + c.toNat - 2) >>= fun t =>
          saveClusters left (i + 1) (fileAddress + 512) t) := by
  have head : s.clustersToSave i = c := listed.1
  have next : s.clustersToSave (i + 1) = rest.headD 0xFFF8 := listed.2.head
  rw [saveClusters]
  simp only [head, next, if_neg unmarked]

/-- The last pass writes the end mark that the last link has already. -/
theorem saveClusters_last {i left : Nat} {fileAddress : UInt64}
    (listed : Listed s.clustersToSave i []) :
    saveClusters (left + 1) i fileAddress s =
      .ok (true, s.setFat (s.clustersToSave (i - 1)) 0xFFF8) := by
  have head : s.clustersToSave i = 0xFFF8 := listed
  rw [saveClusters]
  simp only [head, if_true]

theorem saveClusters_ok {i left : Nat} {fileAddress : UInt64}
    (listed : Listed s.clustersToSave i rest) (unmarked : ∀ c ∈ rest, c ≠ 0xFFF8)
    (last : rest = [] → s.fat (s.clustersToSave (i - 1)) = 0xFFF8) (room : rest.length < left) :
    Returns (saveClusters left i fileAddress s) fun out =>
      out.1 = true ∧ Linked s rest out.2 := by
  induction rest generalizing s i left fileAddress with
  | nil =>
      cases left with
      | zero => cases room
      | succ left =>
          rw [saveClusters_last listed, returns_ok]
          refine ⟨rfl, setFat_others, ?_, fun k off => setFat_mem off⟩
          funext e
          rw [fat_setFat, setLink]
          split
          · rename_i here
            rw [here]
            exact (last rfl).symm
          · rfl
  | cons c rest ih =>
      cases left with
      | zero => cases room
      | succ left =>
          rw [saveClusters_step listed (unmarked c (List.mem_cons_self ..))]
          refine returns_of_bind ataWriteSector_ok ?_
          rintro t ⟨rfl, -⟩
          have wrote : DisksOnly (s.setFat c (rest.headD 0xFFF8))
              ((s.setFat c (rest.headD 0xFFF8)).storeIde (VOLUME1_DATAAREA_LBA + c.toNat - 2)
                (slice (s.setFat c (rest.headD 0xFFF8)).mem fileAddress.toNat SECTOR_SIZE)) :=
            storeIde_disksOnly _
          have fat := fat_congr (s := s.setFat c (rest.headD 0xFFF8))
            fun k _ => congrFun wrote.mem k
          have list :=
            wrote.clustersToSave.trans (setFat_others (v := rest.headD 0xFFF8)).clustersToSave
          have later := @ih (System.storeIde _ _ _) (i + 1) left (fileAddress + 512)
            (by rw [list]; exact_mod_cast listed.2)
            (fun d member => unmarked d (List.mem_cons_of_mem _ member))
            (by
              rintro rfl
              have place : ((i + 1 : Nat) : Int) - 1 = i := by omega
              rw [fat, list, place, listed.1, fat_setFat]
              simp [setLink])
            (by simpa using room)
          refine later.mono ?_
          rintro ⟨done, u⟩ ⟨finished, linked⟩
          refine ⟨finished, ?_, ?_, ?_⟩
          · exact (setFat_others.trans wrote.toOthers).trans linked.toOthers
          · rw [linked.fat, fat, fat_setFat]
            rfl
          · intro k off
            rw [linked.mem k off, congrFun wrote.mem k, setFat_mem off]

/-- The sector of a cluster in the data area. -/
def dataLba (c : UInt16) : Nat :=
  VOLUME1_DATAAREA_LBA + c.toNat - 2

theorem dataLba_inj {c d : UInt16} (same : dataLba c = dataLba d) : c = d := by
  have area : VOLUME1_DATAAREA_LBA = 591 := rfl
  rw [dataLba, dataLba, area] at same
  exact UInt16.toNat_inj.mp (by omega)

/-- The sector of the cluster is one that the disk has. -/
def OnDisk (s : System) (c : UInt16) : Prop :=
  s.controllerType ≠ .ahci → dataLba c < s.numberOfSectorsInBootDisk

theorem onDisk_of_others (others : Others s t) (there : OnDisk t c) : OnDisk s c := by
  rwa [OnDisk, others.controllerType, others.sectors] at there

/-- The file's sectors, from the one after `k` others on, are on the disk in the
    sectors of the clusters. -/
def Written (s : System) (disk mem : Int → UInt8) (address : UInt64) :
    Nat → List UInt16 → Prop
  | _, [] => True
  | k, c :: rest =>
      OnDisk s c ∧
        sectorOf disk (dataLba c) = slice mem (addressAt address k).toNat SECTOR_SIZE ∧
        Written s disk mem address (k + 1) rest

/-- The file's sectors from `i` up to `n` are off the table. -/
def SectorsOff (address : UInt64) (i n : Nat) : Prop :=
  ∀ k, i ≤ k → k < n → ∀ j : Int, (addressAt address k).toNat ≤ j →
    j < (addressAt address k).toNat + SECTOR_SIZE → ¬OnTable j

theorem written_congr {disk mem other : Int → UInt8} {address : UInt64} {i : Nat}
    (there : ∀ c, OnDisk t c → OnDisk s c) (same : ∀ k, i ≤ k → k < i + rest.length →
      slice other (addressAt address k).toNat SECTOR_SIZE =
        slice mem (addressAt address k).toNat SECTOR_SIZE)
    (written : Written t disk other address i rest) : Written s disk mem address i rest := by
  induction rest generalizing i with
  | nil => trivial
  | cons c rest ih =>
      rcases written with ⟨limit, here, later⟩
      refine ⟨there c limit, ?_, ?_⟩
      · rw [here, same i (Nat.le_refl i) (by simp)]
      · apply ih _ later
        intro k low high
        apply same k (by omega)
        simp only [List.length_cons]
        omega

theorem written_disk {disk other mem : Int → UInt8} {address : UInt64} {i : Nat}
    (same : ∀ c ∈ rest, sectorOf other (dataLba c) = sectorOf disk (dataLba c))
    (written : Written s disk mem address i rest) : Written s other mem address i rest := by
  induction rest generalizing i with
  | nil => trivial
  | cons c rest ih =>
      rcases written with ⟨limit, here, later⟩
      refine ⟨limit, (same c (List.mem_cons_self ..)).trans here, ?_⟩
      exact ih (fun d member => same d (List.mem_cons_of_mem _ member)) later

theorem saveClusters_written {i left : Nat} {fileAddress : UInt64}
    (listed : Listed s.clustersToSave i rest) (unmarked : ∀ c ∈ rest, c ≠ 0xFFF8)
    (once : rest.Nodup) (room : rest.length < left)
    (off : SectorsOff fileAddress i (i + rest.length)) :
    Returns (saveClusters left i (addressAt fileAddress i) s) fun out =>
      Written s out.2.ideDisk s.mem fileAddress i rest ∧
        ∀ l, (∀ c ∈ rest, l ≠ dataLba c) → sectorOf out.2.ideDisk l = sectorOf s.ideDisk l := by
  induction rest generalizing s i left with
  | nil =>
      cases left with
      | zero => cases room
      | succ left =>
          rw [saveClusters_last listed, returns_ok]
          exact ⟨trivial, fun _ _ => rfl⟩
  | cons c rest ih =>
      cases left with
      | zero => cases room
      | succ left =>
          -- One cluster: its table entry goes to memory, its sector to the disk.
          rcases List.nodup_cons.mp once with ⟨new, later⟩
          rw [saveClusters_step listed (unmarked c (List.mem_cons_self ..))]
          refine returns_of_bind ataWriteSector_ok ?_
          rintro t ⟨rfl, limit⟩
          have wrote : DisksOnly (s.setFat c (rest.headD 0xFFF8))
              ((s.setFat c (rest.headD 0xFFF8)).storeIde (VOLUME1_DATAAREA_LBA + c.toNat - 2)
                (slice (s.setFat c (rest.headD 0xFFF8)).mem (addressAt fileAddress i).toNat
                  SECTOR_SIZE)) :=
            storeIde_disksOnly _
          have others := (setFat_others (s := s) (c := c) (v := rest.headD 0xFFF8)).trans
            wrote.toOthers
          -- The table lies off the sectors that are still to be read.
          have same : ∀ k, i ≤ k → k < i + (c :: rest).length →
              slice (s.setFat c (rest.headD 0xFFF8)).mem (addressAt fileAddress k).toNat
                SECTOR_SIZE = slice s.mem (addressAt fileAddress k).toNat SECTOR_SIZE := by
            intro k low high
            apply slice_congr
            intro j start stop
            exact setFat_mem (off k low high j start stop)
          have next : addressAt fileAddress i + 512 = addressAt fileAddress (i + 1) :=
            addressAt_succ fileAddress i
          rw [next]
          refine (@ih (System.storeIde _ _ _) (i + 1) left
            (by rw [others.clustersToSave]; exact_mod_cast listed.2)
            (fun d member => unmarked d (List.mem_cons_of_mem _ member)) later
            (by simpa using room)
            (by
              intro k low high
              apply off k (by omega)
              simp only [List.length_cons]
              omega)).mono ?_
          rintro out ⟨written, kept⟩
          refine ⟨⟨limit, ?_, ?_⟩, ?_⟩
          · -- No later cluster is this one, so its sector stays.
            rw [kept (dataLba c) fun d member equal => new (dataLba_inj equal ▸ member)]
            rw [storeIde_ideDisk, dataLba, sectorOf_store length_slice]
            exact same i (Nat.le_refl i) (by simp)
          · apply written_congr (fun _ => onDisk_of_others others) _ written
            intro k low high
            rw [wrote.mem]
            apply same k (by omega)
            simp only [List.length_cons]
            omega
          · intro l outside
            rw [kept l fun d member => outside d (List.mem_cons_of_mem _ member)]
            rw [storeIde_ideDisk, setFat_ideDisk]
            exact sectorOf_store_ne length_slice (outside c (List.mem_cons_self ..))

end Chaining

section Calls

variable {s t : System} {args : SaveArguments} {cells : List UInt16}

/-- The image of a directory does not lie over the table. -/
def OffTable (dirAddress : UInt64) : Prop :=
  dirAddress.toNat + FAT16_ENTRY_SIZE * FAT16_ROOT_ENTRIES ≤ 0x30000 ∨
    0x50000 ≤ dirAddress.toNat

/-- The save finds what it needs: a name, at most 16 sectors, clusters for them
    and an entry. -/
structure Goes (s : System) (args : SaveArguments) : Prop where
  named : args.fileName.getD 0 0 ≠ 0
  small : args.sizeInSectors ≤ MaxFileSizeInSectors
  clusters : (searchEmptyEntries CLUSTERS_TO_SAVE_MAX 3 0 args.sizeInSectors.toNat s).1 = true
  entry : (findEmptyDirectoryEntry s.mem args.dirAddress args.dirEntries).isSome = true

/-- The call fails, with nothing changed but the list. -/
def Idle (s : System) (out : Int × System) : Prop :=
  out.1 = -1 ∧ ∃ list, out.2 = withList s list

/-- The table after a save. Without a cluster the word before the list says
    which link is written. -/
def savedTable (s : System) (cells : List UInt16) : UInt16 → UInt16 :=
  if cells = [] then
    setLink s.fat (s.clustersToSave (-1)) 0xFFF8
  else
    link 0xFFF8 s.fat cells

/-- The entry that is saved for the clusters. -/
def savedEntry (args : SaveArguments) (cells : List UInt16) : List UInt8 :=
  directoryEntry args.fileName args.flag (cells.headD 0xFFF8) args.sizeInBytes

/-- The file's sectors are neither in the table nor in the directory. -/
structure FileOff (args : SaveArguments) : Prop where
  table : SectorsOff args.fileAddress 0 args.sizeInSectors.toNat
  directory : ∀ k, k < args.sizeInSectors.toNat →
    (addressAt args.fileAddress k).toNat + SECTOR_SIZE ≤ args.dirAddress.toNat ∨
      args.dirAddress.toNat + FAT16_ENTRY_SIZE * FAT16_ROOT_ENTRIES ≤
        (addressAt args.fileAddress k).toNat

/-- The save took the entry and these clusters. -/
structure Saved (s : System) (args : SaveArguments) (i : Nat) (cells : List UInt16)
    (out : Int × System) : Prop where
  value : out.1 = 0
  entry : findEmptyDirectoryEntry s.mem args.dirAddress args.dirEntries = some i
  count : cells.length = args.sizeInSectors.toNat
  once : cells.Nodup
  fresh : ∀ e ∈ cells, s.fat e = 0 ∧ 3 ≤ e.toNat ∧ e.toNat < 3 + CLUSTERS_TO_SAVE_MAX
  fat : out.2.fat = savedTable s cells
  mem : ∀ k, ¬OnTable k → out.2.mem k =
    store s.mem (entryAddress args.dirAddress i) (savedEntry args cells) k
  mounted : Mounted out.2
  written : FileOff args → Written s out.2.ideDisk s.mem args.fileAddress 0 cells

@[simp] theorem length_directoryEntry (fileName : List UInt8) (flag : UInt8) (first : UInt16)
    (size : UInt64) : (directoryEntry fileName flag first size).length = FAT16_ENTRY_SIZE := by
  have entry : FAT16_ENTRY_SIZE = 32 := rfl
  by_cases directory : flag = 0x10 <;> simp [directoryEntry, directory, entry]

theorem directoryEntry_cluster (fileName : List UInt8) (flag : UInt8) (first : UInt16)
    (size : UInt64) : ((directoryEntry fileName flag first size).drop 26).take 2 =
      bytesOf 2 first.toNat := by
  unfold directoryEntry
  split <;> rfl

theorem findEmptyDirectoryEntry_some {mem : Int → UInt8} {dirAddress : UInt64} {n : Int32}
    {i : Nat} (found : findEmptyDirectoryEntry mem dirAddress n = some i) :
    dirAddress ≠ 0 ∧ i < n.toNatClampNeg ∧ mem (entryAddress dirAddress i) = 0 := by
  unfold findEmptyDirectoryEntry at found
  split at found
  · cases found
  · rename_i place
    refine ⟨place, ?_, ?_⟩
    · exact List.mem_range.mp (List.mem_of_find?_eq_some found)
    · simpa using List.find?_some found

/-- The first cluster that an entry names. -/
def firstCluster (mem : Int → UInt8) (address : Int) : UInt16 :=
  shortAt mem (address + 26)

theorem entry_offTable {d : UInt64} (off : OffTable d) {i : Nat} (inside : i < 512) {k : Int}
    (low : entryAddress d i ≤ k) (high : k < entryAddress d i + FAT16_ENTRY_SIZE) :
    ¬OnTable k := by
  have entry : FAT16_ENTRY_SIZE = 32 := rfl
  have entries : FAT16_ROOT_ENTRIES = 512 := rfl
  rw [entryAddress, entry] at low high
  rw [OffTable, entry, entries] at off
  rintro ⟨start, stop⟩
  omega

theorem atadskSaveRootdir_behind : Returns (atadskSaveRootdir s) fun t =>
    ∀ l, VOLUME1_ROOTDIR_LBA + 32 ≤ l → sectorOf t.ideDisk l = sectorOf s.ideDisk l :=
  fun t saved _ behind => doSaveSequence_behind behind t saved

theorem atadskSaveRootdir_ok : Returns (atadskSaveRootdir s) fun t => DisksOnly s t ∧
    slice (bootDisk t) (SECTOR_SIZE * VOLUME1_ROOTDIR_LBA) (SECTOR_SIZE * 32) =
      slice s.mem VOLUME1_ROOTDIR_ADDRESS (SECTOR_SIZE * 32) :=
  doSaveSequence_ok

theorem saveClusters_table {fileAddress : UInt64} (listed : Listed s.clustersToSave 0 cells)
    (unmarked : ∀ c ∈ cells, c ≠ 0xFFF8) (room : cells.length < 17) :
    Returns (saveClusters 17 0 fileAddress s) fun out => out.1 = true ∧ Others s out.2 ∧
      out.2.fat = savedTable s cells ∧ ∀ k, ¬OnTable k → out.2.mem k = s.mem k := by
  cases cells with
  | nil =>
      rw [saveClusters_last listed, returns_ok]
      refine ⟨rfl, setFat_others, fat_setFat, fun k off => setFat_mem off⟩
  | cons c rest =>
      refine (saveClusters_ok listed unmarked (fun none => nomatch none) room).mono ?_
      rintro out ⟨done, linked⟩
      exact ⟨done, linked.toOthers, linked.fat, linked.mem⟩

theorem savedTable_congr (fat : t.fat = s.fat) (list : t.clustersToSave = s.clustersToSave) :
    savedTable t cells = savedTable s cells := by
  rw [savedTable, savedTable, fat, list]

theorem saveFile_ok (mounted : Mounted s) (off : OffTable args.dirAddress) {i : Nat}
    (entry : findEmptyDirectoryEntry s.mem args.dirAddress args.dirEntries = some i)
    (inside : i < 512) (listed : Listed s.clustersToSave 0 cells)
    (unmarked : ∀ c ∈ cells, c ≠ 0xFFF8) (room : cells.length < 17) :
    Returns (saveFile args s) fun out => out.1 = 0 ∧ out.2.fat = savedTable s cells ∧
      (∀ k, ¬OnTable k → out.2.mem k =
        store s.mem (entryAddress args.dirAddress i) (savedEntry args cells) k) ∧
      Mounted out.2 ∧ Others s out.2 := by
  have first : directoryEntry args.fileName args.flag (s.clustersToSave 0) args.sizeInBytes =
      savedEntry args cells := by
    rw [listed.head, savedEntry]
  rw [saveFile, entry]
  simp only [first]
  have fat : (s.storeMem (entryAddress args.dirAddress i) (savedEntry args cells)).fat = s.fat := by
    apply fat_storeMem
    intro k low high
    rw [savedEntry, length_directoryEntry] at high
    exact entry_offTable off inside low high
  refine returns_of_bind (saveClusters_table listed unmarked room) ?_
  rintro ⟨done, u⟩ ⟨finished, others, table, mem⟩
  simp only at finished others table mem
  simp only [finished, if_true]
  refine returns_of_bind atadskSaveRootdir_ok ?_
  rintro v ⟨disks, cached⟩
  rw [returns_ok]
  have whole : Others s v := ((storeMem_others _).trans others).trans disks.toOthers
  refine ⟨rfl, ?_, ?_, ⟨?_, ?_⟩, ?_⟩
  · have same : v.fat = u.fat := fat_congr fun k _ => congrFun disks.mem k
    change v.fat = _
    rw [same, table]
    exact savedTable_congr fat rfl
  · intro k away
    change v.mem k = _
    rw [congrFun disks.mem k, mem k away, storeMem_mem]
  · exact whole.fatCacheLoaded.trans mounted.loaded
  · change slice (bootDisk v) _ _ = slice v.mem _ _
    rw [cached, disks.mem]
  · exact whole.trans fsFat16CacheNotSaved_others

theorem saveFile_written (off : FileOff args) {i : Nat}
    (entry : findEmptyDirectoryEntry s.mem args.dirAddress args.dirEntries = some i)
    (inside : i < 512) (listed : Listed s.clustersToSave 0 cells)
    (count : cells.length = args.sizeInSectors.toNat) (once : cells.Nodup)
    (unmarked : ∀ c ∈ cells, c ≠ 0xFFF8) (data : ∀ c ∈ cells, 3 ≤ c.toNat)
    (room : cells.length < 17) :
    Returns (saveFile args s) fun out =>
      out.1 = 0 → Written s out.2.ideDisk s.mem args.fileAddress 0 cells := by
  have start : args.fileAddress = addressAt args.fileAddress 0 := by
    simp [addressAt]
  rw [saveFile, entry]
  simp only
  rw [start]
  refine returns_of_bind (saveClusters_written (s := s.storeMem _ _) listed unmarked once room
    (by rw [Nat.zero_add, count]; exact off.table)) ?_
  rintro ⟨done, t⟩ ⟨written, -⟩
  cases done with
  | false =>
      simp only [Bool.false_eq_true, if_false, returns_ok]
      intro ok
      cases ok
  | true =>
      simp only [if_true]
      refine returns_of_bind atadskSaveRootdir_behind ?_
      intro u kept
      rw [returns_ok]
      intro _
      rw [← start]
      -- The directory lies before the data area.
      have moved : ∀ c ∈ cells,
          sectorOf u.ideDisk (dataLba c) = sectorOf t.ideDisk (dataLba c) := by
        intro c member
        have low := data c member
        have area : VOLUME1_DATAAREA_LBA = 591 := rfl
        have root : VOLUME1_ROOTDIR_LBA = 559 := rfl
        exact kept (dataLba c) (by rw [dataLba, area, root]; omega)
      apply written_congr (fun _ => onDisk_of_others (storeMem_others _)) _
        (written_disk moved written)
      · intro k _ high
        have length := length_directoryEntry args.fileName args.flag (s.clustersToSave 0)
          args.sizeInBytes
        have size : FAT16_ENTRY_SIZE = 32 := rfl
        have entries : FAT16_ROOT_ENTRIES = 512 := rfl
        have apart := off.directory k (by omega)
        rw [size, entries] at apart
        apply slice_congr
        intro j low stop
        rw [storeMem_mem]
        rcases apart with before | behind
        · exact store_before (by rw [entryAddress, size]; omega)
        · exact store_behind (by rw [length, entryAddress, size]; omega)

theorem withList_mounted (mounted : Mounted s) (list : Int → UInt16) :
    Mounted (withList s list) :=
  ⟨mounted.loaded, mounted.cached⟩

theorem saveFile_saved (mounted : Mounted s) (off : OffTable args.dirAddress)
    (named : args.fileName.getD 0 0 ≠ 0) (small : args.sizeInSectors ≤ MaxFileSizeInSectors)
    (few : args.dirEntries.toInt ≤ 512) {list : Int → UInt16}
    (search : searchEmptyEntries CLUSTERS_TO_SAVE_MAX 3 0 args.sizeInSectors.toNat s =
      (true, withList s list)) :
    Returns (saveFile args (withList s list)) fun out => (¬Goes s args ∧ Idle s out) ∨
      (Goes s args ∧ ∃ i cells, i < 512 ∧ Saved s args i cells out ∧
        Others (withList s list) out.2) := by
  have success : (searchEmptyEntries CLUSTERS_TO_SAVE_MAX 3 0 args.sizeInSectors.toNat s).1 =
      true := by rw [search]
  have found := searchEmptyEntries_found (by decide) success
  have relisted := searchEmptyEntries_relisted (s := s) CLUSTERS_TO_SAVE_MAX 3 0
    args.sizeInSectors.toNat
  rw [search] at found relisted
  rcases found with ⟨cells, count, once, listed, fresh⟩
  cases entry : findEmptyDirectoryEntry s.mem args.dirAddress args.dirEntries with
  | none =>
      have failed : saveFile args (withList s list) = .ok (-1, withList s list) := by
        have same : (withList s list).mem = s.mem := rfl
        rw [saveFile, same, entry]
      rw [failed, returns_ok]
      refine Or.inl ⟨fun goes => ?_, rfl, list, rfl⟩
      have some := goes.entry
      rw [entry] at some
      cases some
  | some i =>
      have inside : i < 512 := by
        have low := (findEmptyDirectoryEntry_some entry).2.1
        rw [← Int32.toNat_toInt] at low
        omega
      have unmarked : ∀ c ∈ cells, c ≠ 0xFFF8 := by
        rintro c member rfl
        exact absurd (fresh _ member).2.2 (by decide)
      have bound : args.sizeInSectors.toNat ≤ 16 := UInt64.le_iff_toNat_le.mp small
      intro out served
      rcases saveFile_ok (withList_mounted mounted list) off entry inside listed unmarked
        (by omega) out served with ⟨value, fat, mem, later, others⟩
      have goes : Goes s args := ⟨named, small, by rw [search], by rw [entry]; rfl⟩
      refine Or.inr ⟨goes, i, cells, inside, ?_, others⟩
      have before : list (-1) = s.clustersToSave (-1) := relisted.before (-1) (by decide)
      refine ⟨value, entry, count, once, fresh, ?_, mem, later, ?_⟩
      · rw [fat, savedTable, savedTable, ← before]
        rfl
      · intro away
        have written := saveFile_written (s := withList s list) away entry inside listed count
          once unmarked (fun c member => (fresh c member).2.1) (by omega) out served value
        exact written_congr (t := withList s list) (fun _ there => there) (fun _ _ _ => rfl) written

theorem fat16SaveFile_cases (mounted : Mounted s) (off : OffTable args.dirAddress) :
    Returns (fat16SaveFile s args) fun out => (¬Goes s args ∧ Idle s out) ∨
      (Goes s args ∧ ∃ i cells list, i < 512 ∧ Saved s args i cells out ∧
        Others (withList s list) out.2) := by
  have idle : Idle s (-1, s) := ⟨rfl, s.clustersToSave, rfl⟩
  simp only [fat16SaveFile, returns_ite, returns_error, returns_ok, implies_true, true_and]
  intro _ _ _
  refine ⟨fun unnamed => Or.inl ⟨fun goes => goes.named unnamed, idle⟩, fun named limits => ?_⟩
  refine ⟨fun large => Or.inl ⟨fun goes => absurd goes.small (UInt64.not_le.mpr large), idle⟩,
    fun small => ?_⟩
  refine returns_of_bind (fsLoadRootdir_mounted mounted) ?_
  rintro t rfl
  refine returns_of_bind (fsLoadFat_mounted mounted) ?_
  rintro u rfl
  have relisted := searchEmptyEntries_relisted (s := u) CLUSTERS_TO_SAVE_MAX 3 0
    args.sizeInSectors.toNat
  generalize search : searchEmptyEntries CLUSTERS_TO_SAVE_MAX 3 0 args.sizeInSectors.toNat u = out
    at relisted
  rcases out with ⟨success, v⟩
  obtain ⟨list, rfl⟩ : ∃ list, v = withList u list := ⟨_, relisted.others⟩
  cases success with
  | false =>
      have none : ¬Goes u args := by
        intro goes
        have clusters := goes.clusters
        rw [search] at clusters
        cases clusters
      exact returns_ok.mpr (Or.inl ⟨none, rfl, list, rfl⟩)
  | true =>
      have few : args.dirEntries.toInt ≤ 512 := by
        by_contra many
        exact limits (Or.inr (Int.not_le.mp many))
      refine (saveFile_saved mounted off named (UInt64.not_lt.mp small) few search).mono ?_
      rintro out (idle | ⟨goes, i, cells, inside, saved, others⟩)
      · exact Or.inl idle
      · exact Or.inr ⟨goes, i, cells, list, inside, saved, others⟩

end Calls

section Entry

variable {s : System} {args : SaveArguments} {cells : List UInt16} {i : Nat} {out : Int × System}

theorem saved_entry (off : OffTable args.dirAddress) (inside : i < FAT16_ROOT_ENTRIES)
    (saved : Saved s args i cells out) :
    slice out.2.mem (entryAddress args.dirAddress i) FAT16_ENTRY_SIZE = savedEntry args cells := by
  have length : (savedEntry args cells).length = FAT16_ENTRY_SIZE := length_directoryEntry ..
  have whole : slice (store s.mem (entryAddress args.dirAddress i) (savedEntry args cells))
      (entryAddress args.dirAddress i) (savedEntry args cells).length = savedEntry args cells :=
    slice_store
  rw [length] at whole
  rw [← whole]
  apply slice_congr
  intro k low high
  exact saved.mem k (entry_offTable off inside low high)

theorem saved_firstCluster (off : OffTable args.dirAddress) (inside : i < FAT16_ROOT_ENTRIES)
    (saved : Saved s args i cells out) :
    firstCluster out.2.mem (entryAddress args.dirAddress i) = cells.headD 0xFFF8 := by
  apply shortAt_eq_of_bytes
  have bytes := saved_entry off inside saved
  have back : (slice out.2.mem (entryAddress args.dirAddress i) FAT16_ENTRY_SIZE).drop 26 =
      slice out.2.mem (entryAddress args.dirAddress i + 26) (FAT16_ENTRY_SIZE - 26) :=
    drop_slice (by decide)
  have front : (slice out.2.mem (entryAddress args.dirAddress i + 26)
      (FAT16_ENTRY_SIZE - 26)).take 2 =
        slice out.2.mem (entryAddress args.dirAddress i + 26) 2 := take_slice (by decide)
  rw [← front, ← back, bytes]
  exact directoryEntry_cluster ..

end Entry

end Gramado.Fs.FatTable
