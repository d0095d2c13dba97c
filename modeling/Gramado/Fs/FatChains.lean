/-
The chains of the files on a volume over any sequence of saves. A save without
a sector writes the end mark to the link that the word before the list names.
-/
import Gramado.Fs.FatTable
import Gramado.Lib.Machine

namespace Gramado.Fs.FatChains

open Gramado.Ke
open Gramado.Fs.Fat16
open Gramado.Fs.FatTable
open Gramado.Lib.Fallible
open Gramado.Lib.Links
open Gramado.Lib.LittleEndian
open Gramado.Lib.Machine
open Gramado.Lib.Memory

/-- How many links the table in memory has: 246 sectors of 256. -/
def tableSize : Nat := VOLUME1_FAT_SIZE * 256

/-- Clusters are counted from 2; `fat16LoadFile` stops at two end marks. -/
def marks : Marks UInt16 where
  cell := fun c => 2 ≤ c.toNat ∧ c.toNat < tableSize
  ends := fun c => c = 0xFFF8 ∨ c = 0xFFFF
  apart := by
    rintro c ⟨-, high⟩ (rfl | rfl)
    · exact absurd high (by decide)
    · exact absurd high (by decide)

/-- The directories whose images are in memory, that of the root among them. -/
structure Directories where
  addresses : List UInt64
  root_mem : UInt64.ofNat VOLUME1_ROOTDIR_ADDRESS ∈ addresses
  offTable : ∀ d ∈ addresses, OffTable d
  apart : ∀ d ∈ addresses, ∀ e ∈ addresses, d ≠ e →
    d.toNat + FAT16_ENTRY_SIZE * FAT16_ROOT_ENTRIES ≤ e.toNat ∨
      e.toNat + FAT16_ENTRY_SIZE * FAT16_ROOT_ENTRIES ≤ d.toNat

/-- An entry that is neither free nor deleted, nor one of `.` and `..`. -/
def Owned (mem : Int → UInt8) (address : Int) : Prop :=
  mem address ≠ 0 ∧ mem address ≠ 0xE5 ∧ mem address ≠ 0x2E

instance (mem : Int → UInt8) (address : Int) : Decidable (Owned mem address) :=
  inferInstanceAs (Decidable (_ ∧ _ ∧ _))

/-- The cluster that the chain of an entry starts at. An empty file names 0 and
    has no chain. -/
def start (dirs : Directories) (mem : Int → UInt8) (entry : UInt64 × Nat) : Option UInt16 :=
  let address := entryAddress entry.1 entry.2
  if entry.1 ∈ dirs.addresses ∧ entry.2 < FAT16_ROOT_ENTRIES ∧ Owned mem address ∧
      firstCluster mem address ≠ 0 then
    some (firstCluster mem address)
  else
    none

/-- The chains of the entries end, do not come back and share no cluster. -/
def Intact (dirs : Directories) (s : System) : Prop :=
  Sound marks s.fat (start dirs s.mem)

/-- A volume with intact chains whose caches are those of the boot disk. -/
structure Volume (dirs : Directories) where
  system : System
  mounted : Mounted system
  intact : Intact dirs system

/-- A save to one of the directories. -/
def Request (dirs : Directories) : Type :=
  { args : SaveArguments // args.dirAddress ∈ dirs.addresses }

def serve {dirs : Directories} (s : System) (request : Request dirs) :
    Except Stop (Int × System) :=
  fat16SaveFile s request.val

structure Keeps {dirs : Directories} (s : System) (request : Request dirs)
    (out : Int × System) : Prop where
  intact : Intact dirs out.2
  saved : out.1 = 0 → ∃ i cells, i < FAT16_ROOT_ENTRIES ∧
    findEmptyDirectoryEntry s.mem request.val.dirAddress request.val.dirEntries = some i ∧
    Chain marks out.2.fat (firstCluster out.2.mem (entryAddress request.val.dirAddress i)) cells ∧
    cells.Nodup ∧ cells.length = request.val.sizeInSectors.toNat
  changed : ∀ c, out.2.fat c ≠ s.fat c → s.fat c = 0 ∧ c.toNat < tableSize

/-- A save without a sector that gets as far as the table, and there finds a
    link in use, or one behind the table, named by the word before the list. -/
structure Strays (s : System) (args : SaveArguments) : Prop where
  empty : args.sizeInSectors = 0
  goes : Goes s args
  unmarked : s.fat (s.clustersToSave (-1)) ≠ 0xFFF8
  used : s.fat (s.clustersToSave (-1)) = 0 → tableSize ≤ (s.clustersToSave (-1)).toNat

section Entries

variable {dirs : Directories} {s t : System} {mem other : Int → UInt8} {address : Int}

theorem owned_congr (same : ∀ k, address ≤ k → k < address + FAT16_ENTRY_SIZE →
    other k = mem k) : Owned other address ↔ Owned mem address := by
  have size : FAT16_ENTRY_SIZE = 32 := rfl
  rw [Owned, Owned, same address (by omega) (by omega)]

theorem firstCluster_congr (same : ∀ k, address ≤ k → k < address + FAT16_ENTRY_SIZE →
    other k = mem k) : firstCluster other address = firstCluster mem address := by
  have size : FAT16_ENTRY_SIZE = 32 := rfl
  apply shortAt_congr
  intro k low high
  exact same k (by omega) (by omega)

theorem start_congr {entry : UInt64 × Nat} (same : entry.1 ∈ dirs.addresses →
    entry.2 < FAT16_ROOT_ENTRIES → ∀ k : Int, entryAddress entry.1 entry.2 ≤ k →
      k < entryAddress entry.1 entry.2 + FAT16_ENTRY_SIZE → other k = mem k) :
    start dirs other entry = start dirs mem entry := by
  by_cases listed : entry.1 ∈ dirs.addresses ∧ entry.2 < FAT16_ROOT_ENTRIES
  · have equal := same listed.1 listed.2
    simp only [start, owned_congr equal, firstCluster_congr equal]
  · have outside : ∀ m : Int → UInt8, start dirs m entry = none := by
      intro m
      simp only [start]
      rw [if_neg]
      rintro ⟨member, inside, -⟩
      exact listed ⟨member, inside⟩
    rw [outside, outside]

theorem entries_apart {d e : UInt64} {i j : Nat} (left : d ∈ dirs.addresses)
    (right : e ∈ dirs.addresses) (first : i < FAT16_ROOT_ENTRIES)
    (second : j < FAT16_ROOT_ENTRIES) (different : (d, i) ≠ (e, j)) :
    entryAddress d i + FAT16_ENTRY_SIZE ≤ entryAddress e j ∨
      entryAddress e j + FAT16_ENTRY_SIZE ≤ entryAddress d i := by
  have size : FAT16_ENTRY_SIZE = 32 := rfl
  have entries : FAT16_ROOT_ENTRIES = 512 := rfl
  rw [entries] at first second
  simp only [entryAddress, size]
  by_cases same : d = e
  · subst same
    have place : i ≠ j := fun equal => different (by rw [equal])
    omega
  · have images := dirs.apart d left e right same
    rw [size, entries] at images
    omega

end Entries

section Steps

variable {dirs : Directories} {s : System} {args : SaveArguments} {cells : List UInt16} {i : Nat}
  {out : Int × System}

theorem saved_others (member : args.dirAddress ∈ dirs.addresses)
    (inside : i < FAT16_ROOT_ENTRIES) (saved : Saved s args i cells out)
    {entry : UInt64 × Nat} (different : entry ≠ (args.dirAddress, i)) :
    start dirs out.2.mem entry = start dirs s.mem entry := by
  apply start_congr
  intro listed few k low high
  have off := entry_offTable (dirs.offTable _ listed) few low high
  rw [saved.mem k off]
  have sides := entries_apart listed member few inside different
  have length : (savedEntry args cells).length = FAT16_ENTRY_SIZE := length_directoryEntry ..
  rcases sides with before | behind
  · exact store_before (by omega)
  · exact store_behind (by rw [length]; omega)

theorem chain_used {next : UInt16 → UInt16} {c d : UInt16} (chain : Chain marks next c cells)
    (member : d ∈ cells) : next d ≠ 0 := by
  intro free
  rcases chain_link chain member with cell | mark
  · rw [free] at cell
    exact absurd cell.1 (by decide)
  · rw [free] at mark
    rcases mark with mark | mark <;> exact absurd mark (by decide)

theorem savedTable_changed (saved : Saved s args i cells out) (goes : Goes s args)
    (tidy : ¬Strays s args) (c : UInt16) (differs : savedTable s cells c ≠ s.fat c) :
    s.fat c = 0 ∧ c.toNat < tableSize := by
  by_cases empty : cells = []
  · have none : args.sizeInSectors = 0 := by
      apply UInt64.toNat_inj.mp
      rw [← saved.count, empty]
      rfl
    rw [savedTable, if_pos empty] at differs
    have here : c = s.clustersToSave (-1) := by
      by_contra other
      exact differs (setLink_of_ne other)
    subst here
    have unmarked : s.fat (s.clustersToSave (-1)) ≠ 0xFFF8 := by
      intro mark
      apply differs
      rw [setLink, if_pos rfl, mark]
    by_contra used
    rw [not_and, Nat.not_lt] at used
    exact tidy ⟨none, goes, unmarked, used⟩
  · rw [savedTable, if_neg empty] at differs
    have member : c ∈ cells := by
      by_contra outside
      exact differs (link_of_notMem outside)
    have fresh := saved.fresh c member
    refine ⟨fresh.1, Nat.lt_of_lt_of_le fresh.2.2 ?_⟩
    decide

theorem savedTable_chain (saved : Saved s args i cells out) :
    Chain marks (savedTable s cells) (cells.headD 0xFFF8) cells := by
  by_cases empty : cells = []
  · subst empty
    exact Or.inl rfl
  · rw [savedTable, if_neg empty]
    apply link_chain saved.once
    · intro c member
      have fresh := saved.fresh c member
      refine ⟨by omega, Nat.lt_of_lt_of_le fresh.2.2 ?_⟩
      decide
    · exact Or.inl rfl

/-- Only links that were free change, so that every chain stays as it is, and
    the file's own is a new one. -/
theorem saved_intact (member : args.dirAddress ∈ dirs.addresses)
    (inside : i < FAT16_ROOT_ENTRIES) (saved : Saved s args i cells out) (goes : Goes s args)
    (tidy : ¬Strays s args) (intact : Intact dirs s) : Intact dirs out.2 := by
  have off := dirs.offTable _ member
  have kept : Sound marks out.2.fat (start dirs s.mem) := by
    apply sound_of_kept intact
    intro entry c old names chain d used
    by_contra differs
    rw [saved.fat] at differs
    exact chain_used chain used (savedTable_changed saved goes tidy d differs).1
  have first := saved_firstCluster off inside saved
  have free : start dirs s.mem (args.dirAddress, i) = none := by
    have byte := (findEmptyDirectoryEntry_some saved.entry).2.2
    simp only [start]
    rw [if_neg]
    rintro ⟨-, -, ⟨used, -⟩, -⟩
    exact used byte
  by_cases names : start dirs out.2.mem (args.dirAddress, i) = none
  · -- The name is one of those that mark an entry as deleted or special.
    have same : start dirs out.2.mem = start dirs s.mem := by
      funext entry
      by_cases here : entry = (args.dirAddress, i)
      · rw [here, names, free]
      · exact saved_others member inside saved here
    rw [Intact, same]
    exact kept
  · have named : start dirs out.2.mem (args.dirAddress, i) = some (cells.headD 0xFFF8) := by
      simp only [start] at names ⊢
      split at names
      · rename_i owned
        rw [if_pos owned, first]
      · exact absurd rfl names
    apply sound_add kept (saved.fat ▸ savedTable_chain saved) _ named
    · intro entry c xs other starts chain e used again
      rcases intact.chained entry c starts with ⟨old, chained, -⟩
      have moved : Chain marks out.2.fat c old := by
        apply chain_congr _ chained
        intro d here
        by_contra differs
        rw [saved.fat] at differs
        exact chain_used chained here (savedTable_changed saved goes tidy d differs).1
      rw [chain_unique chain moved] at used
      exact chain_used chained used (saved.fresh e again).1
    · intro entry different
      exact saved_others member inside saved different

theorem idle_keeps {request : Request dirs} (intact : Intact dirs s) (idle : Idle s out) :
    Keeps s request out := by
  rcases idle with ⟨value, list, same⟩
  have still : out.2.fat = s.fat := by
    rw [same]
    rfl
  refine ⟨?_, ?_, ?_⟩
  · rw [same]
    exact intact
  · intro ok
    rw [value] at ok
    exact absurd ok (by decide)
  · intro c differs
    exact absurd (congrFun still c) differs

theorem saved_keeps {request : Request dirs} (inside : i < FAT16_ROOT_ENTRIES)
    (saved : Saved s request.val i cells out) (goes : Goes s request.val)
    (tidy : ¬Strays s request.val) (intact : Intact dirs s) : Keeps s request out := by
  have off := dirs.offTable _ request.property
  refine ⟨saved_intact request.property inside saved goes tidy intact, ?_, ?_⟩
  · intro _
    refine ⟨i, cells, inside, saved.entry, ?_, saved.once, saved.count⟩
    rw [saved_firstCluster off inside saved, saved.fat]
    exact savedTable_chain saved
  · intro c differs
    rw [saved.fat] at differs
    exact savedTable_changed saved goes tidy c differs

theorem strays_breaks {request : Request dirs} (saved : Saved s request.val i cells out)
    (strays : Strays s request.val) : ¬Keeps s request out := by
  intro keeps
  have empty : cells = [] := by
    apply List.eq_nil_of_length_eq_zero
    rw [saved.count, strays.empty]
    rfl
  have wrote : out.2.fat (s.clustersToSave (-1)) = 0xFFF8 := by
    rw [saved.fat, savedTable, if_pos empty, setLink, if_pos rfl]
  have free := keeps.changed (s.clustersToSave (-1)) (by
    rw [wrote]
    exact fun same => strays.unmarked same.symm)
  exact absurd free.2 (Nat.not_lt.mpr (strays.used free.1))

theorem serve_mounted {request : Request dirs} (mounted : Mounted s)
    (served : serve s request = .ok out) : Mounted out.2 := by
  have off := dirs.offTable _ request.property
  rcases fat16SaveFile_cases mounted off out served with
    ⟨-, -, list, same⟩ | ⟨-, _, _, _, -, saved, -⟩
  · rw [same]
    exact withList_mounted mounted list
  · exact saved.mounted

theorem keeps_iff {request : Request dirs} (mounted : Mounted s) (intact : Intact dirs s)
    (served : serve s request = .ok out) :
    Keeps s request out ↔ ¬Strays s request.val := by
  have off := dirs.offTable _ request.property
  rcases fat16SaveFile_cases mounted off out served with
    ⟨stops, idle⟩ | ⟨goes, i, cells, -, inside, saved, -⟩
  · constructor
    · intro _ strays
      exact stops strays.goes
    · intro _
      exact idle_keeps intact idle
  · constructor
    · intro keeps strays
      exact strays_breaks saved strays keeps
    · intro tidy
      exact saved_keeps inside saved goes tidy intact

end Steps

/-- In every sequence of saves to a volume with intact chains, every save keeps
    them and gives its file a chain of as many clusters as it has sectors,
    changing only links of the table that were free, if and only if none is
    a save without a sector that strays. -/
theorem chain_integrity_iff (dirs : Directories) (volume : Volume dirs)
    (requests : List (Request dirs)) :
    Along serve Keeps volume.system requests ↔
      Along serve (fun s request _ => ¬Strays s request.val) volume.system requests := by
  have exact : ∀ s request out, Mounted s ∧ Intact dirs s → serve s request = .ok out →
      (Keeps s request out ↔ ¬Strays s request.val) :=
    fun _ _ _ holds served => keeps_iff holds.1 holds.2 served
  have keep : ∀ s request out, Mounted s ∧ Intact dirs s → serve s request = .ok out →
      Keeps s request out → Mounted out.2 ∧ Intact dirs out.2 :=
    fun _ _ _ holds served kept => ⟨serve_mounted holds.1 served, kept.intact⟩
  exact along_iff exact keep requests ⟨volume.mounted, volume.intact⟩

def rootOnly : Directories where
  addresses := [UInt64.ofNat VOLUME1_ROOTDIR_ADDRESS]
  root_mem := List.mem_singleton.mpr rfl
  offTable := by
    intro d member
    rw [List.mem_singleton.mp member]
    exact Or.inr (by decide)
  apart := by
    intro d left e right different
    rw [List.mem_singleton.mp left, List.mem_singleton.mp right] at different
    exact absurd rfl different

/-- A volume without a file. The first link has the media byte. -/
def formatted : System where
  mem := setShort (fun _ => 0) VOLUME1_FAT_ADDRESS 0xFFF0
  controllerType := .ahci
  ideDisk := fun _ => 0
  ahciDisk := fun _ => 0
  numberOfSectorsInBootDisk := 0
  fatCacheLoaded := true
  fatCacheSaved := true
  clustersToSave := fun _ => 0
  root := some ⟨true, 1234, 1, 512⟩
  backbufferVa := 0x10000000

theorem formatted_zero {k : Int} (away : 0x30002 ≤ k) : formatted.mem k = 0 :=
  setShort_apart (Or.inr away)

theorem formatted_mounted : Mounted formatted := by
  refine ⟨rfl, ?_⟩
  unfold slice
  apply List.map_congr_left
  intro k _
  have root : VOLUME1_ROOTDIR_ADDRESS = 0x70000 := rfl
  rw [formatted_zero (by rw [root]; omega)]
  rfl

theorem formatted_intact : Intact rootOnly formatted := by
  have none : ∀ entry, start rootOnly formatted.mem entry = none := by
    rintro ⟨d, i⟩
    simp only [start]
    rw [if_neg]
    rintro ⟨member, -, ⟨used, -⟩, -⟩
    have root : d = UInt64.ofNat VOLUME1_ROOTDIR_ADDRESS := List.mem_singleton.mp member
    have place : 0x30002 ≤ entryAddress d i := by
      rw [entryAddress, root]
      exact Nat.le_trans (by decide) (Nat.le_add_right _ _)
    exact used (formatted_zero (by omega))
  constructor
  · intro entry c names
    rw [none] at names
    cases names
  · intro entry _ c _ _ _ _ names
    rw [none] at names
    cases names

def formattedVolume : Volume rootOnly where
  system := formatted
  mounted := formatted_mounted
  intact := formatted_intact

/-- "EMPTY   TXT" of no sector, to the root directory. -/
def emptyFile : Request rootOnly :=
  ⟨⟨0x30000, 0x70000, 512, [69, 77, 80, 84, 89, 32, 32, 32, 84, 88, 84], 0, 0, 0x200000, 0x20⟩,
    List.mem_singleton.mpr rfl⟩

theorem formatted_loads : fsLoadRootdir formatted = .ok formatted := by
  have returns : (fsLoadRootdir formatted).isOk = true := by decide +kernel
  cases loads : fsLoadRootdir formatted with
  | error stop =>
      rw [loads] at returns
      cases returns
  | ok t =>
      rw [fsLoadRootdir_mounted formattedVolume.mounted t loads]
      rfl

theorem emptyFile_strays : Strays formatted emptyFile.val where
  empty := rfl
  goes := ⟨by decide, by decide, by decide +kernel, by decide +kernel⟩
  unmarked := by decide
  used := fun free => absurd free (by decide)

/-- The save of an empty file returns 0 and has written the end mark over the
    first link, which was not free. -/
theorem empty_file_takes_used_link :
    ¬Along serve Keeps formattedVolume.system [emptyFile] := by
  intro along
  have returns : (serve formatted emptyFile).isOk = true := by
    simp only [serve, fat16SaveFile]
    rw [formatted_loads]
    decide +kernel
  cases served : serve formatted emptyFile with
  | error stop =>
      rw [served] at returns
      cases returns
  | ok out =>
      have keeps := (along out served).1
      rw [keeps_iff formattedVolume.mounted formattedVolume.intact served] at keeps
      exact keeps emptyFile_strays

end Gramado.Fs.FatChains
