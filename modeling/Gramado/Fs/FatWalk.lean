/-
The walk of `fat16LoadFile` along a cluster chain. The size in the directory
entry is compared with the buffer; how many sectors are stored is decided by
the chain alone.
-/
import Gramado.Fs.Fat16

namespace Gramado.Fs.FatWalk

open Gramado.Ke
open Gramado.Fs.Fat16
open Gramado.Lib.Fallible
open Gramado.Lib.Loop
open Gramado.Lib.Memory
open Gramado.Lib.LittleEndian

/-- The sector of a cluster, in memory at the address. -/
def storeSector (s : System) (address : UInt64) (c : UInt16) : System :=
  if address = 0 then
    s
  else
    let disk := if s.controllerType = .ahci then s.ahciDisk else s.ideDisk
    s.storeMem address.toNat (sectorOf disk (VOLUME1_DATAAREA_LBA + c.toNat - 2))

/-- Memory with the first `k` sectors of the chain in the buffer, and the
    cluster that the table names next. A buffer that lies over the table
    changes the rest of the chain. -/
def seen (s : System) (buffer : UInt64) (first : UInt16) : Nat → System × UInt16
  | 0 => (s, first)
  | k + 1 =>
      let (t, c) := seen s buffer first k
      let t := storeSector t (addressAt buffer k) c
      (t, t.fat c)

/-- A sector of that cluster can be read to the address. -/
def Readable (s : System) (address : UInt64) (c : UInt16) : Prop :=
  checkAddressValidation s address.toNat = true ∧ c ≠ 0 ∧ c ≤ 0xFFF0 ∧
    (address = 0 ∨ s.controllerType = .ahci ∨
      VOLUME1_DATAAREA_LBA + c.toNat - 2 < s.numberOfSectorsInBootDisk)

instance (s : System) (address : UInt64) (c : UInt16) : Decidable (Readable s address c) :=
  inferInstanceAs (Decidable (_ ∧ _ ∧ _ ∧ _))

/-- The addresses of the first `k` sectors, last first. -/
def writtenAt (buffer : UInt64) : Nat → List UInt64
  | 0 => []
  | k + 1 =>
      if addressAt buffer k = 0 then
        writtenAt buffer k
      else
        addressAt buffer k :: writtenAt buffer k

/-- What the walk has stored so far. -/
def stored : Ended ⊕ Walk → List UInt64
  | .inl ended => ended.written
  | .inr walk => walk.written

section Passes

variable {s t : System} {buffer address : UInt64} {first c : UInt16} {n m k : Nat}
  {walk : Walk}

@[simp] theorem storeSector_controllerType :
    (storeSector s address c).controllerType = s.controllerType := by
  rw [storeSector]
  split
  · rfl
  · exact storeMem_controllerType _ _ _

@[simp] theorem storeSector_sectors :
    (storeSector s address c).numberOfSectorsInBootDisk = s.numberOfSectorsInBootDisk := by
  rw [storeSector]
  split
  · rfl
  · exact storeMem_sectors _ _ _

@[simp] theorem storeSector_backbufferVa :
    (storeSector s address c).backbufferVa = s.backbufferVa := by
  rw [storeSector]
  split
  · rfl
  · exact storeMem_backbufferVa _ _ _

theorem readable_seen (d : UInt16) :
    Readable (seen s buffer first k).1 address d ↔ Readable s address d := by
  induction k with
  | zero => rfl
  | succ k ih =>
      rw [← ih]
      simp [seen, Readable, checkAddressValidation]

theorem readLba_of_readable (readable : Readable s address c) :
    readLba s address.toNat (VOLUME1_DATAAREA_LBA + c.toNat - 2) =
      .ok (storeSector s address c) := by
  rcases readable with ⟨-, -, -, limit⟩
  by_cases null : address = 0
  · subst null
    simp [readLba, storeSector]
  · have place : address.toNat ≠ 0 := fun zero => null (UInt64.toNat_inj.mp zero)
    by_cases ahci : s.controllerType = .ahci
    · simp [readLba, readSector, storeSector, ahciReadSector, null, place, ahci]
    · have inside := (limit.resolve_left null).resolve_left ahci
      have some : s.numberOfSectorsInBootDisk ≠ 0 := by omega
      have low : ¬s.numberOfSectorsInBootDisk ≤ VOLUME1_DATAAREA_LBA + c.toNat - 2 := by omega
      simp [readLba, readSector, ataReadSector, ataLimits, storeSector, null, place, ahci,
        some, low, bind, Except.bind]

theorem readLba_of_limit (place : address ≠ 0) (ata : s.controllerType ≠ .ahci)
    {lba : Nat} (limit : s.numberOfSectorsInBootDisk ≤ lba) :
    ∃ stop, readLba s address.toNat lba = .error stop := by
  have other : address.toNat ≠ 0 := fun zero => place (UInt64.toNat_inj.mp zero)
  rw [readLba, if_neg other, readSector, if_neg ata, ataReadSector, ataLimits, if_neg ata]
  by_cases none : s.numberOfSectorsInBootDisk = 0
  · rw [if_pos none]
    exact ⟨_, rfl⟩
  · rw [if_neg none, if_pos limit]
    exact ⟨_, rfl⟩

/-- The variables of the walk after `k` sectors. -/
def walkAt (s : System) (buffer : UInt64) (first : UInt16) (k : Nat) : Walk :=
  ⟨(seen s buffer first k).1, addressAt buffer k, (seen s buffer first k).2, k,
    writtenAt buffer k⟩

/-- After `k` sectors the next one can be read. -/
def GoesOn (s : System) (buffer : UInt64) (first : UInt16) (k : Nat) : Prop :=
  Readable s (addressAt buffer k) (seen s buffer first k).2

theorem readable_iff_goesOn : Readable (seen s buffer first k).1 (addressAt buffer k)
    (seen s buffer first k).2 ↔ GoesOn s buffer first k :=
  readable_seen (seen s buffer first k).2

theorem walkAt_zero : walkAt s buffer first 0 = ⟨s, buffer, first, 0, []⟩ := by
  simp [walkAt, seen, writtenAt, addressAt]

theorem readCluster_ok (read : readLba walk.system walk.buffer.toNat
    (VOLUME1_DATAAREA_LBA + walk.cluster.toNat - 2) = .ok t) :
    readCluster walk = .ok ⟨t, walk.buffer + UInt64.ofNat SECTOR_SIZE, t.fat walk.cluster,
      walk.nreads + 1,
      if walk.buffer = 0 then walk.written else walk.buffer :: walk.written⟩ := by
  rw [readCluster, read]
  rfl

theorem readCluster_error {stop : Stop} (stops : readLba walk.system walk.buffer.toNat
    (VOLUME1_DATAAREA_LBA + walk.cluster.toNat - 2) = .error stop) :
    readCluster walk = .error stop := by
  rw [readCluster, stops]
  rfl

theorem readCluster_walkAt (goes : GoesOn s buffer first k) :
    readCluster (walkAt s buffer first k) = .ok (walkAt s buffer first (k + 1)) := by
  have read := readLba_of_readable (readable_iff_goesOn.mpr goes)
  have next := @readCluster_ok _ (walkAt s buffer first k) read
  rw [next]
  simp only [walkAt, addressAt_succ, seen, writtenAt]
  rfl

/-- The entry is one of the values that end a chain, or the bad cluster mark. -/
def Mark (c : UInt16) : Prop :=
  c = 0xFFF7 ∨ c = 0xFFFF ∨ c = 0xFFF8

theorem not_readable_of_mark (mark : Mark c) : ¬Readable s address c := by
  rintro ⟨-, -, low, -⟩
  rcases mark with rfl | rfl | rfl <;> exact absurd low (by decide)

/-- What a pass makes of the cluster behind the sector that it stored. -/
theorem loopNextEntry_walkAt (goes : GoesOn s buffer first k) :
    loopNextEntry (walkAt s buffer first k) =
      if (seen s buffer first (k + 1)).2 = 0xFFF7 then
        .inl ((walkAt s buffer first (k + 1)).ended
          (.error (.panic "fat16LoadFile: Bad cluster\n")))
      else if (seen s buffer first (k + 1)).2 = 0xFFFF ∨
          (seen s buffer first (k + 1)).2 = 0xFFF8 then
        if (k + 1) / 2 > CONFIG_IMAGESIZE_LIMIT_IN_KB then
          .inl ((walkAt s buffer first (k + 1)).ended
            (.error (.panic "fat16LoadFile: nreads\n")))
        else
          .inl ((walkAt s buffer first (k + 1)).ended (.ok 0))
      else
        .inr (walkAt s buffer first (k + 1)) := by
  have readable := readable_iff_goesOn.mpr goes
  have valid : ¬checkAddressValidation (walkAt s buffer first k).system
      (walkAt s buffer first k).buffer.toNat = false := by
    rw [Bool.not_eq_false]
    exact readable.1
  have inside : ¬((walkAt s buffer first k).cluster = 0 ∨
      (walkAt s buffer first k).cluster > 0xFFF0) := by
    rintro (none | high)
    · exact goes.2.1 none
    · exact absurd goes.2.2.1 (UInt16.not_le.mpr high)
  rw [loopNextEntry, if_neg valid, if_neg inside, readCluster_walkAt goes]
  rfl

theorem pass_goes_on (goes : GoesOn s buffer first k) :
    (¬Mark (seen s buffer first (k + 1)).2 ∧
      loopNextEntry (walkAt s buffer first k) = .inr (walkAt s buffer first (k + 1))) ∨
    (Mark (seen s buffer first (k + 1)).2 ∧ ∃ result,
      loopNextEntry (walkAt s buffer first k) =
        .inl ((walkAt s buffer first (k + 1)).ended result)) := by
  rw [loopNextEntry_walkAt goes]
  by_cases bad : (seen s buffer first (k + 1)).2 = 0xFFF7
  · exact Or.inr ⟨Or.inl bad, _, by rw [if_pos bad]⟩
  · by_cases last : (seen s buffer first (k + 1)).2 = 0xFFFF ∨
        (seen s buffer first (k + 1)).2 = 0xFFF8
    · refine Or.inr ⟨Or.inr last, ?_⟩
      rw [if_neg bad, if_pos last]
      split
      · exact ⟨_, rfl⟩
      · exact ⟨_, rfl⟩
    · refine Or.inl ⟨?_, by rw [if_neg bad, if_neg last]⟩
      rintro (mark | mark)
      · exact bad mark
      · exact last mark

theorem pass_last (goes : GoesOn s buffer first k)
    (last : (seen s buffer first (k + 1)).2 = 0xFFF8)
    (small : (k + 1) / 2 ≤ CONFIG_IMAGESIZE_LIMIT_IN_KB) :
    loopNextEntry (walkAt s buffer first k) =
      .inl ((walkAt s buffer first (k + 1)).ended (.ok 0)) := by
  have good : ¬(seen s buffer first (k + 1)).2 = 0xFFF7 := by
    rw [last]
    decide
  rw [loopNextEntry_walkAt goes, if_neg good, if_pos (Or.inr last), if_neg (Nat.not_lt.mpr small)]

/-- Without a cluster to follow the walk ends before it stores a sector. -/
theorem pass_breaks_off (breaks : ¬GoesOn s buffer first k) : ∃ stop,
    loopNextEntry (walkAt s buffer first k) =
      .inl ((walkAt s buffer first k).ended (.error stop)) := by
  by_cases valid : checkAddressValidation (seen s buffer first k).1
      (addressAt buffer k).toNat = false
  · refine ⟨.panic "fat16LoadFile: Not a valid address\n", ?_⟩
    rw [loopNextEntry]
    exact if_pos valid
  · by_cases limits : (seen s buffer first k).2 = 0 ∨ (seen s buffer first k).2 > 0xFFF0
    · refine ⟨.panic "fat16LoadFile: fat[] vector limits.\n", ?_⟩
      have check : ¬checkAddressValidation (walkAt s buffer first k).system
          (walkAt s buffer first k).buffer.toNat = false := valid
      rw [loopNextEntry, if_neg check]
      exact if_pos limits
    · rw [not_or] at limits
      have beyond : ¬Readable (seen s buffer first k).1 (addressAt buffer k)
          (seen s buffer first k).2 := fun readable => breaks (readable_iff_goesOn.mp readable)
      have low : (seen s buffer first k).2 ≤ 0xFFF0 := UInt16.not_lt.mp limits.2
      rw [Bool.not_eq_false] at valid
      simp only [Readable, valid, low, true_and, not_or, Nat.not_lt, ne_eq, limits.1,
        not_false_eq_true] at beyond
      rcases beyond with ⟨place, ata, limit⟩
      rcases readLba_of_limit place ata limit with ⟨stop, stops⟩
      have read := @readCluster_error (walkAt s buffer first k) _ stops
      refine ⟨stop, ?_⟩
      have check : ¬checkAddressValidation (walkAt s buffer first k).system
          (walkAt s buffer first k).buffer.toNat = false := by
        rw [Bool.not_eq_false]
        exact valid
      have cluster : ¬((walkAt s buffer first k).cluster = 0 ∨
          (walkAt s buffer first k).cluster > 0xFFF0) := not_or.mpr limits
      rw [loopNextEntry, if_neg check, if_neg cluster, read]

/-- The walk is on its way, every sector so far having been readable, or it
    has ended at the first that is not. -/
theorem walk_cases (s : System) (buffer : UInt64) (first : UInt16) (m : Nat) :
    (after loopNextEntry m (walkAt s buffer first 0) = .inr (walkAt s buffer first m) ∧
      ∀ j, j < m → GoesOn s buffer first j) ∨
    ∃ k ended, after loopNextEntry m (walkAt s buffer first 0) = .inl ended ∧
      ended.written = writtenAt buffer k ∧ (∀ j, j < k → GoesOn s buffer first j) ∧
      ¬GoesOn s buffer first k := by
  induction m with
  | zero => exact Or.inl ⟨rfl, fun j before => absurd before (Nat.not_lt_zero j)⟩
  | succ m ih =>
      rw [after_succ]
      rcases ih with ⟨there, before⟩ | ⟨k, ended, done, wrote, before, breaks⟩
      · rw [there]
        by_cases goes : GoesOn s buffer first m
        · have upTo : ∀ j, j < m + 1 → GoesOn s buffer first j := by
            intro j inside
            rcases Nat.lt_succ_iff_lt_or_eq.mp inside with early | rfl
            · exact before j early
            · exact goes
          rcases pass_goes_on goes with ⟨-, next⟩ | ⟨mark, result, done⟩
          · exact Or.inl ⟨next, upTo⟩
          · exact Or.inr ⟨m + 1, _, done, rfl, upTo, not_readable_of_mark mark⟩
        · rcases pass_breaks_off goes with ⟨result, done⟩
          exact Or.inr ⟨m, _, done, rfl, before, goes⟩
      · rw [done]
        exact Or.inr ⟨k, ended, rfl, wrote, before, breaks⟩

theorem walk_ends_iff : Ends loopNextEntry (walkAt s buffer first 0) ↔
    ∃ k, ¬GoesOn s buffer first k := by
  constructor
  · rintro ⟨m, ended, done⟩
    rcases walk_cases s buffer first m with
      ⟨there, -⟩ | ⟨k, -, -, -, -, breaks⟩
    · rw [done] at there
      cases there
    · exact ⟨k, breaks⟩
  · rintro ⟨k, breaks⟩
    rcases walk_cases s buffer first (k + 1) with
      ⟨-, before⟩ | ⟨-, ended, done, -⟩
    · exact absurd (before k (Nat.lt_succ_self k)) breaks
    · exact ⟨k + 1, ended, done⟩

end Passes

section Containment

/-- A range of memory that does not run over the top of the address space. -/
structure Buffer where
  address : UInt64
  size : UInt64
  fits : address.toNat + size.toNat < 2 ^ 64

/-- A sector at the address lies in the buffer. -/
def Buffer.Inside (buffer : Buffer) (address : UInt64) : Prop :=
  buffer.address.toNat ≤ address.toNat ∧
    address.toNat + SECTOR_SIZE ≤ buffer.address.toNat + buffer.size.toNat

/-- How many sectors can be followed without one being stored outside. The
    sector at address 0 is passed over. -/
def Buffer.room (buffer : Buffer) : Nat :=
  if buffer.address = 0 then
    max 1 (buffer.size.toNat / SECTOR_SIZE)
  else
    buffer.size.toNat / SECTOR_SIZE

variable {buffer : Buffer} {address : UInt64} {k n : Nat}

theorem mem_writtenAt {start : UInt64} :
    address ∈ writtenAt start n ↔ ∃ k, k < n ∧ address = addressAt start k ∧ address ≠ 0 := by
  induction n with
  | zero => simp [writtenAt]
  | succ n ih =>
      constructor
      · intro member
        rw [writtenAt] at member
        split at member
        · rcases ih.mp member with ⟨k, before, here⟩
          exact ⟨k, Nat.lt_succ_of_lt before, here⟩
        · rename_i place
          rcases List.mem_cons.mp member with rfl | later
          · exact ⟨n, Nat.lt_succ_self n, rfl, place⟩
          · rcases ih.mp later with ⟨k, before, here⟩
            exact ⟨k, Nat.lt_succ_of_lt before, here⟩
      · rintro ⟨k, before, rfl, place⟩
        rw [writtenAt]
        rcases Nat.lt_succ_iff_lt_or_eq.mp before with early | rfl
        · have older := ih.mpr ⟨k, early, rfl, place⟩
          split
          · exact older
          · exact List.mem_cons_of_mem _ older
        · rw [if_neg place]
          exact List.mem_cons_self ..

theorem addressAt_toNat (within : buffer.address.toNat + SECTOR_SIZE * k < 2 ^ 64) :
    (addressAt buffer.address k).toNat = buffer.address.toNat + SECTOR_SIZE * k := by
  have small : SECTOR_SIZE * k < 2 ^ 64 := by omega
  rw [addressAt, UInt64.toNat_add, UInt64.toNat_ofNat_of_lt' small, Nat.mod_eq_of_lt within]

theorem address_ne_zero (place : buffer.address ≠ 0) : 0 < buffer.address.toNat := by
  apply Nat.pos_of_ne_zero
  intro zero
  exact place (UInt64.toNat_inj.mp zero)

/-- A sector before the room is used up is inside, or is the one passed over. -/
theorem inside_of_room (early : k < buffer.room) (place : addressAt buffer.address k ≠ 0) :
    buffer.Inside (addressAt buffer.address k) := by
  have fits := buffer.fits
  by_cases null : buffer.address = 0
  · have zero : buffer.address.toNat = 0 := by rw [null]; rfl
    simp only [Buffer.room, if_pos null] at early
    have later : k ≠ 0 := by
      rintro rfl
      apply place
      rw [addressAt, null]
      rfl
    have bound : SECTOR_SIZE * (k + 1) ≤ buffer.size.toNat := by
      have inside : k + 1 ≤ buffer.size.toNat / SECTOR_SIZE := by omega
      exact Nat.le_trans (Nat.mul_le_mul_left _ inside) (Nat.mul_div_le _ _)
    rw [Nat.mul_succ] at bound
    have where_ : (addressAt buffer.address k).toNat = _ := addressAt_toNat (by omega)
    constructor <;> omega
  · simp only [Buffer.room, if_neg null] at early
    have bound : SECTOR_SIZE * (k + 1) ≤ buffer.size.toNat :=
      Nat.le_trans (Nat.mul_le_mul_left _ early) (Nat.mul_div_le _ _)
    rw [Nat.mul_succ] at bound
    have size : 0 < SECTOR_SIZE := by decide
    have where_ : (addressAt buffer.address k).toNat = _ := addressAt_toNat (by omega)
    constructor <;> omega

theorem outside_of_room :
    ¬buffer.Inside (addressAt buffer.address buffer.room) := by
  rintro ⟨-, inside⟩
  have fits := buffer.fits
  have size : SECTOR_SIZE = 512 := rfl
  have room : buffer.room = buffer.size.toNat / 512 ∨
      (buffer.address.toNat = 0 ∧ buffer.size.toNat / 512 = 0 ∧ buffer.room = 1) := by
    by_cases null : buffer.address = 0
    · have zero : buffer.address.toNat = 0 := by rw [null]; rfl
      simp only [Buffer.room, if_pos null, size]
      omega
    · exact Or.inl (if_neg null)
  rcases room with plain | ⟨zero, short, one⟩
  · rw [plain, addressAt_toNat (by rw [size]; omega), size] at inside
    omega
  · rw [one, addressAt_toNat (by rw [zero, size]; decide), size] at inside
    omega

theorem room_address_ne_zero : addressAt buffer.address buffer.room ≠ 0 := by
  intro null
  have fits := buffer.fits
  have size : SECTOR_SIZE = 512 := rfl
  have under := Nat.mul_div_le buffer.size.toNat SECTOR_SIZE
  have value := congrArg UInt64.toNat null
  by_cases first : buffer.address = 0
  · have zero : buffer.address.toNat = 0 := by rw [first]; rfl
    have room : buffer.room = max 1 (buffer.size.toNat / SECTOR_SIZE) := if_pos first
    have bound : SECTOR_SIZE * buffer.room < 2 ^ 64 := by
      rw [room]
      rcases Nat.le_total 1 (buffer.size.toNat / SECTOR_SIZE) with some | none
      · rw [Nat.max_eq_right some]
        omega
      · rw [Nat.max_eq_left none, size]
        decide
    rw [addressAt_toNat (by omega), zero, room, size] at value
    change 0 + 512 * max 1 (buffer.size.toNat / 512) = 0 at value
    omega
  · have room : buffer.room = buffer.size.toNat / SECTOR_SIZE := if_neg first
    have low := address_ne_zero first
    rw [room, addressAt_toNat (by omega)] at value
    simp at value
    omega

end Containment

section Calls

variable {s t : System} {args : LoadArguments} {buffer : Buffer} {walk : Walk}

/-- The call loads into the buffer. -/
def Buffer.into (buffer : Buffer) (args : LoadArguments) : LoadArguments :=
  { args with buffer := buffer.address, bufferSizeInBytes := buffer.size }

/-- Every sector that is ever stored lies in the buffer. -/
def Contained (s : System) (args : LoadArguments) (buffer : Buffer) : Prop :=
  ∀ passes, ∀ address ∈ stored (fat16LoadFile s args passes), buffer.Inside address

def Finishes (s : System) (args : LoadArguments) : Prop :=
  ∃ passes ended, fat16LoadFile s args passes = .inl ended

/-- The chain that the walk starts on breaks off before the buffer is full. -/
def BreaksOff (walk : Walk) (buffer : Buffer) : Prop :=
  ∃ k, k ≤ buffer.room ∧ ¬GoesOn walk.system buffer.address walk.cluster k

/-- A walk starts at the buffer with nothing stored. -/
def Fresh (buffer : UInt64) (out : Option Walk × System) : Prop :=
  ∀ walk, out.1 = some walk → walk = walkAt walk.system buffer walk.cluster 0

theorem findFirstCluster_fresh :
    Returns (findFirstCluster s args) (Fresh args.buffer) := by
  unfold findFirstCluster
  split
  · simp [Fresh]
  · simp only [returns_ite, returns_ok, returns_bind]
    constructor
    · simp [Fresh]
    · intro _ t _ walk same
      cases same
      exact walkAt_zero.symm

theorem beginLoad_fresh : Returns (beginLoad s args) (Fresh args.buffer) := by
  have nothing : ∀ t : System, Fresh args.buffer (none, t) := by
    intro t walk none
    cases none
  simp only [beginLoad, returns_ite, returns_error, returns_bind, returns_need, returns_ok,
    implies_true, true_and, nothing]
  intros
  exact fun _ _ _ => findFirstCluster_fresh

theorem fat16LoadFile_walk (begins : beginLoad s args = .ok (some walk, t)) (passes : Nat) :
    fat16LoadFile s args passes =
      after loopNextEntry passes (walkAt walk.system args.buffer walk.cluster 0) := by
  have fresh := beginLoad_fresh _ begins walk rfl
  rw [fat16LoadFile, begins, ← fresh]

theorem fat16LoadFile_idle
    (idle : ∀ walk t, beginLoad s args ≠ .ok (some walk, t)) :
    ∃ ended, ended.written = [] ∧ ∀ passes, fat16LoadFile s args passes = .inl ended := by
  unfold fat16LoadFile
  split
  · exact ⟨_, rfl, fun _ => rfl⟩
  · exact ⟨_, rfl, fun _ => rfl⟩
  · rename_i walk t begins
    exact absurd begins (idle walk t)

theorem contained_of_breaksOff (begins : beginLoad s (buffer.into args) = .ok (some walk, t))
    (breaks : BreaksOff walk buffer) : Contained s (buffer.into args) buffer := by
  rcases breaks with ⟨n, room, breaks⟩
  intro passes address member
  rw [fat16LoadFile_walk begins] at member
  have early : ∃ k, k ≤ n ∧ address ∈ writtenAt buffer.address k := by
    rcases walk_cases walk.system buffer.address walk.cluster
      passes with ⟨there, before⟩ | ⟨k, ended, done, wrote, before, -⟩
    · refine ⟨passes, ?_, ?_⟩
      · by_contra late
        exact breaks (before n (Nat.not_le.mp late))
      · change address ∈ stored (after _ _ (walkAt _ buffer.address _ _)) at member
        rwa [there] at member
    · refine ⟨k, ?_, ?_⟩
      · by_contra late
        exact breaks (before n (Nat.not_le.mp late))
      · change address ∈ stored (after _ _ (walkAt _ buffer.address _ _)) at member
        rw [done] at member
        rwa [← wrote]
  rcases early with ⟨k, before, wrote⟩
  rcases mem_writtenAt.mp wrote with ⟨j, inside, rfl, place⟩
  exact inside_of_room (by omega) place

theorem breaksOff_of_contained (begins : beginLoad s (buffer.into args) = .ok (some walk, t))
    (contained : Contained s (buffer.into args) buffer)
    (finishes : Finishes s (buffer.into args)) : BreaksOff walk buffer := by
  rcases finishes with ⟨passes, ended, finished⟩
  have all := contained passes
  rw [finished] at all
  rw [fat16LoadFile_walk begins] at finished
  rcases walk_cases walk.system buffer.address walk.cluster
    passes with ⟨there, -⟩ | ⟨k, last, done, wrote, -, breaks⟩
  · have both := there.symm.trans finished
    cases both
  · have same : Sum.inl last = Sum.inl ended := done.symm.trans finished
    cases same
    refine ⟨k, ?_, breaks⟩
    by_contra late
    have member : addressAt buffer.address buffer.room ∈ writtenAt buffer.address k :=
      mem_writtenAt.mpr ⟨buffer.room, Nat.not_le.mp late, rfl, room_address_ne_zero⟩
    rw [← wrote] at member
    exact outside_of_room (all _ member)

end Calls

/-- A call stores the file's sectors in the buffer alone and comes to an end if
    and only if it begins no walk, or the chain that it walks breaks off within
    as many sectors as the buffer holds. -/
theorem load_contained_iff (s : System) (args : LoadArguments) (buffer : Buffer) :
    Contained s (buffer.into args) buffer ∧ Finishes s (buffer.into args) ↔
      ∀ walk t, beginLoad s (buffer.into args) = .ok (some walk, t) →
        BreaksOff walk buffer := by
  constructor
  · rintro ⟨contained, finishes⟩ walk t begins
    exact breaksOff_of_contained begins contained finishes
  · intro breaks
    by_cases idle : ∀ walk t, beginLoad s (buffer.into args) ≠ .ok (some walk, t)
    · rcases fat16LoadFile_idle idle with ⟨ended, wrote, done⟩
      constructor
      · intro passes address member
        rw [done, stored, wrote] at member
        cases member
      · exact ⟨0, ended, done 0⟩
    · have some : ∃ walk t, beginLoad s (buffer.into args) = .ok (some walk, t) := by
        by_contra none
        exact idle fun walk t begins => none ⟨walk, t, begins⟩
      rcases some with ⟨walk, t, begins⟩
      refine ⟨contained_of_breaksOff begins (breaks walk t begins), ?_⟩
      rcases breaks walk t begins with ⟨k, -, breaksOff⟩
      rcases walk_ends_iff.mpr ⟨k, breaksOff⟩ with ⟨passes, ended, done⟩
      exact ⟨passes, ended, (fat16LoadFile_walk begins passes).trans done⟩

/-- "NOTES   TXT" -/
def notes : List UInt8 := [78, 79, 84, 69, 83, 32, 32, 32, 84, 88, 84]

/-- A volume with one file of 1100 bytes in the clusters 3, 4 and 5, and the
    image of the directory that names it in memory. -/
def threeSectors : System where
  mem :=
    let directory := store (fun _ => 0) 0x200000
      (directoryEntry notes 0x20 3 1100)
    setShort (setShort (setShort directory 0x30006 4) 0x30008 5) 0x3000A 0xFFF8
  controllerType := .other
  ideDisk := fun _ => 0
  ahciDisk := fun _ => 0
  numberOfSectorsInBootDisk := 65536
  fatCacheLoaded := true
  fatCacheSaved := true
  clustersToSave := fun _ => 0
  root := some ⟨true, 1234, 1, 512⟩
  backbufferVa := 0x10000000

/-- The buffer that `do_read_file_from_disk` takes for it: eight bytes more than
    the file has. -/
def eightMore : Buffer :=
  ⟨0x300000, 1108, by decide⟩

set_option maxRecDepth 20000 in
/-- The load succeeds, and its third sector ends 428 bytes behind the buffer. -/
theorem last_sector_leaves_buffer :
    ∃ passes, 0x300400 ∈ stored (fat16LoadFile threeSectors (eightMore.into
        ⟨0x30000, 0x200000, 512, notes, 0, 0⟩) passes) ∧
      ¬eightMore.Inside 0x300400 := by
  refine ⟨3, ?_, ?_⟩
  · have wrote : stored (fat16LoadFile threeSectors (eightMore.into
        ⟨0x30000, 0x200000, 512, notes, 0, 0⟩) 3) =
          [0x300400, 0x300200, 0x300000] := by decide +kernel
    rw [wrote]
    exact List.mem_cons_self ..
  · rintro ⟨-, high⟩
    exact absurd high (by decide)

end Gramado.Fs.FatWalk
