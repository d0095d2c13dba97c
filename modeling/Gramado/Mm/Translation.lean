/-
The walk finds what the mappings wrote. A page of 2 MB is walked as if its
entry named a page table, and an address above the first GB is mapped as its
alias in it.
-/
import Gramado.Mm.Paging
import Gramado.Lib.Fallible
import Gramado.Lib.Machine

namespace Gramado.Mm.Translation

open Gramado.Ke
open Gramado.Lib.Fallible
open Gramado.Lib.Machine
open Gramado.Mm.Paging

inductive Kind where
  | kernel
  | user
  | table (flags : UInt64)

structure Mapping where
  kind : Kind
  va : UInt64
  pa : UInt64
  aligned : pa.toNat % 2 ^ 21 = 0

/-- The entry of the page directory that the mapping is for. -/
def Mapping.slot (m : Mapping) : Nat :=
  X64_GET_PDE_INDEX m.va

/-- The value of the two functions without one is taken to be 0. -/
def serve (s : System) (m : Mapping) : Except Stop (Int × System) :=
  match m.kind with
  | .kernel => .ok (0, mapKernelVa2mb s m.va m.pa)
  | .user => .ok (0, mapUserVa2mb s m.va m.pa)
  | .table flags => mmMap2mbRegionInPd0Imp s m.pa m.va flags

/-- The address is one that a single page directory covers. -/
def Mapping.Representable (m : Mapping) : Prop :=
  m.va.toNat < 2 ^ 30

/-- Every address of the region is translated to the same place of the frame. -/
def Translates (s : System) (m : Mapping) : Prop :=
  ∀ va : UInt64, va.toNat / 2 ^ 21 = m.va.toNat / 2 ^ 21 →
    virtualToPhysical s va KERNEL_PML4_PA = .ok (m.pa + UInt64.ofNat (va.toNat % 2 ^ 21))

/-- Nothing that is translated changes. -/
def Refused (s t : System) : Prop :=
  ∀ va, virtualToPhysical t va KERNEL_PML4_PA = virtualToPhysical s va KERNEL_PML4_PA

/-- After every part of the run from its start the mapped regions are translated,
    and a request for an address that cannot be represented is refused. -/
def Agree (s : System) (mappings : List Mapping) : Prop :=
  ∀ early outs t, early <+: mappings → run serve s early = .ok (outs, t) →
    (∀ m ∈ early, m.Representable → Translates t m) ∧
    ∀ m out, early ++ [m] <+: mappings → ¬m.Representable → serve t m = .ok out →
      Refused t out.2

/-- The tables that the walk starts with, and the heap of the others. -/
structure Tables (s : System) : Prop where
  pml4 : s.entry KERNEL_PML4_PA 0 &&& ADDRESS_MASK = KERNEL_PDPT_PA
  pdpt : s.entry KERNEL_PDPT_PA 0 &&& ADDRESS_MASK = KERNEL_PD_PA
  aligned : s.tablePointerHeapBase.toNat % 4096 = 0
  low : DANGER_TABLE_POINTER_HEAP_BASE.toNat ≤ s.tablePointerHeapBase.toNat
  high : s.tablePointerHeapBase.toNat < FAT_ADDRESS.toNat

structure Kernel where
  system : System
  tables : Tables system

/-- The walk can follow what the mapping writes: a page table with flags that
    are no address bits, for a frame below the 48 bits; or a page of 2 MB that
    begins with the words of a page table for itself. -/
structure Walkable (s : System) (m : Mapping) : Prop where
  representable : m.Representable
  below : m.pa.toNat < 2 ^ 48
  followed : match m.kind with
    | .table flags => flags &&& ADDRESS_MASK = 0
    | _ => ∀ t, t < 512 → s.entry m.pa t &&& ADDRESS_MASK = m.pa + UInt64.ofNat (4096 * t)

section Walk

variable {s t : System} {m : Mapping} {q : UInt64}

/-- The entry of the region leads to a table that names the pages of the frame. -/
structure LeadsTo (s : System) (m : Mapping) (q : UInt64) : Prop where
  entry : s.entry KERNEL_PD_PA m.slot &&& ADDRESS_MASK = q
  pages : ∀ t, t < 512 → s.entry q t &&& ADDRESS_MASK = m.pa + UInt64.ofNat (4096 * t)

theorem addr_sum {va pa : UInt64} :
    pa + UInt64.ofNat (4096 * (va.toNat / 2 ^ 12 % 512)) + (va &&& 0xFFF) =
      pa + UInt64.ofNat (va.toNat % 2 ^ 21) := by
  have offset : va &&& 0xFFF = UInt64.ofNat (va.toNat % 4096) := by
    rw [← offset_bits, UInt64.ofNat_toNat]
  have sum : 4096 * (va.toNat / 2 ^ 12 % 512) + va.toNat % 4096 = va.toNat % 2 ^ 21 := by omega
  rw [offset, UInt64.add_assoc, ← UInt64.ofNat_add, sum]

theorem walk_region (tables : Tables s) (representable : m.Representable) {va : UInt64}
    (region : va.toNat / 2 ^ 21 = m.va.toNat / 2 ^ 21) :
    virtualToPhysical s va KERNEL_PML4_PA =
      .ok ((s.entry (s.entry KERNEL_PD_PA m.slot &&& ADDRESS_MASK) (va.toNat / 2 ^ 12 % 512) &&&
        ADDRESS_MASK) + (va &&& 0xFFF)) := by
  have below : m.va.toNat < 2 ^ 30 := representable
  have a : ((va >>> 39) &&& 0x1FF).toNat = 0 := by
    rw [nine_bits 39 (by decide)]
    have shift : UInt64.toNat 39 = 39 := rfl
    rw [shift]
    omega
  have b : ((va >>> 30) &&& 0x1FF).toNat = 0 := by
    rw [nine_bits 30 (by decide)]
    have shift : UInt64.toNat 30 = 30 := rfl
    rw [shift]
    omega
  have d : ((va >>> 21) &&& 0x1FF).toNat = m.slot := by
    rw [nine_bits 21 (by decide), Mapping.slot, pde_index, ← region]
    rfl
  have t : ((va >>> 12) &&& 0x1FF).toNat = va.toNat / 2 ^ 12 % 512 := nine_bits 12 (by decide)
  have pml4 : ¬KERNEL_PML4_PA = 0 := by decide
  simp only [virtualToPhysical, a, b, d, t, ne_eq, not_true_eq_false, if_false, if_neg pml4,
    tables.pml4, tables.pdpt]

/-- A region is translated if and only if its entry leads to a table that names
    the pages of its frame. -/
theorem translates_iff (tables : Tables s) (representable : m.Representable) :
    Translates s m ↔ LeadsTo s m (s.entry KERNEL_PD_PA m.slot &&& ADDRESS_MASK) := by
  have below : m.va.toNat < 2 ^ 30 := representable
  constructor
  · intro translates
    refine ⟨rfl, ?_⟩
    intro i inside
    -- The first address of the page.
    have size : UInt64.size = 2 ^ 64 := rfl
    have place : (UInt64.ofNat (m.va.toNat / 2 ^ 21 * 2 ^ 21 + 4096 * i)).toNat =
        m.va.toNat / 2 ^ 21 * 2 ^ 21 + 4096 * i := UInt64.toNat_ofNat_of_lt' (by omega)
    have region : (UInt64.ofNat (m.va.toNat / 2 ^ 21 * 2 ^ 21 + 4096 * i)).toNat / 2 ^ 21 =
        m.va.toNat / 2 ^ 21 := by
      rw [place]
      omega
    have walked := walk_region tables representable region
    rw [translates _ region] at walked
    have page :
        (UInt64.ofNat (m.va.toNat / 2 ^ 21 * 2 ^ 21 + 4096 * i)).toNat / 2 ^ 12 % 512 = i := by
      rw [place]
      omega
    have offset : (UInt64.ofNat (m.va.toNat / 2 ^ 21 * 2 ^ 21 + 4096 * i)).toNat % 2 ^ 21 =
        4096 * i := by
      rw [place]
      omega
    have low : UInt64.ofNat (m.va.toNat / 2 ^ 21 * 2 ^ 21 + 4096 * i) &&& 0xFFF = 0 := by
      apply UInt64.toNat_inj.mp
      rw [offset_bits, place]
      have zero : UInt64.toNat 0 = 0 := rfl
      omega
    rw [page, offset, low, UInt64.add_zero] at walked
    exact (Except.ok.inj walked).symm
  · intro leads va region
    have page := leads.pages (va.toNat / 2 ^ 12 % 512) (Nat.mod_lt _ (by decide))
    rw [walk_region tables representable region, page, addr_sum]

theorem translates_of_leadsTo (tables : Tables s) (representable : m.Representable)
    (leads : LeadsTo s m q) : Translates s m := by
  rw [translates_iff tables representable, leads.entry]
  exact leads

theorem not_translates_of_high (tables : Tables s) (representable : m.Representable)
    (high : 2 ^ 48 ≤ m.pa.toNat) : ¬Translates s m := by
  rw [translates_iff tables representable]
  intro leads
  have first := congrArg UInt64.toNat (leads.pages 0 (by decide))
  have mask : ADDRESS_MASK.toNat < 2 ^ 48 := by decide
  have start : m.pa + UInt64.ofNat (4096 * 0) = m.pa := UInt64.add_zero m.pa
  rw [start, UInt64.toNat_and] at first
  have most : m.pa.toNat ≤ ADDRESS_MASK.toNat := by
    rw [← first]
    exact Nat.and_le_right
  omega

end Walk

section Steps

variable {s t u : System} {m other : Mapping} {q : UInt64} {out : Int × System}

/-- The page that the next table is put in. -/
def nextTable (s : System) : Nat :=
  s.tablePointerHeapBase.toNat + 4096

/-- A mapping changes its entry of the directory and the next table, and takes
    the page of that table if it takes one. -/
structure Wrote (s : System) (m : Mapping) (t : System) : Prop where
  mem : ∀ k, k < nextTable s ∨ nextTable s + 4096 ≤ k → k ≠ KERNEL_PD_PA.toNat + 8 * m.slot →
    t.mem k = s.mem k
  heap : t.tablePointerHeapBase = s.tablePointerHeapBase ∨
    (t.tablePointerHeapBase.toNat = nextTable s ∧ nextTable s < FAT_ADDRESS.toNat)

theorem mapVa2mb_aligned {flags : UInt64} : mapVa2mb flags s m.va m.pa =
    s.setEntry KERNEL_PD_PA m.slot (m.pa ||| 0x80 ||| flags) := by
  have inside : ¬X64_GET_PDE_INDEX m.va ≥ 512 := Nat.not_le.mpr pde_index_lt
  have bits : (m.pa &&& 0x1FFFFF).toNat = m.pa.toNat % 2 ^ 21 := by
    rw [UInt64.toNat_and]
    exact Nat.and_two_pow_sub_one_eq_mod _ 21
  have aligned : ¬m.pa &&& 0x1FFFFF ≠ 0 := by
    rw [not_not]
    apply UInt64.toNat_inj.mp
    rw [bits, m.aligned]
    rfl
  rw [mapVa2mb, if_neg inside, if_neg aligned]
  rfl

theorem wrote_large {flags : UInt64} : Wrote s m (mapVa2mb flags s m.va m.pa) := by
  rw [mapVa2mb_aligned]
  exact ⟨fun k _ apart => mem_setEntry apart, Or.inl rfl⟩

theorem getTablePointerVa_ok (tables : Tables s) : Returns (getTablePointerVa s) fun out =>
    out.1.toNat = nextTable s ∧ nextTable s < FAT_ADDRESS.toNat ∧
      out.2 = { s with tablePointerHeapBase := out.1 } := by
  have high := tables.high
  have fat : FAT_ADDRESS.toNat = 0x30000 := rfl
  have page : UInt64.toNat 0x1000 = 4096 := rfl
  have sum : (s.tablePointerHeapBase + 0x1000).toNat = nextTable s := by
    rw [UInt64.toNat_add, page, nextTable]
    omega
  rw [getTablePointerVa]
  simp only [returns_ite, returns_error, returns_ok, implies_true, true_and]
  intro low
  refine ⟨sum, ?_, trivial⟩
  rw [← sum]
  exact UInt64.lt_iff_toNat_lt.mp (UInt64.not_le.mp low)

/-- What a mapping with a page table has written. -/
structure Tabled (s : System) (m : Mapping) (flags : UInt64) (t : System) : Prop
    extends Wrote s m t where
  table : ∃ pt : UInt64, pt.toNat = nextTable s ∧ t.tablePointerHeapBase = pt ∧
    t.entry KERNEL_PD_PA m.slot = pt ||| flags ∧
    ∀ i, i < 512 → t.entry pt i = (m.pa + UInt64.ofNat (4096 * i)) ||| flags

theorem mmMap2mb_tabled (tables : Tables s) {flags : UInt64} :
    Returns (mmMap2mbRegionInPd0Imp s m.pa m.va flags) fun out => Tabled s m flags out.2 := by
  have low := tables.low
  have base : DANGER_TABLE_POINTER_HEAP_BASE.toNat = 4096 := rfl
  have fat : FAT_ADDRESS.toNat = 0x30000 := rfl
  have directory : KERNEL_PD_PA.toNat = 0x9A000 := rfl
  have inside : ¬m.slot ≥ 512 := Nat.not_le.mpr pde_index_lt
  rw [mmMap2mbRegionInPd0Imp]
  refine returns_of_bind (getTablePointerVa_ok tables) ?_
  rintro ⟨pt, later⟩ ⟨here, limit, same⟩
  simp only at here limit same
  subst same
  have some : ¬pt = 0 := by
    rintro rfl
    have zero : UInt64.toNat 0 = 0 := rfl
    rw [nextTable] at here
    omega
  have slot : X64_GET_PDE_INDEX m.va = m.slot := rfl
  simp only [if_neg some, slot, if_neg inside, mmFillPageTable]
  rw [returns_ok]
  refine ⟨⟨?_, Or.inr ⟨?_, limit⟩⟩, pt, here, ?_, entry_setEntry, ?_⟩
  · intro k outside apart
    change (System.setEntry _ _ _ _).mem k = _
    rw [mem_setEntry apart, mem_fillEntries (by omega)]
  · change (System.setEntry _ _ _ _).tablePointerHeapBase.toNat = _
    rw [setEntry_heap, fillEntries_heap]
    exact here
  · change (System.setEntry _ _ _ _).tablePointerHeapBase = _
    rw [setEntry_heap, fillEntries_heap]
  · intro i few
    rw [← entry_fillEntries few]
    have slots : m.slot < 512 := pde_index_lt
    apply mem_setEntry
    omega

theorem serve_wrote (tables : Tables s) : Returns (serve s m) fun out => Wrote s m out.2 := by
  unfold serve
  split
  · exact returns_ok.mpr wrote_large
  · exact returns_ok.mpr wrote_large
  · exact (mmMap2mb_tabled tables).mono fun out tabled => tabled.toWrote

theorem tables_kept (tables : Tables s) (wrote : Wrote s m t) : Tables t := by
  have high := tables.high
  have low := tables.low
  have fat : FAT_ADDRESS.toNat = 0x30000 := rfl
  have directory : KERNEL_PD_PA.toNat = 0x9A000 := rfl
  have pdpt : KERNEL_PDPT_PA.toNat = 0x9B000 := rfl
  have pml4 : KERNEL_PML4_PA.toNat = 0x9C000 := rfl
  have slots : m.slot < 512 := pde_index_lt
  have next : nextTable s = s.tablePointerHeapBase.toNat + 4096 := rfl
  have aligned := tables.aligned
  constructor
  · rw [← tables.pml4, System.entry, System.entry, wrote.mem _ (by omega) (by omega)]
  · rw [← tables.pdpt, System.entry, System.entry, wrote.mem _ (by omega) (by omega)]
  · rcases wrote.heap with same | ⟨taken, -⟩
    · rw [same]
      exact tables.aligned
    · omega
  · rcases wrote.heap with same | ⟨taken, -⟩
    · rw [same]
      exact tables.low
    · omega
  · rcases wrote.heap with same | ⟨taken, limit⟩
    · rw [same]
      exact tables.high
    · omega

/-- A page that no mapping writes to: a table that was taken from the heap, or
    the first of a frame. -/
def Quiet (s : System) (q : UInt64) : Prop :=
  (2 * 4096 ≤ q.toNat ∧ q.toNat ≤ s.tablePointerHeapBase.toNat ∧ q.toNat % 4096 = 0) ∨
    q.toNat % 2 ^ 21 = 0

theorem quiet_entry (tables : Tables s) (quiet : Quiet s q) (wrote : Wrote s m t) {i : Nat}
    (inside : i < 512) : t.entry q i = s.entry q i := by
  have low := tables.low
  have base : DANGER_TABLE_POINTER_HEAP_BASE.toNat = 4096 := rfl
  have high := tables.high
  have fat : FAT_ADDRESS.toNat = 0x30000 := rfl
  have directory : KERNEL_PD_PA.toNat = 0x9A000 := rfl
  have slots : m.slot < 512 := pde_index_lt
  have next : nextTable s = s.tablePointerHeapBase.toNat + 4096 := rfl
  have aligned := tables.aligned
  rw [System.entry, System.entry]
  rcases quiet with ⟨first, last, page⟩ | frame
  · exact wrote.mem _ (by omega) (by omega)
  · exact wrote.mem _ (by omega) (by omega)

theorem quiet_kept (quiet : Quiet s q) (wrote : Wrote s m t) : Quiet t q := by
  have next : nextTable s = s.tablePointerHeapBase.toNat + 4096 := rfl
  rcases quiet with ⟨first, last, page⟩ | frame
  · refine Or.inl ⟨first, ?_, page⟩
    rcases wrote.heap with same | ⟨taken, -⟩
    · rw [same]
      exact last
    · omega
  · exact Or.inr frame

/-- A mapping for another entry does not disturb what leads to quiet words. -/
theorem leadsTo_kept (tables : Tables s) (quiet : Quiet s q) (wrote : Wrote s m t)
    (apart : other.slot ≠ m.slot) (leads : LeadsTo s other q) : LeadsTo t other q := by
  have directory : KERNEL_PD_PA.toNat = 0x9A000 := rfl
  have high := tables.high
  have fat : FAT_ADDRESS.toNat = 0x30000 := rfl
  have next : nextTable s = s.tablePointerHeapBase.toNat + 4096 := rfl
  constructor
  · rw [← leads.entry, System.entry, System.entry, wrote.mem _ (by omega) (by omega)]
  · intro i inside
    rw [quiet_entry tables quiet wrote inside]
    exact leads.pages i inside

/-- The pages of a frame below the 48 bits are named by the masked words. -/
theorem page_masked (m : Mapping) (below : m.pa.toNat < 2 ^ 48) {flags : UInt64}
    (low : flags &&& ADDRESS_MASK = 0) {i : Nat} (inside : i < 512) :
    ((m.pa + UInt64.ofNat (4096 * i)) ||| flags) &&& ADDRESS_MASK =
      m.pa + UInt64.ofNat (4096 * i) := by
  have aligned := m.aligned
  have offset : (UInt64.ofNat (4096 * i)).toNat = 4096 * i :=
    UInt64.toNat_ofNat_of_lt' (by
      have size : UInt64.size = 2 ^ 64 := rfl
      omega)
  have sum : (m.pa + UInt64.ofNat (4096 * i)).toNat = m.pa.toNat + 4096 * i := by
    rw [UInt64.toNat_add, offset]
    omega
  apply mask_of_flags _ _ low
  · rw [sum]
    omega
  · rw [sum]
    omega

/-- A mapping that the walk can follow leads to the pages of its frame. -/
theorem serve_leadsTo (tables : Tables s) (walkable : Walkable s m) :
    Returns (serve s m) fun out => ∃ q, LeadsTo out.2 m q ∧ Quiet out.2 q := by
  have below := walkable.below
  have aligned := m.aligned
  have large : ∀ flags : UInt64, (0x80 ||| flags) &&& ADDRESS_MASK = 0 →
      (∀ i, i < 512 → s.entry m.pa i &&& ADDRESS_MASK = m.pa + UInt64.ofNat (4096 * i)) →
      LeadsTo (mapVa2mb flags s m.va m.pa) m m.pa := by
    intro flags low words
    constructor
    · rw [mapVa2mb_aligned, entry_setEntry, UInt64.or_assoc]
      exact mask_of_flags (by omega) below low
    · intro i inside
      rw [← words i inside, quiet_entry tables (Or.inr aligned) wrote_large inside]
  have followed := walkable.followed
  unfold serve
  split
  · rename_i kind
    rw [kind] at followed
    exact returns_ok.mpr ⟨m.pa, large 3 (by decide) followed, Or.inr aligned⟩
  · rename_i kind
    rw [kind] at followed
    exact returns_ok.mpr ⟨m.pa, large 7 (by decide) followed, Or.inr aligned⟩
  · rename_i flags kind
    rw [kind] at followed
    refine (mmMap2mb_tabled tables).mono ?_
    rintro out ⟨-, pt, here, heap, entry, words⟩
    have low := tables.low
    have base : DANGER_TABLE_POINTER_HEAP_BASE.toNat = 4096 := rfl
    have high := tables.high
    have fat : FAT_ADDRESS.toNat = 0x30000 := rfl
    have next : nextTable s = s.tablePointerHeapBase.toNat + 4096 := rfl
    have page := tables.aligned
    refine ⟨pt, ⟨?_, ?_⟩, Or.inl ⟨by omega, ?_, by omega⟩⟩
    · rw [entry]
      exact mask_of_flags (by omega) (by omega) followed
    · intro i inside
      rw [words i inside]
      exact page_masked m below followed inside
    · rw [heap]

/-- A page of 2 MB is translated if and only if its frame begins with a page table
    for itself. -/
theorem large_page_translated_iff (tables : Tables s) (representable : m.Representable)
    (below : m.pa.toNat < 2 ^ 48) {flags : UInt64} (low : (0x80 ||| flags) &&& ADDRESS_MASK = 0) :
    Translates (mapVa2mb flags s m.va m.pa) m ↔
      ∀ i, i < 512 → s.entry m.pa i &&& ADDRESS_MASK = m.pa + UInt64.ofNat (4096 * i) := by
  have aligned := m.aligned
  have entry : (mapVa2mb flags s m.va m.pa).entry KERNEL_PD_PA m.slot &&& ADDRESS_MASK = m.pa := by
    rw [mapVa2mb_aligned, entry_setEntry, UInt64.or_assoc]
    exact mask_of_flags (by omega) below low
  have same : ∀ i, i < 512 →
      (mapVa2mb flags s m.va m.pa).entry m.pa i = s.entry m.pa i :=
    fun i inside => quiet_entry tables (Or.inr aligned) wrote_large inside
  rw [translates_iff (tables_kept tables wrote_large) representable, entry]
  constructor
  · intro leads i inside
    rw [← same i inside]
    exact leads.pages i inside
  · intro words
    refine ⟨entry, fun i inside => ?_⟩
    rw [same i inside]
    exact words i inside

/-- The address is masked before it is looked at, so that above the first GB a
    request is served as one for the alias. -/
theorem serve_alias {n : Mapping} (kind : n.kind = m.kind) (pa : n.pa = m.pa)
    (same : n.va.toNat % 2 ^ 30 = m.va.toNat % 2 ^ 30) : serve s n = serve s m := by
  have index : X64_GET_PDE_INDEX n.va = X64_GET_PDE_INDEX m.va := by
    rw [pde_index, pde_index]
    omega
  simp only [serve, kind, pa, mapKernelVa2mb, mapUserVa2mb, mapVa2mb, mmMap2mbRegionInPd0Imp,
    index]

theorem walkable_kept (tables : Tables s) (wrote : Wrote s m t) (walkable : Walkable s other) :
    Walkable t other := by
  refine ⟨walkable.representable, walkable.below, ?_⟩
  have followed := walkable.followed
  cases kind : other.kind with
  | table flags =>
      rw [kind] at followed
      exact followed
  | kernel =>
      rw [kind] at followed
      intro i inside
      rw [quiet_entry tables (Or.inr other.aligned) wrote inside]
      exact followed i inside
  | user =>
      rw [kind] at followed
      intro i inside
      rw [quiet_entry tables (Or.inr other.aligned) wrote inside]
      exact followed i inside

end Steps

section Runs

variable {s t : System} {done early : List Mapping} {outs : List Int}

/-- Along a run every region that was mapped leads to the pages of its frame. -/
theorem run_leads (tables : Tables s) (walkable : ∀ m ∈ early, Walkable s m)
    (distinct : (early.map Mapping.slot).Nodup)
    (led : ∀ m ∈ done, ∃ q, LeadsTo s m q ∧ Quiet s q)
    (apart : ∀ m ∈ done, ∀ n ∈ early, m.slot ≠ n.slot)
    (served : run serve s early = .ok (outs, t)) :
    Tables t ∧ ∀ m, m ∈ done ∨ m ∈ early → ∃ q, LeadsTo t m q ∧ Quiet t q := by
  induction early generalizing s done outs with
  | nil =>
      cases served
      refine ⟨tables, fun m member => led m ?_⟩
      exact member.resolve_right List.not_mem_nil
  | cons n rest ih =>
      rcases run_cons_ok served with ⟨value, u, more, first, later, rfl⟩
      have wrote : Wrote s n u := serve_wrote tables _ first
      have here := walkable n (List.mem_cons_self ..)
      rw [List.map_cons, List.nodup_cons] at distinct
      have next : ∀ m ∈ n :: done, ∃ q, LeadsTo u m q ∧ Quiet u q := by
        intro m member
        rcases List.mem_cons.mp member with rfl | older
        · exact serve_leadsTo tables here _ first
        · rcases led m older with ⟨q, leads, quiet⟩
          have other := apart m older n (List.mem_cons_self ..)
          exact ⟨q, leadsTo_kept tables quiet wrote other leads, quiet_kept quiet wrote⟩
      have still : ∀ m ∈ rest, Walkable u m := fun m member =>
        walkable_kept tables wrote (walkable m (List.mem_cons_of_mem n member))
      have others : ∀ m ∈ n :: done, ∀ k ∈ rest, m.slot ≠ k.slot := by
        intro m member k behind
        rcases List.mem_cons.mp member with rfl | older
        · intro same
          apply distinct.1
          rw [same]
          exact List.mem_map_of_mem behind
        · exact apart m older k (List.mem_cons_of_mem n behind)
      rcases ih (tables_kept tables wrote) still distinct.2 next others later with ⟨last, leads⟩
      refine ⟨last, fun m member => leads m ?_⟩
      rcases member with older | listed
      · exact Or.inl (List.mem_cons_of_mem n older)
      · rcases List.mem_cons.mp listed with rfl | behind
        · exact Or.inl (List.mem_cons_self ..)
        · exact Or.inr behind

end Runs

/-- In a run of mappings for different entries that the walk can follow, the
    translation agrees with the mappings. -/
theorem translation_agrees (kernel : Kernel) (mappings : List Mapping)
    (distinct : (mappings.map Mapping.slot).Nodup)
    (walkable : ∀ m ∈ mappings, Walkable kernel.system m) : Agree kernel.system mappings := by
  intro early outs t start served
  have part : ∀ m ∈ early, m ∈ mappings := fun m member => start.subset member
  have separate : (early.map Mapping.slot).Nodup :=
    distinct.sublist (start.sublist.map Mapping.slot)
  have none : ∀ m ∈ ([] : List Mapping), ∃ q, LeadsTo kernel.system m q ∧ Quiet kernel.system q :=
    fun _ member => nomatch member
  rcases run_leads kernel.tables (fun m member => walkable m (part m member)) separate none
    (fun _ member => nomatch member) served with ⟨tables, leads⟩
  constructor
  · intro m member representable
    rcases leads m (Or.inr member) with ⟨q, there, -⟩
    exact translates_of_leadsTo tables representable there
  · intro m out next beyond _
    have listed : m ∈ mappings := next.subset (List.mem_append_right _ (List.mem_singleton.mpr rfl))
    exact absurd (walkable m listed).representable beyond

/-- The tables as they are built, with nothing mapped yet. -/
def boot : System where
  mem := fun k => if k = 0x9C000 then 0x9B007 else if k = 0x9B000 then 0x9A007 else 0
  tablePointerHeapBase := DANGER_TABLE_POINTER_HEAP_BASE

def bootKernel : Kernel where
  system := boot
  tables := ⟨by decide, by decide, by decide, by decide, by decide⟩

/-- A driver's region at 256 MB, as `mm_map_2mb_region_in_pd0` maps it. -/
def module0 : Mapping :=
  ⟨.table 0x1B, 0x10000000, 0x10000000, by decide⟩

theorem module0_agrees : Agree boot [module0] := by
  apply translation_agrees bootKernel [module0]
  · decide
  · intro m member
    rw [List.mem_singleton.mp member]
    refine ⟨?_, by decide, ?_⟩
    · change UInt64.toNat 0x10000000 < 2 ^ 30
      decide
    · change (0x1B : UInt64) &&& ADDRESS_MASK = 0
      decide

/-- The first of the buffers that are mapped for the compositor. -/
def canvas : Mapping :=
  ⟨.user, 0x400000, 0x400000, by decide⟩

/-- The walk takes the zeros in the buffer for its page table. -/
theorem large_page_is_not_translated : ¬Agree boot [canvas] := by
  intro agree
  have served : run serve boot [canvas] = .ok ([0], mapUserVa2mb boot 0x400000 0x400000) := rfl
  have representable : canvas.Representable := by
    change UInt64.toNat 0x400000 < 2 ^ 30
    decide
  have translates := (agree [canvas] _ _ (List.prefix_refl _) served).1 canvas
    (List.mem_singleton.mpr rfl) representable 0x400123 (by decide)
  have walked : virtualToPhysical (mapUserVa2mb boot 0x400000 0x400000) 0x400123 KERNEL_PML4_PA =
      .ok 0x123 := rfl
  rw [walked] at translates
  exact absurd (Except.ok.inj translates) (by decide)

end Gramado.Mm.Translation
