/-
Paging: the page tables of the kernel in its first page directory, as
paging.c fills them and x64mm.c walks them. Memory is read and written in
words of 8 bytes at the addresses that the kernel uses, which are the physical
ones wherever tables lie. The flags word of an entry is in its low and its
high bits, the address of the next table in bits 12 to 47.
-/
import Gramado.Ke
import Mathlib.Data.Nat.Bitwise

namespace Gramado.Mm.Paging

open Gramado.Ke

def KERNEL_PD_PA : UInt64 := 0x9A000

def KERNEL_PDPT_PA : UInt64 := 0x9B000

def KERNEL_PML4_PA : UInt64 := 0x9C000

def FAT_ADDRESS : UInt64 := 0x30000

def DANGER_TABLE_POINTER_HEAP_BASE : UInt64 := 0x1000

/-- The bits of an entry that name the next table. -/
def ADDRESS_MASK : UInt64 := 0xFFFFFFFFF000

structure System where
  mem : Nat → UInt64
  tablePointerHeapBase : UInt64

/-- `table[i]` of a table of words at the address. -/
def System.entry (s : System) (table : UInt64) (i : Nat) : UInt64 :=
  s.mem (table.toNat + 8 * i)

def System.setEntry (s : System) (table : UInt64) (i : Nat) (word : UInt64) : System :=
  { s with mem := fun k => if k = table.toNat + 8 * i then word else s.mem k }

/-- `X64_GET_PDE_INDEX`: the address is cut to 32 bits first. -/
def X64_GET_PDE_INDEX (va : UInt64) : Nat :=
  ((va.toUInt32 >>> 21) &&& 0x1FF).toNat

def getTablePointerVa (s : System) : Except Stop (UInt64 × System) :=
  let base := s.tablePointerHeapBase + 0x1000
  if base ≥ FAT_ADDRESS then
    .error (.panic "get_table_pointer_va: [FIXME] Limits\n")
  else
    .ok (base, { s with tablePointerHeapBase := base })

/-- The loop of `mm_fill_page_table`, for the first `n` entries. -/
def fillEntries (pt pa flags : UInt64) : Nat → System → System
  | 0, s => s
  | n + 1, s => (fillEntries pt pa flags n s).setEntry pt n
    ((pa + UInt64.ofNat (4096 * n)) ||| flags)

def mmFillPageTable (s : System) (directory : UInt64) (directoryEntry : Nat)
    (pt region2mbPa flags : UInt64) : System :=
  if directoryEntry ≥ 512 then
    s
  else
    (fillEntries pt region2mbPa flags 512 s).setEntry directory directoryEntry (pt ||| flags)

def mmMap2mbRegionInPd0Imp (s : System) (pa va flags : UInt64) : Except Stop (Int × System) := do
  let (pt, s) ← getTablePointerVa s
  if pt = 0 then
    .ok (-1, s)
  else if X64_GET_PDE_INDEX va ≥ 512 then
    .ok (-1, s)
  else
    .ok (0, mmFillPageTable s KERNEL_PD_PA (X64_GET_PDE_INDEX va) pt pa flags)

/-- An entry for a page of 2 MB: bit 7 (PS) beside the flags. -/
def mapVa2mb (flags : UInt64) (s : System) (va physAddr : UInt64) : System :=
  if X64_GET_PDE_INDEX va ≥ 512 then
    s
  else if physAddr &&& 0x1FFFFF ≠ 0 then
    s
  else
    s.setEntry KERNEL_PD_PA (X64_GET_PDE_INDEX va) (physAddr ||| 0x80 ||| flags)

def mapKernelVa2mb : System → UInt64 → UInt64 → System :=
  mapVa2mb 0x3

def mapUserVa2mb : System → UInt64 → UInt64 → System :=
  mapVa2mb 0x7

/-- The walk of `__virtual_to_physical`. Where it prints a message and loops for
    ever, the message stands for it. -/
def virtualToPhysical (s : System) (virtualAddress pml4Va : UInt64) : Except Stop UInt64 :=
  let a := ((virtualAddress >>> 39) &&& 0x1FF).toNat
  let b := ((virtualAddress >>> 30) &&& 0x1FF).toNat
  let d := ((virtualAddress >>> 21) &&& 0x1FF).toNat
  let t := ((virtualAddress >>> 12) &&& 0x1FF).toNat
  let o := virtualAddress &&& 0xFFF
  if a ≠ 0 then
    .error (.fault "__virtual_to_physical: [TODO] a != 0 \n")
  else if b ≠ 0 then
    .error (.fault "__virtual_to_physical: [TODO] b != 0 \n")
  else if pml4Va = 0 then
    .error (.panic "__virtual_to_physical: [FAIL] Invalid pml4_va\n")
  else
    let ptpt := s.entry pml4Va a &&& ADDRESS_MASK
    let dir := s.entry ptpt b &&& ADDRESS_MASK
    let pt := s.entry dir d &&& ADDRESS_MASK
    let address := s.entry pt t &&& ADDRESS_MASK
    .ok (address + o)

section Words

variable {x y : UInt64}

theorem mask_or : (x ||| y) &&& ADDRESS_MASK = (x &&& ADDRESS_MASK) ||| (y &&& ADDRESS_MASK) := by
  apply UInt64.toNat_inj.mp
  simp only [UInt64.toNat_and, UInt64.toNat_or]
  exact Nat.and_or_distrib_right ..

/-- An address of a page below the 48 bits is what the mask leaves of it. -/
theorem mask_of_aligned (aligned : x.toNat % 4096 = 0) (low : x.toNat < 2 ^ 48) :
    x &&& ADDRESS_MASK = x := by
  apply UInt64.toNat_inj.mp
  have small : x.toNat / 4096 < 2 ^ 36 := by omega
  have split : x.toNat = (x.toNat / 4096) <<< 12 := by
    rw [Nat.shiftLeft_eq]
    omega
  have mask : ADDRESS_MASK.toNat = (2 ^ 36 - 1) <<< 12 := by decide
  rw [UInt64.toNat_and, mask, split, ← Nat.shiftLeft_and_distrib, Nat.and_two_pow_sub_one_eq_mod,
    Nat.mod_eq_of_lt small]

theorem mask_of_flags (aligned : x.toNat % 4096 = 0) (low : x.toNat < 2 ^ 48)
    (flags : y &&& ADDRESS_MASK = 0) : (x ||| y) &&& ADDRESS_MASK = x := by
  rw [mask_or, mask_of_aligned aligned low, flags, UInt64.or_zero]

theorem nine_bits (shift : UInt64) (small : shift.toNat < 64) :
    ((x >>> shift) &&& 0x1FF).toNat = x.toNat / 2 ^ shift.toNat % 512 := by
  have bits : ((x >>> shift) &&& 0x1FF).toNat = (x >>> shift).toNat % 512 := by
    rw [UInt64.toNat_and]
    exact Nat.and_two_pow_sub_one_eq_mod _ 9
  rw [bits, UInt64.toNat_shiftRight, Nat.mod_eq_of_lt small, Nat.shiftRight_eq_div_pow]

theorem offset_bits : (x &&& 0xFFF).toNat = x.toNat % 4096 := by
  rw [UInt64.toNat_and]
  exact Nat.and_two_pow_sub_one_eq_mod _ 12

theorem pde_index : X64_GET_PDE_INDEX x = x.toNat / 2 ^ 21 % 512 := by
  have bits : X64_GET_PDE_INDEX x = (x.toUInt32 >>> 21).toNat % 512 := by
    rw [X64_GET_PDE_INDEX, UInt32.toNat_and]
    exact Nat.and_two_pow_sub_one_eq_mod _ 9
  have shift : (x.toUInt32 >>> 21).toNat = x.toNat % 2 ^ 32 / 2 ^ 21 := by
    rw [UInt32.toNat_shiftRight, UInt64.toNat_toUInt32, Nat.shiftRight_eq_div_pow]
    rfl
  rw [bits, shift]
  omega

theorem pde_index_lt : X64_GET_PDE_INDEX x < 512 := by
  rw [pde_index]
  exact Nat.mod_lt _ (by decide)

end Words

section Entries

variable {s : System} {table other : UInt64} {i j : Nat} {word : UInt64}

@[simp] theorem setEntry_heap :
    (s.setEntry table i word).tablePointerHeapBase = s.tablePointerHeapBase := rfl

theorem entry_setEntry : (s.setEntry table i word).entry table i = word := by
  simp [System.entry, System.setEntry]

theorem mem_setEntry {k : Nat} (apart : k ≠ table.toNat + 8 * i) :
    (s.setEntry table i word).mem k = s.mem k := by
  simp [System.setEntry, apart]

theorem entry_fillEntries {pt pa flags : UInt64} {n : Nat} (inside : i < n) :
    (fillEntries pt pa flags n s).entry pt i = (pa + UInt64.ofNat (4096 * i)) ||| flags := by
  induction n with
  | zero => cases inside
  | succ n ih =>
      rcases Nat.lt_succ_iff_lt_or_eq.mp inside with early | rfl
      · rw [← ih early]
        exact mem_setEntry (by omega)
      · exact entry_setEntry

theorem mem_fillEntries {pt pa flags : UInt64} {n k : Nat}
    (outside : k < pt.toNat ∨ pt.toNat + 8 * n ≤ k) :
    (fillEntries pt pa flags n s).mem k = s.mem k := by
  induction n with
  | zero => rfl
  | succ n ih =>
      rw [fillEntries, mem_setEntry (by omega)]
      exact ih (by omega)

@[simp] theorem fillEntries_heap {pt pa flags : UInt64} {n : Nat} :
    (fillEntries pt pa flags n s).tablePointerHeapBase = s.tablePointerHeapBase := by
  induction n with
  | zero => rfl
  | succ n ih => exact ih

end Entries

end Gramado.Mm.Paging
