/-
`mm_kcalloc` down to the bytes: the product of two `int`, what the allocator is asked for,
and the loop of `memset`. The product is exact only below 2^32, and it is the low bits of
it that are allocated and cleared.
-/
import Gramado.Mm.HeapBlocks
import Mathlib.Logic.Function.Basic

namespace Gramado.Mm.Kcalloc

open Gramado.Ke
open Gramado.Lib.Machine
open Function

section Model

/-- The loop of `memset`, with `n` bytes to go. -/
def setBytes (value : UInt8) : Nat → (Nat → UInt8) → Nat → Nat → UInt8
  | 0, mem, _ => mem
  | n + 1, mem, temp => setBytes value n (update mem temp value) (temp + 1)

def memset (mem : Nat → UInt8) (ptr : Nat) (value : UInt8) (size : Int32) : Nat → UInt8 :=
  if ptr ≠ 0 ∧ 0 < size then
    setBytes value size.toNatClampNeg mem ptr
  else
    mem

/-- `new_size`, an `int`. -/
def newSize (count size : Int32) : Int32 :=
  if count ≤ 0 then size else count * size

/-- `ul_size`: the low 32 bits without a sign. -/
def ulSize (count size : Int32) : UInt64 :=
  UInt64.ofNat (newSize count size).toUInt32.toNat

/-- The call with the memory that its `memset` writes to. -/
def mmKcallocBytes (heap : Heap) (mem : Nat → UInt8) (count size : Int32) :
    Except Stop (Nat × (Nat → UInt8) × Heap) :=
  match heapAllocateMemory heap (ulSize count size) with
  | .error stop => .error stop
  | .ok (ptr, heap) =>
      .ok (ptr, if ptr ≠ 0 then memset mem ptr 0 (newSize count size) else mem, heap)

/-- It is the call of the heap's model, which only says what range is cleared. -/
theorem mmKcalloc_eq (heap : Heap) (mem : Nat → UInt8) (count size : Int32) :
    mmKcalloc heap count size = (mmKcallocBytes heap mem count size).map fun out =>
      (out.1, if out.1 ≠ 0 then some (out.1, (newSize count size).toNatClampNeg) else none,
        out.2.2) := by
  unfold mmKcalloc mmKmallocImpl mmKcallocBytes ulSize newSize
  cases heapAllocateMemory heap
    (UInt64.ofNat (if count ≤ 0 then size else count * size).toUInt32.toNat) with
  | error stop => rfl
  | ok out => simp [Except.map]

end Model

/-- How many bytes are asked for, exactly. -/
def product (count size : Int32) : Int :=
  count.toInt * size.toInt

/-- The block has room for that many bytes, they are zero, and nothing else was written. -/
structure Cleared (mem after : Nat → UInt8) (bytes : Int) (block : Mmblock) : Prop where
  room : bytes ≤ block.userareaSize
  zero : ∀ k, block.userArea ≤ k → (k : Int) < block.userArea + bytes → after k = 0
  apart : ∀ k, k < block.userArea ∨ block.userArea + block.userareaSize ≤ k → after k = mem k

/-- What is asked of a call: NULL, or a block of the heap with the bytes cleared. -/
def Serves (heap : Heap) (mem : Nat → UInt8) (count size : Int32) : Prop :=
  ∀ ptr after next, mmKcallocBytes heap mem count size = .ok (ptr, after, next) →
    (ptr = 0 ∧ after = mem) ∨ ∃ block ∈ next.mmblockList, block.userArea = ptr ∧
      Cleared mem after (product count size) block

/-- The allocator goes on to a block. -/
def Goes (heap : Heap) (count size : Int32) : Prop :=
  userAreaInBytes (ulSize count size) < heap.availableHeap

instance {heap : Heap} {count size : Int32} : Decidable (Goes heap count size) :=
  inferInstanceAs (Decidable (_ < _))

/-- The list is full, or the pointer has left the heap. -/
def Panics (heap : Heap) : Prop :=
  MMBLOCK_COUNT_MAX ≤ heap.mmblockCount + 1 ∨ heap.heapPointer < KERNEL_HEAP_START ∨
    KERNEL_HEAP_END ≤ heap.heapPointer

section Bytes

variable {value : UInt8} {mem : Nat → UInt8} {n temp k : Nat}

theorem setBytes_apply : setBytes value n mem temp k =
    if temp ≤ k ∧ k < temp + n then value else mem k := by
  induction n generalizing mem temp with
  | zero =>
      have none : ¬(temp ≤ k ∧ k < temp + 0) := by omega
      rw [setBytes, if_neg none]
  | succ n ih =>
      rw [setBytes, ih]
      by_cases here : k = temp
      · subst here
        have later : ¬(k + 1 ≤ k ∧ k < k + 1 + n) := by omega
        have first : k ≤ k ∧ k < k + (n + 1) := by omega
        rw [if_neg later, if_pos first, update_self]
      · rw [update_of_ne here]
        congr 1
        simp only [eq_iff_iff]
        omega

end Bytes

section Sizes

variable {count size n : Int32}

theorem toUInt32_toNat : (n.toUInt32.toNat : Int) = n.toInt % 2 ^ 32 := by
  have signed : n.toInt = (n.toUInt32.toNat : Int).bmod (2 ^ 32) :=
    BitVec.toInt_eq_toNat_bmod n.toBitVec
  have bound := n.toUInt32.toNat_lt
  rw [signed, Int.bmod_def]
  split <;> omega

theorem ulSize_toNat : (ulSize count size).toNat = (newSize count size).toUInt32.toNat :=
  UInt64.toNat_ofNat_of_lt' (Nat.lt_trans (newSize count size).toUInt32.toNat_lt (by decide))

theorem ulSize_mod (positive : 0 < count.toInt) :
    ((ulSize count size).toNat : Int) = product count size % 2 ^ 32 := by
  have more : ¬count ≤ 0 := by
    rw [Int32.le_iff_toInt_le]
    change ¬count.toInt ≤ 0
    omega
  rw [ulSize_toNat, newSize, if_neg more, toUInt32_toNat, Int32.toInt_mul, product]
  exact Int.bmod_emod

end Sizes

section Calls

variable {heap next : Heap} {mem after : Nat → UInt8} {count size : Int32} {ptr : Nat}

theorem stops_iff : (∃ stop, mmKcallocBytes heap mem count size = .error stop) ↔
    Goes heap count size ∧ Panics heap := by
  have call : (∃ stop, mmKcallocBytes heap mem count size = .error stop) ↔
      ∃ stop, heapAllocateMemory heap (ulSize count size) = .error stop := by
    unfold mmKcallocBytes
    cases heapAllocateMemory heap (ulSize count size) <;> simp
  have some_bytes := userAreaInBytes_pos (ulSize count size)
  rw [call, heapAllocateMemory, Goes, Panics]
  split
  next empty => simp [empty]
  next room =>
    split
    next large => exact iff_of_false (by rintro ⟨stop, ⟨⟩⟩) (by omega)
    next fits =>
      split
      next full => exact iff_of_true ⟨_, rfl⟩ ⟨by omega, Or.inl full⟩
      next listed =>
        split
        next outside => exact iff_of_true ⟨_, rfl⟩ ⟨by omega, Or.inr outside⟩
        next inside => exact iff_of_false (by rintro ⟨stop, ⟨⟩⟩) (by omega)

/-- Where the heap has room, the size handed to `memset` is the one handed to the
    allocator. -/
theorem newSize_eq (small : (ulSize count size).toNat < 2 ^ 31) :
    (newSize count size).toInt = (ulSize count size).toNat := by
  rw [ulSize_toNat] at small ⊢
  have low := toUInt32_toNat (n := newSize count size)
  have floor := Int32.le_toInt (newSize count size)
  have ceiling := Int32.toInt_lt (newSize count size)
  omega

theorem product_le (small : (ulSize count size).toNat < 2 ^ 31)
    (fits : ¬(0 < count.toInt ∧ 2 ^ 32 ≤ product count size)) :
    product count size ≤ (ulSize count size).toNat := by
  by_cases positive : 0 < count.toInt
  · have low := @ulSize_mod count size positive
    omega
  · have none : count ≤ 0 := by
      rw [Int32.le_iff_toInt_le]
      change count.toInt ≤ 0
      omega
    -- without a count the size itself is asked for, which the heap has no room for unless
    -- it is no less than 0
    have same := newSize_eq small
    rw [newSize, if_pos none] at same
    have nonneg : 0 ≤ size.toInt := by omega
    have zero : product count size ≤ 0 :=
      Int.mul_nonpos_of_nonpos_of_nonneg (by omega) nonneg
    omega

theorem memset_apply {k : Nat} {value : UInt8} {n : Int32} (some_ptr : ptr ≠ 0) :
    memset mem ptr value n k =
      if ptr ≤ k ∧ (k : Int) < ptr + n.toInt then value else mem k := by
  unfold memset
  by_cases positive : 0 < n
  · have sign : 0 < n.toInt := Int32.lt_iff_toInt_lt.mp positive
    rw [if_pos ⟨some_ptr, positive⟩, setBytes_apply, Int32.toNatClampNeg]
    congr 1
    simp only [eq_iff_iff]
    omega
  · have sign : ¬0 < n.toInt := fun more => positive (Int32.lt_iff_toInt_lt.mpr more)
    rw [if_neg (fun both => positive both.2), if_neg (by omega)]

theorem returns_cases (layout : Layout heap)
    (served : mmKcallocBytes heap mem count size = .ok (ptr, after, next)) :
    (¬Goes heap count size ∧ ptr = 0 ∧ after = mem) ∨ (Goes heap count size ∧ ptr ≠ 0) := by
  unfold mmKcallocBytes at served
  cases allocated : heapAllocateMemory heap (ulSize count size) with
  | error stop =>
      rw [allocated] at served
      cases served
  | ok out =>
      obtain ⟨p, heap'⟩ := out
      rw [allocated] at served
      cases served
      obtain ⟨refused, zero, -⟩ | ⟨goes, -, inside, pointer, -⟩ := allocate_cases allocated
      · exact Or.inl ⟨Nat.not_lt.mpr refused, zero, if_neg (not_not_intro zero)⟩
      · refine Or.inr ⟨goes, ?_⟩
        rw [pointer, (newBlock_shape layout goes inside).1, MMBLOCK_HEADER_SIZE]
        omega

/-- A block of the heap has the bytes that the product asks for exactly if the product is
    below 2^32, or there is nothing to count. -/
theorem cleared_iff (layout : Layout heap) (goes : Goes heap count size)
    (served : mmKcallocBytes heap mem count size = .ok (ptr, after, next)) :
    (∃ block ∈ next.mmblockList, block.userArea = ptr ∧
      Cleared mem after (product count size) block) ↔
      ¬(0 < count.toInt ∧ 2 ^ 32 ≤ product count size) := by
  unfold mmKcallocBytes at served
  cases allocated : heapAllocateMemory heap (ulSize count size) with
  | error stop =>
      rw [allocated] at served
      cases served
  | ok out =>
      obtain ⟨p, heap'⟩ := out
      rw [allocated] at served
      cases served
      unfold Goes at goes
      obtain ⟨refused, -, -⟩ | ⟨-, -, inside, pointer, pushed⟩ := allocate_cases allocated
      · omega
      · have total := layout.counted (Nat.le_of_lt inside)
        -- The size that was asked for is the product modulo 2^32, and so is what memset clears.
        have whole := size_le_userAreaInBytes (ulSize count size)
        simp only [KERNEL_HEAP_END] at total
        have small : (ulSize count size).toNat < 2 ^ 31 := by omega
        have area := (newBlock_shape layout goes inside).1
        have some_ptr : ptr ≠ 0 := by
          rw [pointer, area, MMBLOCK_HEADER_SIZE]
          omega
        have listed : newBlock heap (userAreaInBytes (ulSize count size)) ∈ next.mmblockList := by
          rw [pushed]
          exact List.mem_append_right _ (List.mem_singleton.mpr rfl)
        have exact_size := newSize_eq small
        have bytes : ∀ k, (if ptr ≠ 0 then memset mem ptr 0 (newSize count size) else mem) k =
            if ptr ≤ k ∧ k < ptr + (ulSize count size).toNat then 0 else mem k := by
          intro k
          rw [if_pos some_ptr, memset_apply some_ptr, exact_size]
          congr 1
          simp only [eq_iff_iff]
          omega
        constructor
        · -- A product that wrapped leaves the block shorter than the product.
          rintro ⟨block, member, at_ptr, cleared⟩ ⟨positive, large⟩
          have same := HeapBlocks.same_block (allocate_layout layout allocated) member listed
            (at_ptr.trans pointer)
          have room := cleared.room
          rw [same] at room
          change product count size ≤ (userAreaInBytes (ulSize count size) : Nat) at room
          omega
        · intro fits
          have short := product_le small fits
          refine ⟨_, listed, pointer.symm, ?_, ?_, ?_⟩
          · change product count size ≤ (userAreaInBytes (ulSize count size) : Nat)
            omega
          · rw [← pointer]
            intro k low high
            rw [bytes, if_pos (by omega)]
          · rw [← pointer]
            change ∀ k, k < ptr ∨ ptr + userAreaInBytes (ulSize count size) ≤ k → _
            intro k outside
            rw [bytes, if_neg (by omega)]

/-- A call that returns serves the caller unless it has gone on to a block for the low bits
    of a larger product. -/
theorem serves_iff (layout : Layout heap) : Serves heap mem count size ↔
    ¬(Goes heap count size ∧ ¬Panics heap ∧ 0 < count.toInt ∧ 2 ^ 32 ≤ product count size) := by
  cases call : mmKcallocBytes heap mem count size with
  | error stop =>
      have stops := stops_iff.mp ⟨stop, call⟩
      refine iff_of_true ?_ fun goes => goes.2.1 stops.2
      intro ptr after next served
      rw [call] at served
      cases served
  | ok out =>
      obtain ⟨ptr, after, next⟩ := out
      have alive : ¬(Goes heap count size ∧ Panics heap) := by
        rw [← stops_iff, call]
        rintro ⟨stop, ⟨⟩⟩
      have only : Serves heap mem count size ↔ (ptr = 0 ∧ after = mem) ∨
          ∃ block ∈ next.mmblockList, block.userArea = ptr ∧
            Cleared mem after (product count size) block := by
        constructor
        · exact fun serves => serves ptr after next call
        · intro result ptr' after' next' served
          rw [call] at served
          cases served
          exact result
      rw [only]
      obtain ⟨stays, zero, same⟩ | ⟨goes, some_ptr⟩ := returns_cases layout call
      · exact iff_of_true (Or.inl ⟨zero, same⟩) fun holds => stays holds.1
      · have alive' : ¬Panics heap := fun panics => alive ⟨goes, panics⟩
        rw [cleared_iff layout goes call]
        constructor
        · rintro (⟨zero, -⟩ | fits) holds
          · exact some_ptr zero
          · exact fits holds.2.2
        · exact fun short => Or.inr fun large => short ⟨goes, alive', large⟩

end Calls

/-- On every heap that calls can lead to, a call either panics, which it does exactly where
    the allocator would go on with a full list or a pointer outside the heap, or it returns;
    and what it returns is as large as asked for unless the heap has room for the low bits of
    a product from 2^32 on. -/
theorem kcalloc_iff {requests : List Request} {replies : List Reply} {heap : Heap}
    (served : run serve initKernelHeap requests = .ok (replies, heap))
    (mem : Nat → UInt8) (count size : Int32) :
    ((∃ stop, mmKcallocBytes heap mem count size = .error stop) ↔
      Goes heap count size ∧ Panics heap) ∧
    (Serves heap mem count size ↔
      ¬(Goes heap count size ∧ ¬Panics heap ∧ 0 < count.toInt ∧
        2 ^ 32 ≤ product count size)) := by
  have layout : Layout heap :=
    @run_keeps _ _ _ _ serve (fun _ _ => True) Layout
      (fun _ _ _ _ layout _ served => serve_layout layout served) _ _ _ _ initKernelHeap_layout
      (guarded_of_always (fun _ _ => trivial) _ _) served
  exact ⟨stops_iff, serves_iff layout⟩

/-- 16 times 64 bytes, on the heap as it is initialized. -/
theorem initKernelHeap_serves : Serves initKernelHeap (fun _ => 0xFF) 16 64 := by
  apply (@kcalloc_iff [] [] initKernelHeap rfl (fun _ => 0xFF) 16 64).2.mpr
  rintro ⟨-, -, -, large⟩
  exact absurd large (by decide)

/-- 65536 times 65537 bytes are asked for, and the block that is returned has 65536. -/
theorem product_wraps : ¬∀ (requests : List Request) (replies : List Reply) (heap : Heap),
    run serve initKernelHeap requests = .ok (replies, heap) →
      ∀ mem count size, Serves heap mem count size := by
  intro all
  have layout := initKernelHeap_layout
  apply (serves_iff layout).mp (all [] [] initKernelHeap rfl (fun _ => 0) 65536 65537)
  refine ⟨by decide, ?_, by decide, by decide⟩
  rintro (full | front | past)
  · exact absurd full (by decide)
  · exact absurd front (by decide)
  · exact absurd past (by decide)

end Gramado.Mm.Kcalloc
