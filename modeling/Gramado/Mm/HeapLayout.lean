/-
What every call on the kernel heap keeps, near exhaustion too: the blocks lie
end to end from the start of the heap to the heap pointer, and the counter is
right for as long as the pointer has not passed the end.
-/
import Gramado.Lib.Extents
import Gramado.Mm.Heap

namespace Gramado.Mm

open Gramado.Ke
open Gramado.Lib.Extents

/-- The size that a request hands to the allocator, if it comes to that. -/
def asked : Request → Option UInt64
  | .heapAllocateMemory size => some size
  | .mmKmalloc _ size =>
      if size < 0 then none
      else some (UInt64.ofNat (if size = 0 then 1 else size).toUInt32.toNat)
  | .mmKcalloc count size =>
      some (UInt64.ofNat (if count ≤ 0 then size else count * size).toUInt32.toNat)
  | .heapFreeMemory _ => none
  | .heapReuseMemory _ _ => none

structure Layout (heap : Heap) : Prop where
  fills : Fills Mmblock.header Mmblock.footer KERNEL_HEAP_START heap.mmblockList
    heap.heapPointer
  shape : ∀ block ∈ heap.mmblockList,
    block.userArea = block.header + MMBLOCK_HEADER_SIZE ∧
      block.footer = block.userArea + block.userareaSize
  used : ∀ block ∈ heap.mmblockList, block.used = true
  counted : heap.heapPointer ≤ KERNEL_HEAP_END →
    heap.heapPointer + heap.availableHeap = KERNEL_HEAP_END

theorem initKernelHeap_layout : Layout initKernelHeap where
  fills := rfl
  shape := fun _ member => nomatch member
  used := fun _ member => nomatch member
  counted := fun _ => rfl

theorem userAreaInBytes_pos (size : UInt64) : 0 < userAreaInBytes size := by
  unfold userAreaInBytes
  split <;> omega

theorem size_le_userAreaInBytes (size : UInt64) : size.toNat ≤ userAreaInBytes size := by
  unfold userAreaInBytes
  split <;> omega

section Allocation

variable {heap next : Heap} {size : UInt64} {ptr : Nat}

/-- An allocation is refused and nothing happens, or a block is put at the
    heap pointer. -/
theorem allocate_cases (served : heapAllocateMemory heap size = .ok (ptr, next)) :
    (heap.availableHeap ≤ userAreaInBytes size ∧ ptr = 0 ∧ next = heap) ∨
      (userAreaInBytes size < heap.availableHeap ∧
        KERNEL_HEAP_START ≤ heap.heapPointer ∧ heap.heapPointer < KERNEL_HEAP_END ∧
        ptr = (newBlock heap (userAreaInBytes size)).userArea ∧
        next = heap.push (newBlock heap (userAreaInBytes size))) := by
  unfold heapAllocateMemory at served
  split at served
  · cases served
    exact Or.inl ⟨by omega, rfl, rfl⟩
  · split at served
    · cases served
      exact Or.inl ⟨by assumption, rfl, rfl⟩
    · split at served
      · cases served
      · split at served
        · cases served
        · cases served
          exact Or.inr ⟨by omega, by omega, by omega, rfl, rfl⟩

theorem newBlock_shape (layout : Layout heap)
    (admitted : userAreaInBytes size < heap.availableHeap)
    (inside : heap.heapPointer < KERNEL_HEAP_END) :
    (newBlock heap (userAreaInBytes size)).userArea =
        heap.heapPointer + MMBLOCK_HEADER_SIZE ∧
      (newBlock heap (userAreaInBytes size)).footer =
        heap.heapPointer + MMBLOCK_HEADER_SIZE + userAreaInBytes size := by
  have total := layout.counted (Nat.le_of_lt inside)
  simp only [KERNEL_HEAP_END] at total inside
  simp only [newBlock, MMBLOCK_HEADER_SIZE]
  have start : (heap.heapPointer + 72) % 2 ^ 64 = heap.heapPointer + 72 :=
    Nat.mod_eq_of_lt (by omega)
  rw [start]
  exact ⟨rfl, Nat.mod_eq_of_lt (by omega)⟩

theorem minus_of_le {a b : Nat} (le : b ≤ a) (small : a < 2 ^ 64) : minus a b = a - b := by
  unfold minus
  have shifted : a + 2 ^ 64 - b = a - b + 2 ^ 64 := by omega
  rw [shifted, Nat.add_mod_right, Nat.mod_eq_of_lt (by omega)]

theorem allocate_layout (layout : Layout heap)
    (served : heapAllocateMemory heap size = .ok (ptr, next)) : Layout next := by
  rcases allocate_cases served with ⟨-, -, rfl⟩ | ⟨admitted, -, inside, -, rfl⟩
  · exact layout
  · rcases newBlock_shape layout admitted inside with ⟨area, footer⟩
    have room := userAreaInBytes_pos size
    refine ⟨?_, ?_, ?_, ?_⟩
    · apply layout.fills.push rfl
      rw [footer]
      simp only [newBlock]
      omega
    · intro block member
      rcases List.mem_append.mp member with old | new
      · exact layout.shape block old
      · rw [List.mem_singleton.mp new, area, footer]
        exact ⟨rfl, rfl⟩
    · intro block member
      rcases List.mem_append.mp member with old | new
      · exact layout.used block old
      · rw [List.mem_singleton.mp new]
        rfl
    · intro passed
      have total := layout.counted (Nat.le_of_lt inside)
      change (newBlock heap (userAreaInBytes size)).footer ≤ _ at passed
      change (newBlock heap (userAreaInBytes size)).footer +
        minus heap.availableHeap
          (minus (newBlock heap (userAreaInBytes size)).footer heap.heapPointer) = _
      rw [footer] at passed ⊢
      simp only [KERNEL_HEAP_END, MMBLOCK_HEADER_SIZE] at passed total ⊢
      have small : heap.heapPointer + 72 + userAreaInBytes size < 2 ^ 64 := by omega
      rw [minus_of_le (a := heap.heapPointer + 72 + userAreaInBytes size) (by omega) small,
        minus_of_le (by omega) (by omega)]
      omega

end Allocation

section Marks

variable {heap : Heap} {address : Nat} {f : Mmblock → Mmblock}

/-- A write that changes no more than the flags of a block. -/
structure Marks (f : Mmblock → Mmblock) : Prop where
  header : ∀ block, (f block).header = block.header
  userArea : ∀ block, (f block).userArea = block.userArea
  userareaSize : ∀ block, (f block).userareaSize = block.userareaSize
  footer : ∀ block, (f block).footer = block.footer
  used : ∀ block, block.used = true → (f block).used = true

theorem Marks.through (marks : Marks f) (address : Nat) :
    Marks fun block => if block.header = address then f block else block where
  header block := by
    split
    · exact marks.header block
    · rfl
  userArea block := by
    split
    · exact marks.userArea block
    · rfl
  userareaSize block := by
    split
    · exact marks.userareaSize block
    · rfl
  footer block := by
    split
    · exact marks.footer block
    · rfl
  used block set := by
    split
    · exact marks.used block set
    · exact set

theorem modify_layout (layout : Layout heap) (marks : Marks f) :
    Layout (heap.modify address f) := by
  have through := marks.through address
  refine ⟨(fills_map through.header through.footer).mpr layout.fills, ?_, ?_, layout.counted⟩
  · intro block member
    rcases List.mem_map.mp member with ⟨old, was, rfl⟩
    rw [through.userArea, through.header, through.footer, through.userareaSize]
    exact layout.shape old was
  · intro block member
    rcases List.mem_map.mp member with ⟨old, was, rfl⟩
    exact through.used old (layout.used old was)

theorem release_marks : Marks release := by
  refine ⟨?_, ?_, ?_, ?_, ?_⟩ <;> intro block <;> unfold release <;> split <;> simp_all

theorem reclaim_marks : Marks reclaim :=
  ⟨fun _ => rfl, fun _ => rfl, fun _ => rfl, fun _ => rfl, fun _ _ => rfl⟩

theorem free_cases (heap : Heap) (ptr : Nat) :
    ((ptr < KERNEL_HEAP_START ∨ KERNEL_HEAP_END ≤ ptr) ∧ heapFreeMemory heap ptr = heap) ∨
      (KERNEL_HEAP_START ≤ ptr ∧ ptr < KERNEL_HEAP_END ∧
        heapFreeMemory heap ptr = heap.modify (ptr - MMBLOCK_HEADER_SIZE) release) := by
  unfold heapFreeMemory
  split
  · rename_i null
    subst null
    exact Or.inl ⟨Or.inl (by decide), rfl⟩
  · split
    · exact Or.inl ⟨by assumption, rfl⟩
    · exact Or.inr ⟨by omega, by omega, rfl⟩

theorem free_layout (layout : Layout heap) (ptr : Nat) : Layout (heapFreeMemory heap ptr) := by
  rcases free_cases heap ptr with ⟨-, same⟩ | ⟨-, -, released⟩
  · rw [same]
    exact layout
  · rw [released]
    exact modify_layout layout release_marks

/-- No block is found, or the first one that is large enough is reclaimed. -/
theorem reuse_cases (heap : Heap) (size : UInt64) (cleanup : Bool) :
    (heap.mmblockList.find? (reusable (userAreaInBytes size)) = none ∧
        heapReuseMemory heap size cleanup = (0, none, heap)) ∨
      ∃ reuse, heap.mmblockList.find? (reusable (userAreaInBytes size)) = some reuse ∧
        heapReuseMemory heap size cleanup =
          (reuse.userArea,
            if cleanup then some (reuse.userArea, reuse.userareaSize) else none,
            heap.modify reuse.header reclaim) := by
  have some_size : userAreaInBytes size ≠ 0 := Nat.ne_of_gt (userAreaInBytes_pos size)
  unfold heapReuseMemory findReusableBlock
  rw [if_neg some_size]
  cases heap.mmblockList.find? (reusable (userAreaInBytes size)) with
  | none => exact Or.inl ⟨rfl, rfl⟩
  | some reuse => exact Or.inr ⟨reuse, rfl, rfl⟩

theorem reuse_layout (layout : Layout heap) (size : UInt64) (cleanup : Bool) :
    Layout (heapReuseMemory heap size cleanup).2.2 := by
  rcases reuse_cases heap size cleanup with ⟨-, failed⟩ | ⟨reuse, -, found⟩
  · rw [failed]
    exact layout
  · rw [found]
    exact modify_layout layout reclaim_marks

end Marks

section Service

variable {heap next : Heap} {request : Request} {reply : Reply}

theorem serve_asked {size : UInt64} (asks : asked request = some size)
    (served : serve heap request = .ok (reply, next)) :
    heapAllocateMemory heap size = .ok (reply.pointer, next) := by
  cases request with
  | heapAllocateMemory size' =>
      cases asks
      simp only [serve] at served
      split at served
      · cases served
      · rename_i ptr after allocated
        cases served
        exact allocated
  | mmKmalloc process size' =>
      simp only [asked] at asks
      split at asks
      · cases asks
      · rename_i nonneg
        cases asks
        simp only [serve, mmKmalloc, if_neg nonneg, mmKmallocImpl] at served
        split at served
        · cases served
        · rename_i ptr counted after called
          cases served
          split at called
          · cases called
          · rename_i ptr' cleared after' allocated
            split at allocated
            · cases allocated
            · rename_i given
              cases allocated
              split at called
              · rename_i refused
                cases called
                rw [given, refused]
              · cases called
                exact given
  | mmKcalloc count size' =>
      cases asks
      simp only [serve, mmKcalloc, mmKmallocImpl] at served
      split at served
      · cases served
      · rename_i ptr cleared after called
        cases served
        split at called
        · cases called
        · rename_i given
          cases called
          exact given
  | heapFreeMemory ptr => cases asks
  | heapReuseMemory size' cleanup => cases asks

/-- What the allocator does not see moves neither the pointer nor the counter. -/
theorem serve_unasked (unasked : asked request = none)
    (served : serve heap request = .ok (reply, next)) :
    (reply.pointer = 0 ∧ next = heap) ∨
      (∃ ptr, request = .heapFreeMemory ptr ∧ reply.pointer = 0 ∧
        next = heapFreeMemory heap ptr) ∨
      (∃ size cleanup, request = .heapReuseMemory size cleanup ∧
        reply.pointer = (heapReuseMemory heap size cleanup).1 ∧
        next = (heapReuseMemory heap size cleanup).2.2) := by
  cases request with
  | heapAllocateMemory size => cases unasked
  | mmKmalloc process size =>
      by_cases negative : size < 0
      · simp only [serve, mmKmalloc, if_pos negative] at served
        cases served
        exact Or.inl ⟨rfl, rfl⟩
      · simp [asked, negative] at unasked
  | mmKcalloc count size => cases unasked
  | heapFreeMemory ptr =>
      cases served
      exact Or.inr (Or.inl ⟨ptr, rfl, rfl, rfl⟩)
  | heapReuseMemory size cleanup =>
      cases served
      exact Or.inr (Or.inr ⟨size, cleanup, rfl, rfl, rfl⟩)

theorem serve_layout (layout : Layout heap)
    (served : serve heap request = .ok (reply, next)) : Layout next := by
  cases asks : asked request with
  | some size => exact allocate_layout layout (serve_asked asks served)
  | none =>
      rcases serve_unasked asks served with ⟨-, rfl⟩ | ⟨ptr, -, -, rfl⟩ |
        ⟨size, cleanup, -, -, rfl⟩
      · exact layout
      · exact free_layout layout ptr
      · exact reuse_layout layout size cleanup

end Service

end Gramado.Mm
