/-
The kernel heap near its end. The admission test compares the user area alone
with the counter, so that a block whose header is what no longer fits is placed
across the end of the heap and the counter wraps.
-/
import Gramado.Lib.Machine
import Gramado.Mm.HeapLayout

namespace Gramado.Mm.HeapContainment

open Gramado.Ke
open Gramado.Lib.Machine

/-- The pointer and the counter account for the heap, and the blocks lie in it. -/
structure Contained (heap : Heap) : Prop where
  accounted : heap.heapPointer + heap.availableHeap = KERNEL_HEAP_END
  pointer_ge : KERNEL_HEAP_START ≤ heap.heapPointer
  pointer_le : heap.heapPointer ≤ KERNEL_HEAP_END
  blocks : ∀ block ∈ heap.mmblockList, KERNEL_HEAP_START ≤ block.header ∧
    block.header ≤ block.footer ∧ block.footer ≤ KERNEL_HEAP_END

/-- The request asks for more than is left, its header counted. -/
def Overlarge (heap : Heap) (request : Request) : Prop :=
  ∃ size, asked request = some size ∧
    heap.availableHeap < MMBLOCK_HEADER_SIZE + userAreaInBytes size

/-- The call fails and the heap is as it was. -/
def Refused (heap : Heap) (out : Reply × Heap) : Prop :=
  out.1.pointer = 0 ∧ out.2.heapPointer = heap.heapPointer ∧
    out.2.availableHeap = heap.availableHeap ∧ out.2.mmblockList = heap.mmblockList

def Keeps (heap : Heap) (request : Request) (out : Reply × Heap) : Prop :=
  Contained out.2 ∧ (Overlarge heap request → Refused heap out)

/-- The user area would still fit, but not with the header before it. -/
def HeaderTooMuch (heap : Heap) (request : Request) : Prop :=
  ∃ size, asked request = some size ∧ userAreaInBytes size < heap.availableHeap ∧
    heap.availableHeap < MMBLOCK_HEADER_SIZE + userAreaInBytes size

section Calls

variable {heap : Heap} {request : Request} {out : Reply × Heap}

theorem initKernelHeap_contained : Contained initKernelHeap where
  accounted := by decide
  pointer_ge := by decide
  pointer_le := by decide
  blocks := fun _ member => nomatch member

theorem contained_of_layout {heap : Heap} (layout : Layout heap)
    (inside : heap.heapPointer ≤ KERNEL_HEAP_END) : Contained heap where
  accounted := layout.counted inside
  pointer_ge := layout.fills.start_le
  pointer_le := inside
  blocks := by
    intro block member
    rcases layout.fills.inside member with ⟨low, ordered, high⟩
    exact ⟨low, Nat.le_of_lt ordered, Nat.le_trans high inside⟩

/-- A call that the allocator does not see leaves the pointer where it is. -/
theorem unasked_pointer (unasked : asked request = none)
    (served : serve heap request = .ok out) : out.2.heapPointer = heap.heapPointer := by
  rcases serve_unasked unasked served with ⟨-, same⟩ | ⟨ptr, -, -, freed⟩ |
    ⟨size, cleanup, -, -, reused⟩
  · rw [same]
  · rw [freed]
    rcases free_cases heap ptr with ⟨-, same⟩ | ⟨-, -, released⟩
    · rw [same]
    · rw [released]
      rfl
  · rw [reused]
    rcases reuse_cases heap size cleanup with ⟨-, failed⟩ | ⟨block, -, found⟩
    · rw [failed]
    · rw [found]
      rfl

/-- A header too much is placed all the same, and reaches across the end. -/
theorem pointer_passes_end (layout : Layout heap)
    (served : serve heap request = .ok out) (tight : HeaderTooMuch heap request) :
    KERNEL_HEAP_END < out.2.heapPointer := by
  rcases tight with ⟨size, asks, admitted, too_much⟩
  rcases allocate_cases (serve_asked asks served) with ⟨refused, -, -⟩ |
    ⟨-, -, inside, -, pushed⟩
  · omega
  · have total := layout.counted (Nat.le_of_lt inside)
    have footer := (newBlock_shape layout admitted inside).2
    rw [pushed]
    change KERNEL_HEAP_END < (newBlock heap (userAreaInBytes size)).footer
    omega

theorem keeps_of_room (layout : Layout heap) (contained : Contained heap)
    (served : serve heap request = .ok out) (room : ¬HeaderTooMuch heap request) :
    Keeps heap request out := by
  have next := serve_layout layout served
  cases asks : asked request with
  | none =>
      have still := unasked_pointer asks served
      refine ⟨contained_of_layout next (still ▸ contained.pointer_le), ?_⟩
      rintro ⟨size, other, -⟩
      rw [asks] at other
      cases other
  | some size =>
      rcases allocate_cases (serve_asked asks served) with ⟨-, failed, same⟩ |
        ⟨admitted, -, inside, -, pushed⟩
      · refine ⟨same ▸ contained, fun _ => ?_⟩
        exact ⟨failed, by rw [same], by rw [same], by rw [same]⟩
      · have fits : MMBLOCK_HEADER_SIZE + userAreaInBytes size ≤ heap.availableHeap := by
          by_contra short
          exact room ⟨size, asks, admitted, by omega⟩
        constructor
        · apply contained_of_layout next
          have total := contained.accounted
          have footer := (newBlock_shape layout admitted inside).2
          rw [pushed]
          change (newBlock heap (userAreaInBytes size)).footer ≤ KERNEL_HEAP_END
          omega
        · rintro ⟨other, same, short⟩
          rw [asks] at same
          cases same
          omega

theorem keeps_iff (layout : Layout heap) (contained : Contained heap)
    (served : serve heap request = .ok out) :
    Keeps heap request out ↔ ¬HeaderTooMuch heap request := by
  constructor
  · rintro ⟨kept, -⟩ tight
    have passed := pointer_passes_end layout served tight
    have bound := kept.pointer_le
    omega
  · exact keeps_of_room layout contained served

end Calls

/-- In every run of calls from the heap as it is initialized, the calls keep
    the heap contained and refuse what does not fit if and only if no call asks
    for a user area that is less than what is left while its header is not. -/
theorem containment_iff (requests : List Request) :
    Contained initKernelHeap ∧
      (Along serve Keeps initKernelHeap requests ↔
        Along serve (fun heap request _ => ¬HeaderTooMuch heap request)
          initKernelHeap requests) := by
  refine ⟨initKernelHeap_contained, ?_⟩
  have exact : ∀ heap request out, Layout heap ∧ Contained heap →
      serve heap request = .ok out →
      (Keeps heap request out ↔ ¬HeaderTooMuch heap request) :=
    fun _ _ _ holds served => keeps_iff holds.1 holds.2 served
  have keep : ∀ heap request out, Layout heap ∧ Contained heap →
      serve heap request = .ok out → Keeps heap request out →
      Layout out.2 ∧ Contained out.2 :=
    fun _ _ _ holds served kept => ⟨serve_layout holds.1 served, kept.1⟩
  exact along_iff exact keep requests
    ⟨initKernelHeap_layout, initKernelHeap_contained⟩

/-- One large block leaves 40 bytes. The next request, for eight, is admitted;
    its block ends 40 bytes behind the heap. -/
theorem last_block_leaves_heap :
    ∃ replies heap, run serve initKernelHeap
        [.heapAllocateMemory 851856, .heapAllocateMemory 8] = .ok (replies, heap) ∧
      ¬Contained heap := by
  refine ⟨_, _, rfl, ?_⟩
  intro contained
  exact absurd contained.pointer_le (by decide)

end Gramado.Mm.HeapContainment
