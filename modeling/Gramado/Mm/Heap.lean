/-
The kernel heap of mm.c: a heap pointer that only moves forward, a counter of
the bytes that are left, and a list of the blocks handed out so far. What the
user areas hold is not modelled, only which bytes of them a call clears.
-/
import Gramado.Ke

namespace Gramado.Mm

open Gramado.Ke

def KERNEL_HEAP_START : Nat := 0x30100000

def KERNEL_HEAP_END : Nat := 0x301D0000

def MMBLOCK_COUNT_MAX : Nat := 2 * 4096

/-- `sizeof(struct mmblock_d)`: six words of eight bytes and six of four. -/
def MMBLOCK_HEADER_SIZE : Nat := 72

/-- `struct mmblock_d`, which lies in memory at `header`. -/
structure Mmblock where
  header : Nat
  headerSize : Nat
  userArea : Nat
  userareaSize : Nat
  footer : Nat
  id : Nat
  used : Bool
  magic : Nat
  free : Bool
  deriving DecidableEq, Repr

/-- The entries 1, 2, … of `mmblockList`, each with the block that it points to. -/
structure Heap where
  heapPointer : Nat
  availableHeap : Nat
  prevPointer : Nat
  mmblockList : List Mmblock
  deriving DecidableEq, Repr

/-- The list is extended wherever the counter is, so that the counter is its length. -/
def Heap.mmblockCount (heap : Heap) : Nat :=
  heap.mmblockList.length

/-- What `__init_kernel_heap` leaves, and `mmInitialize` with it. -/
def initKernelHeap : Heap where
  heapPointer := KERNEL_HEAP_START
  availableHeap := KERNEL_HEAP_END - KERNEL_HEAP_START
  prevPointer := 0
  mmblockList := []

/-- A write through a pointer to the block whose structure lies at `address`. -/
def Heap.modify (heap : Heap) (address : Nat) (f : Mmblock → Mmblock) : Heap :=
  { heap with
    mmblockList := heap.mmblockList.map fun block =>
      if block.header = address then f block else block }

/-- No zero-sized allocations: the user area has at least a byte. -/
def userAreaInBytes (size : UInt64) : Nat :=
  if size.toNat = 0 then 8 else size.toNat

/-- The structure that is written at the heap pointer, for the block with this
    number and a user area of this size. -/
def newBlock (heap : Heap) (size : Nat) : Mmblock where
  header := heap.heapPointer
  headerSize := MMBLOCK_HEADER_SIZE
  userArea := (heap.heapPointer + MMBLOCK_HEADER_SIZE) % 2 ^ 64
  userareaSize := size
  footer := ((heap.heapPointer + MMBLOCK_HEADER_SIZE) % 2 ^ 64 + size) % 2 ^ 64
  id := heap.mmblockCount + 1
  used := true
  magic := 1234
  free := false

/-- `a - b` of two `unsigned long`. -/
def minus (a b : Nat) : Nat :=
  (a + 2 ^ 64 - b) % 2 ^ 64

/-- The heap behind a new block. -/
def Heap.push (heap : Heap) (block : Mmblock) : Heap where
  heapPointer := block.footer
  availableHeap := minus heap.availableHeap (minus block.footer block.header)
  prevPointer := heap.heapPointer
  mmblockList := heap.mmblockList ++ [block]

/-- A pointer, or 0 where the call fails. -/
def heapAllocateMemory (heap : Heap) (size : UInt64) : Except Stop (Nat × Heap) :=
  if heap.availableHeap = 0 then
    .ok (0, heap)
  else if userAreaInBytes size ≥ heap.availableHeap then
    .ok (0, heap)
  else if heap.mmblockCount + 1 ≥ MMBLOCK_COUNT_MAX then
    .error (.panic "heapAllocateMemory: mmblockCount\n")
  else if heap.heapPointer < KERNEL_HEAP_START ∨ heap.heapPointer ≥ KERNEL_HEAP_END then
    .error (.panic "heapAllocateMemory: Out of kernel heap")
  else
    let block := newBlock heap (userAreaInBytes size)
    .ok (block.userArea, heap.push block)

/-- The header of a block in use is marked; it stays valid. -/
def release (block : Mmblock) : Mmblock :=
  if block.used ≠ true ∨ block.magic ≠ 1234 then block
  else { block with used := true, magic := 4321 }

/-- Where no block of the list lies before the pointer, the two words that are
    looked at (and written, if they pass for a header) are bytes of a user area
    or of memory before the heap, which nothing here reads. -/
def heapFreeMemory (heap : Heap) (ptr : Nat) : Heap :=
  if ptr = 0 then
    heap
  else if ptr < KERNEL_HEAP_START ∨ ptr ≥ KERNEL_HEAP_END then
    heap
  else
    heap.modify (ptr - MMBLOCK_HEADER_SIZE) release

/-- The test of `__find_reusable_block`. -/
def reusable (size : Nat) (block : Mmblock) : Bool :=
  block.used && block.magic = 4321 && block.userareaSize ≥ size

def findReusableBlock (heap : Heap) (size : Nat) : Option Mmblock :=
  if size = 0 then none else heap.mmblockList.find? (reusable size)

/-- The header of a block that is handed out again; its size stays. -/
def reclaim (block : Mmblock) : Mmblock :=
  { block with free := false, used := true, magic := 1234 }

/-- The pointer, and the bytes that were cleared: where they start and how many. -/
def heapReuseMemory (heap : Heap) (size : UInt64) (cleanup : Bool) :
    Nat × Option (Nat × Nat) × Heap :=
  match findReusableBlock heap (userAreaInBytes size) with
  | none => (0, none, heap)
  | some reuse =>
      (reuse.userArea,
        if cleanup then some (reuse.userArea, reuse.userareaSize) else none,
        heap.modify reuse.header reclaim)

/-- `memset` takes its size as an `int` and does nothing for a negative one. -/
def mmKmallocImpl (heap : Heap) (size : Int32) (clean : Bool) :
    Except Stop (Nat × Option (Nat × Nat) × Heap) :=
  match heapAllocateMemory heap (UInt64.ofNat size.toUInt32.toNat) with
  | .error stop => .error stop
  | .ok (ptr, heap) =>
      .ok (ptr, if clean ∧ ptr ≠ 0 then some (ptr, size.toNatClampNeg) else none, heap)

/-- What `mm_kmalloc` reads of the current process and counts in it. -/
structure Process where
  magic : Nat
  allocatedMemory : Nat
  deriving DecidableEq, Repr

/-- `size_t` is `int` here. The magic of a process that is NULL is read too, but
    whatever is found there, nothing is counted. -/
def mmKmalloc (heap : Heap) (process : Option Process) (size : Int32) :
    Except Stop (Nat × Option Process × Heap) :=
  if size < 0 then
    .ok (0, process, heap)
  else
    let lsize := if size = 0 then 1 else size
    match mmKmallocImpl heap lsize false with
    | .error stop => .error stop
    | .ok (ptr, _, heap) =>
        if ptr = 0 then
          .ok (0, process, heap)
        else
          .ok (ptr,
            process.map fun p =>
              if p.magic = 1234 then
                { p with allocatedMemory := (p.allocatedMemory + unsignedLong lsize) % 2 ^ 64 }
              else p,
            heap)

/-- The product is that of two `int`, reduced to its low 32 bits. -/
def mmKcalloc (heap : Heap) (count size : Int32) :
    Except Stop (Nat × Option (Nat × Nat) × Heap) :=
  mmKmallocImpl heap (if count ≤ 0 then size else count * size) true

/-- A call on the heap, with the current process where it is looked at. -/
inductive Request where
  | heapAllocateMemory (size : UInt64)
  | mmKmalloc (process : Option Process) (size : Int32)
  | mmKcalloc (count size : Int32)
  | heapFreeMemory (ptr : Nat)
  | heapReuseMemory (size : UInt64) (cleanup : Bool)
  deriving DecidableEq, Repr

/-- The pointer that a call returns (0 for a call that returns nothing) and the
    bytes that it clears. -/
structure Reply where
  pointer : Nat
  cleared : Option (Nat × Nat)
  deriving DecidableEq, Repr

def serve (heap : Heap) : Request → Except Stop (Reply × Heap)
  | .heapAllocateMemory size =>
      match heapAllocateMemory heap size with
      | .error stop => .error stop
      | .ok (ptr, next) => .ok (⟨ptr, none⟩, next)
  | .mmKmalloc process size =>
      match mmKmalloc heap process size with
      | .error stop => .error stop
      | .ok (ptr, _, next) => .ok (⟨ptr, none⟩, next)
  | .mmKcalloc count size =>
      match mmKcalloc heap count size with
      | .error stop => .error stop
      | .ok (ptr, cleared, next) => .ok (⟨ptr, cleared⟩, next)
  | .heapFreeMemory ptr => .ok (⟨0, none⟩, heapFreeMemory heap ptr)
  | .heapReuseMemory size cleanup =>
      match heapReuseMemory heap size cleanup with
      | (ptr, cleared, next) => .ok (⟨ptr, cleared⟩, next)

end Gramado.Mm
