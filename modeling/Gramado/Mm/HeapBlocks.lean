/-
Which block a pointer belongs to over whole runs. A history of the pointers that
were handed out, and of those that were given back since, is kept beside the heap.
The marks in the headers agree with it: no block is handed out while it is live, and
a block is found again exactly if it was freed.
-/
import Gramado.Lib.Machine
import Gramado.Mm.HeapLayout

namespace Gramado.Mm.HeapBlocks

open Gramado.Ke
open Gramado.Lib.Machine

/-- The pointers that were returned and not freed since, and those that were freed
    and not returned since. -/
structure History where
  live : List Nat
  freed : List Nat
  deriving DecidableEq, Repr

def History.none : History where
  live := []
  freed := []

def History.handOut (seen : History) (ptr : Nat) : History where
  live := ptr :: seen.live
  freed := seen.freed.filter (· ≠ ptr)

def History.takeBack (seen : History) (ptr : Nat) : History where
  live := seen.live.filter (· ≠ ptr)
  freed := ptr :: seen.freed

/-- What a call adds to the history. -/
def note (seen : History) (_ : Heap) (request : Request) (out : Reply × Heap) : History :=
  match request with
  | .heapFreeMemory ptr => if ptr ∈ seen.live then seen.takeBack ptr else seen
  | _ => if out.1.pointer = 0 then seen else seen.handOut out.1.pointer

/-- The bytes from `a` to `b` and those from `c` to `d` have none in common. -/
def Apart (a b c d : Nat) : Prop :=
  ∀ address, a ≤ address → address < b → c ≤ address → address < d → False

/-- The blocks that the live pointers belong to. -/
def liveBlocks (live : List Nat) (heap : Heap) : List Mmblock :=
  heap.mmblockList.filter fun block => block.userArea ∈ live

/-- No block is live twice, and the live user areas overlap neither each other
    nor a header. -/
structure Separate (live : List Nat) (heap : Heap) : Prop where
  once : live.Nodup
  owned : ∀ ptr ∈ live, ∃ block ∈ heap.mmblockList, block.userArea = ptr
  areas : (liveBlocks live heap).Pairwise fun block other =>
    Apart block.userArea (block.userArea + block.userareaSize)
      other.userArea (other.userArea + other.userareaSize)
  headers : ∀ block ∈ liveBlocks live heap, ∀ other ∈ heap.mmblockList,
    Apart block.userArea (block.userArea + block.userareaSize)
      other.header (other.header + MMBLOCK_HEADER_SIZE)

/-- A block of this size was freed, and not handed out again. The pointer of a block
    across the end of the heap can lie behind it, where nothing is freed. -/
def Freed (seen : History) (heap : Heap) (size : Nat) : Prop :=
  ∃ block ∈ heap.mmblockList, block.userArea ∈ seen.freed ∧
    block.userArea < KERNEL_HEAP_END ∧ size ≤ block.userareaSize

/-- The size that a request asks for. -/
def requestedSize : Request → Nat
  | .heapAllocateMemory size => size.toNat
  | .mmKmalloc _ size => size.toNatClampNeg
  | .mmKcalloc count size => (if count ≤ 0 then size else count * size).toNatClampNeg
  | .heapFreeMemory _ => 0
  | .heapReuseMemory size _ => size.toNat

structure Proper (seen : History) (heap : Heap) (request : Request)
    (out : Reply × Heap) : Prop where
  separate : Separate (note seen heap request out).live out.2
  fresh : out.1.pointer ≠ 0 → out.1.pointer ∉ seen.live
  large_enough : out.1.pointer ≠ 0 → ∃ block ∈ out.2.mmblockList,
    block.userArea = out.1.pointer ∧ requestedSize request ≤ block.userareaSize
  reuse_fails : ∀ size cleanup, request = .heapReuseMemory size cleanup →
    (out.1.pointer = 0 ↔ ¬Freed seen heap (userAreaInBytes size))
  reused : ∀ size cleanup, request = .heapReuseMemory size cleanup → out.1.pointer ≠ 0 →
    out.1.pointer ∈ seen.freed
  freed_again : ∀ ptr, request = .heapFreeMemory ptr → ptr ∉ seen.live → out.2 = heap

/-- The marks say which blocks are live and which are freed. -/
structure Marked (seen : History) (heap : Heap) : Prop where
  layout : Layout heap
  once : seen.live.Nodup
  owned : ∀ ptr ∈ seen.live, ∃ block ∈ heap.mmblockList, block.userArea = ptr
  known : ∀ block ∈ heap.mmblockList, block.userArea ∈ seen.live ∨ block.userArea ∈ seen.freed
  in_use : ∀ block ∈ heap.mmblockList, block.userArea ∈ seen.live → block.magic = 1234
  released : ∀ block ∈ heap.mmblockList,
    block.magic = 4321 ↔ block.userArea ∈ seen.freed ∧ block.userArea < KERNEL_HEAP_END

theorem initKernelHeap_marked : Marked .none initKernelHeap where
  layout := initKernelHeap_layout
  once := List.nodup_nil
  owned := fun _ member => nomatch member
  known := fun _ member => nomatch member
  in_use := fun _ member => nomatch member
  released := fun _ member => nomatch member

section History

variable {seen : History} {ptr other : Nat}

theorem freed_handOut (different : other ≠ ptr) :
    other ∈ (seen.handOut ptr).freed ↔ other ∈ seen.freed := by
  rw [History.handOut, List.mem_filter]
  exact and_iff_left (by simpa using different)

theorem not_freed_handOut (seen : History) (ptr : Nat) : ptr ∉ (seen.handOut ptr).freed := by
  rw [History.handOut, List.mem_filter]
  simp

theorem live_handOut (different : other ≠ ptr) :
    other ∈ (seen.handOut ptr).live ↔ other ∈ seen.live := by
  rw [History.handOut, List.mem_cons]
  exact or_iff_right different

theorem freed_takeBack (different : other ≠ ptr) :
    other ∈ (seen.takeBack ptr).freed ↔ other ∈ seen.freed := by
  rw [History.takeBack, List.mem_cons]
  exact or_iff_right different

theorem live_takeBack :
    other ∈ (seen.takeBack ptr).live ↔ other ∈ seen.live ∧ other ≠ ptr := by
  rw [History.takeBack, List.mem_filter]
  simp

end History

section State

variable {live : List Nat} {seen : History} {heap : Heap} {block other : Mmblock}

theorem same_block (layout : Layout heap) (mem : block ∈ heap.mmblockList)
    (mem_other : other ∈ heap.mmblockList) (same : block.userArea = other.userArea) :
    block = other := by
  apply layout.fills.unique mem mem_other
  have first := (layout.shape block mem).1
  have second := (layout.shape other mem_other).1
  omega

theorem header_eq_iff (layout : Layout heap) (mem : block ∈ heap.mmblockList)
    (mem_other : other ∈ heap.mmblockList) :
    other.header = block.header ↔ other = block := by
  constructor
  · exact layout.fills.unique mem_other mem
  · rintro rfl
    rfl

theorem separate_of_layout (layout : Layout heap) (once : live.Nodup)
    (owned : ∀ ptr ∈ live, ∃ block ∈ heap.mmblockList, block.userArea = ptr) :
    Separate live heap := by
  refine ⟨once, owned, ?_, ?_⟩
  · have ordered : (liveBlocks live heap).Pairwise fun b c => b.footer ≤ c.header :=
      layout.fills.ordered.filter _
    refine ordered.imp_of_mem ?_
    intro b c mem_b mem_c before address _ below above _
    have shape_b := layout.shape b (List.mem_of_mem_filter mem_b)
    have shape_c := layout.shape c (List.mem_of_mem_filter mem_c)
    omega
  · intro b mem_b c mem_c address low high above below
    have mem_b := List.mem_of_mem_filter mem_b
    have shape_b := layout.shape b mem_b
    have shape_c := layout.shape c mem_c
    by_cases same : b = c
    · subst same
      omega
    · rcases layout.fills.apart mem_b mem_c same with before | behind
      · omega
      · omega

theorem Marked.separate (marked : Marked seen heap) : Separate seen.live heap :=
  separate_of_layout marked.layout marked.once marked.owned

end State

section Steps

variable {seen : History} {heap next : Heap} {out : Reply × Heap}

theorem note_of_failed {request : Request} (failed : out.1.pointer = 0)
    (kept : ∀ ptr, request ≠ .heapFreeMemory ptr) :
    note seen heap request out = seen := by
  cases request with
  | heapFreeMemory ptr => exact absurd rfl (kept ptr)
  | _ => simp [note, failed]

theorem note_of_pointer {request : Request} (given : out.1.pointer ≠ 0)
    (kept : ∀ ptr, request ≠ .heapFreeMemory ptr) :
    note seen heap request out = seen.handOut out.1.pointer := by
  cases request with
  | heapFreeMemory ptr => exact absurd rfl (kept ptr)
  | _ => simp [note, given]

theorem push_marked (marked : Marked seen heap) {block : Mmblock}
    (layout : Layout (heap.push block)) (at_end : block.header = heap.heapPointer)
    (magic : block.magic = 1234) :
    block.userArea ∉ seen.live ∧ Marked (seen.handOut block.userArea) (heap.push block) := by
  have member : block ∈ (heap.push block).mmblockList := by simp [Heap.push]
  have older : ∀ other ∈ heap.mmblockList, other ∈ (heap.push block).mmblockList :=
    fun other mem => List.mem_append_left [block] mem
  have apart : ∀ other ∈ heap.mmblockList, other.userArea ≠ block.userArea := by
    intro other mem same
    have equal := same_block layout (older other mem) member same
    have low := marked.layout.fills.inside mem
    rw [equal] at low
    omega
  have new : block.userArea ∉ seen.live := by
    intro was
    rcases marked.owned _ was with ⟨other, mem, same⟩
    exact apart other mem same
  refine ⟨new, layout, List.nodup_cons.mpr ⟨new, marked.once⟩, ?_, ?_, ?_, ?_⟩
  · intro ptr mem
    rcases List.mem_cons.mp mem with rfl | mem
    · exact ⟨block, member, rfl⟩
    · rcases marked.owned ptr mem with ⟨other, was, same⟩
      exact ⟨other, older other was, same⟩
  · intro other mem
    rcases List.mem_append.mp mem with old | fresh
    · rw [live_handOut (apart other old), freed_handOut (apart other old)]
      exact marked.known other old
    · rw [List.mem_singleton.mp fresh]
      exact Or.inl List.mem_cons_self
  · intro other mem is_live
    rcases List.mem_append.mp mem with old | fresh
    · exact marked.in_use other old ((live_handOut (apart other old)).mp is_live)
    · rw [List.mem_singleton.mp fresh]
      exact magic
  · intro other mem
    rcases List.mem_append.mp mem with old | fresh
    · rw [freed_handOut (apart other old)]
      exact marked.released other old
    · rw [List.mem_singleton.mp fresh, magic]
      exact iff_of_false (by decide) fun freed => not_freed_handOut seen _ freed.1

theorem allocate_marked {size : UInt64} {ptr : Nat} (marked : Marked seen heap)
    (served : heapAllocateMemory heap size = .ok (ptr, next)) :
    (ptr = 0 ∧ next = heap) ∨
      (ptr ∉ seen.live ∧ Marked (seen.handOut ptr) next ∧
        ∃ block ∈ next.mmblockList, block.userArea = ptr ∧
          block.userareaSize = userAreaInBytes size) := by
  have layout := allocate_layout marked.layout served
  rcases allocate_cases served with ⟨-, failed, same⟩ | ⟨-, -, -, rfl, rfl⟩
  · exact Or.inl ⟨failed, same⟩
  · rcases push_marked marked layout rfl rfl with ⟨new, after⟩
    exact Or.inr ⟨new, after, _, List.mem_append_right _ List.mem_cons_self, rfl, rfl⟩

theorem mem_modify {f : Mmblock → Mmblock} {address : Nat} {block : Mmblock} :
    block ∈ (heap.modify address f).mmblockList ↔
      ∃ old ∈ heap.mmblockList,
        block = if old.header = address then f old else old := by
  simp only [Heap.modify, List.mem_map]
  constructor
  · rintro ⟨old, mem, rfl⟩
    exact ⟨old, mem, rfl⟩
  · rintro ⟨old, mem, rfl⟩
    exact ⟨old, mem, rfl⟩

theorem release_of_in_use {block : Mmblock} (used : block.used = true)
    (magic : block.magic = 1234) :
    release block = { block with used := true, magic := 4321 } := by
  simp [release, used, magic]

theorem release_of_released {block : Mmblock} (magic : block.magic ≠ 1234) :
    release block = block := by
  simp [release, magic]

theorem modify_of_fixed {f : Mmblock → Mmblock} {address : Nat}
    (fixed : ∀ block ∈ heap.mmblockList, block.header = address → f block = block) :
    heap.modify address f = heap := by
  have same : (heap.mmblockList.map fun block =>
      if block.header = address then f block else block) = heap.mmblockList := by
    refine (List.map_congr_left ?_).trans heap.mmblockList.map_id
    intro block mem
    by_cases here : block.header = address
    · rw [if_pos here]
      exact fixed block mem here
    · exact if_neg here
  rw [Heap.modify, same]

theorem free_unused (marked : Marked seen heap) {ptr : Nat} (unused : ptr ∉ seen.live) :
    heapFreeMemory heap ptr = heap := by
  rcases free_cases heap ptr with ⟨-, same⟩ | ⟨low, high, released⟩
  · exact same
  · rw [released]
    apply modify_of_fixed
    intro block mem here
    have shape := (marked.layout.shape block mem).1
    have room : MMBLOCK_HEADER_SIZE ≤ ptr := Nat.le_trans (by decide) low
    have area : block.userArea = ptr := by omega
    apply release_of_released
    have given_back : block.userArea ∈ seen.freed :=
      (marked.known block mem).resolve_left (area ▸ unused)
    rw [(marked.released block mem).mpr ⟨given_back, area ▸ high⟩]
    decide

theorem free_live (marked : Marked seen heap) {ptr : Nat} (used : ptr ∈ seen.live) :
    Marked (seen.takeBack ptr) (heapFreeMemory heap ptr) := by
  rcases marked.owned ptr used with ⟨block, mem, area⟩
  have shape := (marked.layout.shape block mem).1
  have low := (marked.layout.fills.inside mem).1
  have layout := free_layout marked.layout ptr
  have magic : block.magic = 1234 := marked.in_use block mem (area ▸ used)
  have others : ∀ other ∈ heap.mmblockList, other ≠ block → other.userArea ≠ ptr := by
    intro other was different same
    exact different (same_block marked.layout was mem (same.trans area.symm))
  have known : ∀ old ∈ heap.mmblockList,
      old.userArea ∈ (seen.takeBack ptr).live ∨ old.userArea ∈ (seen.takeBack ptr).freed := by
    intro old was
    by_cases here : old.userArea = ptr
    · exact Or.inr (here ▸ List.mem_cons_self)
    · rw [live_takeBack, freed_takeBack here, and_iff_left here]
      exact marked.known old was
  rcases free_cases heap ptr with ⟨outside, same⟩ | ⟨-, high, released⟩
  · -- Only a block across the end of the heap has such a pointer.
    have behind : KERNEL_HEAP_END ≤ ptr := by
      rcases outside with below | behind
      · omega
      · exact behind
    rw [same]
    refine ⟨marked.layout, marked.once.filter _, ?_, known, ?_, ?_⟩
    · intro other is_live
      exact marked.owned other (live_takeBack.mp is_live).1
    · intro other was is_live
      exact marked.in_use other was (live_takeBack.mp is_live).1
    · intro other was
      by_cases here : other = block
      · subst here
        exact iff_of_false (by omega) (by omega)
      · rw [freed_takeBack (others other was here)]
        exact marked.released other was
  · rw [released] at layout ⊢
    have address : ptr - MMBLOCK_HEADER_SIZE = block.header := by omega
    rw [address] at layout ⊢
    have marks := release_of_in_use (marked.layout.used block mem) magic
    have through := release_marks.through block.header
    refine ⟨layout, marked.once.filter _, ?_, ?_, ?_, ?_⟩
    · intro other is_live
      rcases marked.owned other (live_takeBack.mp is_live).1 with ⟨old, was, same⟩
      exact ⟨_, mem_modify.mpr ⟨old, was, rfl⟩, (through.userArea old).trans same⟩
    · intro other was
      rcases mem_modify.mp was with ⟨old, before, rfl⟩
      rw [through.userArea]
      exact known old before
    · intro other was is_live
      rcases mem_modify.mp was with ⟨old, before, rfl⟩
      rw [through.userArea] at is_live
      rcases live_takeBack.mp is_live with ⟨still, different⟩
      have elsewhere : old.header ≠ block.header := by
        intro here
        rw [(header_eq_iff marked.layout mem before).mp here] at different
        exact different area
      rw [if_neg elsewhere]
      exact marked.in_use old before still
    · intro other was
      rcases mem_modify.mp was with ⟨old, before, rfl⟩
      rw [through.userArea]
      by_cases here : old.header = block.header
      · rw [if_pos here, (header_eq_iff marked.layout mem before).mp here, marks, area]
        exact iff_of_true rfl ⟨List.mem_cons_self, high⟩
      · rw [if_neg here,
          freed_takeBack (others old before fun same => here (congrArg Mmblock.header same))]
        exact marked.released old before

theorem area_ne_zero (layout : Layout heap) {block : Mmblock}
    (mem : block ∈ heap.mmblockList) : block.userArea ≠ 0 := by
  rw [(layout.shape block mem).1]
  exact Nat.ne_of_gt (Nat.add_pos_right _ (by decide))

theorem reusable_iff {size : Nat} {block : Mmblock} :
    reusable size block = true ↔
      block.used = true ∧ block.magic = 4321 ∧ size ≤ block.userareaSize := by
  simp [reusable, and_assoc]

theorem reuse_marked (marked : Marked seen heap) {block : Mmblock}
    (mem : block ∈ heap.mmblockList) (magic : block.magic = 4321) :
    block.userArea ∉ seen.live ∧
      Marked (seen.handOut block.userArea) (heap.modify block.header reclaim) := by
  have new : block.userArea ∉ seen.live := by
    intro is_live
    have taken := marked.in_use block mem is_live
    omega
  have through := reclaim_marks.through block.header
  -- Two blocks have two areas, so that only this one is handed out.
  have apart : ∀ old ∈ heap.mmblockList, old.header ≠ block.header →
      old.userArea ≠ block.userArea := by
    intro old before elsewhere same
    exact elsewhere (congrArg Mmblock.header (same_block marked.layout before mem same))
  refine ⟨new, modify_layout marked.layout reclaim_marks,
    List.nodup_cons.mpr ⟨new, marked.once⟩, ?_, ?_, ?_, ?_⟩
  · intro ptr is_live
    have owned : ∃ old ∈ heap.mmblockList, old.userArea = ptr := by
      rcases List.mem_cons.mp is_live with rfl | is_live
      · exact ⟨block, mem, rfl⟩
      · exact marked.owned ptr is_live
    rcases owned with ⟨old, was, same⟩
    exact ⟨_, mem_modify.mpr ⟨old, was, rfl⟩, (through.userArea old).trans same⟩
  · intro other was
    rcases mem_modify.mp was with ⟨old, before, rfl⟩
    rw [through.userArea]
    by_cases here : old.header = block.header
    · rw [(header_eq_iff marked.layout mem before).mp here]
      exact Or.inl List.mem_cons_self
    · rw [live_handOut (apart old before here), freed_handOut (apart old before here)]
      exact marked.known old before
  · intro other was is_live
    rcases mem_modify.mp was with ⟨old, before, rfl⟩
    by_cases here : old.header = block.header
    · rw [if_pos here]
      rfl
    · rw [if_neg here] at is_live ⊢
      exact marked.in_use old before ((live_handOut (apart old before here)).mp is_live)
  · intro other was
    rcases mem_modify.mp was with ⟨old, before, rfl⟩
    rw [through.userArea]
    by_cases here : old.header = block.header
    · rw [if_pos here, (header_eq_iff marked.layout mem before).mp here]
      exact iff_of_false (by decide : (1234 : Nat) ≠ 4321)
        fun freed => not_freed_handOut seen _ freed.1
    · rw [if_neg here, freed_handOut (apart old before here)]
      exact marked.released old before

theorem freed_iff (marked : Marked seen heap) {size : Nat} :
    Freed seen heap size ↔ ∃ block ∈ heap.mmblockList, reusable size block = true := by
  refine exists_congr fun block => and_congr_right fun mem => ?_
  rw [reusable_iff, marked.released block mem, and_iff_right (marked.layout.used block mem),
    and_assoc]

end Steps

section Calls

variable {seen : History} {heap : Heap} {request : Request} {out : Reply × Heap}

theorem toNatClampNeg_le (n : Int32) : n.toNatClampNeg ≤ n.toUInt32.toNat := by
  have signed : n.toInt = (n.toUInt32.toNat : Int).bmod (2 ^ 32) :=
    BitVec.toInt_eq_toNat_bmod n.toBitVec
  have bound := n.toUInt32.toNat_lt
  rw [Int32.toNatClampNeg, signed, Int.bmod_def]
  split <;> omega

/-- What the allocator is asked for covers what the caller asked for. -/
theorem requestedSize_le {size : UInt64} (asks : asked request = some size) :
    requestedSize request ≤ userAreaInBytes size := by
  have narrow : ∀ n : Int32, n.toNatClampNeg ≤
      userAreaInBytes (UInt64.ofNat n.toUInt32.toNat) := by
    intro n
    refine Nat.le_trans ?_ (size_le_userAreaInBytes _)
    have bound := n.toUInt32.toNat_lt
    have value : (UInt64.ofNat n.toUInt32.toNat).toNat = n.toUInt32.toNat :=
      UInt64.toNat_ofNat_of_lt' (Nat.lt_trans bound (by decide))
    rw [value]
    exact toNatClampNeg_le n
  cases request with
  | heapAllocateMemory size' =>
      cases asks
      exact size_le_userAreaInBytes size
  | mmKmalloc process size' =>
      simp only [asked] at asks
      split at asks
      · cases asks
      · cases asks
        by_cases zero : size' = 0
        · subst zero
          exact Nat.zero_le _
        · rw [if_neg zero]
          exact narrow size'
  | mmKcalloc count size' =>
      cases asks
      exact narrow _
  | heapFreeMemory ptr => cases asks
  | heapReuseMemory size' cleanup => cases asks

/-- A call that fails and changes nothing asks nothing more of the heap. -/
theorem failed_proper (marked : Marked seen heap) (failed : out.1.pointer = 0)
    (same : out.2 = heap) (not_free : ∀ ptr, request ≠ .heapFreeMemory ptr)
    (no_block : ∀ size cleanup, request = .heapReuseMemory size cleanup →
      ¬Freed seen heap (userAreaInBytes size)) :
    Proper seen heap request out ∧ Marked (note seen heap request out) out.2 := by
  have noted : note seen heap request out = seen := note_of_failed failed not_free
  rw [noted, same]
  refine ⟨⟨?_, ?_, ?_, ?_, ?_, ?_⟩, marked⟩
  · rw [noted, same]
    exact marked.separate
  · exact fun given => absurd failed given
  · exact fun given => absurd failed given
  · exact fun size cleanup reuse => iff_of_true failed (no_block size cleanup reuse)
  · exact fun size cleanup _ given => absurd failed given
  · exact fun ptr free => absurd free (not_free ptr)

theorem asked_proper {size : UInt64} (marked : Marked seen heap)
    (asks : asked request = some size) (served : serve heap request = .ok out) :
    Proper seen heap request out ∧ Marked (note seen heap request out) out.2 := by
  have allocated := serve_asked asks served
  have not_free : ∀ ptr, request ≠ .heapFreeMemory ptr := by
    rintro ptr rfl
    cases asks
  have not_reuse : ∀ size cleanup, request ≠ .heapReuseMemory size cleanup := by
    rintro size cleanup rfl
    cases asks
  rcases allocate_marked marked allocated with ⟨failed, same⟩ |
    ⟨new, after, block, mem, area, room⟩
  · exact failed_proper marked failed same not_free
      fun size cleanup reuse => absurd reuse (not_reuse size cleanup)
  · have given : out.1.pointer ≠ 0 := area ▸ area_ne_zero after.layout mem
    rw [note_of_pointer given not_free]
    refine ⟨⟨?_, ?_, ?_, ?_, ?_, ?_⟩, after⟩
    · rw [note_of_pointer given not_free]
      exact after.separate
    · exact fun _ => new
    · exact fun _ => ⟨block, mem, area, room ▸ requestedSize_le asks⟩
    · exact fun _ _ reuse => absurd reuse (not_reuse _ _)
    · exact fun _ _ reuse => absurd reuse (not_reuse _ _)
    · exact fun _ free => absurd free (not_free _)

theorem free_proper (marked : Marked seen heap) (ptr : Nat) :
    Proper seen heap (.heapFreeMemory ptr) (⟨0, none⟩, heapFreeMemory heap ptr) ∧
      Marked (note seen heap (.heapFreeMemory ptr) (⟨0, none⟩, heapFreeMemory heap ptr))
        (heapFreeMemory heap ptr) := by
  have after : Marked (note seen heap (.heapFreeMemory ptr) (⟨0, none⟩, heapFreeMemory heap ptr))
      (heapFreeMemory heap ptr) := by
    unfold note
    by_cases used : ptr ∈ seen.live
    · simp only [if_pos used]
      exact free_live marked used
    · simp only [if_neg used, free_unused marked used]
      exact marked
  refine ⟨⟨after.separate, ?_, ?_, ?_, ?_, ?_⟩, after⟩
  · exact fun given => absurd rfl given
  · exact fun given => absurd rfl given
  · intro size cleanup other
    cases other
  · intro size cleanup other
    cases other
  · rintro other same unused
    cases same
    exact free_unused marked unused

theorem reuse_proper (marked : Marked seen heap) (size : UInt64) (cleanup : Bool)
    (served : serve heap (.heapReuseMemory size cleanup) = .ok out) :
    Proper seen heap (.heapReuseMemory size cleanup) out ∧
      Marked (note seen heap (.heapReuseMemory size cleanup) out) out.2 := by
  have not_free : ∀ ptr, Request.heapReuseMemory size cleanup ≠ .heapFreeMemory ptr := by
    intro ptr same
    cases same
  simp only [serve] at served
  rcases reuse_cases heap size cleanup with ⟨none_found, failed⟩ | ⟨block, hit, found⟩
  · rw [failed] at served
    cases served
    apply failed_proper marked rfl rfl not_free
    intro size' cleanup' same freed
    cases same
    rcases (freed_iff marked).mp freed with ⟨block, mem, found⟩
    exact List.find?_eq_none.mp none_found block mem found
  · rw [found] at served
    cases served
    have mem := List.mem_of_find?_eq_some hit
    have marks := reusable_iff.mp (List.find?_some hit)
    have given : block.userArea ≠ 0 := area_ne_zero marked.layout mem
    rcases reuse_marked marked mem marks.2.1 with ⟨new, after⟩
    rw [note_of_pointer given not_free]
    refine ⟨⟨?_, ?_, ?_, ?_, ?_, ?_⟩, after⟩
    · rw [note_of_pointer given not_free]
      exact after.separate
    · exact fun _ => new
    · intro _
      refine ⟨_, mem_modify.mpr ⟨block, mem, rfl⟩, ?_⟩
      rw [if_pos rfl]
      exact ⟨rfl, Nat.le_trans (size_le_userAreaInBytes size) marks.2.2⟩
    · rintro size' cleanup' same
      cases same
      refine iff_of_false given ?_
      intro none_left
      exact none_left ((freed_iff marked).mpr ⟨block, mem, List.find?_some hit⟩)
    · intro _ _ _ _
      exact ((marked.released block mem).mp marks.2.1).1
    · intro ptr other
      cases other

/-- Every call is proper, and leaves the marks right for the next one. -/
theorem call_proper (marked : Marked seen heap) (served : serve heap request = .ok out) :
    Proper seen heap request out ∧ Marked (note seen heap request out) out.2 := by
  cases asks : asked request with
  | some size => exact asked_proper marked asks served
  | none =>
      cases request with
      | heapAllocateMemory size => cases asks
      | mmKcalloc count size => cases asks
      | mmKmalloc process size =>
          have not_free : ∀ ptr, Request.mmKmalloc process size ≠ .heapFreeMemory ptr := by
            intro ptr same
            cases same
          rcases serve_unasked asks served with ⟨failed, same⟩ | ⟨ptr, other, -⟩ |
            ⟨size', cleanup, other, -⟩
          · apply failed_proper marked failed same not_free
            intro size' cleanup other
            cases other
          · cases other
          · cases other
      | heapFreeMemory ptr =>
          cases served
          exact free_proper marked ptr
      | heapReuseMemory size cleanup => exact reuse_proper marked size cleanup served

end Calls

/-- In every run of calls from the heap as it is initialized, with any sizes
    and any pointers, no live block is handed out and no two live user areas
    overlap, nor one with a header; a pointer that is returned belongs to a
    block that is large enough; reuse fails exactly where no block that was freed
    and not handed out again is; and what is freed again stays as it is. -/
theorem blocks_handed_out_once (requests : List Request) :
    Separate [] initKernelHeap ∧
      Along (observe note serve)
        (fun seen request out => Proper seen.1 seen.2 request (out.1, out.2.2))
        (.none, initKernelHeap) requests := by
  refine ⟨initKernelHeap_marked.separate, ?_⟩
  have step : ∀ (seen : History × Heap) request out, Marked seen.1 seen.2 →
      observe note serve seen request = .ok out →
      Proper seen.1 seen.2 request (out.1, out.2.2) ∧ Marked out.2.1 out.2.2 := by
    intro seen request out marked served
    rcases observe_ok served with ⟨call, noted⟩
    rw [noted]
    exact call_proper marked call
  exact along_of_kept step requests initKernelHeap_marked

/-- A request for nothing is one for eight bytes: a freed block of four is not
    given for it. -/
theorem small_block_is_not_reused :
    ∃ first second last seen heap, run (observe note serve) (.none, initKernelHeap)
        [.heapAllocateMemory 4, .heapFreeMemory (KERNEL_HEAP_START + 72),
          .heapReuseMemory 0 false] = .ok ([first, second, last], (seen, heap)) ∧
      first.pointer = KERNEL_HEAP_START + 72 ∧ last.pointer = 0 ∧
      Freed seen heap (0 : UInt64).toNat := by
  refine ⟨_, _, _, _, _, rfl, rfl, rfl, _, List.mem_singleton_self _, ?_, ?_, Nat.zero_le _⟩
  · exact List.mem_singleton_self _
  · change KERNEL_HEAP_START + 72 < KERNEL_HEAP_END
    decide

end Gramado.Mm.HeapBlocks
