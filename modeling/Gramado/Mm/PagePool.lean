/-
The pool of pages of mmpool.c. Every structure of a page lies in memory of its own, so that
a slot of `pageAllocList` is modelled with the structure that it points to, and a link to a
page as the slot of that page. What the pages hold is not modelled.
-/
import Gramado.Lib.Machine
import Gramado.Lib.Search
import Gramado.Mm.Paging
import Mathlib.Logic.Function.Basic

namespace Gramado.Mm.PagePool

open Gramado.Ke
open Gramado.Lib
open Gramado.Lib.Machine
open Function

def PAGE_COUNT_MAX : Nat := 512

def PAGE_SIZE : Nat := 4096

/-- `g_pagedpool_va` and `gKernelPML4Address`, as paging.c sets them; neither is 0. -/
def PAGEDPOOL_VA : UInt64 := 0x30600000

def KERNEL_PML4_VA : UInt64 := 0x9C000

/-- `struct page_d` -/
structure Page where
  used : Bool
  magic : Nat
  id : Nat
  absoluteFrameNumber : UInt32
  locked : Bool
  free : Bool
  refCount : Nat
  next : Option Nat

structure Pool where
  list : Nat → Option Page
  paging : Paging.System

/-- What the calls of `kmalloc` for a structure come to, the first being number 0: they
    stop the kernel, or there is memory or not. -/
abbrev Kmalloc := Nat → Except Stop Bool

def Pool.put (s : Pool) (slot : Nat) (page : Option Page) : Pool :=
  { s with list := update s.list slot page }

/-- The address of the page with this number. -/
def pageVa (id : Nat) : UInt64 :=
  PAGEDPOOL_VA + UInt64.ofNat (id * PAGE_SIZE)

/-- The number of the frame that holds the physical address. -/
def frameNumber (pa : UInt64) : UInt32 :=
  ((pa - pa % UInt64.ofNat PAGE_SIZE) / UInt64.ofNat PAGE_SIZE).toUInt32

/-- A structure is registered in the first free slot; `none` is NULL. -/
def pageObject (s : Pool) (kmalloc : Kmalloc) : Except Stop (Option Nat × Pool) :=
  match Search.first PAGE_COUNT_MAX fun slot => (s.list slot).isNone with
  | none => .ok (none, s)
  | some slot =>
      match kmalloc 0 with
      | .error stop => .error stop
      | .ok false => .ok (none, s)
      | .ok true => .ok (some slot, s.put slot (some ⟨true, 1234, slot, 0, false, false, 0, none⟩))

def mmNewPage (s : Pool) (kmalloc : Kmalloc) : Except Stop (UInt64 × Pool) :=
  match pageObject s kmalloc with
  | .error stop => .error stop
  | .ok (none, _) => .error (.panic "mmNewPage: New\n")
  | .ok (some id, s) =>
      if pageVa id = 0 then
        .error (.panic "mmNewPage: va={0}\n")
      else
        match Paging.virtualToPhysical s.paging (pageVa id) KERNEL_PML4_VA with
        | .error stop => .error stop
        | .ok pa =>
            if pa = 0 then
              .error (.panic "mmNewPage: pa==0\n")
            else
              .ok (pageVa id,
                s.put id (some ⟨true, 1234, id, frameNumber pa, false, false, 1, none⟩))

/-- How many of the `n` slots from `start` on are free, up to the first that is not. -/
def freeCount (s : Pool) (start : Nat) : Nat → Nat
  | 0 => 0
  | n + 1 => if (s.list start).isSome then 0 else freeCount s (start + 1) n + 1

def firstSlotForAList (s : Pool) (size : Nat) : Option Nat :=
  if size = 0 ∨ size ≥ PAGE_COUNT_MAX then
    none
  else
    Search.first (PAGE_COUNT_MAX - size + 1) fun start => freeCount s start size = size

/-- The page is linked behind the one before it. -/
def linkBehind (s : Pool) (conductor : Option Nat) (slot : Nat) : Pool :=
  match conductor with
  | none => s
  | some before => s.put before ((s.list before).map fun page => { page with next := some slot })

/-- The loop of `allocPages`, with `left` slots to go and `count` pages behind it. -/
def allocLoop (kmalloc : Kmalloc) (first size : Nat) :
    Nat → Nat → Option Nat → Nat → Pool → Except Stop (UInt64 × Pool)
  | 0, _, _, _, _ => .error (.panic "allocPages: fail\n")
  | left + 1, slot, conductor, count, s =>
      if (s.list slot).isSome then
        .error (.panic "allocPages: p\n")
      else
        match kmalloc count with
        | .error stop => .error stop
        | .ok false => .error (.panic "allocPages: fail 2\n")
        | .ok true =>
            match Paging.virtualToPhysical s.paging (pageVa slot) KERNEL_PML4_VA with
            | .error stop => .error stop
            | .ok pa =>
                let s := s.put slot (some ⟨true, 1234, slot, frameNumber pa, false, false, 1, none⟩)
                let s := linkBehind s conductor slot
                if count + 1 ≥ size then
                  match s.list first with
                  | none => .error (.panic "allocPages: pRet\n")
                  | some pRet =>
                      if pRet.used ≠ true then
                        .error (.panic "allocPages: pRet->used\n")
                      else if pRet.magic ≠ 1234 then
                        .error (.panic "allocPages: pRet->magic\n")
                      else
                        .ok (pageVa pRet.id, s)
                else
                  allocLoop kmalloc first size left (slot + 1) (some slot) (count + 1) s

/-- `size_t` is `int`. -/
def allocPages (s : Pool) (kmalloc : Kmalloc) (size : Int32) : Except Stop (UInt64 × Pool) :=
  if size ≤ 0 then
    .ok (0, s)
  else if size = 1 then
    mmNewPage s kmalloc
  else
    let size := size.toNatClampNeg
    if size ≥ PAGE_COUNT_MAX then
      .error (.panic "allocPages: size limits\n")
    else
      match firstSlotForAList s size with
      | none => .error (.panic "allocPages: No more free slots\n")
      | some first =>
          let targetSize := first + size + 1
          if targetSize ≥ PAGE_COUNT_MAX then
            .error (.panic "allocPages: TargetSize\n")
          else
            allocLoop kmalloc first size (targetSize - first) first none 0 s

/-- The list as it is set up: one structure, in the first slot. -/
def initializeFramesAlloc (paging : Paging.System) : Pool where
  list := fun slot => if slot = 0 then some ⟨true, 1234, 0, 0, false, true, 0, none⟩ else none
  paging := paging

inductive Request where
  | allocPages (kmalloc : Kmalloc) (size : Int32)
  | mmNewPage (kmalloc : Kmalloc)

def serve (s : Pool) : Request → Except Stop (UInt64 × Pool)
  | .allocPages kmalloc size => allocPages s kmalloc size
  | .mmNewPage kmalloc => mmNewPage s kmalloc

/-- How many pages a call is for. -/
def Request.pages : Request → Nat
  | .allocPages _ size => size.toNatClampNeg
  | .mmNewPage _ => 1

/-- The slots from `start` on are free. -/
def Run (s : Pool) (start size : Nat) : Prop :=
  start + size ≤ PAGE_COUNT_MAX ∧ ∀ k, start ≤ k → k < start + size → s.list k = none

def FirstRun (s : Pool) (start size : Nat) : Prop :=
  Run s start size ∧ ∀ earlier, earlier < start → ¬Run s earlier size

section Search

variable {s : Pool} {start size n : Nat}

theorem freeCount_eq_iff : freeCount s start n = n ↔
    ∀ k, start ≤ k → k < start + n → s.list k = none := by
  induction n generalizing start with
  | zero =>
      refine iff_of_true rfl ?_
      intro k low high
      omega
  | succ n ih =>
      rw [freeCount]
      by_cases taken : (s.list start).isSome = true
      · rw [if_pos taken]
        refine iff_of_false (by omega) ?_
        intro free
        rw [free start (Nat.le_refl _) (by omega)] at taken
        cases taken
      · rw [if_neg taken, Nat.add_right_cancel_iff, ih]
        have here : s.list start = none := by simpa using taken
        constructor
        · intro free k low high
          by_cases first : k = start
          · rw [first]
            exact here
          · exact free k (by omega) (by omega)
        · intro free k low high
          exact free k (by omega) (by omega)

theorem firstSlot_eq_some (some_size : 0 < size) (limit : size < PAGE_COUNT_MAX) :
    firstSlotForAList s size = some start ↔ FirstRun s start size := by
  have inside : ¬(size = 0 ∨ size ≥ PAGE_COUNT_MAX) := by omega
  rw [firstSlotForAList, if_neg inside, Search.first_eq_some]
  simp only [freeCount_eq_iff, FirstRun, Run]
  constructor
  · rintro ⟨free, place, before⟩
    refine ⟨⟨by omega, free⟩, ?_⟩
    rintro earlier low ⟨-, run⟩
    exact before earlier low run
  · rintro ⟨⟨place, free⟩, before⟩
    refine ⟨free, by omega, ?_⟩
    intro earlier low run
    exact before earlier low ⟨by omega, run⟩

theorem firstSlot_eq_none (some_size : 0 < size) (limit : size < PAGE_COUNT_MAX) :
    firstSlotForAList s size = none ↔ ∀ start, ¬Run s start size := by
  have inside : ¬(size = 0 ∨ size ≥ PAGE_COUNT_MAX) := by omega
  rw [firstSlotForAList, if_neg inside, Search.first_eq_none]
  simp only [freeCount_eq_iff, Run]
  constructor
  · rintro none start ⟨place, run⟩
    exact none start (by omega) run
  · intro none start place run
    exact none start ⟨by omega, run⟩

end Search

/-- The frame of the page, as `virtual_to_physical` gives it. -/
def frameOf (paging : Paging.System) (slot : Nat) : UInt32 :=
  match Paging.virtualToPhysical paging (pageVa slot) KERNEL_PML4_VA with
  | .error _ => 0
  | .ok pa => frameNumber pa

/-- The structure of a page that is handed out. -/
def pageAt (s : Pool) (slot : Nat) (next : Option Nat) : Page :=
  ⟨true, 1234, slot, frameOf s.paging slot, false, false, 1, next⟩

/-- `count` slots are taken, each page with its number and a link to the next one. -/
def Pool.claimed (s : Pool) (first count : Nat) : Pool :=
  { s with
    list := fun slot =>
      if first ≤ slot ∧ slot < first + count then
        some (pageAt s slot (if slot + 1 < first + count then some (slot + 1) else none))
      else
        s.list slot }

section Pages

variable {s : Pool} {first size count slot : Nat}

theorem pageVa_toNat (inside : slot < PAGE_COUNT_MAX) :
    (pageVa slot).toNat = PAGEDPOOL_VA.toNat + PAGE_SIZE * slot := by
  unfold PAGE_COUNT_MAX at inside
  have base : PAGEDPOOL_VA.toNat = 0x30600000 := rfl
  have offset : (UInt64.ofNat (slot * PAGE_SIZE)).toNat = slot * PAGE_SIZE :=
    UInt64.toNat_ofNat_of_lt' (by simp only [PAGE_SIZE, UInt64.size]; omega)
  rw [pageVa, UInt64.toNat_add, offset, base, PAGE_SIZE]
  omega

theorem pageVa_ne_zero (inside : slot < PAGE_COUNT_MAX) : pageVa slot ≠ 0 := by
  intro zero
  have value := pageVa_toNat inside
  rw [zero] at value
  have base : PAGEDPOOL_VA.toNat = 0x30600000 := rfl
  change 0 = _ at value
  omega

theorem translates (inside : slot < PAGE_COUNT_MAX) :
    ∃ pa, Paging.virtualToPhysical s.paging (pageVa slot) KERNEL_PML4_VA = .ok pa ∧
      frameOf s.paging slot = frameNumber pa := by
  have value := pageVa_toNat inside
  have base : PAGEDPOOL_VA.toNat = 0x30600000 := rfl
  unfold PAGE_COUNT_MAX at inside
  unfold PAGE_SIZE at value
  have high : ∀ n, 30 ≤ n → (pageVa slot).toNat >>> n = 0 := by
    intro n large
    rw [Nat.shiftRight_eq_div_pow]
    have power : 2 ^ 30 ≤ 2 ^ n := Nat.pow_le_pow_right (by decide) large
    exact Nat.div_eq_of_lt (by omega)
  have index : ∀ n : UInt64, n.toNat < 64 → 30 ≤ n.toNat →
      ((pageVa slot >>> n) &&& 0x1FF).toNat = 0 := by
    intro n small large
    rw [UInt64.toNat_and, UInt64.toNat_shiftRight, Nat.mod_eq_of_lt small, high _ large,
      Nat.zero_and]
  have first : ((pageVa slot >>> 39) &&& 0x1FF).toNat = 0 := index 39 (by decide) (by decide)
  have second : ((pageVa slot >>> 30) &&& 0x1FF).toNat = 0 := index 30 (by decide) (by decide)
  have some_table : KERNEL_PML4_VA ≠ 0 := by decide
  unfold frameOf Paging.virtualToPhysical
  simp only [first, second, ne_eq, not_true_eq_false, if_false, some_table]
  exact ⟨_, rfl, rfl⟩

theorem claimed_zero : s.claimed first 0 = s := by
  simp only [Pool.claimed]
  congr 1
  funext slot
  rw [if_neg (by omega)]

theorem claimed_list (inside : first ≤ slot ∧ slot < first + count) :
    (s.claimed first count).list slot =
      some (pageAt s slot (if slot + 1 < first + count then some (slot + 1) else none)) :=
  if_pos inside

theorem claimed_succ : linkBehind ((s.claimed first count).put (first + count)
      (some (pageAt s (first + count) none)))
      (if count = 0 then none else some (first + count - 1)) (first + count) =
    s.claimed first (count + 1) := by
  cases count with
  | zero =>
      rw [if_pos rfl, claimed_zero, linkBehind]
      simp only [Pool.put, Pool.claimed, Nat.add_zero]
      congr 1
      funext slot
      by_cases here : slot = first
      · rw [here, update_self, if_pos (by omega), if_neg (by omega)]
      · rw [update_of_ne here, if_neg (by omega)]
  | succ n =>
      have before : first + (n + 1) - 1 = first + n := by omega
      have other : first + n ≠ first + (n + 1) := by omega
      rw [if_neg (Nat.succ_ne_zero n), before, linkBehind]
      have old : ((s.claimed first (n + 1)).put (first + (n + 1))
          (some (pageAt s (first + (n + 1)) none))).list (first + n) =
            some (pageAt s (first + n) none) := by
        change update (s.claimed first (n + 1)).list _ _ _ = _
        rw [update_of_ne other, claimed_list (by omega), if_neg (by omega)]
      rw [old]
      simp only [Pool.put, Pool.claimed, Option.map_some]
      congr 1
      funext slot
      by_cases linked : slot = first + n
      · rw [linked, update_self, if_pos (by omega), if_pos (by omega)]
        rfl
      · rw [update_of_ne linked]
        by_cases new : slot = first + (n + 1)
        · rw [new, update_self, if_pos (by omega), if_neg (by omega)]
        · rw [update_of_ne new]
          by_cases inside : first ≤ slot ∧ slot < first + (n + 1)
          · have more : slot + 1 < first + (n + 1) := by omega
            rw [if_pos inside, if_pos more, if_pos (by omega), if_pos (by omega)]
          · rw [if_neg inside, if_neg (by omega)]

/-- The loop goes through exactly if there is memory for every structure, and then it has
    taken the run. -/
theorem allocLoop_ok_iff {kmalloc : Kmalloc} {left : Nat} {out : UInt64 × Pool}
    (free : ∀ k, first ≤ k → k < first + size → s.list k = none)
    (place : first + size ≤ PAGE_COUNT_MAX) (short : count < size)
    (enough : size - count ≤ left) :
    allocLoop kmalloc first size left (first + count)
        (if count = 0 then none else some (first + count - 1)) count (s.claimed first count) =
      .ok out ↔
    (∀ k, count ≤ k → k < size → kmalloc k = .ok true) ∧
      out = (pageVa first, s.claimed first size) := by
  induction left generalizing count with
  | zero => omega
  | succ left ih =>
      have vacant : (s.claimed first count).list (first + count) = none := by
        change (if _ then _ else _) = _
        rw [if_neg (by omega)]
        exact free _ (by omega) (by omega)
      rw [allocLoop, vacant, if_neg (by decide)]
      obtain ⟨pa, translated, frame⟩ := @translates s (first + count) (by omega)
      -- A page costs a structure of the heap.
      cases memory : kmalloc count with
      | error stop =>
          refine iff_of_false (by rintro ⟨⟩) fun done => ?_
          have given := done.1 count (Nat.le_refl _) short
          rw [memory] at given
          cases given
      | ok given =>
          cases given with
          | false =>
              refine iff_of_false (by rintro ⟨⟩) fun done => ?_
              have given := done.1 count (Nat.le_refl _) short
              rw [memory] at given
              cases given
          | true =>
              have paging : (s.claimed first count).paging = s.paging := rfl
              have page :
                  (⟨true, 1234, first + count, frameNumber pa, false, false, 1, none⟩ : Page) =
                  pageAt s (first + count) none := by
                rw [pageAt, frame]
              simp only [paging, translated, page, claimed_succ]
              by_cases last : count + 1 ≥ size
              · have whole : count + 1 = size := by omega
                have head : (s.claimed first (count + 1)).list first =
                    some (pageAt s first _) := claimed_list (by omega)
                rw [if_pos last, head]
                simp only [pageAt, ne_eq, not_true_eq_false, if_false, whole, Except.ok.injEq]
                constructor
                · rintro rfl
                  refine ⟨fun k low high => ?_, rfl⟩
                  have only : k = count := by omega
                  rw [only, memory]
                · rintro ⟨-, rfl⟩
                  rfl
              · rw [if_neg last]
                have next := @ih (count + 1) (by omega) (by omega)
                rw [if_neg (Nat.succ_ne_zero count)] at next
                have place : first + (count + 1) - 1 = first + count := by omega
                rw [place] at next
                rw [Nat.add_assoc, next]
                constructor
                · rintro ⟨later, same⟩
                  refine ⟨fun k low high => ?_, same⟩
                  by_cases here : k = count
                  · rw [here, memory]
                  · exact later k (by omega) high
                · rintro ⟨all, same⟩
                  exact ⟨fun k low high => all k (by omega) high, same⟩

end Pages

section Calls

variable {s t : Pool} {kmalloc : Kmalloc} {size : Int32} {first n : Nat} {ptr : UInt64}

/-- Slots that were free are taken, and no others. -/
structure Takes (s t : Pool) (first n : Nat) : Prop where
  place : first + n ≤ PAGE_COUNT_MAX
  before : ∀ k, first ≤ k → k < first + n → s.list k = none
  taken : ∀ k, first ≤ k → k < first + n → t.list k ≠ none
  others : ∀ k, ¬(first ≤ k ∧ k < first + n) → t.list k = s.list k

theorem claimed_takes (run : Run s first n) : Takes s (s.claimed first n) first n where
  place := run.1
  before := run.2
  taken := by
    intro k low high
    rw [claimed_list ⟨low, high⟩]
    exact Option.some_ne_none _
  others := fun _ outside => if_neg outside

theorem mmNewPage_takes (served : mmNewPage s kmalloc = .ok (ptr, t)) :
    ∃ slot, ptr = pageVa slot ∧ Takes s t slot 1 := by
  unfold mmNewPage pageObject at served
  cases found : Search.first PAGE_COUNT_MAX fun slot => (s.list slot).isNone with
  | none =>
      rw [found] at served
      cases served
  | some slot =>
      rw [found] at served
      obtain ⟨free, inside, -⟩ := Search.first_eq_some.mp found
      cases memory : kmalloc 0 with
      | error stop =>
          simp only [memory] at served
          cases served
      | ok given =>
          cases given with
          | false =>
              simp only [memory] at served
              cases served
          | true =>
              have some_va := pageVa_ne_zero inside
              simp only [memory, if_neg some_va] at served
              split at served
              · cases served
              · split at served
                · cases served
                · cases served
                  refine ⟨slot, rfl, inside, ?_, ?_, ?_⟩
                  · intro k low high
                    have here : k = slot := by omega
                    rw [here]
                    simpa using free
                  · intro k low high
                    have here : k = slot := by omega
                    rw [here]
                    change update (update s.list slot _) slot _ slot ≠ none
                    rw [update_self]
                    exact Option.some_ne_none _
                  · intro k outside
                    have other : k ≠ slot := by omega
                    change update (update s.list slot _) slot _ k = _
                    rw [update_of_ne other, update_of_ne other]

theorem size_several (several : 1 < size) : ¬size ≤ 0 ∧ size ≠ 1 ∧ 1 < size.toNatClampNeg := by
  have value := Int32.lt_iff_toInt_lt.mp several
  change 1 < size.toInt at value
  refine ⟨?_, ?_, ?_⟩
  · rw [Int32.le_iff_toInt_le]
    change ¬size.toInt ≤ 0
    omega
  · rintro rfl
    exact absurd value (by decide)
  · rw [Int32.toNatClampNeg]
    omega

theorem allocPages_run (several : 1 < size) (limit : size.toNatClampNeg < PAGE_COUNT_MAX)
    (run : FirstRun s first size.toNatClampNeg)
    (room : first + size.toNatClampNeg + 1 < PAGE_COUNT_MAX) {out : UInt64 × Pool} :
    allocPages s kmalloc size = .ok out ↔
      (∀ k, k < size.toNatClampNeg → kmalloc k = .ok true) ∧
        out = (pageVa first, s.claimed first size.toNatClampNeg) := by
  obtain ⟨positive, other, more⟩ := size_several several
  have found := (firstSlot_eq_some (by omega) limit).mpr run
  have loop := @allocLoop_ok_iff s first size.toNatClampNeg 0 kmalloc
    (first + size.toNatClampNeg + 1 - first) out run.1.2 run.1.1 (by omega) (by omega)
  rw [if_pos rfl, claimed_zero] at loop
  simp only [allocPages, if_neg positive, if_neg other, if_neg (Nat.not_le.mpr limit), found,
    if_neg (Nat.not_le.mpr room)]
  rw [Nat.add_zero] at loop
  simpa using loop

theorem allocPages_none (several : 1 < size) (limit : size.toNatClampNeg < PAGE_COUNT_MAX)
    (none : ∀ start, ¬Run s start size.toNatClampNeg) :
    allocPages s kmalloc size = .error (.panic "allocPages: No more free slots\n") := by
  obtain ⟨positive, other, more⟩ := size_several several
  have missing := (firstSlot_eq_none (by omega) limit).mpr none
  simp only [allocPages, if_neg positive, if_neg other, if_neg (Nat.not_le.mpr limit), missing]

theorem serve_takes {request : Request} (served : serve s request = .ok (ptr, t)) :
    (ptr = 0 ∧ t = s) ∨
      ∃ first, ptr = pageVa first ∧ 0 < request.pages ∧ Takes s t first request.pages := by
  cases request with
  | mmNewPage kmalloc =>
      change mmNewPage s kmalloc = _ at served
      obtain ⟨slot, same, takes⟩ := mmNewPage_takes served
      exact Or.inr ⟨slot, same, Nat.one_pos, takes⟩
  | allocPages kmalloc size =>
      change allocPages s kmalloc size = _ at served
      by_cases positive : size ≤ 0
      · rw [allocPages, if_pos positive] at served
        cases served
        exact Or.inl ⟨rfl, rfl⟩
      · by_cases single : size = 1
        · rw [allocPages, if_neg positive, if_pos single] at served
          obtain ⟨slot, same, takes⟩ := mmNewPage_takes served
          rw [single]
          exact Or.inr ⟨slot, same, Nat.one_pos, takes⟩
        · have several : 1 < size := by
            rw [Int32.lt_iff_toInt_lt]
            rw [Int32.le_iff_toInt_le] at positive
            rw [← Int32.toInt_inj] at single
            change ¬size.toInt ≤ 0 at positive
            change ¬size.toInt = 1 at single
            change 1 < size.toInt
            omega
          have call := served
          simp only [allocPages, if_neg positive, if_neg single] at call
          split at call
          · cases call
          · next limit =>
            split at call
            · cases call
            · next first found =>
              split at call
              · cases call
              · next room =>
                have some_size : 0 < size.toNatClampNeg :=
                  Nat.lt_trans Nat.zero_lt_one (size_several several).2.2
                have below : size.toNatClampNeg < PAGE_COUNT_MAX := Nat.not_le.mp limit
                have behind : first + size.toNatClampNeg + 1 < PAGE_COUNT_MAX := Nat.not_le.mp room
                have run := (firstSlot_eq_some some_size below).mp found
                obtain ⟨-, same⟩ := (allocPages_run several below run behind).mp served
                cases same
                exact Or.inr ⟨first, rfl, some_size, claimed_takes run.1⟩

end Calls

/-- The bytes that a run of calls has handed out: where they start and how many. -/
def ranges (requests : List Request) (ptrs : List UInt64) : List (Nat × Nat) :=
  (requests.zip ptrs).filterMap fun call =>
    if call.2 = 0 then none else some (call.2.toNat, PAGE_SIZE * call.1.pages)

def Apart (a b : Nat × Nat) : Prop :=
  a.1 + a.2 ≤ b.1 ∨ b.1 + b.2 ≤ a.1

/-- The range is that of slots which are free. -/
def Vacant (s : Pool) (range : Nat × Nat) : Prop :=
  ∃ first n, range = ((pageVa first).toNat, PAGE_SIZE * n) ∧ first + n ≤ PAGE_COUNT_MAX ∧ 0 < n ∧
    ∀ k, first ≤ k → k < first + n → s.list k = none

section Runs

variable {s t u : Pool} {first n : Nat} {range : Nat × Nat}

theorem Vacant.earlier (takes : Takes s t first n) (vacant : Vacant t range) : Vacant s range := by
  obtain ⟨start, m, same, place, some_slot, free⟩ := vacant
  refine ⟨start, m, same, place, some_slot, fun k low high => ?_⟩
  by_cases inside : first ≤ k ∧ k < first + n
  · exact takes.before k inside.1 inside.2
  · rw [← takes.others k inside]
    exact free k low high

theorem Vacant.apart (takes : Takes s t first n) (some_page : 0 < n) (vacant : Vacant t range) :
    Apart ((pageVa first).toNat, PAGE_SIZE * n) range := by
  obtain ⟨start, m, rfl, place, some_slot, free⟩ := vacant
  have disjoint : first + n ≤ start ∨ start + m ≤ first := by
    by_contra meets
    have shared : ∃ k, (first ≤ k ∧ k < first + n) ∧ start ≤ k ∧ k < start + m :=
      ⟨max first start, by omega, by omega⟩
    obtain ⟨k, mine, yours⟩ := shared
    exact takes.taken k mine.1 mine.2 (free k yours.1 yours.2)
  have bound := takes.place
  rw [Apart, pageVa_toNat (by omega), pageVa_toNat (by omega), PAGE_SIZE]
  omega

/-- By induction on the calls: what the later ones hand out is free behind the first one. -/
theorem run_ranges {requests : List Request} {ptrs : List UInt64}
    (served : run serve s requests = .ok (ptrs, u)) :
    (ranges requests ptrs).Pairwise Apart ∧ ∀ range ∈ ranges requests ptrs, Vacant s range := by
  induction requests generalizing s ptrs with
  | nil =>
      cases served
      simp [ranges]
  | cons request rest ih =>
      obtain ⟨ptr, t, later, first, behind, rfl⟩ := run_cons_ok served
      obtain ⟨pairwise, vacant⟩ := ih behind
      obtain ⟨rfl, rfl⟩ | ⟨start, rfl, some_page, takes⟩ := serve_takes first
      · have same : ranges (request :: rest) (0 :: later) = ranges rest later := by
          simp [ranges]
        rw [same]
        exact ⟨pairwise, vacant⟩
      · have bound := takes.place
        have some_ptr := @pageVa_ne_zero start (by omega)
        have more : ranges (request :: rest) (pageVa start :: later) =
            ((pageVa start).toNat, PAGE_SIZE * request.pages) :: ranges rest later := by
          simp [ranges, some_ptr]
        rw [more]
        constructor
        · rw [List.pairwise_cons]
          exact ⟨fun range member => (vacant range member).apart takes some_page, pairwise⟩
        · intro range member
          obtain here | there := List.mem_cons.mp member
          · exact ⟨start, request.pages, here, bound, some_page, takes.before⟩
          · exact (vacant range there).earlier takes

end Runs

/-- A call for several pages takes the first run of free slots, if it ends before the last
    two slots and there is memory for the structures; it panics if there is no run. The pages
    of any sequence of calls, for several pages or for one, lie apart. -/
theorem page_pool :
    (∀ (s : Pool) (kmalloc : Kmalloc) (size : Int32), 1 < size →
      size.toNatClampNeg < PAGE_COUNT_MAX →
      (∀ first, FirstRun s first size.toNatClampNeg →
        first + size.toNatClampNeg + 1 < PAGE_COUNT_MAX →
        (∀ k, k < size.toNatClampNeg → kmalloc k = .ok true) →
        allocPages s kmalloc size = .ok (pageVa first, s.claimed first size.toNatClampNeg)) ∧
      ((∀ start, ¬Run s start size.toNatClampNeg) →
        allocPages s kmalloc size = .error (.panic "allocPages: No more free slots\n"))) ∧
    ∀ (s t : Pool) (requests : List Request) (ptrs : List UInt64),
      run serve s requests = .ok (ptrs, t) → (ranges requests ptrs).Pairwise Apart := by
  refine ⟨?_, fun s t requests ptrs served => (run_ranges served).1⟩
  intro s kmalloc size several limit
  constructor
  · intro first run room memory
    exact (allocPages_run several limit run room).mpr ⟨memory, rfl⟩
  · exact allocPages_none several limit

/-- Tables whose entries all name the frame at 0x1000. -/
def sameFrame : Paging.System :=
  ⟨fun _ => 0x1000, 0⟩

def yes : Kmalloc := fun _ => .ok true

theorem two_pages : allocPages (initializeFramesAlloc sameFrame) yes 2 =
    .ok (pageVa 1, (initializeFramesAlloc sameFrame).claimed 1 2) := by
  have run : FirstRun (initializeFramesAlloc sameFrame) 1 (Int32.toNatClampNeg 2) := by
    refine ⟨⟨by decide, ?_⟩, ?_⟩
    · intro k low _
      exact if_neg (by omega)
    · intro earlier front free
      have zero : earlier = 0 := by omega
      rw [zero] at free
      exact absurd (free.2 0 (Nat.le_refl _) (by decide)) (by decide)
  exact ((page_pool.1 _ yes 2 (by decide) (by decide)).1 1 run (by decide)) fun _ _ => rfl

/-- A page is taken from the list as it is set up, which leaves no run of 511 slots. The call
    for as many panics, where a failure is to be returned. -/
theorem no_run_panics : ∃ s ptrs, run serve (initializeFramesAlloc sameFrame) [.mmNewPage yes] =
      .ok (ptrs, s) ∧ (∀ start, ¬Run s start 511) ∧
    allocPages s yes 511 = .error (.panic "allocPages: No more free slots\n") := by
  have returns : (mmNewPage (initializeFramesAlloc sameFrame) yes).isOk = true := by
    decide +kernel
  cases served : mmNewPage (initializeFramesAlloc sameFrame) yes with
  | error stop =>
      rw [served] at returns
      cases returns
  | ok out =>
      obtain ⟨ptr, s⟩ := out
      obtain ⟨slot, -, takes⟩ := mmNewPage_takes served
      have some_slot : slot ≠ 0 := by
        rintro rfl
        exact absurd (takes.before 0 (Nat.le_refl _) Nat.one_pos) (by decide)
      have kept : s.list 0 ≠ none := by
        rw [takes.others 0 (by omega)]
        exact Option.some_ne_none _
      have none : ∀ start, ¬Run s start 511 := by
        rintro start ⟨place, free⟩
        have inside := takes.place
        unfold PAGE_COUNT_MAX at place inside
        by_cases front : start = 0
        · exact kept (free 0 (by omega) (by omega))
        · exact takes.taken slot (Nat.le_refl _) (by omega) (free slot (by omega) (by omega))
      refine ⟨s, [ptr], ?_, none, allocPages_none (by decide) (by decide) none⟩
      simp only [run, serve, served]

end Gramado.Mm.PagePool
