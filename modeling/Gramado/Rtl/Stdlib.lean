/-
malloc, calloc and realloc of the RTL (stdlib.c), with memset and bcopy down to the bytes
that they read and write. `size_t` is `int` there: a product wraps at 32 bits, and nobody
records how long an old block was. shAlloc is the kernel's.
-/
import Mathlib.Data.Int.Bitwise
import Mathlib.Data.List.Basic
import Mathlib.Logic.Function.Basic

namespace Gramado.Rtl.Stdlib

open Function

/-- A live block of the shared heap. -/
structure Block where
  base : Nat
  size : Nat

def Block.Has (block : Block) (address : Nat) : Prop :=
  block.base ≤ address ∧ address < block.base + block.size

/-- The bytes of a process and its live blocks. -/
structure Machine where
  mem : Nat → UInt8
  live : List Block

/-- `shAlloc`: none for NULL. -/
abbrev ShAlloc := Machine → Int32 → Option Nat

/-- A block is not at NULL, and apart from all live ones. -/
def Fresh (shAlloc : ShAlloc) : Prop :=
  ∀ m size base, shAlloc m size = some base → base ≠ 0 ∧
    ∀ block ∈ m.live, base + size.toNatClampNeg ≤ block.base ∨ block.base + block.size ≤ base

/-- What a call returns and leaves, with the addresses that it has read and written. -/
structure Outcome where
  base : Option Nat
  after : Machine
  reads : List Nat
  writes : List Nat

def Outcome.null (m : Machine) : Outcome :=
  ⟨none, m, [], []⟩

def malloc (shAlloc : ShAlloc) (m : Machine) (size : Int32) : Outcome :=
  -- The low 32 bits, as an unsigned long, and an int again for shAlloc.
  let longSize : UInt64 := size.toUInt32.toUInt64
  if size ≤ 0 then
    .null m
  else
    match shAlloc m longSize.toUInt32.toInt32 with
    | none => .null m
    | some base =>
        ⟨some base, { m with live := ⟨base, longSize.toUInt32.toInt32.toNatClampNeg⟩ :: m.live },
          [], []⟩

/-- Bytes, and the accesses to them so far. -/
structure Effect where
  mem : Nat → UInt8
  reads : List Nat
  writes : List Nat

/-- The loop of `memset`, with `n` bytes to go. -/
def memsetLoop (value : UInt8) : Nat → Nat → Effect → Effect
  | 0, _, effect => effect
  | n + 1, temp, effect =>
      memsetLoop value n (temp + 1)
        { effect with mem := update effect.mem temp value, writes := temp :: effect.writes }

def memset (effect : Effect) (ptr : Nat) (value : UInt8) (size : Int32) : Effect :=
  if ptr ≠ 0 ∧ size > 0 then memsetLoop value size.toNatClampNeg ptr effect else effect

/-- The loop of `bcopy`, with `n` bytes to go. -/
def bcopyLoop : Nat → Nat → Nat → Effect → Effect
  | 0, _, _, effect => effect
  | n + 1, source, target, effect =>
      bcopyLoop n (source + 1) (target + 1)
        { mem := update effect.mem target (effect.mem source)
          reads := source :: effect.reads
          writes := target :: effect.writes }

/-- `while (len--)` ends when the 32 bits are zero. -/
def bcopy (effect : Effect) (source target : Nat) (len : Int32) : Effect :=
  bcopyLoop len.toUInt32.toNat source target effect

def calloc (shAlloc : ShAlloc) (m : Machine) (count size : Int32) : Outcome :=
  let newSize := count * size
  if count ≤ 0 then
    .null m
  else
    let got := malloc shAlloc m newSize
    match got.base with
    | none => got
    | some ptr =>
        let effect := memset ⟨got.after.mem, [], []⟩ ptr 0 newSize
        ⟨some ptr, { got.after with mem := effect.mem }, effect.reads, effect.writes⟩

def realloc (shAlloc : ShAlloc) (m : Machine) (start : Nat) (newsize : Int32) : Outcome :=
  if newsize < 0 then
    .null m
  else
    let got := malloc shAlloc m newsize
    match got.base with
    | none => got
    | some newstart =>
        let effect := bcopy ⟨got.after.mem, [], []⟩ start newstart newsize
        ⟨some newstart, { got.after with mem := effect.mem }, effect.reads, effect.writes⟩

/-- A result other than NULL is a live block of at least so many bytes. -/
def Outcome.Gives (out : Outcome) (bytes : Int) (base : Nat) (block : Block) : Prop :=
  block ∈ out.after.live ∧ block.base = base ∧ bytes ≤ block.size

/-- What is asked of `malloc`. -/
def Allocates (out : Outcome) (bytes : Int) : Prop :=
  ∀ base, out.base = some base → ∃ block, out.Gives bytes base block

/-- What is asked of `calloc`: all the bytes are zero, and none outside is written. -/
def Clears (out : Outcome) (bytes : Int) : Prop :=
  ∀ base, out.base = some base → ∃ block, out.Gives bytes base block ∧
    (∀ i : Nat, (i : Int) < bytes → out.after.mem (base + i) = 0) ∧
    ∀ address ∈ out.writes, block.Has address

/-- What is asked of `realloc`: it begins with the bytes of the old block, and reads none
    outside of that. -/
def Moves (m : Machine) (old : Block) (out : Outcome) (bytes : Int) : Prop :=
  ∀ base, out.base = some base → ∃ block, out.Gives bytes base block ∧
    (∀ i : Nat, i < old.size → (i : Int) < bytes →
      out.after.mem (base + i) = m.mem (old.base + i)) ∧
    ∀ address ∈ out.reads, old.Has address

/-- The call returns NULL, or the exact product is an int. -/
def Representable (shAlloc : ShAlloc) (m : Machine) (count size : Int32) : Prop :=
  count ≤ 0 ∨ count * size ≤ 0 ∨ shAlloc m (count * size) = none ∨
    count.toInt * size.toInt < 2 ^ 31

/-- The call returns NULL, or the old block is long enough. -/
def Shrinks (shAlloc : ShAlloc) (m : Machine) (old : Block) (newsize : Int32) : Prop :=
  newsize ≤ 0 ∨ shAlloc m newsize = none ∨ newsize.toInt ≤ old.size

section Loops

variable {value : UInt8} {n source target address i : Nat} {effect : Effect}

theorem memsetLoop_mem : (memsetLoop value n target effect).mem address =
    if target ≤ address ∧ address < target + n then value else effect.mem address := by
  induction n generalizing target effect with
  | zero =>
      have outside : ¬(target ≤ address ∧ address < target + 0) := by omega
      rw [memsetLoop, if_neg outside]
  | succ n ih =>
      rw [memsetLoop, ih]
      by_cases first : address = target
      · subst first
        simp
      · have here : update effect.mem target value address = effect.mem address :=
          update_of_ne first _ _
        have split : (target + 1 ≤ address ∧ address < target + 1 + n) ↔
            (target ≤ address ∧ address < target + (n + 1)) := by omega
        simp only [split, here]

theorem mem_memsetLoop_writes : address ∈ (memsetLoop value n target effect).writes ↔
    address ∈ effect.writes ∨ (target ≤ address ∧ address < target + n) := by
  induction n generalizing target effect with
  | zero =>
      have outside : ¬(target ≤ address ∧ address < target + 0) := by omega
      rw [memsetLoop, or_iff_left outside]
  | succ n ih =>
      have split : (target ≤ address ∧ address < target + (n + 1)) ↔
          (address = target ∨ (target + 1 ≤ address ∧ address < target + 1 + n)) := by omega
      rw [memsetLoop, ih, List.mem_cons, split, or_assoc, or_left_comm]

theorem bcopyLoop_outside (outside : address < target ∨ target + n ≤ address) :
    (bcopyLoop n source target effect).mem address = effect.mem address := by
  induction n generalizing source target effect with
  | zero => rfl
  | succ n ih =>
      rw [bcopyLoop, ih (by omega)]
      exact update_of_ne (by omega) _ _

theorem bcopyLoop_inside (apart : source + n ≤ target ∨ target + n ≤ source) (inside : i < n) :
    (bcopyLoop n source target effect).mem (target + i) = effect.mem (source + i) := by
  induction n generalizing source target effect i with
  | zero => cases inside
  | succ n ih =>
      rw [bcopyLoop]
      cases i with
      | zero =>
          have kept : target + 0 < target + 1 := Nat.lt_succ_self target
          rw [bcopyLoop_outside (Or.inl kept)]
          exact update_self _ _ _
      | succ i =>
          have place : target + (i + 1) = target + 1 + i := by omega
          rw [place, ih (by omega) (Nat.lt_of_succ_lt_succ inside)]
          -- The byte to be copied has not been written over.
          have other : source + 1 + i ≠ target := by omega
          have same : source + (i + 1) = source + 1 + i := by omega
          rw [same]
          exact update_of_ne other _ _

theorem mem_bcopyLoop_reads : address ∈ (bcopyLoop n source target effect).reads ↔
    address ∈ effect.reads ∨ (source ≤ address ∧ address < source + n) := by
  induction n generalizing source target effect with
  | zero =>
      have outside : ¬(source ≤ address ∧ address < source + 0) := by omega
      rw [bcopyLoop, or_iff_left outside]
  | succ n ih =>
      have split : (source ≤ address ∧ address < source + (n + 1)) ↔
          (address = source ∨ (source + 1 ≤ address ∧ address < source + 1 + n)) := by omega
      rw [bcopyLoop, ih, List.mem_cons, split, or_assoc, or_left_comm]

end Loops

section Calls

variable {shAlloc : ShAlloc} {m : Machine} {size count newsize : Int32} {base : Nat}

theorem size_through (size : Int32) : size.toUInt32.toUInt64.toUInt32.toInt32 = size := by
  simp

theorem malloc_small (small : size ≤ 0) : malloc shAlloc m size = .null m :=
  if_pos small

theorem malloc_none (some_size : ¬size ≤ 0) (none : shAlloc m size = none) :
    malloc shAlloc m size = .null m := by
  simp only [malloc, if_neg some_size, size_through, none]

theorem malloc_some (some_size : ¬size ≤ 0) (got : shAlloc m size = some base) :
    malloc shAlloc m size =
      ⟨some base, { m with live := ⟨base, size.toNatClampNeg⟩ :: m.live }, [], []⟩ := by
  simp only [malloc, if_neg some_size, size_through, got]

theorem malloc_cases (shAlloc : ShAlloc) (m : Machine) (size : Int32) :
    (malloc shAlloc m size = .null m ∧ (size ≤ 0 ∨ shAlloc m size = none)) ∨
      ∃ base, ¬size ≤ 0 ∧ shAlloc m size = some base ∧ malloc shAlloc m size =
        ⟨some base, { m with live := ⟨base, size.toNatClampNeg⟩ :: m.live }, [], []⟩ := by
  by_cases small : size ≤ 0
  · exact Or.inl ⟨malloc_small small, Or.inl small⟩
  · cases got : shAlloc m size with
    | none => exact Or.inl ⟨malloc_none small got, Or.inr rfl⟩
    | some base => exact Or.inr ⟨base, small, rfl, malloc_some small got⟩

theorem malloc_allocates (size : Int32) : Allocates (malloc shAlloc m size) size.toInt := by
  intro base result
  obtain ⟨null, -⟩ | ⟨p, -, -, got⟩ := malloc_cases shAlloc m size
  · rw [null] at result
    cases result
  · rw [got] at result ⊢
    cases result
    exact ⟨⟨_, size.toNatClampNeg⟩, List.mem_cons_self, rfl, Int.self_le_toNat _⟩

theorem int32_pos (positive : ¬size ≤ 0) : 0 < size.toInt := by
  have order := Int32.lt_iff_toInt_lt.mp (Int32.not_le.mp positive)
  simpa using order

/-- A product that is an int is not changed, and any larger one is made smaller. -/
theorem product_le_iff (positive : ¬count * size ≤ 0) :
    count.toInt * size.toInt ≤ (count * size).toInt ↔ count.toInt * size.toInt < 2 ^ 31 := by
  have wrapped : (count * size).toInt = (count.toInt * size.toInt).bmod (2 ^ 32) :=
    Int32.toInt_mul count size
  have some_size := int32_pos positive
  rw [wrapped, Int.bmod_def] at some_size ⊢
  split at some_size <;> split <;> omega

theorem calloc_clears_iff (fresh : Fresh shAlloc) (m : Machine) (count size : Int32) :
    Clears (calloc shAlloc m count size) (count.toInt * size.toInt) ↔
      Representable shAlloc m count size := by
  by_cases few : count ≤ 0
  · have null : calloc shAlloc m count size = .null m := by simp only [calloc, if_pos few]
    rw [null]
    refine iff_of_true ?_ (Or.inl few)
    intro base result
    cases result
  obtain ⟨null, why⟩ | ⟨p, positive, got, returned⟩ := malloc_cases shAlloc m (count * size)
  · have same : calloc shAlloc m count size = .null m := by
      simp only [calloc, if_neg few, null, Outcome.null]
    rw [same]
    refine iff_of_true ?_ (Or.inr (why.imp_right Or.inl))
    intro base result
    cases result
  have nonzero := (fresh m _ p got).1
  have order := Int32.not_le.mp positive
  have cleared : calloc shAlloc m count size =
      ⟨some p, ⟨(memsetLoop 0 (count * size).toNatClampNeg p ⟨m.mem, [], []⟩).mem,
        ⟨p, (count * size).toNatClampNeg⟩ :: m.live⟩,
        (memsetLoop 0 (count * size).toNatClampNeg p ⟨m.mem, [], []⟩).reads,
        (memsetLoop 0 (count * size).toNatClampNeg p ⟨m.mem, [], []⟩).writes⟩ := by
    have loops : p ≠ 0 ∧ count * size > 0 := ⟨nonzero, order⟩
    simp only [calloc, if_neg few, returned, memset, if_pos loops]
  have length : ((count * size).toNatClampNeg : Int) = (count * size).toInt :=
    Int.toNat_of_nonneg (Int.le_of_lt (int32_pos positive))
  have exact_size : Representable shAlloc m count size ↔
      count.toInt * size.toInt ≤ (count * size).toInt := by
    rw [product_le_iff positive, Representable, got]
    simp [few, positive]
  rw [exact_size, cleared]
  constructor
  · intro clears
    obtain ⟨block, ⟨member, here, long⟩, -, -⟩ := clears p rfl
    obtain rfl | old := List.mem_cons.mp member
    · exact length ▸ long
    · -- An old block at the same place has no bytes.
      have apart := (fresh m _ p got).2 block old
      have some_size := int32_pos positive
      omega
  · intro fits base result
    cases result
    refine ⟨⟨p, (count * size).toNatClampNeg⟩, ⟨List.mem_cons_self, rfl, ?_⟩, ?_, ?_⟩
    · exact length ▸ fits
    · intro i below
      have inside : p ≤ p + i ∧ p + i < p + (count * size).toNatClampNeg := by omega
      exact memsetLoop_mem.trans (if_pos inside)
    · intro address written
      obtain before | inside := mem_memsetLoop_writes.mp written
      · cases before
      · exact inside

/-- An old block, or none for NULL. -/
def Old (m : Machine) (old : Block) : Prop :=
  old ∈ m.live ∨ old = ⟨0, 0⟩

theorem realloc_moves_iff (fresh : Fresh shAlloc) (m : Machine) (old : Block) (newsize : Int32)
    (is_old : Old m old) :
    Moves m old (realloc shAlloc m old.base newsize) newsize.toInt ↔
      Shrinks shAlloc m old newsize := by
  by_cases negative : newsize < 0
  · have null : realloc shAlloc m old.base newsize = .null m := if_pos negative
    rw [null]
    refine iff_of_true ?_ (Or.inl (Int32.le_of_lt negative))
    intro base result
    cases result
  obtain ⟨null, why⟩ | ⟨p, positive, got, returned⟩ := malloc_cases shAlloc m newsize
  · have same : realloc shAlloc m old.base newsize = .null m := by
      simp only [realloc, if_neg negative, null, Outcome.null]
    rw [same]
    refine iff_of_true ?_ (why.imp_right Or.inl)
    intro base result
    cases result
  have bytes : newsize.toUInt32.toNat = newsize.toNatClampNeg :=
    Int32.toNat_toUInt32_of_le (Int32.le_of_lt (Int32.not_le.mp positive))
  have length : (newsize.toNatClampNeg : Int) = newsize.toInt :=
    Int.toNat_of_nonneg (Int.le_of_lt (int32_pos positive))
  have some_size := int32_pos positive
  obtain ⟨nonzero, apart⟩ := fresh m _ p got
  let copied := bcopyLoop newsize.toNatClampNeg old.base p ⟨m.mem, [], []⟩
  have moved : realloc shAlloc m old.base newsize =
      ⟨some p, ⟨copied.mem, ⟨p, newsize.toNatClampNeg⟩ :: m.live⟩, copied.reads,
        copied.writes⟩ := by
    simp only [realloc, if_neg negative, returned, bcopy, bytes]
    rfl
  have shrinks : Shrinks shAlloc m old newsize ↔ newsize.toInt ≤ old.size := by
    rw [Shrinks, got]
    simp [positive]
  rw [shrinks, moved]
  constructor
  · intro moves
    obtain ⟨block, -, -, inside⟩ := moves p rfl
    -- The last byte that is read is one of the old block.
    have last : old.base + (newsize.toNatClampNeg - 1) ∈ copied.reads :=
      mem_bcopyLoop_reads.mpr (Or.inr (by omega))
    have bound := (inside _ last).2
    omega
  · intro shorter base result
    cases result
    have disjoint : old.base + newsize.toNatClampNeg ≤ p ∨
        p + newsize.toNatClampNeg ≤ old.base := by
      obtain member | rfl := is_old
      · have ranges := apart old member
        omega
      · have none : newsize.toInt ≤ 0 := shorter
        omega
    refine ⟨⟨p, newsize.toNatClampNeg⟩, ⟨List.mem_cons_self, rfl, Int.le_of_eq length.symm⟩, ?_, ?_⟩
    · intro i _ below
      exact bcopyLoop_inside disjoint (by omega)
    · intro address read
      obtain before | inside := mem_bcopyLoop_reads.mp read
      · cases before
      · exact ⟨inside.1, by omega⟩

end Calls

/-- `malloc` always gives what it is asked for, `calloc` where the product is an int, and
    `realloc` where the old block is as long as the new one. -/
theorem allocation_iff (shAlloc : ShAlloc) (fresh : Fresh shAlloc) (m : Machine) :
    (∀ size, Allocates (malloc shAlloc m size) size.toInt) ∧
      (∀ count size, Clears (calloc shAlloc m count size) (count.toInt * size.toInt) ↔
        Representable shAlloc m count size) ∧
      ∀ old newsize, Old m old →
        (Moves m old (realloc shAlloc m old.base newsize) newsize.toInt ↔
          Shrinks shAlloc m old newsize) :=
  ⟨malloc_allocates, calloc_clears_iff fresh m,
    fun old newsize is_old => realloc_moves_iff fresh m old newsize is_old⟩

/-- Blocks are given out behind all live ones. -/
def bump : ShAlloc := fun m _ =>
  some (m.live.foldr (fun block top => max top (block.base + block.size)) 4096)

theorem bump_fresh : Fresh bump := by
  intro m size base result
  cases result
  have low : ∀ list : List Block, 4096 ≤ list.foldr
      (fun block top => max top (block.base + block.size)) 4096 := by
    intro list
    induction list with
    | nil => exact Nat.le_refl _
    | cons block rest ih => exact Nat.le_trans ih (Nat.le_max_left _ _)
  have above : ∀ (list : List Block), ∀ block ∈ list, block.base + block.size ≤ list.foldr
      (fun block top => max top (block.base + block.size)) 4096 := by
    intro list
    induction list with
    | nil => intro block member; cases member
    | cons first rest ih =>
        intro block member
        obtain rfl | later := List.mem_cons.mp member
        · exact Nat.le_max_right _ _
        · exact Nat.le_trans (ih block later) (Nat.le_max_left _ _)
  refine ⟨fun zero => ?_, fun block member => Or.inr (above m.live block member)⟩
  have positive := low m.live
  omega

/-- No block yet, every byte with the value 7. -/
def start : Machine := ⟨fun _ => 7, []⟩

theorem small_calls :
    Allocates (malloc bump start 5) 5 ∧
      Clears (calloc bump start 3 4) 12 ∧
      Moves ⟨start.mem, [⟨4096, 8⟩]⟩ ⟨4096, 8⟩
        (realloc bump ⟨start.mem, [⟨4096, 8⟩]⟩ 4096 8) 8 :=
  ⟨(allocation_iff bump bump_fresh start).1 5,
    ((allocation_iff bump bump_fresh start).2.1 3 4).mpr
      (Or.inr (Or.inr (Or.inr (by decide)))),
    ((allocation_iff bump bump_fresh ⟨start.mem, [⟨4096, 8⟩]⟩).2.2 ⟨4096, 8⟩ 8
      (Or.inl List.mem_cons_self)).mpr (Or.inr (Or.inr (by decide)))⟩

/-- 65537 objects of 65536 bytes: a block of 65536 bytes is returned. -/
theorem calloc_wraps :
    ¬Clears (calloc bump start 65537 65536) ((65537 : Int32).toInt * (65536 : Int32).toInt) := by
  intro clears
  obtain few | small | none | exact := (calloc_clears_iff bump_fresh start _ _).mp clears
  · exact absurd few (by decide)
  · exact absurd small (by decide)
  · cases none
  · exact absurd exact (by decide)

end Gramado.Rtl.Stdlib
