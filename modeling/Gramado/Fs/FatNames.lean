/-
`to_FAT_name` and `from_FAT_name` of fat16.c: a file name as the eleven characters of a
directory entry and back. What either function writes is only read through the pointer that
it was given, so a buffer is a memory of its own.
-/
import Mathlib.Data.List.DropRight
import Gramado.Fs.ShortNames

namespace Gramado.Fs.FatNames

open Gramado.Lib.Memory
open Gramado.Lib.Text
open Gramado.Fs.ShortNames
open Function

section Model

/-- `strcmp` with a constant, being 0. -/
def same (mem : Int → UInt8) : Int → List UInt8 → Bool
  | p, [] => mem p = 0
  | p, c :: rest => mem p = c && same mem (p + 1) rest

/-- Characters are copied until one stops the loop, `n` of them at most. -/
def copyWhile (stops : UInt8 → Bool) (src dst : Int → UInt8) (ptr i : Int) :
    Nat → (Int → UInt8) × Int × Int
  | 0 => (dst, ptr, i)
  | n + 1 =>
      if stops (src ptr) then
        (dst, ptr, i)
      else
        copyWhile stops src (update dst i (src ptr)) (ptr + 1) (i + 1) n

/-- The index goes back over blanks, `n` of them at most. -/
def backOver (src : Int → UInt8) (j : Int) : Nat → Int
  | 0 => j
  | n + 1 => if src j = 0x20 then backOver src (j - 1) n else j

def fromFATName (src dst : Option (Int → UInt8)) : Option (Int → UInt8) :=
  match src, dst with
  | none, _ => dst
  | _, none => none
  | some src, some dst =>
      if src 0 = 0 then
        some dst
      else if dst 0 = 0 then
        some dst
      else
        let j := backOver src 7 8
        let (dst, _, k) := copyWhile (fun _ => false) src dst 0 0 (j + 1).toNat
        let (dst, k) := if src 0 ≠ 0x2E then (update dst k 0x2E, k + 1) else (dst, k)
        let j := backOver src 10 3
        if j = 7 then
          if k = 1 then
            some (update dst k 0)
          else if dst 0 = 0x2E then
            some (update dst k 0)
          else
            some (update dst (k - 1) 0)
        else
          let (dst, _, k) := copyWhile (fun _ => false) src dst 8 k (j - 7).toNat
          some (update dst k 0)

/-- A regular file: the name padded to eight characters, and the extension. -/
def copyFile (src dst : Int → UInt8) : (Int → UInt8) × Int :=
  let (dst, ptr, i) := copyWhile (fun c => c = 0 || c = 0x2E) src dst 0 0 8
  let (dst, i) := padName dst i (8 - i).toNat
  let ptr := if src ptr = 0x2E then ptr + 1 else ptr
  let (dst, _, i) := copyWhile (fun c => c = 0) src dst ptr i (11 - i).toNat
  (dst, i)

/-- A string that is ".." or "." is copied with its end. -/
def toFATName (src dst : Int → UInt8) : Int → UInt8 :=
  let (dst, i) :=
    if same src 0 [0x2E, 0x2E] then
      (store dst 0 (slice src 0 3), 2)
    else if same src 0 [0x2E] then
      (store dst 0 (slice src 0 2), 1)
    else
      copyFile src dst
  (padName dst i (11 - i).toNat).1

end Model

/-- A name that a directory can have. -/
inductive Name where
  | parent
  | current
  | file (name : ShortName)

def Name.text : Name → List UInt8
  | parent => [0x2E, 0x2E]
  | current => [0x2E]
  | file name => name.text

/-- The part of the text in front of the dot, as far as it is copied. -/
def nameOf (text : List UInt8) : List UInt8 :=
  (text.takeWhile fun c => !(c = 0 || c = 0x2E)).take 8

def extOf (text : List UInt8) : List UInt8 :=
  let rest := text.drop (nameOf text).length
  (if rest.head? = some 0x2E then rest.tail else rest).take 3

/-- The eleven characters for a text. -/
def encode (text : List UInt8) : List UInt8 :=
  if text = [0x2E, 0x2E] ∨ text = [0x2E] then
    padded 11 text
  else
    padded 8 (nameOf text) ++ padded 3 (extOf text)

/-- Without the blanks at the end. -/
def strip (text : List UInt8) : List UInt8 :=
  text.rdropWhile fun c => c = 0x20

/-- The text for a name and an extension, both without the blanks at their ends. -/
def decode (first : UInt8) (name ext : List UInt8) : List UInt8 :=
  if first = 0x2E then
    name ++ ext
  else if ext = [] then
    if name = [] then [0x2E] else name
  else
    name ++ 0x2E :: ext

section Blanks

variable {n : Nat} {text : List UInt8}

theorem strip_append_blanks {k : Nat} : strip (text ++ List.replicate k 0x20) = strip text := by
  induction k with
  | zero => simp
  | succ k ih =>
      rw [List.replicate_succ', ← List.append_assoc, strip,
        List.rdropWhile_concat_pos _ _ _ (by simp)]
      exact ih

theorem strip_padded : strip (padded n text) = strip text :=
  strip_append_blanks

theorem strip_front : strip text <+: text :=
  List.rdropWhile_prefix _ _

theorem strip_nil_iff : strip text = [] ↔ ∀ c ∈ text, c = 0x20 := by
  simp [strip]

theorem strip_of_no_blank (no_blank : ∀ c ∈ text, c ≠ 0x20) : strip text = text := by
  rw [strip, List.rdropWhile_eq_self_iff]
  intro some_char blank
  exact no_blank _ (List.getLast_mem some_char) (by simpa using blank)

theorem strip_strip : strip (strip text) = strip text :=
  List.rdropWhile_idempotent _ _

theorem strip_whole : ∃ k, text = strip text ++ List.replicate k 0x20 := by
  refine ⟨(text.rtakeWhile fun c => c = 0x20).length, ?_⟩
  have blanks : text.rtakeWhile (fun c => c = 0x20) =
      List.replicate (text.rtakeWhile fun c => c = 0x20).length 0x20 := by
    rw [List.eq_replicate_iff]
    refine ⟨rfl, fun c member => ?_⟩
    simpa using List.mem_rtakeWhile_imp member
  rw [← blanks, strip, List.rdropWhile_append_rtakeWhile]

theorem padded_strip (fits : text.length ≤ n) : padded n (strip text) = padded n text := by
  obtain ⟨k, whole⟩ := @strip_whole text
  have length := congrArg List.length whole
  simp only [List.length_append, List.length_replicate] at length
  rw [padded, padded]
  conv_rhs => rw [whole]
  rw [List.append_assoc, List.replicate_append_replicate, List.append_cancel_left_eq,
    ← whole]
  congr 1
  omega

end Blanks

section Loops

variable {src dst : Int → UInt8} {p i : Int} {n : Nat} {text : List UInt8}
  {stops : UInt8 → Bool}

theorem same_iff (nonzero : ∀ c ∈ text, c ≠ 0) : same src p text = true ↔ Holds src p text := by
  induction text generalizing p with
  | nil => simp [same, Holds]
  | cons c rest ih =>
      have later := @ih (p + 1) fun d member => nonzero d (List.mem_cons_of_mem _ member)
      have here := nonzero c (List.mem_cons_self ..)
      simp [same, Holds, later, here]

theorem copyWhile_eq (ends : stops 0 = true) (holds : Holds src p text) :
    copyWhile stops src dst p i n =
      (store dst i ((text.takeWhile fun c => !stops c).take n),
        p + ((text.takeWhile fun c => !stops c).take n).length,
        i + ((text.takeWhile fun c => !stops c).take n).length) := by
  induction n generalizing p dst i text with
  | zero => simp [copyWhile, store]
  | succ n ih =>
      cases text with
      | nil =>
          have zero : src p = 0 := holds
          simp [copyWhile, zero, ends, store]
      | cons c rest =>
          obtain ⟨rfl, -, later⟩ := holds
          by_cases stop : stops (src p) = true
          · simp [copyWhile, stop, store]
          · simp only [Bool.not_eq_true] at stop
            simp only [copyWhile, stop, Bool.false_eq_true, if_false, ih later, store_update,
              List.takeWhile_cons, Bool.not_false, if_true, List.take_succ_cons,
              List.length_cons, Prod.mk.injEq, true_and]
            omega

theorem copyAll_eq : copyWhile (fun _ => false) src dst p i n =
    (store dst i (slice src p n), p + n, i + n) := by
  induction n generalizing p dst i with
  | zero => simp [copyWhile, store]
  | succ n ih =>
      simp only [copyWhile, Bool.false_eq_true, if_false, ih, store_update, slice_succ (n := n),
        Prod.mk.injEq, true_and]
      omega

theorem backOver_eq {j : Int} (last : j + 1 = p + n) :
    backOver src j n = p + (strip (slice src p n)).length - 1 := by
  induction n generalizing j with
  | zero =>
      simp only [backOver, slice_zero, strip, List.rdropWhile_nil, List.length_nil]
      omega
  | succ n ih =>
      have whole : slice src p (n + 1) = slice src p n ++ [src j] := by
        have place : j = p + n := by omega
        rw [slice_add, slice_one, place]
      rw [backOver, whole, strip, List.rdropWhile_concat]
      by_cases blank : src j = 0x20
      · rw [if_pos blank, if_pos (by simpa using blank)]
        exact ih (by omega)
      · rw [if_neg blank, if_neg (by simpa using blank)]
        simp only [List.length_append, length_slice, List.length_singleton]
        omega

end Loops

section Decoding

variable {src dst : Int → UInt8}

theorem slice_strip {p : Int} {n : Nat} :
    slice src p (strip (slice src p n)).length = strip (slice src p n) := by
  have front := List.prefix_iff_eq_take.mp (@strip_front (slice src p n))
  have short : (strip (slice src p n)).length ≤ n := by
    have le := (@strip_front (slice src p n)).length_le
    rwa [length_slice] at le
  rw [take_slice short] at front
  exact front.symm

theorem update_end {p : Int} {text : List UInt8} {x : UInt8} :
    update (store dst p text) (p + text.length) x = store dst p (text ++ [x]) := by
  rw [update_eq_store, store_append]

theorem holds_end {p k : Int} {text : List UInt8} (nonzero : ∀ c ∈ text, c ≠ 0)
    (behind : k = p + text.length) : Holds (update (store dst p text) k 0) p text := by
  rw [behind, update_end]
  exact holds_store nonzero

theorem store_head {c : UInt8} {p : Int} {rest : List UInt8} : store dst p (c :: rest) p = c := by
  simp [store]

theorem fromFATName_eq (some_src : src 0 ≠ 0) (some_dst : dst 0 ≠ 0)
    (nonzero : ∀ c ∈ slice src 0 11, c ≠ 0) :
    ∃ after, fromFATName (some src) (some dst) = some after ∧
      Holds after 0 (decode (src 0) (strip (slice src 0 8)) (strip (slice src 8 3))) := by
  have name_end : backOver src 7 8 = 0 + (strip (slice src 0 8)).length - 1 :=
    backOver_eq (by omega)
  have ext_end : backOver src 10 3 = 8 + (strip (slice src 8 3)).length - 1 :=
    backOver_eq (by omega)
  have name_nonzero : ∀ c ∈ strip (slice src 0 8), c ≠ 0 := by
    intro c member
    apply nonzero c
    rw [@slice_add _ src 0 8 3]
    exact List.mem_append_left _ (strip_front.mem member)
  have ext_nonzero : ∀ c ∈ strip (slice src 8 3), c ≠ 0 := by
    intro c member
    apply nonzero c
    rw [@slice_add _ src 0 8 3]
    exact List.mem_append_right _ (strip_front.mem member)
  -- a name that is left of the first eight characters begins with the first one
  have head : ∀ {c rest}, strip (slice src 0 8) = c :: rest → c = src 0 := by
    intro c rest shape
    have front := @slice_strip src 0 8
    rw [shape, List.length_cons, slice_succ] at front
    exact (List.cons.inj front).1.symm
  have empty : strip (slice src 0 8) = [] → src 0 = 0x20 := by
    intro none
    apply strip_nil_iff.mp none
    rw [slice_succ]
    exact List.mem_cons_self ..
  have name_length : (backOver src 7 8 + 1).toNat = (strip (slice src 0 8)).length := by
    rw [name_end]
    omega
  have ext_length : (backOver src 10 3 - 7).toNat = (strip (slice src 8 3)).length := by
    rw [ext_end]
    omega
  have blank_ext : backOver src 10 3 = 7 ↔ strip (slice src 8 3) = [] := by
    rw [ext_end, ← List.length_eq_zero_iff]
    omega
  simp only [fromFATName, if_neg some_src, if_neg some_dst, name_length, copyAll_eq, slice_strip,
    ext_length]
  generalize strip (slice src 0 8) = name at *
  generalize strip (slice src 8 3) = ext at *
  rw [Int.zero_add]
  by_cases dot : src 0 = 0x2E
  · simp only [ne_eq, dot, not_true_eq_false, if_false, decode, if_true]
    by_cases none : ext = []
    · subst none
      simp only [blank_ext.mpr rfl, if_true, List.append_nil]
      cases name with
      | nil => exact absurd ((empty rfl).symm.trans dot) (by decide)
      | cons c rest =>
          have first : store dst 0 (c :: rest) 0 = 0x2E := by rw [store_head, head rfl, dot]
          have same : (if ((c :: rest).length : Int) = 1 then
              some (update (store dst 0 (c :: rest)) ((c :: rest).length : Int) 0)
            else if store dst 0 (c :: rest) 0 = 0x2E then
              some (update (store dst 0 (c :: rest)) ((c :: rest).length : Int) 0)
            else
              some (update (store dst 0 (c :: rest)) ((c :: rest).length - 1) 0)) =
              some (update (store dst 0 (c :: rest)) ((c :: rest).length : Int) 0) := by
            rw [if_pos first, ite_self]
          exact ⟨_, same, holds_end name_nonzero (by omega)⟩
    · rw [if_neg (mt blank_ext.mp none)]
      refine ⟨_, rfl, ?_⟩
      have place : ((name.length : Nat) : Int) = 0 + name.length := by omega
      rw [place, store_append]
      apply holds_end
      · intro c member
        exact (List.mem_append.mp member).elim (name_nonzero c) (ext_nonzero c)
      · rw [List.length_append]
        omega
  · simp only [ne_eq, dot, not_false_eq_true, if_true, if_false, decode]
    have place : ((name.length : Nat) : Int) = 0 + name.length := by omega
    rw [place, update_end]
    by_cases none : ext = []
    · subst none
      simp only [blank_ext.mpr rfl, if_true]
      cases name with
      | nil =>
          refine ⟨_, rfl, ?_⟩
          simp only [List.nil_append, if_true]
          exact holds_end (by simp) (by simp)
      | cons c rest =>
          -- the dot behind the name becomes the end
          have long : ¬((0 + (c :: rest).length : Int) + 1 = 1) := by
            simp only [List.length_cons]
            omega
          have first : ¬store dst 0 (c :: rest ++ [0x2E]) 0 = 0x2E := by
            rw [List.cons_append, store_head, head rfl]
            exact dot
          rw [if_neg long, if_neg first]
          refine ⟨_, rfl, ?_⟩
          have covered : update (store dst 0 (c :: rest ++ [0x2E]))
              (0 + (c :: rest).length + 1 - 1) 0 = update (store dst 0 (c :: rest))
                (0 + (c :: rest).length) 0 := by
            rw [Int.add_sub_cancel, ← store_append, update_eq_store, update_eq_store]
            exact store_covers (Int.le_refl _) (Int.le_refl _)
          rw [covered]
          exact holds_end name_nonzero rfl
    · rw [if_neg (mt blank_ext.mp none), if_neg none]
      refine ⟨_, rfl, ?_⟩
      have behind : (0 + name.length : Int) + 1 = 0 + (name ++ [0x2E]).length := by
        rw [List.length_append, List.length_singleton]
        omega
      have text : name ++ 0x2E :: ext = name ++ [0x2E] ++ ext := by simp
      rw [behind, store_append, text]
      apply holds_end
      · intro c member
        obtain front | past := List.mem_append.mp member
        · obtain inside | point := List.mem_append.mp front
          · exact name_nonzero c inside
          · rw [List.mem_singleton.mp point]
            decide
        · exact ext_nonzero c past
      · simp only [List.length_append]
        omega

end Decoding

section Encoding

variable {src dst : Int → UInt8} {text : List UInt8}

theorem nameOf_front : nameOf text <+: text :=
  (List.take_prefix _ _).trans (List.takeWhile_prefix _)

theorem length_nameOf : (nameOf text).length ≤ 8 :=
  List.length_take_le _ _

theorem length_extOf : (extOf text).length ≤ 3 :=
  List.length_take_le _ _

theorem whole_text : nameOf text ++ text.drop (nameOf text).length = text :=
  (List.prefix_iff_eq_append.mp nameOf_front)

theorem slice_padded {n : Nat} {mem : Int → UInt8} {p i : Int} (behind : i = p + text.length)
    (fits : text.length ≤ n) :
    slice (padName (store mem p text) i (n - text.length)).1 p n = padded n text := by
  rw [padName_eq, behind, store_append]
  have whole := @slice_store _ mem p (padded n text)
  rwa [length_padded fits] at whole

theorem slice_copied (holds : Holds src 0 text) (fits : text.length < 11) :
    slice (padName (store dst 0 (slice src 0 (text.length + 1))) text.length
      (11 - text.length)).1 0 11 = padded 11 text := by
  have place : (text.length : Int) = 0 + text.length := (Int.zero_add _).symm
  rw [(holds_iff_slice.mp holds).1, padName_eq, place, ← store_append, store_covers (by omega)]
  · have padded := @slice_padded text 11 dst 0 (text.length : Int) place (Nat.le_of_lt fits)
    rwa [padName_eq, place] at padded
  · simp only [List.length_replicate, List.length_singleton]
    omega

theorem rest_holds (holds : Holds src 0 text) :
    Holds src (0 + (nameOf text).length) (text.drop (nameOf text).length) := by
  rw [← @whole_text text, holds_append] at holds
  exact holds.2.2

theorem ext_holds {p : Int} {rest : List UInt8} (holds : Holds src p rest) :
    Holds src (if src p = 0x2E then p + 1 else p)
      (if rest.head? = some 0x2E then rest.tail else rest) := by
  cases rest with
  | nil =>
      have ended : src p = 0 := holds
      rw [ended]
      exact holds
  | cons c later =>
      obtain ⟨rfl, nonzero, behind⟩ := holds
      by_cases dot : src p = 0x2E
      · simpa [dot] using behind
      · simp only [dot, if_false, List.head?_cons, Option.some.injEq]
        exact ⟨rfl, nonzero, behind⟩

/-- The part in front of the dot and the part behind it are copied, the first padded. -/
theorem copyFile_eq (holds : Holds src 0 text) : copyFile src dst =
    (store dst 0 (padded 8 (nameOf text) ++ extOf text), 8 + ((extOf text).length : Int)) := by
  have short := @length_nameOf text
  have from_zero := @copyWhile_eq src dst 0 0 8 text (fun c => c = 0 || c = 0x2E) rfl holds
  have name : (text.takeWhile fun c => !(c = 0 || c = 0x2E)).take 8 = nameOf text := rfl
  rw [name] at from_zero
  have missing : (8 - (0 + ((nameOf text).length : Int))).toNat = 8 - (nameOf text).length := by
    omega
  have full : store (store dst 0 (nameOf text)) (0 + (nameOf text).length)
      (List.replicate (8 - (nameOf text).length) 0x20) = store dst 0 (padded 8 (nameOf text)) :=
    store_append
  have eight : (0 + (nameOf text).length : Int) + (8 - (nameOf text).length : Nat) = 8 := by omega
  have behind := ext_holds (rest_holds holds)
  generalize ext : (if (text.drop (nameOf text).length).head? = some 0x2E then
    (text.drop (nameOf text).length).tail else text.drop (nameOf text).length) = rest at behind
  have taken : (rest.takeWhile fun c => !decide (c = 0)).take 3 = extOf text := by
    rw [extOf, ext, List.takeWhile_eq_self_iff.mpr]
    intro c member
    simpa using holds_nonzero behind c member
  simp only [copyFile, from_zero, missing, padName_eq, full, eight]
  rw [show (11 - (8 : Int)).toNat = 3 from rfl,
    @copyWhile_eq _ _ _ _ _ _ (fun c => decide (c = 0)) rfl behind, taken]
  have place : (8 : Int) = 0 + (padded 8 (nameOf text)).length := by
    rw [length_padded short]
    rfl
  congr 1
  rw [place, store_append]

theorem toFATName_eq (holds : Holds src 0 text) : slice (toFATName src dst) 0 11 = encode text := by
  have parent : same src 0 [0x2E, 0x2E] = true ↔ text = [0x2E, 0x2E] := by
    rw [same_iff (by simp)]
    exact ⟨fun there => holds_unique holds there, fun shape => shape ▸ holds⟩
  have current : same src 0 [0x2E] = true ↔ text = [0x2E] := by
    rw [same_iff (by simp)]
    exact ⟨fun there => holds_unique holds there, fun shape => shape ▸ holds⟩
  unfold toFATName encode
  by_cases two : text = [0x2E, 0x2E]
  · rw [if_pos (parent.mpr two), if_pos (Or.inl two)]
    have copied := @slice_copied src dst text holds (by rw [two]; decide)
    rw [two] at copied ⊢
    exact copied
  · rw [if_neg (mt parent.mp two)]
    by_cases one : text = [0x2E]
    · rw [if_pos (current.mpr one), if_pos (Or.inr one)]
      have copied := @slice_copied src dst text holds (by rw [one]; decide)
      rw [one] at copied ⊢
      exact copied
    · rw [if_neg (mt current.mp one), if_neg (not_or.mpr ⟨two, one⟩), copyFile_eq holds]
      have front := length_padded (@length_nameOf text)
      have short := @length_extOf text
      have missing : (11 - (8 + ((extOf text).length : Int))).toNat =
          11 - (padded 8 (nameOf text) ++ extOf text).length := by
        rw [List.length_append, front]
        omega
      simp only [missing]
      rw [slice_padded (by rw [List.length_append, front]; omega)
        (by rw [List.length_append, front]; omega)]
      rw [padded, List.length_append, front, List.append_assoc, padded]
      congr 3
      omega

/-- The two fields of the eleven characters. -/
def fields (text : List UInt8) : List UInt8 × List UInt8 :=
  if text = [0x2E, 0x2E] ∨ text = [0x2E] then (text, []) else (nameOf text, extOf text)

theorem encode_fields : encode text = padded 8 (fields text).1 ++ padded 3 (fields text).2 := by
  unfold encode fields
  split
  next special =>
    obtain rfl | rfl := special <;> rfl
  next => rfl

theorem fields_fit : (fields text).1.length ≤ 8 ∧ (fields text).2.length ≤ 3 := by
  unfold fields
  split
  next special =>
    obtain rfl | rfl := special <;> decide
  next => exact ⟨length_nameOf, length_extOf⟩

theorem mem_extOf {c : UInt8} (member : c ∈ extOf text) : c ∈ text := by
  have inside := List.mem_of_mem_take member
  split at inside
  · exact List.mem_of_mem_drop (List.mem_of_mem_tail inside)
  · exact List.mem_of_mem_drop inside

theorem encode_nonzero (nonzero : ∀ c ∈ text, c ≠ 0) : ∀ c ∈ encode text, c ≠ 0 := by
  have blank : ∀ n (c : UInt8), c ∈ List.replicate n 0x20 → c ≠ 0 := by
    intro n c member
    rw [(List.mem_replicate.mp member).2]
    decide
  intro c member
  rw [encode_fields] at member
  unfold fields at member
  obtain front | past := List.mem_append.mp member
  · obtain inside | pad := List.mem_append.mp front
    · split at inside
      · exact nonzero c inside
      · exact nonzero c (nameOf_front.mem inside)
    · exact blank _ c pad
  · obtain inside | pad := List.mem_append.mp past
    · split at inside
      · cases inside
      · exact nonzero c (mem_extOf inside)
    · exact blank _ c pad

end Encoding

section RoundTrip

variable {src d₁ d₂ d₃ : Int → UInt8} {text b e : List UInt8}

/-- What the decoder makes of a text's eleven characters. -/
def decoded (text : List UInt8) : List UInt8 :=
  decode ((encode text).headD 0) (strip (fields text).1) (strip (fields text).2)

theorem encode_head {f : Int → UInt8} (shape : slice f 0 11 = encode text) :
    (encode text).headD 0 = f 0 := by
  rw [← shape, slice_succ]
  rfl

theorem from_encoded (holds : Holds src 0 text) (writes : d₂ 0 ≠ 0) :
    ∃ after, fromFATName (some (toFATName src d₁)) (some d₂) = some after ∧
      Holds after 0 (decoded text) := by
  have shape := @toFATName_eq src d₁ text holds
  have nonzero := encode_nonzero (holds_nonzero holds)
  have fit := @fields_fit text
  generalize toFATName src d₁ = f at shape
  have halves := shape
  rw [encode_fields, slice_add (n := 8) (m := 3)] at halves
  obtain ⟨name, ext⟩ := List.append_inj halves
    (by rw [length_slice, length_padded fit.1])
  have first : f 0 ≠ 0 := by
    apply nonzero
    rw [← shape, slice_succ]
    exact List.mem_cons_self ..
  obtain ⟨after, done, there⟩ := fromFATName_eq first writes (by rw [shape]; exact nonzero)
  refine ⟨after, done, ?_⟩
  rw [Int.zero_add] at ext
  change slice f 8 3 = _ at ext
  rwa [name, ext, strip_padded, strip_padded, ← encode_head shape] at there

section Files

variable {name : ShortName}

theorem head_no_dot {rest : List UInt8} (more : List UInt8) : name.base ++ rest ≠ 0x2E :: more := by
  have some_base := name.some_base
  cases front : name.base with
  | nil => simp [front] at some_base
  | cons c tail =>
      intro same
      have legal := name.base_legal c (by rw [front]; exact List.mem_cons_self ..)
      exact legal_no_dot legal (List.cons.inj same).1

theorem nameOf_file : nameOf name.text = name.base := by
  have going : ∀ c ∈ name.base, (!(c = 0 || c = 0x2E)) = true := by
    intro c member
    have legal := name.base_legal c member
    simp [legal_nonzero legal, legal_no_dot legal]
  have stops : (name.ext.elim [] fun e => 0x2E :: e).takeWhile
      (fun c => !(c = 0 || c = 0x2E)) = [] := by
    cases name.ext <;> simp
  rw [nameOf, ShortName.text, List.takeWhile_append_of_pos going, stops, List.append_nil,
    List.take_of_length_le name.base_fits]

theorem extOf_file : extOf name.text = name.ext.getD [] := by
  rw [extOf, nameOf_file, ShortName.text, List.drop_left]
  cases ext : name.ext with
  | none => simp
  | some e =>
      simp only [Option.elim_some, List.head?_cons, if_true, List.tail_cons, Option.getD_some]
      exact List.take_of_length_le (name.ext_fits e ext)

theorem legal_no_blank {c : UInt8} (legal : Legal c) : c ≠ 0x20 := by
  rintro rfl
  exact absurd legal (by decide)

theorem decoded_file : decoded name.text = name.text := by
  have plain : ¬(name.text = [0x2E, 0x2E] ∨ name.text = [0x2E]) := by
    rintro (two | one)
    · exact head_no_dot _ two
    · exact head_no_dot _ one
  have fields : fields name.text = (name.base, name.ext.getD []) := by
    rw [FatNames.fields, if_neg plain, nameOf_file, extOf_file]
  have base : strip name.base = name.base :=
    strip_of_no_blank fun c member => legal_no_blank (name.base_legal c member)
  have ext : strip (name.ext.getD []) = name.ext.getD [] := by
    apply strip_of_no_blank
    cases ext : name.ext with
    | none => simp
    | some e => exact fun c member => legal_no_blank (name.ext_legal e ext c member)
  have some_base := name.some_base
  have head : (encode name.text).headD 0 ≠ 0x2E := by
    rw [encode_fields, fields]
    cases front : name.base with
    | nil => simp [front] at some_base
    | cons c rest =>
        exact legal_no_dot (name.base_legal c (by rw [front]; exact List.mem_cons_self ..))
  rw [decoded, fields, base, ext, decode, if_neg head, ShortName.text]
  cases there : name.ext with
  | none =>
      have some_name : name.base ≠ [] := List.ne_nil_of_length_pos some_base
      simp [some_name]
  | some e =>
      have some_ext : e ≠ [] := List.ne_nil_of_length_pos (name.some_ext e there)
      simp [some_ext]

end Files

theorem decoded_name (name : Name) : decoded name.text = name.text := by
  cases name with
  | parent => decide
  | current => decide
  | file name => exact decoded_file

def blankEntry : List UInt8 :=
  List.replicate 11 0x20

/-- A dot as the extension of no name. -/
def dotEntry : List UInt8 :=
  List.replicate 8 0x20 ++ [0x2E, 0x20, 0x20]

/-- The characters say what the two fields are, up to blanks at their ends. -/
theorem entry_inj {b' e' : List UInt8} (name : b.length ≤ 8) (name' : b'.length ≤ 8) :
    padded 8 b ++ padded 3 e = padded 8 b' ++ padded 3 e' → strip b = strip b' ∧
      strip e = strip e' := by
  intro same
  obtain ⟨first, second⟩ := List.append_inj same (by rw [length_padded name, length_padded name'])
  rw [← @strip_padded 8 b, ← @strip_padded 3 e, first, second, strip_padded, strip_padded]
  exact ⟨rfl, rfl⟩

theorem encode_plain (plain : ∀ c ∈ b, c ≠ 0 ∧ c ≠ 0x2E) (name : b.length ≤ 8)
    (some_name : b ≠ []) : encode b = padded 8 b ++ padded 3 [] := by
  have going : ∀ c ∈ b, (!(c = 0 || c = 0x2E)) = true := by
    intro c member
    simp [(plain c member).1, (plain c member).2]
  have special : ¬(b = [0x2E, 0x2E] ∨ b = [0x2E]) := by
    rintro (rfl | rfl) <;> exact (plain 0x2E (by decide)).2 rfl
  have front : nameOf b = b := by
    rw [nameOf, List.takeWhile_eq_self_iff.mpr going, List.take_of_length_le name]
  rw [encode, if_neg special, extOf, front, List.drop_length]
  simp

theorem encode_dotted (plain : ∀ c ∈ b, c ≠ 0 ∧ c ≠ 0x2E) (name : b.length ≤ 8)
    (ext : e.length ≤ 3) (special : ¬(b ++ 0x2E :: e = [0x2E, 0x2E] ∨ b ++ 0x2E :: e = [0x2E])) :
    encode (b ++ 0x2E :: e) = padded 8 b ++ padded 3 e := by
  have going : ∀ c ∈ b, (!(c = 0 || c = 0x2E)) = true := by
    intro c member
    simp [(plain c member).1, (plain c member).2]
  have front : nameOf (b ++ 0x2E :: e) = b := by
    rw [nameOf, List.takeWhile_append_of_pos going, List.takeWhile_cons_of_neg (by simp),
      List.append_nil, List.take_of_length_le name]
  rw [encode, if_neg special, extOf, front, List.drop_left]
  simp only [List.head?_cons, if_true, List.tail_cons, List.take_of_length_le ext]

/-- The decoded text has the same characters, unless they are those of no name at all. -/
theorem encode_decoded : encode (decoded text) = encode text ↔
    encode text ≠ blankEntry ∧ encode text ≠ dotEntry := by
  by_cases special : text = [0x2E, 0x2E] ∨ text = [0x2E]
  · obtain rfl | rfl := special <;> decide
  · have shape : fields text = (nameOf text, extOf text) := if_neg special
    have plain : ∀ c ∈ nameOf text, c ≠ 0 ∧ c ≠ 0x2E := by
      intro c member
      have going := List.mem_takeWhile_imp (List.mem_of_mem_take member)
      simpa using going
    have name := @length_nameOf text
    have ext := @length_extOf text
    have head : (encode text).headD 0 ≠ 0x2E := by
      rw [encode_fields, shape]
      cases front : nameOf text with
      | nil =>
          change (0x20 : UInt8) ≠ 0x2E
          decide
      | cons c rest => exact (plain c (by rw [front]; exact List.mem_cons_self ..)).2
    have text_fields : encode text =
        padded 8 (strip (nameOf text)) ++ padded 3 (strip (extOf text)) := by
      rw [encode_fields, shape, padded_strip name, padded_strip ext]
    rw [decoded, shape, decode, if_neg head, text_fields]
    -- From here on only the two stripped fields count.
    clear text_fields head
    have plain' : ∀ c ∈ strip (nameOf text), c ≠ 0 ∧ c ≠ 0x2E := fun c member =>
      plain c (strip_front.mem member)
    have name' := (@strip_front (nameOf text)).length_le.trans name
    have ext' := (@strip_front (extOf text)).length_le.trans ext
    have strip_b : strip (strip (nameOf text)) = strip (nameOf text) := strip_strip
    have strip_e : strip (strip (extOf text)) = strip (extOf text) := strip_strip
    generalize strip (nameOf text) = b at *
    generalize strip (extOf text) = e at *
    have blank : padded 8 b ++ padded 3 e = blankEntry → b = [] ∧ e = [] := by
      intro same
      have parts := @entry_inj b e [] [] name' (by decide) same
      rwa [strip_b, strip_e] at parts
    have dot : padded 8 b ++ padded 3 e = dotEntry → b = [] ∧ e = [0x2E] := by
      intro same
      have parts := @entry_inj b e [] [0x2E] name' (by decide) same
      rwa [strip_b, strip_e] at parts
    by_cases no_ext : e = []
    · subst no_ext
      rw [if_pos rfl]
      by_cases no_name : b = []
      · subst no_name
        decide
      · rw [if_neg no_name, encode_plain plain' name' no_name]
        refine iff_of_true rfl ⟨fun same => no_name (blank same).1, fun same => ?_⟩
        exact absurd (dot same).2 (by decide)
    · rw [if_neg no_ext]
      by_cases two : b = [] ∧ e = [0x2E]
      · obtain ⟨rfl, rfl⟩ := two
        decide
      · have special : ¬(b ++ 0x2E :: e = [0x2E, 0x2E] ∨ b ++ 0x2E :: e = [0x2E]) := by
          cases b with
          | nil =>
              rintro (same | same)
              · exact two ⟨rfl, (List.cons.inj same).2⟩
              · exact no_ext (List.cons.inj same).2
          | cons c rest =>
              have first := (plain' c (List.mem_cons_self ..)).2
              rintro (same | same) <;> exact first (List.cons.inj same).1
        rw [encode_dotted plain' name' ext' special]
        exact iff_of_true rfl ⟨fun same => no_ext (blank same).2, fun same => two (dot same)⟩

end RoundTrip

/-- A name comes back from its characters exactly if the second buffer does not begin with
    a zero, which stops the decoder before it writes; and the characters of any text come
    back from what they are decoded to, except for those of no name: the eight blanks. -/
theorem name_round_trip (d₁ d₂ : Int → UInt8) :
    (∀ (name : Name) (src : Int → UInt8), Holds src 0 name.text →
      ((∃ after, fromFATName (some (toFATName src d₁)) (some d₂) = some after ∧
        Holds after 0 name.text) ↔ d₂ 0 ≠ 0)) ∧
    ∀ (text : List UInt8) (src d₃ : Int → UInt8), Holds src 0 text →
      ((∃ after, fromFATName (some (toFATName src d₁)) (some d₂) = some after ∧
        slice (toFATName after d₃) 0 11 = slice (toFATName src d₁) 0 11) ↔
      if slice (toFATName src d₁) 0 11 = blankEntry then d₂ 0 = 0
      else d₂ 0 ≠ 0 ∧ slice (toFATName src d₁) 0 11 ≠ dotEntry) := by
  -- The decoder writes only to a buffer that begins with a character.
  have silent : ∀ {f : Int → UInt8}, d₂ 0 = 0 → fromFATName (some f) (some d₂) = some d₂ := by
    intro f zero
    simp [fromFATName, zero]
  constructor
  · intro name src holds
    by_cases zero : d₂ 0 = 0
    · refine iff_of_false ?_ (not_not_intro zero)
      rintro ⟨after, done, there⟩
      rw [silent zero] at done
      cases done
      have none : name.text = [] := holds_unique there zero
      cases name with
      | parent => cases none
      | current => cases none
      | file name =>
          have some_base := List.ne_nil_of_length_pos name.some_base
          exact some_base (List.append_eq_nil_iff.mp none).1
    · refine iff_of_true ?_ zero
      obtain ⟨after, done, there⟩ := @from_encoded src d₁ d₂ _ holds zero
      rw [decoded_name] at there
      exact ⟨after, done, there⟩
  · intro text src d₃ holds
    rw [toFATName_eq holds]
    by_cases zero : d₂ 0 = 0
    · have same : (∃ after, fromFATName (some (toFATName src d₁)) (some d₂) = some after ∧
          slice (toFATName after d₃) 0 11 = encode text) ↔ encode text = blankEntry := by
        have empty : Holds d₂ 0 [] := zero
        rw [silent zero]
        simp only [Option.some.injEq, exists_eq_left', toFATName_eq empty]
        exact eq_comm
      rw [same]
      split <;> simp_all
    · have same : (∃ after, fromFATName (some (toFATName src d₁)) (some d₂) = some after ∧
          slice (toFATName after d₃) 0 11 = encode text) ↔
          encode text ≠ blankEntry ∧ encode text ≠ dotEntry := by
        obtain ⟨after, done, there⟩ := @from_encoded src d₁ d₂ _ holds zero
        rw [done, ← encode_decoded]
        simp only [Option.some.injEq, exists_eq_left', toFATName_eq there]
      rw [same]
      split <;> simp_all

/-- FOO.BIN -/
def fooBin : List UInt8 :=
  [0x46, 0x4F, 0x4F] ++ 0x2E :: [0x42, 0x49, 0x4E]

/-- To a buffer that begins with another character. -/
theorem fooBin_round_trip :
    ∃ after, fromFATName (some (toFATName (store (fun _ => 0) 0 (fooBin ++ [0])) fun _ => 0))
      (some fun _ => 0x41) = some after ∧ Holds after 0 fooBin := by
  let name : ShortName := ⟨[0x46, 0x4F, 0x4F], some [0x42, 0x49, 0x4E], by decide, by decide,
    by simp, by simp, by simp [Legal], by simp [Legal]⟩
  have source : Holds (store (fun _ => 0) 0 (fooBin ++ [0])) 0 fooBin :=
    @holds_store (fun _ => 0) 0 fooBin (by simp [fooBin])
  exact ((name_round_trip (fun _ => 0) fun _ => 0x41).1 (.file name) _ source).mpr (by decide)

/-- To a buffer of zeros the decoder writes nothing. -/
theorem zeros_kept : ¬∀ (name : Name) (src d₁ d₂ : Int → UInt8), Holds src 0 name.text →
    ∃ after, fromFATName (some (toFATName src d₁)) (some d₂) = some after ∧
      Holds after 0 name.text := by
  intro all
  obtain ⟨after, done, there⟩ := all .current (store (fun _ => 0) 0 [0x2E, 0]) (fun _ => 0)
    (fun _ => 0) (@holds_store (fun _ => 0) 0 [0x2E] (by simp))
  have kept : fromFATName (some (toFATName (store (fun _ => 0) 0 [0x2E, 0]) fun _ => 0))
      (some fun _ => 0) = some fun _ => 0 := by
    simp [fromFATName]
  rw [kept] at done
  cases done
  exact absurd there.1 (by decide)

end Gramado.Fs.FatNames
