/-
The three searches for a name in a directory: `search_in_dir` of search.c, and
the loops of `fsGetFileSize` and `fat16LoadFile`. The last two compare as many
characters as were asked for; the first compares eleven, with zeros behind the
ones that were asked for.
-/
import Gramado.Fs.Fat16
import Gramado.Lib.Search
import Mathlib.Data.List.GetD
import Mathlib.Data.List.TakeWhile

namespace Gramado.Fs.FatSearch

open Gramado.Ke
open Gramado.Fs.Fat16
open Gramado.Lib.Bytes
open Gramado.Lib.LittleEndian
open Gramado.Lib.Memory
open Gramado.Lib.Search

/-- `strncpy`: zeros behind a shorter string. -/
def strncpy (s2 : List UInt8) (n : Nat) : List UInt8 :=
  (List.range n).map fun k => (s2.takeWhile (· ≠ 0)).getD k 0

/-- The blanks that are set behind a name of 8 to 10 characters. -/
def setBlanks (stringSize : Nat) (buffer : List UInt8) : List UInt8 :=
  if stringSize = 10 then
    buffer.set 10 0x20
  else if stringSize = 9 then
    (buffer.set 10 0x20).set 9 0x20
  else if stringSize = 8 then
    ((buffer.set 10 0x20).set 9 0x20).set 8 0x20
  else
    buffer

/-- `Name_Desired`, in a buffer of 13 characters with any contents. -/
def nameDesired (buffer fileName : List UInt8) : List UInt8 :=
  (poke (setBlanks (strlen fileName) buffer) 0 (strncpy fileName 11)).set 11 0

/-- `__search_in_dir_imp`, with the entry at which it returns TRUE. -/
def searchInDirImp (buffer : List UInt8) (mem : Int → UInt8) (fileName : List UInt8)
    (dirAddress : UInt64) : Option Nat :=
  if fileName.getD 0 0 = 0 then
    none
  else if dirAddress = 0 then
    none
  else if strlen fileName > 11 then
    none
  else if fileName.getD 0 0 = 0x2F then
    none
  else
    (List.range 512).find? fun i =>
      let address : Int := entryAddress dirAddress i
      decide (mem address ≠ 0xE5 ∧ mem address ≠ 0x2E ∧ mem address ≠ 0 ∧
        gramadoStrncmp (nameDesired buffer fileName) (slice mem address 11 ++ [0]) 11 = 0)

def searchInDir (buffer : List UInt8) (mem : Int → UInt8) (fileName : List UInt8)
    (dirAddress : UInt64) : Bool :=
  if fileName.getD 0 0 = 0 then
    false
  else
    (searchInDirImp buffer mem fileName dirAddress).isSome

section Names

variable {name other : List UInt8}

theorem strlen_of_nonzero (nonzero : ∀ b ∈ name, b ≠ 0) : strlen name = name.length := by
  rw [strlen, List.takeWhile_eq_self_iff.mpr]
  intro b member
  simpa using nonzero b member

/-- A string that ends behind `n` characters compares equal to these alone. -/
theorem gramadoStrncmp_eq_zero_iff {n : Nat} (ended : name.getD n 0 = 0)
    (right : other.length = n) :
    gramadoStrncmp name (other ++ [0]) n = 0 ↔ other = peek name 0 n := by
  have otherEnd : (other ++ [0]).getD n 0 = 0 := by simp [right]
  have same : ((List.range n).all fun k => name.getD k 0 == (other ++ [0]).getD k 0) = true ↔
      other = peek name 0 n := by
    simp only [List.all_eq_true, List.mem_range, beq_iff_eq]
    constructor
    · intro every
      apply List.ext_getElem (right.trans length_peek.symm)
      intro k low high
      have here := every k (right ▸ low)
      rw [List.getD_append _ _ _ _ low] at here
      rw [getElem_peek high, Nat.zero_add, here]
      simp [low]
    · intro equal k inside
      have low : k < other.length := by omega
      have high : k < (peek name 0 n).length := by simpa using inside
      have here : other[k] = (peek name 0 n)[k] := by simp [equal]
      rw [List.getD_append _ _ _ _ low, List.getD_eq_getElem _ _ low, here, getElem_peek high,
        Nat.zero_add]
  unfold gramadoStrncmp
  split
  · rename_i equal
    rw [ended, otherEnd]
    simp [same.mp equal]
  · rename_i differ
    constructor
    · intro one
      cases one
    · intro equal
      exact absurd (same.mpr equal) differ

theorem gramadoStrncmp_eq_zero {n : Nat} (left : name.length = n) (right : other.length = n) :
    gramadoStrncmp name (other ++ [0]) n = 0 ↔ other = name := by
  have ended : name.getD n 0 = 0 := by simp [left]
  have whole : peek name 0 n = name := by
    rw [peek_eq_take_drop (by omega), List.drop_zero, ← left, List.take_length]
  rw [gramadoStrncmp_eq_zero_iff ended right, whole]

theorem length_setBlanks {size : Nat} : (setBlanks size name).length = name.length := by
  unfold setBlanks
  split
  · simp
  · split
    · simp
    · split
      · simp
      · rfl

theorem length_strncpy {n : Nat} : (strncpy name n).length = n := by
  simp [strncpy]

theorem nameDesired_eq {buffer : List UInt8} (size : buffer.length = 13) :
    ∃ last, nameDesired buffer name = strncpy name 11 ++ [0, last] := by
  have length : (setBlanks (strlen name) buffer).length = 13 := length_setBlanks.trans size
  have copied : (strncpy name 11).length = 11 := length_strncpy
  obtain ⟨x, y, rest⟩ : ∃ x y, (setBlanks (strlen name) buffer).drop 11 = [x, y] := by
    apply List.length_eq_two.mp
    rw [List.length_drop, length]
  refine ⟨y, ?_⟩
  rw [nameDesired, poke, List.take_zero, List.nil_append, Nat.zero_add, copied, rest,
    List.set_append_right _ _ (by omega), copied]
  rfl

theorem peek_nameDesired {buffer : List UInt8} (size : buffer.length = 13) :
    peek (nameDesired buffer name) 0 11 = strncpy name 11 := by
  have copied : (strncpy name 11).length = 11 := length_strncpy
  rcases @nameDesired_eq name _ size with ⟨last, same⟩
  rw [same, peek_append_left (by omega), peek_eq_take_drop (by omega), List.drop_zero,
    List.take_of_length_le (by omega)]

theorem nameDesired_end {buffer : List UInt8} (size : buffer.length = 13) :
    (nameDesired buffer name).getD 11 0 = 0 := by
  have copied : (strncpy name 11).length = 11 := length_strncpy
  rcases @nameDesired_eq name _ size with ⟨last, same⟩
  rw [same, List.getD_append_right _ _ _ _ (by omega), copied]
  rfl

theorem strncpy_of_nonzero {n : Nat} (nonzero : ∀ b ∈ name, b ≠ 0) (few : name.length ≤ n) :
    strncpy name n = name ++ List.replicate (n - name.length) 0 := by
  have whole : name.takeWhile (· ≠ 0) = name := by
    apply List.takeWhile_eq_self_iff.mpr
    intro b member
    simpa using nonzero b member
  have length : (strncpy name n).length = n := length_strncpy
  apply List.ext_getElem
  · rw [length, List.length_append, List.length_replicate]
    omega
  · intro k low high
    simp only [strncpy, whole, List.getElem_map, List.getElem_range]
    rcases Nat.lt_or_ge k name.length with inside | behind
    · rw [List.getD_eq_getElem _ _ inside, List.getElem_append_left inside]
    · rw [List.getD_eq_default _ _ behind, List.getElem_append_right behind,
        List.getElem_replicate]

end Names

/-- A name of 1 to 11 characters. -/
structure Name where
  chars : List UInt8
  some : 0 < chars.length
  few : chars.length ≤ 11
  nonzero : ∀ b ∈ chars, b ≠ 0

/-- The image of a directory in memory, and the number of entries in the file
    system structure. -/
structure Image where
  mem : Int → UInt8
  dirAddress : UInt64
  place : dirAddress ≠ 0
  dirEntries : Int32

def Image.address (image : Image) (i : Nat) : Int :=
  entryAddress image.dirAddress i

/-- The eleven characters of an entry. -/
def Image.entry (image : Image) (i : Nat) : List UInt8 :=
  slice image.mem (image.address i) 11

/-- The name as it stands in an entry. -/
def Name.padded (name : Name) : List UInt8 :=
  name.chars ++ List.replicate (11 - name.chars.length) 0x20

/-- The first entry that is not erased and has the name. -/
def specified (image : Image) (name : Name) : Option Nat :=
  first FAT16_ROOT_ENTRIES fun i =>
    image.mem (image.address i) ≠ 0xE5 ∧ image.entry i = name.padded

/-- All three searches select the entry that has the name. -/
structure Agree (image : Image) (name : Name) : Prop where
  inDir : ∀ buffer, buffer.length = 13 →
    searchInDirImp buffer image.mem name.chars image.dirAddress = specified image name
  size : searchDirent image.mem image.dirAddress (unsignedLong image.dirEntries) name.chars
    (min (strlen name.chars) 11) = specified image name
  load : searchDirent image.mem image.dirAddress FAT16_ROOT_ENTRIES name.chars
    (strlen name.chars) = specified image name

/-- The entry begins with the characters that were asked for. -/
def Begins (image : Image) (name : Name) (i : Nat) : Prop :=
  slice image.mem (image.address i) name.chars.length = name.chars

instance (image : Image) (name : Name) : DecidablePred (Begins image name) :=
  fun _ => inferInstanceAs (Decidable (_ = _))

/-- No entry begins with the characters, or they are a whole name that the first
    search does not refuse, and the first entry with it is in every search. -/
def Fits (image : Image) (name : Name) : Prop :=
  (∀ i, i < max (unsignedLong image.dirEntries) FAT16_ROOT_ENTRIES → ¬Begins image name i) ∨
    (name.chars.length = 11 ∧ name.chars.getD 0 0 ∉ [0x2F, 0x2E, 0xE5] ∧
      ∃ i, i < min (unsignedLong image.dirEntries) FAT16_ROOT_ENTRIES ∧ Begins image name i ∧
        ∀ j, j < i → ¬Begins image name j)

section Searches

variable {image : Image} {name : Name} {i n : Nat} {rest : List UInt8}

theorem Name.strlen (name : Name) : Fat16.strlen name.chars = name.chars.length :=
  strlen_of_nonzero name.nonzero

theorem Name.head_ne_zero (name : Name) : name.chars.getD 0 0 ≠ 0 := by
  rw [List.getD_eq_getElem _ _ name.some]
  exact name.nonzero _ (List.getElem_mem name.some)

theorem begins_head (begins : Begins image name i) :
    image.mem (image.address i) = name.chars.getD 0 0 := by
  have length := name.some
  obtain ⟨m, size⟩ : ∃ m, name.chars.length = m + 1 := ⟨name.chars.length - 1, by omega⟩
  rw [Begins, size, slice_succ] at begins
  rw [← begins]
  rfl

/-- An entry that is the name with something behind it begins with the name. -/
theorem begins_of_entry (same : image.entry i = name.chars ++ rest) : Begins image name i := by
  have front := congrArg (List.take name.chars.length) same
  rw [Image.entry, take_slice name.few, List.take_left' rfl] at front
  exact front

/-- The loops of `fsGetFileSize` and `fat16LoadFile` find the first entry that
    begins with the name. -/
theorem searchDirent_eq : searchDirent image.mem image.dirAddress n name.chars
    name.chars.length = first n (Begins image name) := by
  apply first_congr
  intro j _
  have compare := @gramadoStrncmp_eq_zero name.chars
    (slice image.mem (image.address j) name.chars.length) _ rfl length_slice
  constructor
  · rintro ⟨-, equal⟩
    exact compare.mp equal
  · intro begins
    refine ⟨?_, compare.mpr begins⟩
    apply shortAt_ne_zero
    have head := begins_head begins
    rw [Image.address] at head
    rw [head]
    exact name.head_ne_zero

/-- The loop of `search_in_dir` finds the first entry that is the name with zeros
    behind it, if the name does not begin with one of three characters. -/
theorem searchInDirImp_eq_some {buffer : List UInt8} (size : buffer.length = 13) :
    searchInDirImp buffer image.mem name.chars image.dirAddress = some i ↔
      name.chars.getD 0 0 ∉ [0x2F, 0x2E, 0xE5] ∧
        image.entry i = name.chars ++ List.replicate (11 - name.chars.length) 0 ∧
        i < FAT16_ROOT_ENTRIES ∧ ∀ j, j < i →
          image.entry j ≠ name.chars ++ List.replicate (11 - name.chars.length) 0 := by
  have compare : ∀ j, gramadoStrncmp (nameDesired buffer name.chars) (image.entry j ++ [0]) 11 = 0 ↔
      image.entry j = name.chars ++ List.replicate (11 - name.chars.length) 0 := by
    intro j
    have eleven : (image.entry j).length = 11 := length_slice
    rw [gramadoStrncmp_eq_zero_iff (nameDesired_end size) eleven, peek_nameDesired size,
      strncpy_of_nonzero name.nonzero name.few]
  have few := name.few
  have short : ¬Fat16.strlen name.chars > 11 := by
    rw [name.strlen]
    omega
  have nonzero := name.head_ne_zero
  rw [searchInDirImp, if_neg nonzero, if_neg image.place, if_neg short]
  by_cases slash : name.chars.getD 0 0 = 0x2F
  · rw [if_pos slash, slash]
    simp
  · rw [if_neg slash]
    change first FAT16_ROOT_ENTRIES (fun j => image.mem (image.address j) ≠ 0xE5 ∧
      image.mem (image.address j) ≠ 0x2E ∧ image.mem (image.address j) ≠ 0 ∧
        gramadoStrncmp (nameDesired buffer name.chars) (image.entry j ++ [0]) 11 = 0) = some i ↔ _
    rw [first_eq_some]
    simp only [compare]
    constructor
    · rintro ⟨⟨erased, dot, -, equal⟩, inside, before⟩
      have head := begins_head (begins_of_entry equal)
      rw [head] at erased dot
      refine ⟨?_, equal, inside, ?_⟩
      · simp only [List.mem_cons, List.not_mem_nil, or_false, not_or]
        exact ⟨slash, dot, erased⟩
      intro j early same
      have other := begins_head (begins_of_entry same)
      rw [← other] at erased dot nonzero
      exact before j early ⟨erased, dot, nonzero, same⟩
    · rintro ⟨plain, equal, inside, before⟩
      have head := begins_head (begins_of_entry equal)
      simp only [List.mem_cons, List.not_mem_nil, or_false, not_or] at plain
      refine ⟨⟨?_, ?_, ?_, equal⟩, inside, ?_⟩
      · rw [head]
        exact plain.2.2
      · rw [head]
        exact plain.2.1
      · rw [head]
        exact nonzero
      · rintro j early ⟨-, -, -, same⟩
        exact before j early same

/-- Blanks and zeros behind a name are the same only if there is no room for them. -/
theorem full_of_padded_zeros
    (same : name.padded = name.chars ++ List.replicate (11 - name.chars.length) 0) :
    name.chars.length = 11 := by
  have few := name.few
  have behind := List.append_cancel_left same
  rcases Nat.eq_zero_or_pos (11 - name.chars.length) with none | some
  · omega
  · obtain ⟨m, size⟩ : ∃ m, 11 - name.chars.length = m + 1 :=
      ⟨_, (Nat.succ_pred_eq_of_pos some).symm⟩
    rw [size, List.replicate_succ, List.replicate_succ] at behind
    exact absurd (List.cons.inj behind).1 (by decide)

theorem entry_of_begins (full : name.chars.length = 11) (begins : Begins image name i) :
    image.entry i = name.chars := by
  rw [Begins, full] at begins
  exact begins

end Searches

/-- The three searches select the entry that has the name if and only if no
    entry begins with it that another search would miss. -/
theorem searches_agree_iff (image : Image) (name : Name) : Agree image name ↔ Fits image name := by
  have few := name.few
  have length := name.strlen
  have short : min (Fat16.strlen name.chars) 11 = name.chars.length := by
    rw [length]
    omega
  constructor
  · intro agree
    have size := agree.size
    have load := agree.load
    rw [short, searchDirent_eq] at size
    rw [length, searchDirent_eq] at load
    -- The two prefix searches agree: no entry begins with the name, or the first one that does is
    -- the one that is meant.
    rcases first_eq_first.mp (size.trans load.symm) with none | ⟨i, inside, begins, before⟩
    · exact Or.inl none
    · have selected : specified image name = some i := by
        rw [← load]
        exact first_eq_some.mpr ⟨begins, by omega, before⟩
      -- The third search pads with what the buffer holds, so the name fills its entry.
      have inDir := agree.inDir (List.replicate 13 0) (by simp)
      rw [selected, searchInDirImp_eq_some (by simp)] at inDir
      rcases inDir with ⟨plain, zeros, -, -⟩
      have blanks := (first_eq_some.mp selected).1.2
      have full := full_of_padded_zeros (blanks.symm.trans zeros)
      exact Or.inr ⟨full, plain, i, inside, begins, before⟩
  · rintro (none | ⟨full, plain, i, inside, begins, before⟩)
    · have nothing : specified image name = Option.none := by
        rw [specified, first_eq_none]
        rintro j inside ⟨-, equal⟩
        exact none j (by omega) (begins_of_entry equal)
      constructor
      · intro buffer size
        rw [nothing, Option.eq_none_iff_forall_ne_some]
        intro j found
        rcases (searchInDirImp_eq_some size).mp found with ⟨-, equal, inside, -⟩
        exact none j (by omega) (begins_of_entry equal)
      · rw [short, searchDirent_eq, nothing, first_eq_none]
        exact fun j inside => none j (by omega)
      · rw [length, searchDirent_eq, nothing, first_eq_none]
        exact fun j inside => none j (by omega)
    · have whole : ∀ b : UInt8,
          name.chars ++ List.replicate (11 - name.chars.length) b = name.chars := by
        intro b
        rw [full]
        exact List.append_nil _
      have unique : ∀ j, image.entry j = name.chars → Begins image name j := by
        intro j equal
        exact begins_of_entry (equal.trans (List.append_nil _).symm)
      have here := entry_of_begins full begins
      have selected : specified image name = some i := by
        rw [specified, first_eq_some]
        simp only [Name.padded, whole]
        refine ⟨⟨?_, here⟩, by omega, ?_⟩
        · rw [begins_head begins]
          intro erased
          rw [erased] at plain
          exact plain (by simp)
        · rintro j early ⟨-, same⟩
          exact before j early (unique j same)
      constructor
      · intro buffer size
        rw [selected, searchInDirImp_eq_some size]
        simp only [whole]
        exact ⟨plain, here, by omega, fun j early same => before j early (unique j same)⟩
      · rw [short, searchDirent_eq, selected, first_eq_some]
        exact ⟨begins, by omega, before⟩
      · rw [length, searchDirent_eq, selected, first_eq_some]
        exact ⟨begins, by omega, before⟩

/-- A directory with the one entry "NOTES2  TXT". -/
def notes2 : Image where
  mem := store (fun _ => 0) 0x200000 [78, 79, 84, 69, 83, 50, 32, 32, 84, 88, 84]
  dirAddress := 0x200000
  place := by decide
  dirEntries := 512

/-- "NOTES" -/
def notesOnly : Name :=
  ⟨[78, 79, 84, 69, 83], by decide, by decide, by simp⟩

/-- `fat16LoadFile` takes an entry that merely begins with the name. -/
theorem prefix_is_selected : ¬Agree notes2 notesOnly := by
  intro agree
  have load := agree.load
  have found : searchDirent notes2.mem notes2.dirAddress FAT16_ROOT_ENTRIES notesOnly.chars
      (Fat16.strlen notesOnly.chars) = some 0 := by decide +kernel
  have none : specified notes2 notesOnly = Option.none := by decide +kernel
  rw [found, none] at load
  cases load

end Gramado.Fs.FatSearch
