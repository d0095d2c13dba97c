/-
`fs_fntos` and `fs_fntos2` of fslib.c, which rewrite a file name in place as the eleven
characters of a directory entry. The name before the dot is made upper case; of the
extension only what was lower case, a digit or one of eight other characters is kept.
-/
import Gramado.Lib.Text

namespace Gramado.Fs.ShortNames

open Gramado.Lib.Memory
open Gramado.Lib.Text
open Function

section Model

def isLower (c : UInt8) : Bool :=
  0x61 ≤ c && c ≤ 0x7A

def isDigit (c : UInt8) : Bool :=
  0x30 ≤ c && c ≤ 0x39

/-- `$ % - _ ( ) { }` -/
def isSpecial (c : UInt8) : Bool :=
  c == 0x24 || c == 0x25 || c == 0x2D || c == 0x5F || c == 0x28 || c == 0x29 || c == 0x7B ||
    c == 0x7D

/-- Letters are made upper case up to a dot or the end. `none` is a loop that has not ended
    after that many passes. -/
def upperName : Nat → (Int → UInt8) → Int → Nat → Option ((Int → UInt8) × Int × Nat)
  | 0, _, _, _ => none
  | passes + 1, mem, name, ns =>
      if mem name ≠ 0 ∧ mem name ≠ 0x2E then
        let mem := if isLower (mem name) then update mem name (mem name - 0x20) else mem
        upperName passes mem (name + 1) (ns + 1)
      else
        some (mem, name, ns)

/-- The loop over the extension, with `left` of its three characters to go. The zero that
    its last test looks for has ended the loop before. -/
def readExt (mem : Int → UInt8) (name : Int) (ext : List UInt8) (i : Nat) :
    Nat → (Int → UInt8) × List UInt8
  | 0 => (mem, ext)
  | left + 1 =>
      let place := name + i + 1
      if mem place = 0 then
        (mem, ext)
      else
        let lower := isLower (mem place)
        let mem := if lower then update mem place (mem place - 0x20) else mem
        let ext := if lower then ext.set i (mem place) else ext
        let ext := if isSpecial (mem place) then ext.set i (mem place) else ext
        let ext := if isDigit (mem place) then ext.set i (mem place) else ext
        readExt mem name ext (i + 1) left

def padName (mem : Int → UInt8) (name : Int) : Nat → (Int → UInt8) × Int
  | 0 => (mem, name)
  | missing + 1 => padName (update mem name 0x20) (name + 1) missing

def writeExt (mem : Int → UInt8) (name : Int) : List UInt8 → (Int → UInt8) × Int
  | [] => (mem, name)
  | c :: rest => writeExt (update mem name (if c ≠ 0 then c else 0x20)) (name + 1) rest

/-- The body of both functions. `newExt` is the extension of a name that has none. -/
def fntos (newExt : List UInt8) (passes : Nat) (mem : Int → UInt8) (name : Option Int) :
    Option (Int → UInt8) :=
  match name with
  | none => some mem
  | some name =>
      if mem name = 0 then
        some mem
      else
        match upperName passes mem name 0 with
        | none => none
        | some (mem, name, ns) =>
            let fAddNewExt : Bool := mem name = 0 ∧ ns ≤ 8
            let (mem, ext) := if fAddNewExt then (mem, newExt) else readExt mem name [0, 0, 0] 0 3
            let (mem, name) := padName mem name (8 - ns)
            let (mem, name) := writeExt mem name ext
            some (update mem name 0)

/-- With the extension "BIN". -/
def fsFntos : Nat → (Int → UInt8) → Option Int → Option (Int → UInt8) :=
  fntos [0x42, 0x49, 0x4E]

def fsFntos2 : Nat → (Int → UInt8) → Option Int → Option (Int → UInt8) :=
  fntos [0x20, 0x20, 0x20]

end Model

def toUpper (c : UInt8) : UInt8 :=
  if isLower c then c - 0x20 else c

/-- What a short name may be made of: letters, digits, the characters that the comment in
    `fs_fntos` lists, and everything above the ASCII characters. -/
def Legal (c : UInt8) : Prop :=
  isLower c ∨ (0x41 ≤ c ∧ c ≤ 0x5A) ∨ isDigit c ∨ isSpecial c ∨ c = 0x27 ∨ c = 0x40 ∨ c = 0x7E ∨
    c = 0x60 ∨ c = 0x21 ∨ c = 0x5E ∨ c = 0x23 ∨ c = 0x26 ∨ 0x80 ≤ c

/-- A name of one to eight characters, with or without an extension of one to three. -/
structure ShortName where
  base : List UInt8
  ext : Option (List UInt8)
  some_base : 0 < base.length
  base_fits : base.length ≤ 8
  some_ext : ∀ e ∈ ext, 0 < e.length
  ext_fits : ∀ e ∈ ext, e.length ≤ 3
  base_legal : ∀ c ∈ base, Legal c
  ext_legal : ∀ e ∈ ext, ∀ c ∈ e, Legal c

def ShortName.text (name : ShortName) : List UInt8 :=
  name.base ++ name.ext.elim [] fun e => 0x2E :: e

def padded (n : Nat) (text : List UInt8) : List UInt8 :=
  text ++ List.replicate (n - text.length) 0x20

/-- The name as a directory entry has it, with an extension for one that has none. -/
def ShortName.entry (name : ShortName) (newExt : List UInt8) : List UInt8 :=
  padded 8 (name.base.map toUpper) ++ padded 3 (name.ext.elim newExt fun e => e.map toUpper)

/-- The function comes to an end with the entry's characters in place of the name, having
    written nothing else. -/
def Rewrites (convert : Nat → (Int → UInt8) → Option Int → Option (Int → UInt8))
    (mem : Int → UInt8) (p : Int) (name : ShortName) (newExt : List UInt8) : Prop :=
  ∀ passes, name.base.length < passes → ∃ after, convert passes mem (some p) = some after ∧
    Holds after p (name.entry newExt) ∧
    ∀ k, k < p ∨ p + 12 ≤ k → after k = mem k

/-- What the loop over the extension keeps of a character. -/
def kept (c : UInt8) : UInt8 :=
  if isLower c then c - 0x20 else if isSpecial c || isDigit c then c else 0

/-- The character is kept in an extension. -/
def Kept (c : UInt8) : Prop :=
  isLower c ∨ isSpecial c ∨ isDigit c

/-- The names differ at most in the case of their letters. -/
def SameLetters (name other : ShortName) : Prop :=
  name.base.map toUpper = other.base.map toUpper ∧
    name.ext.map (List.map toUpper) = other.ext.map (List.map toUpper)

section Characters

variable {c : UInt8}

theorem legal_iff : Legal c ↔ 33 ≤ c.toNat ∧ c.toNat ≠ 34 ∧ ¬(42 ≤ c.toNat ∧ c.toNat ≤ 44) ∧
    c.toNat ≠ 46 ∧ c.toNat ≠ 47 ∧ ¬(58 ≤ c.toNat ∧ c.toNat ≤ 63) ∧
    ¬(91 ≤ c.toNat ∧ c.toNat ≤ 93) ∧ c.toNat ≠ 124 ∧ c.toNat ≠ 127 := by
  simp only [Legal, isLower, isDigit, isSpecial, Bool.and_eq_true, Bool.or_eq_true, beq_iff_eq,
    decide_eq_true_eq, UInt8.le_iff_toNat_le, ← UInt8.toNat_inj, UInt8.reduceToNat]
  omega

instance : Decidable (Legal c) :=
  decidable_of_iff _ legal_iff.symm

theorem isLower_iff : isLower c = true ↔ 97 ≤ c.toNat ∧ c.toNat ≤ 122 := by
  simp only [isLower, Bool.and_eq_true, decide_eq_true_eq, UInt8.le_iff_toNat_le,
    UInt8.reduceToNat]

theorem isDigit_iff : isDigit c = true ↔ 48 ≤ c.toNat ∧ c.toNat ≤ 57 := by
  simp only [isDigit, Bool.and_eq_true, decide_eq_true_eq, UInt8.le_iff_toNat_le,
    UInt8.reduceToNat]

/-- A letter made upper case is neither a letter that is lower case, nor anything else that
    the loop over the extension looks for. -/
theorem lowered (lower : isLower c = true) : isLower (c - 0x20) = false ∧
    isDigit (c - 0x20) = false ∧ isSpecial (c - 0x20) = false ∧ c - 0x20 ≠ 0 ∧
      c - 0x20 ≠ 0x20 := by
  have bound := isLower_iff.mp lower
  have value : (c - 0x20).toNat = c.toNat - 32 :=
    UInt8.toNat_sub_of_le _ _ (UInt8.le_iff_toNat_le.mpr (by
      change 32 ≤ c.toNat
      omega))
  refine ⟨?_, ?_, ?_, ?_, ?_⟩
  · rw [Bool.eq_false_iff, ne_eq, isLower_iff]
    omega
  · rw [Bool.eq_false_iff, ne_eq, isDigit_iff]
    omega
  · rw [Bool.eq_false_iff]
    simp only [isSpecial, ne_eq, Bool.or_eq_true, beq_iff_eq, ← UInt8.toNat_inj,
      UInt8.reduceToNat, value]
    omega
  · rw [ne_eq, ← UInt8.toNat_inj, value]
    change c.toNat - 32 ≠ 0
    omega
  · rw [ne_eq, ← UInt8.toNat_inj, value]
    change c.toNat - 32 ≠ 32
    omega

theorem legal_nonzero (legal : Legal c) : c ≠ 0 := by
  rintro rfl
  exact absurd legal (by decide)

theorem legal_no_dot (legal : Legal c) : c ≠ 0x2E := by
  rintro rfl
  exact absurd legal (by decide)

theorem toUpper_nonzero (legal : Legal c) : toUpper c ≠ 0 := by
  unfold toUpper
  split
  next lower => exact (lowered lower).2.2.2.1
  next => exact legal_nonzero legal

/-- What is written for a character of the extension. -/
def fill (c : UInt8) : UInt8 :=
  if c ≠ 0 then c else 0x20

/-- A character that is dropped leaves a blank, which no legal character is. -/
theorem fill_kept_iff (legal : Legal c) : fill (kept c) = toUpper c ↔ Kept c := by
  by_cases lower : isLower c = true
  · have nonzero := (lowered lower).2.2.2.1
    simp only [Kept, kept, toUpper, fill, lower, if_true, true_or, if_pos nonzero]
  · by_cases plain : (isSpecial c || isDigit c) = true
    · have here : kept c = c := by rw [kept, if_neg lower, if_pos plain]
      rw [here, toUpper, if_neg lower, fill, if_pos (legal_nonzero legal)]
      simp only [Bool.or_eq_true] at plain
      exact iff_of_true rfl (Or.inr plain)
    · have dropped : kept c = 0 := by rw [kept, if_neg lower, if_neg plain]
      rw [dropped, toUpper, if_neg lower]
      have blank : fill 0 ≠ c := by
        rintro rfl
        exact absurd legal (by decide)
      refine iff_of_false blank ?_
      rintro (low | other)
      · exact lower low
      · simp only [Bool.or_eq_true] at plain
        exact plain other

theorem fill_nonzero : fill c ≠ 0 := by
  unfold fill
  split
  next nonzero => exact nonzero
  next => decide

end Characters

section Loops

variable {mem : Int → UInt8} {p : Int}

/-- The loop over the name stops at the dot or at the end, having made the name upper case. -/
theorem upperName_eq {base tail : List UInt8} {ns passes : Nat}
    (holds : Holds mem p (base ++ tail)) (plain : ∀ c ∈ base, c ≠ 0x2E)
    (ends : tail = [] ∨ ∃ e, tail = 0x2E :: e) (enough : base.length < passes) :
    upperName passes mem p ns =
      some (store mem p (base.map toUpper), p + base.length, ns + base.length) := by
  induction base generalizing mem p ns passes with
  | nil =>
      obtain ⟨passes, rfl⟩ := Nat.exists_eq_add_of_lt enough
      simp only [List.length_nil, Nat.zero_add, upperName, List.nil_append] at holds ⊢
      have stop : ¬(mem p ≠ 0 ∧ mem p ≠ 0x2E) := by
        obtain rfl | ⟨e, rfl⟩ := ends
        · exact fun going => going.1 holds
        · exact fun going => going.2 holds.1
      rw [if_neg stop]
      simp [store]
  | cons c rest ih =>
      obtain ⟨rfl, nonzero, later⟩ := holds
      simp only [List.length_cons] at enough
      obtain ⟨passes, rfl⟩ : ∃ n, passes = n + 1 := ⟨passes - 1, by omega⟩
      have dotless := plain (mem p) (List.mem_cons_self ..)
      have written : (if isLower (mem p) = true then update mem p (mem p - 0x20) else mem) =
          update mem p (toUpper (mem p)) := by
        unfold toUpper
        split
        · rfl
        · rw [update_eq_self]
      have behind : Holds (update mem p (toUpper (mem p))) (p + 1) (rest ++ tail) := by
        refine holds_congr (fun k low _ => ?_) later
        exact update_of_ne (by omega) _ _
      simp only [upperName, if_pos (And.intro nonzero dotless), written]
      rw [ih behind (fun d member => plain d (List.mem_cons_of_mem _ member)) (by omega),
        store_update]
      simp only [List.map_cons, List.length_cons, Option.some.injEq, Prod.mk.injEq, true_and]
      omega

theorem readExt_step {name : Int} {left : Nat} {front : List UInt8} {rest : List UInt8}
    (there : mem (name + front.length + 1) ≠ 0) :
    readExt mem name (front ++ 0 :: rest) front.length (left + 1) =
      readExt (update mem (name + front.length + 1) (toUpper (mem (name + front.length + 1)))) name
        ((front ++ [kept (mem (name + front.length + 1))]) ++ rest)
        (front ++ [kept (mem (name + front.length + 1))]).length left := by
  generalize spot : name + (front.length : Int) + 1 = place at there ⊢
  generalize char : mem place = c at there ⊢
  have put : ∀ x y : UInt8, (front ++ x :: rest).set front.length y = front ++ y :: rest := by
    intro x y
    rw [List.set_append_right _ _ (Nat.le_refl _), Nat.sub_self, List.set_cons_zero]
  simp only [readExt, spot, char, if_neg there]
  by_cases lower : isLower c = true
  · obtain ⟨-, no_digit, no_special, -, -⟩ := lowered lower
    simp [lower, no_digit, no_special, toUpper, kept, put]
  · have same : update mem place c = mem := by rw [← char, update_eq_self]
    by_cases special : isSpecial c = true <;> by_cases digit : isDigit c = true <;>
      simp [lower, special, digit, toUpper, kept, put, char, same]

/-- The loop over the extension makes it upper case where it is, and keeps what it knows. -/
theorem readExt_eq {name : Int} {front e : List UInt8} {left : Nat} (fits : e.length ≤ left)
    (holds : Holds mem (name + front.length + 1) e) :
    readExt mem name (front ++ List.replicate left 0) front.length left =
      (store mem (name + front.length + 1) (e.map toUpper),
        front ++ e.map kept ++ List.replicate (left - e.length) 0) := by
  induction e generalizing mem front left with
  | nil =>
      cases left with
      | zero => simp [readExt, store]
      | succ left =>
          have ended : mem (name + front.length + 1) = 0 := holds
          simp [readExt, ended, store]
  | cons c rest ih =>
      obtain ⟨rfl, nonzero, later⟩ := holds
      simp only [List.length_cons] at fits
      obtain ⟨left, rfl⟩ : ∃ n, left = n + 1 := ⟨left - 1, by omega⟩
      rw [List.replicate_succ, readExt_step nonzero]
      generalize here : name + (front.length : Int) + 1 = place at nonzero later ⊢
      have next : name + ((front ++ [kept (mem place)]).length : Int) + 1 = place + 1 := by
        rw [List.length_append, List.length_singleton, ← here]
        omega
      have behind : Holds (update mem place (toUpper (mem place)))
          (name + ((front ++ [kept (mem place)]).length : Int) + 1) rest := by
        rw [next]
        exact holds_congr (fun k low _ => update_of_ne (by omega) _ _) later
      rw [ih (by omega) behind, next, store_update]
      simp

theorem padName_eq {name : Int} {missing : Nat} : padName mem name missing =
    (store mem name (List.replicate missing 0x20), name + missing) := by
  induction missing generalizing mem name with
  | zero => simp [padName, store]
  | succ missing ih =>
      rw [padName, ih, store_update, List.replicate_succ]
      congr 1
      omega

theorem writeExt_eq {name : Int} {ext : List UInt8} :
    writeExt mem name ext = (store mem name (ext.map fill), name + ext.length) := by
  induction ext generalizing mem name with
  | nil => simp [writeExt, store]
  | cons c rest ih =>
      rw [writeExt, ih]
      have char : (if c ≠ 0 then c else 0x20) = fill c := rfl
      rw [char, store_update]
      simp only [List.map_cons, List.length_cons, Prod.mk.injEq, true_and]
      omega

end Loops

section Rewriting

variable {mem : Int → UInt8} {p : Int} {name : ShortName} {newExt : List UInt8} {passes : Nat}

/-- The three characters that the function writes as the extension. -/
def ShortName.written (name : ShortName) (newExt : List UInt8) : List UInt8 :=
  match name.ext with
  | none => newExt.map fill
  | some e => e.map (fill ∘ kept) ++ List.replicate (3 - e.length) 0x20

theorem text_ends : name.ext.elim [] (fun e => 0x2E :: e) = [] ∨
    ∃ e, name.ext.elim [] (fun e => 0x2E :: e) = 0x2E :: e := by
  cases name.ext with
  | none => exact Or.inl rfl
  | some e => exact Or.inr ⟨e, rfl⟩

theorem length_padded {n : Nat} {text : List UInt8} (fits : text.length ≤ n) :
    (padded n text).length = n := by
  simp only [padded, List.length_append, List.length_replicate]
  omega

theorem length_written (three : newExt.length = 3) : (name.written newExt).length = 3 := by
  unfold ShortName.written
  split
  next => simp [three]
  next e ext =>
    have fits := name.ext_fits e ext
    simp only [List.length_append, List.length_map, List.length_replicate]
    omega

/-- Behind the name, blanks and the extension are written, and the end. -/
theorem finish {q : Int} {missing : Nat} {ext : List UInt8} :
    update (writeExt (padName mem q missing).1 (padName mem q missing).2 ext).1
        (writeExt (padName mem q missing).1 (padName mem q missing).2 ext).2 0 =
      store mem q (List.replicate missing 0x20 ++ ext.map fill ++ [0]) := by
  rw [padName_eq]
  simp only [writeExt_eq]
  have place : q + (missing : Int) = q + (List.replicate missing (0x20 : UInt8)).length := by
    rw [List.length_replicate]
  rw [place, store_append, update_eq_store]
  have last : q + ((List.replicate missing (0x20 : UInt8)).length : Int) + ext.length =
      q + (List.replicate missing 0x20 ++ ext.map fill).length := by
    simp only [List.length_append, List.length_map, List.length_replicate]
    omega
  rw [last, store_append]

theorem text_starts (holds : Holds mem p name.text) : mem p ≠ 0 := by
  have some_base := name.some_base
  unfold ShortName.text at holds
  cases front : name.base with
  | nil => simp [front] at some_base
  | cons c rest =>
      rw [front] at holds
      obtain ⟨first, nonzero, -⟩ := holds
      rw [first]
      exact nonzero

theorem behind_base (holds : Holds mem p name.text) (q : Int)
    (same : q = p + name.base.length) :
    Holds (store mem p (name.base.map toUpper)) q (name.ext.elim [] fun e => 0x2E :: e) := by
  subst same
  have after := (holds_append.mp holds).2.2
  refine holds_congr (fun k low _ => store_behind ?_) after
  rw [List.length_map]
  exact low

/-- The function comes to an end, having written the name, the extension and a zero. -/
theorem fntos_eq (holds : Holds mem p name.text)
    (enough : name.base.length < passes) :
    fntos newExt passes mem (some p) = some (store mem p
      (padded 8 (name.base.map toUpper) ++ name.written newExt ++ [0])) := by
  have fits := name.base_fits
  have plain : ∀ c ∈ name.base, c ≠ 0x2E := fun c member => legal_no_dot (name.base_legal c member)
  have rest := behind_base holds _ rfl
  simp only [fntos, if_neg (text_starts holds), upperName_eq holds plain text_ends enough,
    Nat.zero_add]
  have behind : p + (name.base.length : Int) = p + (name.base.map toUpper).length := by
    rw [List.length_map]
  cases ext : name.ext with
  | none =>
      rw [ext] at rest
      have ended : store mem p (name.base.map toUpper) (p + name.base.length) = 0 := rest
      have adds : decide (store mem p (name.base.map toUpper) (p + name.base.length) = 0 ∧
          name.base.length ≤ 8) = true := decide_eq_true ⟨ended, fits⟩
      simp only [adds, if_true]
      rw [finish, behind, store_append, padded, ShortName.written, ext, List.length_map]
      simp only [List.append_assoc]
  | some e =>
      rw [ext] at rest
      obtain ⟨dot, -, later⟩ := rest
      have short := name.ext_fits e ext
      have keeps : decide (store mem p (name.base.map toUpper) (p + name.base.length) = 0 ∧
          name.base.length ≤ 8) = false := by
        rw [dot]
        exact decide_eq_false fun zero => absurd zero.1 (by decide)
      have read := @readExt_eq (store mem p (name.base.map toUpper)) (p + name.base.length) [] e 3
        short (by simpa using later)
      simp only [List.length_nil, List.nil_append, Int.natCast_zero, Int.add_zero] at read
      simp only [keeps, Bool.false_eq_true, if_false]
      have zeros : [(0 : UInt8), 0, 0] = List.replicate 3 0 := rfl
      rw [zeros, read, finish, store_covers (by omega) (by simp; omega), behind, store_append,
        padded, ShortName.written, ext, List.length_map]
      simp [fill]

/-- The extension is the entry's exactly if every character of it is kept. -/
theorem written_eq_iff (three : newExt.length = 3) (nonzero : ∀ c ∈ newExt, c ≠ 0) :
    name.written newExt = padded 3 (name.ext.elim newExt fun e => e.map toUpper) ↔
      ∀ c ∈ name.ext.getD [], Kept c := by
  cases ext : name.ext with
  | none =>
      have same : newExt.map fill = newExt :=
        (List.map_congr_left fun c member => if_pos (nonzero c member)).trans (List.map_id newExt)
      simp [ShortName.written, ext, padded, three, same]
  | some e =>
      have legal := name.ext_legal e ext
      simp only [ShortName.written, ext, padded, Option.elim_some, Option.getD_some,
        List.length_map, List.append_cancel_right_eq]
      rw [List.map_inj_left]
      exact forall₂_congr fun c member => fill_kept_iff (legal c member)

theorem written_nonzero : ∀ c ∈ name.written newExt, c ≠ 0 := by
  unfold ShortName.written
  split
  next =>
    intro c member
    obtain ⟨d, -, rfl⟩ := List.mem_map.mp member
    exact fill_nonzero
  next e _ =>
    intro c member
    obtain inside | blank := List.mem_append.mp member
    · obtain ⟨d, -, rfl⟩ := List.mem_map.mp inside
      exact fill_nonzero
    · rw [(List.mem_replicate.mp blank).2]
      decide

theorem base_nonzero : ∀ c ∈ padded 8 (name.base.map toUpper), c ≠ 0 := by
  intro c member
  obtain inside | blank := List.mem_append.mp member
  · obtain ⟨d, there, rfl⟩ := List.mem_map.mp inside
    exact toUpper_nonzero (name.base_legal d there)
  · rw [(List.mem_replicate.mp blank).2]
    decide

/-- What the function writes is a string, which is the entry exactly if its extension is. -/
theorem rewrites_iff (three : newExt.length = 3) (nonzero : ∀ c ∈ newExt, c ≠ 0)
    (holds : Holds mem p name.text) :
    Rewrites (fntos newExt) mem p name newExt ↔ ∀ c ∈ name.ext.getD [], Kept c := by
  rw [← written_eq_iff three nonzero]
  have string : Holds (store mem p
      (padded 8 (name.base.map toUpper) ++ name.written newExt ++ [0])) p
      (padded 8 (name.base.map toUpper) ++ name.written newExt) := by
    apply holds_store
    intro c member
    obtain front | behind := List.mem_append.mp member
    · exact base_nonzero c front
    · exact written_nonzero c behind
  constructor
  · intro rewrites
    obtain ⟨after, done, text, -⟩ := rewrites (name.base.length + 1) (Nat.lt_succ_self _)
    rw [fntos_eq holds (Nat.lt_succ_self _)] at done
    cases done
    exact List.append_cancel_left (holds_unique string text)
  · intro same passes enough
    refine ⟨_, fntos_eq holds enough, ?_, ?_⟩
    · rw [ShortName.entry, ← same]
      exact string
    · have whole : (padded 8 (name.base.map toUpper) ++ name.written newExt ++ [0]).length =
        12 := by
        have fits := name.base_fits
        simp only [List.length_append, length_written three, List.length_singleton]
        rw [length_padded (by simpa using fits)]
      rintro k (before | past)
      · exact store_before before
      · apply store_behind
        rw [whole]
        exact past

theorem entry_case {other : ShortName} (same : SameLetters name other) :
    name.entry newExt = other.entry newExt := by
  have ext : name.ext.elim newExt (fun e => e.map toUpper) =
      other.ext.elim newExt fun e => e.map toUpper := by
    have upper : ∀ e : Option (List UInt8), e.elim newExt (fun e => e.map toUpper) =
        (e.map (List.map toUpper)).elim newExt id := by
      intro e
      cases e <;> rfl
    rw [upper, upper, same.2]
  rw [ShortName.entry, ShortName.entry, same.1, ext]

end Rewriting

/-- Both functions write the upper-case entry, which only the extension of a name without
    one tells apart, exactly if the extension has no character that their loop drops: an
    upper-case letter is one, and so are `' @ ~ ! ^ # &`, the grave accent and what is above
    the ASCII characters. -/
theorem short_names (name : ShortName) (mem : Int → UInt8) (p : Int)
    (holds : Holds mem p name.text) :
    (Rewrites fsFntos mem p name [0x42, 0x49, 0x4E] ∧
        Rewrites fsFntos2 mem p name [0x20, 0x20, 0x20] ↔ ∀ c ∈ name.ext.getD [], Kept c) ∧
      ∀ other newExt, SameLetters name other → name.entry newExt = other.entry newExt := by
  have first := @rewrites_iff mem p name [0x42, 0x49, 0x4E] rfl (by simp) holds
  have second := @rewrites_iff mem p name [0x20, 0x20, 0x20] rfl (by simp) holds
  exact ⟨⟨fun both => first.mp both.1, fun kept => ⟨first.mpr kept, second.mpr kept⟩⟩,
    fun other newExt => entry_case⟩

/-- "foo.bin" -/
def lowerName : ShortName where
  base := [0x66, 0x6F, 0x6F]
  ext := some [0x62, 0x69, 0x6E]
  some_base := by decide
  base_fits := by decide
  some_ext := by simp
  ext_fits := by simp
  base_legal := by
    simp only [List.forall_mem_cons, List.not_mem_nil, false_implies, implies_true]
    decide
  ext_legal := by
    intro e there
    cases there
    simp only [List.forall_mem_cons, List.not_mem_nil, false_implies, implies_true]
    decide

/-- "foo.bin" becomes "FOO     BIN". -/
theorem lowerName_converted :
    Rewrites fsFntos (store (fun _ => 0) 0 (lowerName.text ++ [0])) 0 lowerName
        [0x42, 0x49, 0x4E] ∧
      Rewrites fsFntos2 (store (fun _ => 0) 0 (lowerName.text ++ [0])) 0 lowerName
        [0x20, 0x20, 0x20] := by
  have letters : ∀ c ∈ lowerName.text, c ≠ 0 := by simp [lowerName, ShortName.text]
  apply (short_names lowerName _ 0 (holds_store letters)).1.mpr
  change ∀ c ∈ [0x62, 0x69, 0x6E], Kept c
  simp only [List.forall_mem_cons, List.not_mem_nil, false_implies, implies_true, Kept]
  decide

/-- "FOO.BIN" -/
def upperCaseName : ShortName where
  base := [0x46, 0x4F, 0x4F]
  ext := some [0x42, 0x49, 0x4E]
  some_base := by decide
  base_fits := by decide
  some_ext := by simp
  ext_fits := by simp
  base_legal := by
    simp only [List.forall_mem_cons, List.not_mem_nil, false_implies, implies_true]
    decide
  ext_legal := by
    intro e there
    cases there
    simp only [List.forall_mem_cons, List.not_mem_nil, false_implies, implies_true]
    decide

/-- The upper-case extension of "FOO.BIN" is written as three blanks. -/
theorem upperCaseName_dropped : ¬∀ (name : ShortName) (mem : Int → UInt8) (p : Int),
    Holds mem p name.text → Rewrites fsFntos mem p name [0x42, 0x49, 0x4E] := by
  intro all
  have letters : ∀ c ∈ upperCaseName.text, c ≠ 0 := by simp [upperCaseName, ShortName.text]
  have held : Holds (store (fun _ => 0) 0 (upperCaseName.text ++ [0])) 0 upperCaseName.text :=
    holds_store letters
  have kept := (@rewrites_iff _ 0 upperCaseName [0x42, 0x49, 0x4E] rfl (by simp) held).mp
    (all upperCaseName _ 0 held) 0x42 (by decide)
  exact absurd kept (by unfold Kept; decide)

end Gramado.Fs.ShortNames
