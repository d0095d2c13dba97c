/-
`strcspn` and `strspn` of kstring.c and of the string.c of the RTL, and
`k_strtok_r`. The condition of the loops of the first two is an assignment, so
that every pass looks at the second character; `k_strtok_r` scans by itself.
The length of a set and the index in it are taken as unbounded.
-/
import Gramado.Lib.Loop
import Gramado.Lib.Pieces
import Gramado.Lib.Text

namespace Gramado.Libk.Kstring

open Gramado.Lib.Loop
open Gramado.Lib.Pieces
open Gramado.Lib.Text
open Function

/-- A pass of the loop that takes the length of the set. -/
def lengthPass (mem : Int → UInt8) (set : Int) (length : Nat) : Nat ⊕ Nat :=
  if mem (set + length) = 0 then .inl length else .inr (length + 1)

/-- What the loops of `strcspn` and `strspn` carry from pass to pass. -/
structure Span where
  result : Nat
  matched : Bool

/-- A pass of the loop of `strcspn`, which a match ends, or of `strspn`, which
    goes on after one. -/
def spanPass (ends : Bool) (mem : Int → UInt8) (str set : Int) (length : Nat) (span : Span) :
    Nat ⊕ Span :=
  -- The condition is `result = 1`: it assigns, and is true.
  let result : Nat := 1
  let c := mem (str + result)
  if c = 0 then
    .inl result
  else
    let matched := span.matched || (List.range length).any fun i => c == mem (set + i)
    if matched = ends then .inl result else .inr ⟨result + 1, matched⟩

def span (ends : Bool) (passes : Nat) (mem : Int → UInt8) (str set : Int) : Option Nat :=
  match after (lengthPass mem set) passes 0 with
  | .inr _ => none
  | .inl length =>
      match after (spanPass ends mem str set length) passes ⟨0, false⟩ with
      | .inr _ => none
      | .inl result => some result

def strcspn (passes : Nat) (mem : Int → UInt8) (str reject : Int) : Option Nat :=
  span true passes mem str reject

def strspn (passes : Nat) (mem : Int → UInt8) (str accept : Int) : Option Nat :=
  span false passes mem str accept

/-- The functions of the RTL differ in the types of their variables alone. -/
def rtlStrcspn (passes : Nat) (mem : Int → UInt8) (str reject : Int) : Option Nat :=
  span true passes mem str reject

def rtlStrspn (passes : Nat) (mem : Int → UInt8) (str accept : Int) : Option Nat :=
  span false passes mem str accept

/-- Where `k_strtok_r` is: at `cont`, in the scan of the set for a delimiter in
    front of the token, at the next character of the token, or in the scan of
    the set for the end of the token. -/
inductive Point where
  | cont (s : Int)
  | skip (c : UInt8) (s spanp : Int)
  | token (tok s : Int)
  | scan (tok : Int) (c : UInt8) (s spanp : Int)

/-- The token that is returned, the memory and `*last`. -/
structure Found where
  tok : Option Int
  mem : Int → UInt8
  last : Option Int

def strtokPass (mem : Int → UInt8) (delim : Int) : Point → Found ⊕ Point
  | .cont s => .inr (.skip (mem s) (s + 1) delim)
  | .skip c s spanp =>
      let sc := mem spanp
      if sc ≠ 0 then
        if c = sc then .inr (.cont s) else .inr (.skip c s (spanp + 1))
      else if c = 0 then
        .inl ⟨none, mem, none⟩
      else
        .inr (.token (s - 1) s)
  | .token tok s => .inr (.scan tok (mem s) (s + 1) delim)
  | .scan tok c s spanp =>
      let sc := mem spanp
      if sc = c then
        if c = 0 then
          .inl ⟨some tok, mem, none⟩
        else
          .inl ⟨some tok, update mem (s - 1) 0, some s⟩
      else if sc ≠ 0 then
        .inr (.scan tok c s (spanp + 1))
      else
        .inr (.token tok s)

def kStrtokR (passes : Nat) (mem : Int → UInt8) (s : Option Int) (delim : Int)
    (last : Option Int) : Option Found :=
  match s.or last with
  | none => some ⟨none, mem, none⟩
  | some s =>
      match after (strtokPass mem delim) passes (.cont s) with
      | .inr _ => none
      | .inl found => some found

structure Strings where
  mem : Int → UInt8
  str : Int
  text : List UInt8
  set : Int
  chars : List UInt8
  holds : Holds mem str text
  holdsSet : Holds mem set chars

/-- The set is not a part of the string, in which zeros are put. -/
structure Apart extends Strings where
  apart : set + chars.length < str ∨ str + text.length < set

/-- The function ends and gives the length of the longest part from the start
    of the string whose characters are all as said. -/
def Measures (f : Nat → (Int → UInt8) → Int → Int → Option Nat) (strings : Strings)
    (good : UInt8 → Bool) : Prop :=
  ∃ passes, f passes strings.mem strings.str strings.set =
    some (strings.text.takeWhile good).length

/-- The first character is as said, and is the last one or has one behind it
    that is not. -/
def OneOnly (text : List UInt8) (good : UInt8 → Bool) : Prop :=
  ∃ c, good c = true ∧ (text = [c] ∨ ∃ d rest, text = c :: d :: rest ∧ good d = false)

/-- The strings that the calls yield: the first one for `s`, the later ones for
    NULL, up to the call that returns NULL. -/
inductive Yields (delim : Int) :
    (Int → UInt8) → Option Int → Option Int → List (List UInt8) → Prop
  | null {mem : Int → UInt8} {s last : Option Int} {passes : Nat} {found : Found} :
      kStrtokR passes mem s delim last = some found → found.tok = none →
      Yields delim mem s last []
  | token {mem : Int → UInt8} {s last : Option Int} {passes : Nat} {found : Found} {tok : Int}
      {word : List UInt8} {words : List (List UInt8)} :
      kStrtokR passes mem s delim last = some found → found.tok = some tok →
      Holds found.mem tok word → Yields delim found.mem none found.last words →
      Yields delim mem s last (word :: words)

section Spans

variable {mem : Int → UInt8} {str set : Int} {text chars : List UInt8} {ends : Bool}

theorem length_gives (holds : Holds mem set chars) {passes : Nat} (enough : chars.length < passes) :
    after (lengthPass mem set) passes 0 = .inl chars.length := by
  have path : ∀ k, k < chars.length → lengthPass mem set (id k) = .inr (id (k + 1)) := by
    intro k inside
    have there := holds_getElem holds inside
    have nonzero := holds_nonzero holds _ (List.getElem_mem inside)
    simp only [id_eq, lengthPass, there, if_neg nonzero]
  have done : lengthPass mem set (id chars.length) = .inl chars.length := by
    simp only [id_eq, lengthPass, holds_end holds, if_true]
  exact after_path_done path done enough

theorem any_eq (holds : Holds mem set chars) (c : UInt8) :
    ((List.range chars.length).any fun i => c == mem (set + i)) = decide (c ∈ chars) := by
  rw [Bool.eq_iff_iff, List.any_eq_true, decide_eq_true_eq, List.mem_iff_getElem]
  simp only [List.mem_range, beq_iff_eq]
  constructor
  · rintro ⟨i, inside, same⟩
    exact ⟨i, inside, by rw [same, holds_getElem holds inside]⟩
  · rintro ⟨i, inside, same⟩
    exact ⟨i, inside, by rw [holds_getElem holds inside, same]⟩

/-- Both functions give 1 or go on for ever, by what the second character is. -/
theorem span_eq_iff (holds : Holds mem set chars) {r : Nat} :
    (∃ passes, span ends passes mem str set = some r) ↔
      r = 1 ∧ (mem (str + 1) = 0 ∨ decide (mem (str + 1) ∈ chars) = ends) := by
  have pass : ∀ span, spanPass ends mem str set chars.length span =
      if mem (str + 1) = 0 then .inl 1
      else if (span.matched || decide (mem (str + 1) ∈ chars)) = ends then .inl 1
      else .inr ⟨2, span.matched || decide (mem (str + 1) ∈ chars)⟩ := by
    intro span
    simp only [spanPass, Nat.cast_one, any_eq holds]
  have first : (∃ passes, span ends passes mem str set = some r) ↔
      Gives (spanPass ends mem str set chars.length) ⟨0, false⟩ r := by
    constructor
    · rintro ⟨passes, gives⟩
      rw [span] at gives
      cases measured : after (lengthPass mem set) passes 0 with
      | inr n =>
          rw [measured] at gives
          cases gives
      | inl n =>
          have length := after_unique measured (length_gives holds (Nat.lt_succ_self _))
          subst length
          simp only [measured] at gives
          cases ended : after (spanPass ends mem str set chars.length) passes ⟨0, false⟩ with
          | inr span =>
              rw [ended] at gives
              cases gives
          | inl result =>
              rw [ended] at gives
              cases gives
              exact ⟨passes, ended⟩
    · rintro ⟨n, ended⟩
      refine ⟨max n (chars.length + 1), ?_⟩
      have enough : chars.length < max n (chars.length + 1) :=
        Nat.lt_of_lt_of_le (Nat.lt_succ_self _) (Nat.le_max_right _ _)
      rw [span, length_gives holds enough]
      simp only [after_ended ended (Nat.le_max_left _ _)]
  rw [first]
  by_cases stops : mem (str + 1) = 0 ∨ decide (mem (str + 1) ∈ chars) = ends
  · have done : spanPass ends mem str set chars.length ⟨0, false⟩ = .inl 1 := by
      rw [pass, Bool.false_or]
      rcases stops with zero | same
      · rw [if_pos zero]
      · rw [if_pos same, ite_self]
    constructor
    · intro gives
      exact ⟨gives.unique (gives_done done), stops⟩
    · rintro ⟨rfl, -⟩
      exact gives_done done
  · rw [not_or] at stops
    -- After the first pass the flag is what the second character says for ever.
    have keep : ∀ span : Span,
        (span.matched || decide (mem (str + 1) ∈ chars)) = decide (mem (str + 1) ∈ chars) →
        ∃ later : Span, spanPass ends mem str set chars.length span = .inr later ∧
          (later.matched || decide (mem (str + 1) ∈ chars)) = decide (mem (str + 1) ∈ chars) := by
      intro span same
      refine ⟨⟨2, decide (mem (str + 1) ∈ chars)⟩, ?_, Bool.or_self _⟩
      rw [pass, if_neg stops.1, same, if_neg stops.2]
    have forever : ¬Ends (spanPass ends mem str set chars.length) ⟨0, false⟩ :=
      not_ends_of_invariant keep (Bool.false_or _)
    constructor
    · rintro ⟨n, ended⟩
      exact absurd ⟨n, r, ended⟩ forever
    · rintro ⟨-, zero | same⟩
      · exact absurd zero stops.1
      · exact absurd same stops.2

theorem measures_iff (strings : Strings) {good : UInt8 → Bool}
    (meaning : ∀ c, good c = false ↔ decide (c ∈ strings.chars) = ends) :
    Measures (span ends) strings good ↔ OneOnly strings.text good := by
  rw [Measures, span_eq_iff strings.holdsSet]
  have holds := strings.holds
  cases found : strings.text with
  | nil =>
      apply iff_of_false
      · rintro ⟨one, -⟩
        cases one
      · rintro ⟨c, -, nothing | ⟨d, rest, nothing, -⟩⟩
        · cases nothing
        · cases nothing
  | cons c rest =>
      rw [found] at holds
      by_cases first : good c = true
      · rw [List.takeWhile_cons_of_pos first, List.length_cons]
        cases rest with
        | nil =>
            have zero : strings.mem (strings.str + 1) = 0 := holds.2.2
            exact iff_of_true ⟨rfl, .inl zero⟩ ⟨c, first, .inl rfl⟩
        | cons d more =>
            rcases holds.2.2 with ⟨second, nonzero, -⟩
            rw [second, ← meaning]
            constructor
            · rintro ⟨-, zero | bad⟩
              · exact absurd zero nonzero
              · exact ⟨c, first, .inr ⟨d, more, rfl, bad⟩⟩
            · rintro ⟨c', -, single | ⟨d', more', twice, bad⟩⟩
              · cases single
              · cases twice
                rw [List.takeWhile_cons_of_neg (by rw [bad]; exact Bool.false_ne_true)]
                exact ⟨rfl, .inr bad⟩
      · rw [List.takeWhile_cons_of_neg first]
        apply iff_of_false
        · rintro ⟨one, -⟩
          cases one
        · rintro ⟨c', good, single | ⟨d', more', twice, -⟩⟩
          · cases single
            exact first good
          · cases twice
            exact first good

end Spans

section Tokens

variable {mem : Int → UInt8} {delim s tok : Int} {c : UInt8}
  {text lead word more chars rest : List UInt8}

/-- The scan of the set goes back to `cont` for a character of the set. -/
theorem skip_leads (holds : Holds mem s chars) (delim : Int) (c : UInt8) (p : Int) :
    Leads (strtokPass mem delim) (.skip c p s)
      (if c ∈ chars then .cont p else .skip c p (s + chars.length)) := by
  induction chars generalizing s with
  | nil =>
      rw [if_neg List.not_mem_nil, List.length_nil, Int.natCast_zero, Int.add_zero]
      exact .here
  | cons d rest ih =>
      rcases holds with ⟨here, nonzero, later⟩
      have pass : strtokPass mem delim (.skip c p s) =
          if c = d then .inr (.cont p) else .inr (.skip c p (s + 1)) := by
        simp only [strtokPass, here, if_pos nonzero]
      by_cases same : c = d
      · rw [if_pos same] at pass
        rw [if_pos (same ▸ List.mem_cons_self)]
        exact .next pass .here
      · rw [if_neg same] at pass
        have place : s + (rest.length + 1 : Nat) = s + 1 + rest.length := by omega
        simp only [List.mem_cons, same, false_or, List.length_cons, place]
        exact .next pass (ih later)

/-- The other scan comes to the first character of the set that is the same, or
    to its zero. -/
theorem scan_leads (holds : Holds mem s chars) (delim tok : Int) (c : UInt8) (p : Int) :
    ∃ q, Leads (strtokPass mem delim) (.scan tok c p s) (.scan tok c p q) ∧
      mem q = if c ∈ chars then c else 0 := by
  induction chars generalizing s with
  | nil => exact ⟨s, .here, holds⟩
  | cons d rest ih =>
      rcases holds with ⟨here, nonzero, later⟩
      by_cases same : d = c
      · rw [if_pos (same ▸ List.mem_cons_self)]
        exact ⟨s, .here, here.trans same⟩
      · have pass : strtokPass mem delim (.scan tok c p s) = .inr (.scan tok c p (s + 1)) := by
          simp only [strtokPass, here, if_neg same, if_pos nonzero]
        rcases ih later with ⟨q, leads, there⟩
        have other : ¬c = d := fun equal => same equal.symm
        simp only [List.mem_cons, other, false_or]
        exact ⟨q, .next pass leads, there⟩

variable (holdsSet : Holds mem delim chars)
include holdsSet

theorem cont_delimiter (delimits : mem s ∈ chars) :
    Leads (strtokPass mem delim) (.cont s) (.cont (s + 1)) := by
  have leads := skip_leads holdsSet delim (mem s) (s + 1)
  rw [if_pos delimits] at leads
  exact .next rfl leads

theorem cont_end (zero : mem s = 0) :
    Gives (strtokPass mem delim) (.cont s) ⟨none, mem, none⟩ := by
  have outside : mem s ∉ chars := by
    intro inside
    exact holds_nonzero holdsSet _ inside zero
  have leads := skip_leads holdsSet delim (mem s) (s + 1)
  rw [if_neg outside] at leads
  refine .next rfl (leads.gives (gives_done ?_))
  simp only [strtokPass, holds_end holdsSet, zero, ne_eq, not_true, if_false, if_true]

theorem cont_token (nonzero : mem s ≠ 0) (outside : mem s ∉ chars) :
    Leads (strtokPass mem delim) (.cont s) (.token s (s + 1)) := by
  have leads := skip_leads holdsSet delim (mem s) (s + 1)
  rw [if_neg outside] at leads
  refine .next rfl (leads.trans (.next ?_ .here))
  simp only [strtokPass, holds_end holdsSet, ne_eq, not_true, if_false, if_neg nonzero,
    Int.add_sub_cancel]

theorem token_goes_on (nonzero : mem s ≠ 0) (outside : mem s ∉ chars) :
    Leads (strtokPass mem delim) (.token tok s) (.token tok (s + 1)) := by
  rcases scan_leads holdsSet delim tok (mem s) (s + 1) with ⟨q, leads, there⟩
  rw [if_neg outside] at there
  refine .next rfl (leads.trans (.next ?_ .here))
  have apart : ¬0 = mem s := fun zero => nonzero zero.symm
  simp only [strtokPass, there, if_neg apart, ne_eq, not_true, if_false]

theorem token_end (zero : mem s = 0) :
    Gives (strtokPass mem delim) (.token tok s) ⟨some tok, mem, none⟩ := by
  rcases scan_leads holdsSet delim tok (mem s) (s + 1) with ⟨q, leads, there⟩
  rw [zero, ite_self] at there
  refine .next rfl (leads.gives (gives_done ?_))
  simp only [strtokPass, there, zero, if_true]

theorem token_delimiter (delimits : mem s ∈ chars) :
    Gives (strtokPass mem delim) (.token tok s) ⟨some tok, update mem s 0, some (s + 1)⟩ := by
  have nonzero := holds_nonzero holdsSet _ delimits
  rcases scan_leads holdsSet delim tok (mem s) (s + 1) with ⟨q, leads, there⟩
  rw [if_pos delimits] at there
  refine .next rfl (leads.gives (gives_done ?_))
  simp only [strtokPass, there, if_true, if_neg nonzero, Int.add_sub_cancel]

theorem cont_lead (holds : Holds mem s (lead ++ text)) (delimit : ∀ c ∈ lead, c ∈ chars) :
    Leads (strtokPass mem delim) (.cont s) (.cont (s + lead.length)) := by
  induction lead generalizing s with
  | nil =>
      rw [List.length_nil, Int.natCast_zero, Int.add_zero]
      exact .here
  | cons d lead ih =>
      rcases holds with ⟨here, -, later⟩
      have first := cont_delimiter holdsSet (here ▸ delimit d List.mem_cons_self)
      have place : s + (lead.length + 1 : Nat) = s + 1 + lead.length := by omega
      rw [List.length_cons, place]
      exact first.trans (ih later fun c inside => delimit c (List.mem_cons_of_mem d inside))

theorem token_word (holds : Holds mem s (word ++ text)) (free : ∀ c ∈ word, c ∉ chars) :
    Leads (strtokPass mem delim) (.token tok s) (.token tok (s + word.length)) := by
  induction word generalizing s with
  | nil =>
      rw [List.length_nil, Int.natCast_zero, Int.add_zero]
      exact .here
  | cons d word ih =>
      rcases holds with ⟨here, nonzero, later⟩
      have outside : mem s ∉ chars := here ▸ free d List.mem_cons_self
      have first : Leads (strtokPass mem delim) (.token tok s) (.token tok (s + 1)) :=
        token_goes_on holdsSet (here ▸ nonzero) outside
      have place : s + (word.length + 1 : Nat) = s + 1 + word.length := by omega
      rw [List.length_cons, place]
      exact first.trans (ih later fun c inside => free c (List.mem_cons_of_mem d inside))

theorem cont_word (holds : Holds mem s (lead ++ (word ++ text)))
    (delimit : ∀ c ∈ lead, c ∈ chars) (nonempty : word ≠ []) (free : ∀ c ∈ word, c ∉ chars) :
    Leads (strtokPass mem delim) (.cont s)
      (.token (s + lead.length) (s + lead.length + word.length)) := by
  have start := cont_lead holdsSet holds delimit
  have behind := (holds_append.mp holds).2.2
  cases word with
  | nil => exact absurd rfl nonempty
  | cons d word =>
      rcases behind with ⟨here, nonzero, later⟩
      have outside : mem (s + lead.length) ∉ chars := here ▸ free d List.mem_cons_self
      have first := cont_token holdsSet (here ▸ nonzero) outside
      have place : s + lead.length + (word.length + 1 : Nat) =
          s + lead.length + 1 + word.length := by
        omega
      rw [List.length_cons, place]
      exact start.trans (first.trans (token_word holdsSet later
        fun c inside => free c (List.mem_cons_of_mem d inside)))

end Tokens

section Calls

variable {mem : Int → UInt8} {s : Int} {start : Option Int} {delim : Int} {last : Option Int}
  {text chars : List UInt8} {found : Found}

theorem kStrtokR_eq_iff (there : start.or last = some s) :
    (∃ passes, kStrtokR passes mem start delim last = some found) ↔
      Gives (strtokPass mem delim) (.cont s) found := by
  constructor
  · rintro ⟨passes, gives⟩
    rw [kStrtokR, there] at gives
    cases ended : after (strtokPass mem delim) passes (.cont s) with
    | inr point =>
        simp only [ended] at gives
        cases gives
    | inl result =>
        simp only [ended] at gives
        cases gives
        exact ⟨passes, ended⟩
  · rintro ⟨passes, ended⟩
    refine ⟨passes, ?_⟩
    rw [kStrtokR, there]
    simp only [ended]

theorem kStrtokR_unique {passes later : Nat} {other : Found}
    (one : kStrtokR passes mem start delim last = some found)
    (two : kStrtokR later mem start delim last = some other) : found = other := by
  cases there : start.or last with
  | none =>
      rw [kStrtokR, there] at one two
      exact Option.some.inj (one.symm.trans two)
  | some s =>
      have first := (kStrtokR_eq_iff there).mp ⟨passes, one⟩
      exact first.unique ((kStrtokR_eq_iff there).mp ⟨later, two⟩)

theorem Yields.unique {words others : List (List UInt8)}
    (yields : Yields delim mem start last words)
    (again : Yields delim mem start last others) : words = others := by
  induction yields generalizing others with
  | null one none =>
      cases again with
      | null => rfl
      | token two some =>
          rw [kStrtokR_unique one two, some] at none
          cases none
  | token one some holds later ih =>
      cases again with
      | null two none =>
          rw [kStrtokR_unique two one, some] at none
          cases none
      | token two other holds' later' =>
          have same := kStrtokR_unique one two
          subst same
          rw [some] at other
          cases other
          rw [holds_unique holds holds', ih later']

theorem yields_pieces (n : Nat) (short : text.length ≤ n) (there : start.or last = some s)
    (holds : Holds mem s text) (holdsSet : Holds mem delim chars)
    (apart : delim + chars.length < s ∨ s + text.length < delim) :
    Yields delim mem start last (pieces (fun c => decide (c ∈ chars)) text) := by
  induction n generalizing mem s start last text with
  | zero =>
      have empty := List.length_eq_zero_iff.mp (Nat.le_zero.mp short)
      subst empty
      rcases (kStrtokR_eq_iff there).mpr (cont_end holdsSet holds) with ⟨passes, gives⟩
      rw [pieces_nil]
      exact .null gives rfl
  | succ n ih =>
      rcases pieces_cases (fun c => decide (c ∈ chars)) text with
        ⟨delimit, nothing⟩ | ⟨lead, word, delimit, nonempty, free, whole⟩
      · simp only [decide_eq_true_eq] at delimit
        have whole : Holds mem s (text ++ []) := by rwa [List.append_nil]
        have leads := cont_lead holdsSet whole delimit
        have gives := leads.gives (cont_end holdsSet (holds_end holds))
        rcases (kStrtokR_eq_iff there).mpr gives with ⟨passes, gives⟩
        rw [nothing]
        exact .null gives rfl
      · simp only [decide_eq_true_eq, decide_eq_false_iff_not] at delimit free
        rcases whole with ⟨rfl, only⟩ | ⟨d, more, delimits, rfl, first⟩
        · -- The token ends with the string.
          have whole : Holds mem s (lead ++ (word ++ [])) := by rwa [List.append_nil]
          have leads := cont_word holdsSet whole delimit nonempty free
          have behind := (holds_append.mp holds).2.2
          have gives := leads.gives (token_end holdsSet (holds_end behind))
          rcases (kStrtokR_eq_iff there).mpr gives with ⟨passes, gives⟩
          rw [only]
          have nothing : kStrtokR 0 mem none delim none = .some ⟨none, mem, none⟩ := rfl
          exact .token gives rfl behind (.null nothing rfl)
        · -- The token ends with a delimiter, where a zero is put.
          have leads := cont_word holdsSet holds delimit nonempty free
          have behind := (holds_append.mp holds).2.2
          have rest := (holds_append.mp behind).2.2
          have ends : mem (s + lead.length + word.length) ∈ chars := by
            rw [rest.1]
            exact of_decide_eq_true delimits
          have gives := leads.gives (token_delimiter holdsSet ends)
          rcases (kStrtokR_eq_iff there).mpr gives with ⟨passes, gives⟩
          simp only [List.length_append, List.length_cons] at short apart
          rw [first]
          refine .token gives rfl (holds_cut behind) (ih (s := s + lead.length + word.length + 1)
            (by omega) rfl ?_ ?_ (by omega))
          · refine holds_congr (fun k low _ => ?_) rest.2.2
            exact update_of_ne (by omega) _ _
          · refine holds_congr (fun k low high => ?_) holdsSet
            exact update_of_ne (by omega) _ _

end Calls

/-- `strcspn` and `strspn` end with the right length if and only if this is 1;
    the tokens of `k_strtok_r`, which scans by itself, are the pieces of the
    string between the delimiters. -/
theorem spans_and_tokens (strings : Strings) (separate : Apart) :
    (Measures strcspn strings (fun c => decide (c ∉ strings.chars)) ↔
      OneOnly strings.text fun c => decide (c ∉ strings.chars)) ∧
    (Measures strspn strings (fun c => decide (c ∈ strings.chars)) ↔
      OneOnly strings.text fun c => decide (c ∈ strings.chars)) ∧
    (Measures rtlStrcspn strings (fun c => decide (c ∉ strings.chars)) ↔
      OneOnly strings.text fun c => decide (c ∉ strings.chars)) ∧
    (Measures rtlStrspn strings (fun c => decide (c ∈ strings.chars)) ↔
      OneOnly strings.text fun c => decide (c ∈ strings.chars)) ∧
    ∀ (last : Option Int) (words : List (List UInt8)),
      Yields separate.set separate.mem (some separate.str) last words ↔
        words = pieces (fun c => decide (c ∈ separate.chars)) separate.text := by
  have reject : Measures (span true) strings (fun c => decide (c ∉ strings.chars)) ↔
      OneOnly strings.text fun c => decide (c ∉ strings.chars) := by
    apply measures_iff
    simp
  have accept : Measures (span false) strings (fun c => decide (c ∈ strings.chars)) ↔
      OneOnly strings.text fun c => decide (c ∈ strings.chars) := by
    apply measures_iff
    simp
  refine ⟨reject, accept, reject, accept, fun last words => ?_⟩
  -- The calls yield the pieces, and calls yield one list only.
  have yields : Yields separate.set separate.mem (some separate.str) last
      (pieces (fun c => decide (c ∈ separate.chars)) separate.text) :=
    yields_pieces _ (Nat.le_refl _) rfl separate.holds separate.holdsSet separate.apart
  constructor
  · exact fun others => others.unique yields
  · rintro rfl
    exact yields

/-- The string "abc" and the set "x". -/
def letters : Strings where
  mem := fun i => ([97, 98, 99, 0, 120, 0] : List UInt8).getD i.toNat 0
  str := 0
  text := [97, 98, 99]
  set := 4
  chars := [120]
  holds := ⟨rfl, by decide, rfl, by decide, rfl, by decide, rfl⟩
  holdsSet := ⟨rfl, by decide, rfl⟩

/-- The set lies behind the string. -/
def lettersApart : Apart where
  toStrings := letters
  apart := Or.inr (by decide)

/-- The first token of "abc" for the set "x" is all of it. -/
theorem abc_one_token : Yields lettersApart.set lettersApart.mem (some lettersApart.str) none
    [[97, 98, 99]] :=
  ((spans_and_tokens letters lettersApart).2.2.2.2 none [[97, 98, 99]]).mpr (by decide)

/-- On "abc" the first function does not end for the set "x", nor the second for
    the set "abc". -/
theorem abc_never_ends :
    (¬∃ passes r, strcspn passes letters.mem letters.str letters.set = some r) ∧
      ¬∃ passes r, strspn passes letters.mem letters.str letters.str = some r := by
  have second : letters.mem (letters.str + 1) = 98 := rfl
  constructor
  · rintro ⟨passes, r, gives⟩
    rcases (span_eq_iff letters.holdsSet).mp ⟨passes, gives⟩ with ⟨-, zero | inside⟩
    · rw [second] at zero
      exact absurd zero (by decide)
    · rw [second] at inside
      exact absurd inside (by decide)
  · rintro ⟨passes, r, gives⟩
    rcases (span_eq_iff letters.holds).mp ⟨passes, gives⟩ with ⟨-, zero | outside⟩
    · rw [second] at zero
      exact absurd zero (by decide)
    · rw [second] at outside
      exact absurd outside (by decide)

end Gramado.Libk.Kstring
