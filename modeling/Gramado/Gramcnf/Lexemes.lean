/-
The words of gramcnf as lexer.c describes them: blanks and comments, lexemes as
long as they can be, and what no lexeme begins with. `yylex` reads every file
that way and no other; where the file breaks off, it says how.
-/
import Gramado.Gramcnf.Lexer
import Mathlib.Data.List.Infix
import Mathlib.Data.List.Induction
import Mathlib.Data.Finset.Max

namespace Gramado.Gramcnf.Lexemes

open Gramado.Gramcnf.Lexer
open Gramado.Lib.Loop
open Gramado.Rtl.Ctype
open Gramado.Rtl.Stdio (Piece given)

/-- The character that comes next, which is EOF behind the file. -/
def head (input : Stream) : Int := (getc input).1

/-- A comment that is open: no end of it, and no end of the file. -/
def Open (body : Stream) : Prop :=
  ¬[int '*', int '/'] <:+: body ∧ eof ∉ body ∧ 0 ∉ body

/-- What stands between two lexemes, and the lines that end in it. -/
inductive Blank : Stream → Nat → Prop where
  | nothing : Blank [] 0
  | space (c : Int) (w : Stream) (n : Nat) (white : c ∈ spaces) (later : Blank w n) :
      Blank (c :: w) n
  | newline (w : Stream) (n : Nat) (later : Blank w n) : Blank (int '\n' :: w) (n + 1)
  | line (body w : Stream) (n : Nat) (single : int '\n' ∉ body) (later : Blank w n) :
      Blank (int '/' :: int '/' :: body ++ int '\n' :: w) (n + 1)
  | comment (body w : Stream) (n : Nat) (inside : Open (body ++ [int '*'])) (later : Blank w n) :
      Blank (int '/' :: int '*' :: body ++ int '*' :: int '/' :: w) (body.count (int '\n') + n)

inductive Lexeme where
  | word (first : Int) (more : List Int)
  | hexadecimal (x : Int) (digits : List Int)
  | decimal (first : Int) (more : List Int)
  | string (body : List Int)
  | separator (c : Int)
  | operator (c : Int) (tail : List Int)
  | char (c : Int)

/-- The operators that can stand twice. -/
def twice : List Int :=
  ['+', '-', '&', '|', '<', '>'].map int

/-- How an operator goes on behind its first character. -/
def tails (c : Int) : List (List Int) :=
  [[], [int '=']] ++
    (if c ∈ twice then [[c]] else []) ++
    (if c = int '-' then [[int '>']] else []) ++
    (if c = int '<' ∨ c = int '>' then [[c, int '=']] else [])

/-- A character that begins nothing else. -/
structure Single (c : Int) : Prop where
  text : c ≠ eof ∧ c ≠ 0 ∧ c ≠ TK_EOF
  visible : c ∉ spaces ∧ c ≠ int '\n'
  word : beginsWord c = false
  digit : isdigit c = false
  quote : c ≠ int '\"'
  mark : c ∉ separators ∧ c ∉ operators

namespace Lexeme

def spelling : Lexeme → Stream
  | .word first more => first :: more
  | .hexadecimal x digits => int '0' :: x :: digits
  | .decimal first more => first :: more
  | .string body => int '\"' :: body ++ [int '\"']
  | .separator c => [c]
  | .operator c tail => c :: tail
  | .char c => [c]

/-- With the 0 behind it, the lexeme fits into the buffer. -/
def Valid : Lexeme → Prop
  | .word first more => beginsWord first ∧ (∀ c ∈ more, inWord c) ∧ more.length < 255
  | .hexadecimal x digits =>
      (x = int 'x' ∨ x = int 'X') ∧ (∀ c ∈ digits, isxdigit c) ∧ digits.length < 254
  | .decimal first more =>
      first ≠ int '0' ∧ isdigit first ∧ (∀ c ∈ more, isdigit c) ∧ more.length < 255
  | .string body => int '\"' ∉ body ∧ body.length < 256
  | .separator c => c ∈ separators
  | .operator c tail => c ∈ operators ∧ tail ∈ tails c
  | .char c => Single c

/-- The lexeme is no part of a longer one, nor the beginning of a comment. -/
def Longest (rest : Stream) : Lexeme → Prop
  | .word _ _ => ¬inWord (head rest)
  | .hexadecimal _ _ => ¬isxdigit (head rest)
  | .decimal _ _ => ¬isdigit (head rest)
  | .operator c tail =>
      tail ++ [head rest] ∉ tails c ∧
        (c = int '/' → tail = [] → head rest ≠ int '/' ∧ head rest ≠ int '*')
  | _ => True

/-- How often the character behind it is put back. -/
def putBack : Lexeme → Nat
  | .word _ _ => 1
  | .hexadecimal _ _ => 1
  | .decimal _ _ => 1
  | .operator c tail =>
      if tail = [] then
        if c = int '/' then 2 else 1
      else if tail = [int '<'] ∨ (tail = [int '>'] ∧ c = int '>') then 1
      else 0
  | _ => 0

end Lexeme

/-- A character that is put back, and one at the end of the file, is not there twice. -/
def reread : Stream → Stream
  | [] => []
  | c :: rest => ungetc c rest

def Lexeme.after (l : Lexeme) (rest : Stream) : Stream :=
  reread^[l.putBack] rest

/-- The token of an operator, and `lexer_expression`. -/
def operatorToken (c : Int) (old : LexerCode) (tail : List Int) : Int × LexerCode :=
  if tail = [] then
    (if c = int '<' ∨ c = int '>' then TK_ARITHCOMPARE else c, expressionOf c old)
  else if tail = [int '='] then
    assigned c (expressionOf c old)
  else if tail = [int '>'] ∧ c = int '-' then
    (TK_POINTSAT, expressionOf c old)
  else if tail = [c] then
    let value := (doubled c).getD c
    (value, expressionOf value (expressionOf c old))
  else
    (TK_ASSIGN, expressionOf ((doubled c).getD c) (expressionOf c old))

/-- What `yylex` makes of a lexeme. -/
def Lexeme.read (g : Globals) : Lexeme → Int × Globals
  | .word first more => g.word (first :: more)
  | .hexadecimal x digits => g.constant 16 (int '0' :: x :: digits)
  | .decimal first more => g.constant 10 (first :: more)
  | .string body => g.string body
  | .separator c => g.separator c
  | .operator c tail =>
      let (value, code) := operatorToken c g.lexerExpression tail
      (value, { g with lexerExpression := code }.count)
  | .char c => (c, g.count)

/-- The first so many characters go on, those behind the end of the file too. -/
def Long (goes : Int → Bool) (room : Nat) (input : Stream) : Prop :=
  ∀ k < room, goes (input.getD k eof)

/-- What is no token. -/
inductive Broken : Stream → Stop → Prop where
  | line (body : Stream) (single : int '\n' ∉ body) : Broken (int '/' :: int '/' :: body) .hangs
  | comment (body rest : Stream) (inside : Open body) (breaks : head rest = eof ∨ head rest = 0) :
      Broken (int '/' :: int '*' :: body ++ rest) .reported
  | zero (rest : Stream) (decimal : head rest ≠ int 'x' ∧ head rest ≠ int 'X') :
      Broken (int '0' :: rest) .reported
  | hexadecimal (x : Int) (rest : Stream) (base : x = int 'x' ∨ x = int 'X')
      (long : Long isxdigit 254 rest) : Broken (int '0' :: x :: rest) .outside
  | decimal (first : Int) (rest : Stream) (digit : isdigit first) (nonzero : first ≠ int '0')
      (long : Long isdigit 255 rest) : Broken (first :: rest) .outside
  | word (first : Int) (rest : Stream) (letter : beginsWord first) (long : Long inWord 255 rest) :
      Broken (first :: rest) .outside
  | string (rest : Stream) (long : Long (· ≠ int '\"') 256 rest) :
      Broken (int '\"' :: rest) .outside

/-- How a text ends: with the file or a 0, with a byte that is TK_EOF, or broken. -/
inductive Finish where
  | file (lines : Nat)
  | one (lines : Nat)
  | broken (stop : Stop)

/-- The lexemes of a text, with the lines that end before each of them. -/
inductive Splits : Stream → List (Nat × Lexeme) → Finish → Prop where
  | file (w : Stream) (n : Nat) (rest : Stream) (blank : Blank w n)
      (ends : head rest = eof ∨ head rest = 0) : Splits (w ++ rest) [] (.file n)
  | one (w : Stream) (n : Nat) (rest : Stream) (blank : Blank w n) :
      Splits (w ++ TK_EOF :: rest) [] (.one n)
  | broken (w : Stream) (n : Nat) (rest : Stream) (stop : Stop) (blank : Blank w n)
      (broken : Broken rest stop) : Splits (w ++ rest) [] (.broken stop)
  | next (w : Stream) (n : Nat) (l : Lexeme) (rest : Stream) (blank : Blank w n) (valid : l.Valid)
      (longest : l.Longest rest) (later : List (Nat × Lexeme)) (finish : Finish)
      (splits : Splits (l.after rest) later finish) :
      Splits (w ++ (l.spelling ++ rest)) ((n, l) :: later) finish

def Globals.lines (g : Globals) (n : Nat) : Globals :=
  { g with currentLine := g.currentLine + n }

def tell (g : Globals) : List (Nat × Lexeme) → Finish → List Token × Ending
  | [], .file n =>
      let g := Globals.lines g n
      ([], .ok ⟨TK_EOF, { g with eofno := g.eofno + 1, lexerLastline := g.currentLine }.count⟩)
  | [], .one n => ([], .ok ⟨TK_EOF, (Globals.lines g n).count⟩)
  | [], .broken stop => ([], .error stop)
  | (n, l) :: later, finish =>
      let (value, g) := l.read (Globals.lines g n)
      let (tokens, ending) := tell g later finish
      (⟨value, g⟩ :: tokens, ending)

section Blanks

variable {body w rest : Stream} {n line : Nat} {star : Bool}

theorem int_eq (c : Char) : int c = c.toNat := rfl

theorem spaces_eq : spaces = [32, 9, 12, 13, 8] := rfl

theorem separators_eq : separators = [40, 41, 123, 125, 91, 93, 44, 46, 59, 58, 63] := rfl

theorem operators_eq : operators = [43, 45, 42, 47, 60, 62, 38, 124, 37, 94, 33, 61] := rfl

theorem skip_line (single : int '\n' ∉ body) :
    skipWhiteSpace .line line (body ++ int '\n' :: w) = skipWhiteSpace .blank (line + 1) w := by
  induction body with
  | nil => simp [skipWhiteSpace]
  | cons c body ih =>
      rw [List.mem_cons, not_or] at single
      rw [List.cons_append, skipWhiteSpace, if_neg (Ne.symm single.1), ih single.2]

theorem skip_line_hangs (single : int '\n' ∉ body) :
    skipWhiteSpace .line line body = .error .hangs := by
  induction body with
  | nil => rfl
  | cons c body ih =>
      rw [List.mem_cons, not_or] at single
      rw [skipWhiteSpace, if_neg (Ne.symm single.1), ih single.2]

/-- A comment that a star may have come before. -/
def Behind (star : Bool) (body : Stream) : Prop :=
  Open (if star then int '*' :: body else body)

theorem behind_open (inside : Behind star body) : Open body := by
  cases star with
  | false => exact inside
  | true =>
      refine ⟨fun closed => inside.1 (closed.trans (List.suffix_cons _ _).isInfix), ?_, ?_⟩
      · exact fun there => inside.2.1 (List.mem_cons_of_mem _ there)
      · exact fun there => inside.2.2 (List.mem_cons_of_mem _ there)

theorem behind_star (inside : Behind star (int '*' :: body)) : Behind true body :=
  behind_open inside

theorem behind_other {c : Int} (inside : Behind star (c :: body)) :
    Behind false body := by
  have later := behind_open inside
  refine ⟨fun closed => later.1 (closed.trans (List.suffix_cons _ _).isInfix), ?_, ?_⟩
  · exact fun there => later.2.1 (List.mem_cons_of_mem _ there)
  · exact fun there => later.2.2 (List.mem_cons_of_mem _ there)

theorem behind_slash (inside : Behind star (int '/' :: body)) : star = false := by
  cases star with
  | false => rfl
  | true =>
      exfalso
      exact inside.1 (List.prefix_append [int '*', int '/'] body).isInfix

theorem behind_text {c : Int} (inside : Behind star (c :: body)) : ¬(c = eof ∨ c = 0) := by
  have later := behind_open inside
  rintro (same | same)
  · exact later.2.1 (same ▸ List.mem_cons_self)
  · exact later.2.2 (same ▸ List.mem_cons_self)

theorem skip_inside {c : Int} (inside : Behind star (c :: body)) :
    ∃ after, Behind after body ∧ ∀ line rest, skipWhiteSpace (.comment star) line (c :: rest) =
      skipWhiteSpace (.comment after) (line + [c].count (int '\n')) rest := by
  by_cases again : c = int '*'
  · subst again
    exact ⟨true, behind_star inside, fun line rest => by
      rw [skipWhiteSpace, if_pos rfl]
      rfl⟩
  · have going : ¬(star ∧ c = int '/') := by
      rintro ⟨starred, slash⟩
      subst slash
      rw [behind_slash inside] at starred
      cases starred
    refine ⟨false, behind_other inside, fun line rest => ?_⟩
    rw [skipWhiteSpace, if_neg again, if_neg going]
    by_cases ends : c = int '\n'
    · subst ends
      rw [if_pos rfl]
      rfl
    · rw [if_neg ends, if_neg (behind_text inside), List.count_singleton, if_neg]
      · rfl
      · simpa using ends

theorem skip_comment (inside : Behind star (body ++ [int '*'])) :
    skipWhiteSpace (.comment star) line (body ++ int '*' :: int '/' :: w) =
      skipWhiteSpace .blank (line + body.count (int '\n')) w := by
  induction body generalizing star line with
  | nil =>
      rw [List.nil_append, skipWhiteSpace, if_pos rfl, skipWhiteSpace, if_neg (by decide),
        if_pos ⟨rfl, rfl⟩]
      rfl
  | cons c body ih =>
      rcases skip_inside inside with ⟨after, later, steps⟩
      have sum : (c :: body).count (int '\n') = [c].count (int '\n') + body.count (int '\n') :=
        @List.count_append Int _ (int '\n') [c] body
      rw [List.cons_append, steps, ih later, sum, Nat.add_assoc]

theorem skip_comment_breaks (inside : Behind star body) (breaks : head rest = eof ∨ head rest = 0) :
    skipWhiteSpace (.comment star) line (body ++ rest) = .error .reported := by
  induction body generalizing star line with
  | nil =>
      cases rest with
      | nil => rfl
      | cons c rest =>
          have strange : c = eof ∨ c = 0 := breaks
          have text : c ≠ int '*' ∧ c ≠ int '/' ∧ c ≠ int '\n' := by
            rcases strange with rfl | rfl <;> decide
          rw [List.nil_append, skipWhiteSpace, if_neg text.1, if_neg fun both => text.2.1 both.2,
            if_neg text.2.2, if_pos strange]
  | cons c body ih =>
      rcases skip_inside inside with ⟨after, later, steps⟩
      rw [List.cons_append, steps, ih later]

theorem skip_space {c : Int} (white : c ∈ spaces) :
    skipWhiteSpace .blank line (c :: rest) = skipWhiteSpace .blank line rest := by
  rw [skipWhiteSpace.eq_def]
  exact if_pos white

theorem skip_newline :
    skipWhiteSpace .blank line (int '\n' :: rest) = skipWhiteSpace .blank (line + 1) rest := by
  rw [skipWhiteSpace.eq_def]
  exact (if_neg (by decide)).trans (if_pos rfl)

theorem skip_pair {d : Int} :
    skipWhiteSpace .blank line (int '/' :: d :: rest) =
      if d = int '/' then skipWhiteSpace .line line rest
      else if d = int '*' then skipWhiteSpace (.comment false) line rest
      else .ok (int '/', line, ungetc d rest) := by
  rw [skipWhiteSpace.eq_def]
  exact (if_neg (by decide)).trans ((if_neg (by decide)).trans (if_pos rfl))

theorem skip_blank (blank : Blank w n) :
    skipWhiteSpace .blank line (w ++ rest) = skipWhiteSpace .blank (line + n) rest := by
  induction blank generalizing line with
  | nothing => rfl
  | space c w n white later ih => rw [List.cons_append, skip_space white, ih]
  | newline w n later ih =>
      rw [List.cons_append, skip_newline, ih, Nat.add_right_comm]
      rfl
  | line body w n single later ih =>
      rw [List.append_assoc, List.cons_append, List.cons_append, List.cons_append, skip_pair,
        if_pos rfl, skip_line single, ih, Nat.add_right_comm]
      rfl
  | comment body w n inside later ih =>
      have behind : Behind false (body ++ [int '*']) := inside
      rw [List.append_assoc, List.cons_append, List.cons_append, List.cons_append, List.cons_append,
        skip_pair, if_neg (by decide), if_pos rfl, skip_comment behind, ih, Nat.add_assoc]

theorem skip_stop {c : Int} (visible : c ∉ spaces ∧ c ≠ int '\n') (slash : c ≠ int '/') :
    skipWhiteSpace .blank line (c :: rest) = .ok (c, line, rest) := by
  rw [skipWhiteSpace.eq_def]
  exact (if_neg visible.1).trans ((if_neg visible.2).trans (if_neg slash))

theorem skip_slash (division : head rest ≠ int '/' ∧ head rest ≠ int '*') :
    skipWhiteSpace .blank line (int '/' :: rest) = .ok (int '/', line, reread rest) := by
  cases rest with
  | nil => rfl
  | cons d more =>
      have first : d ≠ int '/' ∧ d ≠ int '*' := division
      rw [skip_pair, if_neg first.1, if_neg first.2]
      rfl

end Blanks

section Collecting

variable {goes : Int → Bool} {room : Nat} {input rest : Stream} {cs : List Int}

theorem collect_run (run : ∀ c ∈ cs, goes c) (fits : cs.length < room) (ends : ¬goes (head rest)) :
    collect goes room (cs ++ rest) = .ok (cs, getc rest) := by
  induction cs generalizing room with
  | nil =>
      cases room with
      | zero => cases fits
      | succ room => exact if_neg ends
  | cons c cs ih =>
      cases room with
      | zero => cases fits
      | succ room =>
          have later := ih (fun d there => run d (List.mem_cons_of_mem c there))
            (Nat.lt_of_succ_lt_succ fits)
          have first : goes c := run c List.mem_cons_self
          rw [List.cons_append, collect]
          simp only [getc, first, if_true]
          rw [later]
          rfl

theorem long_succ (long : Long goes (room + 1) input) :
    goes (head input) ∧ Long goes room (getc input).2 := by
  cases input with
  | nil => exact ⟨long 0 (Nat.succ_pos room), fun k low => long (k + 1) (Nat.succ_lt_succ low)⟩
  | cons c rest =>
    exact ⟨long 0 (Nat.succ_pos room), fun k low => long (k + 1) (Nat.succ_lt_succ low)⟩

theorem long_cons (first : goes (head input)) (later : Long goes room (getc input).2) :
    Long goes (room + 1) input := by
  intro k low
  cases input with
  | nil =>
      cases k with
      | zero => exact first
      | succ k => exact later k (Nat.lt_of_succ_lt_succ low)
  | cons c rest =>
      cases k with
      | zero => exact first
      | succ k => exact later k (Nat.lt_of_succ_lt_succ low)

theorem collect_long (long : Long goes room input) : collect goes room input = .error .outside := by
  induction room generalizing input with
  | zero => rfl
  | succ room ih =>
      rcases long_succ long with ⟨first, later⟩
      have going : goes (getc input).1 := first
      rw [collect]
      simp only [going, if_true]
      rw [ih later]
      rfl

theorem run_cases (goes : Int → Bool) (room : Nat) (input : Stream) :
    (∃ cs rest, input = cs ++ rest ∧ (∀ c ∈ cs, goes c) ∧ cs.length < room ∧ ¬goes (head rest)) ∨
      Long goes room input := by
  induction room generalizing input with
  | zero => exact .inr fun k low => absurd low (Nat.not_lt_zero k)
  | succ room ih =>
      by_cases first : goes (head input)
      · rcases ih (getc input).2 with ⟨cs, rest, split, run, fits, ends⟩ | long
        · cases input with
          | nil =>
              -- The end of the file goes on, and so does all that is behind it.
              have empty : cs = [] ∧ rest = [] := by simpa [getc] using split.symm
              rcases empty with ⟨rfl, rfl⟩
              exact absurd first ends
          | cons c more =>
              have same : more = cs ++ rest := split
              refine .inl ⟨c :: cs, rest, by rw [same, List.cons_append], ?_,
                Nat.succ_lt_succ fits, ends⟩
              exact List.forall_mem_cons.mpr ⟨first, run⟩
        · exact .inr (long_cons first long)
      · exact .inl ⟨[], input, rfl, fun c there => absurd there List.not_mem_nil,
          Nat.succ_pos room, first⟩

end Collecting

section Characters

variable {c : Int}

theorem word_range (letter : beginsWord c) : (65 ≤ c ∧ c ≤ 90) ∨ (97 ≤ c ∧ c ≤ 122) ∨ c = 95 := by
  simp only [beginsWord, Bool.or_eq_true, Bool.and_eq_true, decide_eq_true_eq] at letter
  exact or_assoc.mp letter

theorem digit_range (digit : isdigit c) : 48 ≤ c ∧ c ≤ 57 := by
  simp only [isdigit, Bool.and_eq_true, decide_eq_true_eq] at digit
  exact digit

theorem not_word (below : c < 65 ∨ 122 < c) : beginsWord c = false := by
  cases letter : beginsWord c with
  | false => rfl
  | true =>
      have := word_range letter
      omega

theorem not_digit (outside : c < 48 ∨ 57 < c) : isdigit c = false := by
  cases digit : isdigit c with
  | false => rfl
  | true =>
      have := digit_range digit
      omega

/-- What a word or a number begins with is no blank and ends nothing. -/
theorem significant (range : 48 ≤ c) : (c ∉ spaces ∧ c ≠ int '\n') ∧ c ≠ int '/' ∧
    ¬(c = eof ∨ c = 0) := by
  simp only [spaces_eq, int_eq, eof, List.mem_cons, List.not_mem_nil, or_false]
  refine ⟨⟨?_, ?_⟩, ?_, ?_⟩
  · omega
  · exact fun same => absurd (same ▸ range) (by decide)
  · exact fun same => absurd (same ▸ range) (by decide)
  · omega

theorem mark_range (mark : c ∈ separators ∨ c ∈ operators) :
    (c < 65 ∨ 122 < c ∨ c = 91 ∨ c = 93 ∨ c = 94) ∧ (c < 48 ∨ 57 < c) ∧ 32 < c ∧ c ≠ 34 := by
  rw [separators_eq, operators_eq] at mark
  simp only [List.mem_cons, List.not_mem_nil, or_false] at mark
  omega

theorem separator_operator (there : c ∈ separators) : c ∉ operators := by
  rw [separators_eq] at there
  rw [operators_eq]
  simp only [List.mem_cons, List.not_mem_nil, or_false] at there ⊢
  omega

/-- A separator or an operator comes to its own case of the switch. -/
structure Mark (c : Int) : Prop where
  text : ¬(c = eof ∨ c = 0)
  visible : c ∉ spaces ∧ c ≠ int '\n'
  word : ¬beginsWord c
  zero : c ≠ int '0'
  digit : ¬isdigit c
  quote : c ≠ int '\"'
  one : c ≠ TK_EOF

theorem mark_of_mem (mark : c ∈ separators ∨ c ∈ operators) : Mark c := by
  have range := mark_range mark
  have newline : int '\n' = 10 := rfl
  have zero : int '0' = 48 := rfl
  have quote : int '\"' = 34 := rfl
  refine ⟨?_, ⟨?_, ?_⟩, ?_, ?_, ?_, ?_, ?_⟩
  · rw [eof]
    omega
  · rw [spaces_eq]
    simp only [List.mem_cons, List.not_mem_nil, or_false]
    omega
  · omega
  · intro letter
    have := word_range letter
    omega
  · omega
  · intro digit
    have := digit_range digit
    omega
  · omega
  · rw [TK_EOF]
    omega

end Characters

section Tokens

variable {g : Globals} {rest : Stream}

theorem ungetc_getc (rest : Stream) : ungetc (getc rest).1 (getc rest).2 = reread rest := by
  cases rest with
  | nil => rfl
  | cons c rest => rfl

theorem token_word {first : Int} {more : List Int} (valid : (Lexeme.word first more).Valid)
    (longest : (Lexeme.word first more).Longest rest) :
    token first g (more ++ rest) =
      .ok ((g.word (first :: more)).1, (g.word (first :: more)).2, reread rest) := by
  rcases valid with ⟨letter, run, fits⟩
  have range := word_range letter
  have text := (significant (c := first) (by omega)).2.2
  have written := collect_run run fits longest
  rw [token, if_neg text, if_pos letter, TOKEN_BUFFER_MAX, written, ← ungetc_getc]
  rfl

theorem token_decimal {first : Int} {more : List Int} (valid : (Lexeme.decimal first more).Valid)
    (longest : (Lexeme.decimal first more).Longest rest) :
    token first g (more ++ rest) =
      .ok ((g.constant 10 (first :: more)).1, (g.constant 10 (first :: more)).2, reread rest) := by
  rcases valid with ⟨nonzero, digit, run, fits⟩
  have range := digit_range digit
  have text := (significant range.1).2.2
  have plain : ¬beginsWord first := by
    rw [not_word (.inl (by omega))]
    decide
  have written := collect_run run fits longest
  rw [token, if_neg text, if_neg plain, if_neg nonzero, if_pos digit, TOKEN_BUFFER_MAX, written,
    ← ungetc_getc]
  rfl

theorem token_hexadecimal {x : Int} {digits : List Int}
    (valid : (Lexeme.hexadecimal x digits).Valid)
    (longest : (Lexeme.hexadecimal x digits).Longest rest) :
    token (int '0') g (x :: digits ++ rest) =
      .ok ((g.constant 16 (int '0' :: x :: digits)).1, (g.constant 16 (int '0' :: x :: digits)).2,
        reread rest) := by
  rcases valid with ⟨base, run, fits⟩
  have written := collect_run run fits longest
  rw [token, if_neg (by decide), if_neg (by decide), if_pos rfl, hexadecimal,
    List.cons_append, getc]
  simp only [base, if_true]
  rw [TOKEN_BUFFER_MAX, written, ← ungetc_getc]
  rfl

theorem token_string {body : List Int} (valid : (Lexeme.string body).Valid) :
    token (int '\"') g (body ++ int '\"' :: rest) =
      .ok ((g.string body).1, (g.string body).2, rest) := by
  rcases valid with ⟨plain, fits⟩
  have run : ∀ c ∈ body, (decide (c ≠ int '\"') : Bool) := by
    intro c there
    exact decide_eq_true fun same => plain (same ▸ there)
  have ends : ¬(decide (head (int '\"' :: rest) ≠ int '\"') : Bool) := by
    rw [decide_eq_true_eq]
    exact fun other => other rfl
  have written := collect_run run fits ends
  rw [token, if_neg (by decide), if_neg (by decide), if_neg (by decide), if_neg (by decide),
    if_pos rfl, TOKEN_BUFFER_MAX, written]
  rfl

theorem token_separator {c : Int} (there : c ∈ separators) :
    token c g rest = .ok ((g.separator c).1, (g.separator c).2, rest) := by
  have mark := mark_of_mem (.inl there)
  rw [token, if_neg mark.text, if_neg mark.word, if_neg mark.zero, if_neg mark.digit,
    if_neg mark.quote, if_pos there]

theorem token_operator {c : Int} (there : c ∈ operators) :
    token c g rest =
      .ok ((operator c g rest).1, (operator c g rest).2.1.count, (operator c g rest).2.2) := by
  have mark := mark_of_mem (.inr there)
  have other : c ∉ separators := fun separates => separator_operator separates there
  rw [token, if_neg mark.text, if_neg mark.word, if_neg mark.zero, if_neg mark.digit,
    if_neg mark.quote, if_neg other, if_pos there]

theorem token_char {c : Int} (single : Single c) : token c g rest = .ok (c, g.count, rest) := by
  have text : ¬(c = eof ∨ c = 0) := not_or.mpr ⟨single.text.1, single.text.2.1⟩
  have zero : c ≠ int '0' := by
    rintro rfl
    cases single.digit
  rw [token, if_neg text, single.word, if_neg Bool.false_ne_true, if_neg zero, single.digit,
    if_neg Bool.false_ne_true, if_neg single.quote, if_neg single.mark.1, if_neg single.mark.2]

end Tokens

section Operators

variable {c : Int} {g : Globals} {rest : Stream} {tail : List Int}

theorem mem_tails : tail ∈ tails c ↔ tail = [] ∨ tail = [int '='] ∨ (c ∈ twice ∧ tail = [c]) ∨
    (c = int '-' ∧ tail = [int '>']) ∨ ((c = int '<' ∨ c = int '>') ∧ tail = [c, int '=']) := by
  simp only [tails, List.mem_append, List.mem_cons, List.not_mem_nil, or_false,
    List.mem_ite_nil_right,
    or_assoc]

theorem doubled_none (other : c ∉ twice) : doubled c = none := by
  simp only [twice, List.map_cons, List.map_nil, List.mem_cons, List.not_mem_nil, or_false, not_or]
    at other
  rcases other with ⟨plus, minus, both, either, less, greater⟩
  rw [doubled, if_neg plus, if_neg minus, if_neg both, if_neg either, if_neg less, if_neg greater]

theorem combine_alone (assigns : head rest ≠ int '=') (again : head rest = c → c ∉ twice)
    (points : ¬(c = int '-' ∧ head rest = int '>')) :
    combine c g rest =
      .inl (if c = int '<' ∨ c = int '>' then TK_ARITHCOMPARE else c,
        { g with lexerExpression := expressionOf c g.lexerExpression }, reread rest) := by
  have first : (getc rest).1 = head rest := rfl
  rw [combine]
  simp only [first]
  rw [if_neg assigns]
  by_cases same : c = head rest
  · rw [if_pos same, doubled_none (again same.symm), ← ungetc_getc, first]
  · rw [if_neg same, if_neg points, ← ungetc_getc, first]

theorem combine_assigned : combine c g (int '=' :: rest) =
    .inl ((assigned c (expressionOf c g.lexerExpression)).1,
      { g with lexerExpression := (assigned c (expressionOf c g.lexerExpression)).2 }, rest) := by
  rw [combine]
  exact if_pos rfl

theorem combine_doubled {value : Int} (found : doubled c = some value) :
    combine c g (c :: rest) =
      if shifts value then
        .inr (value, { g with lexerExpression := expressionOf c g.lexerExpression }, rest)
      else
        .inl (value, { g with lexerExpression := expressionOf c g.lexerExpression }, rest) := by
  have other : c ≠ int '=' := by
    rintro rfl
    cases found
  rw [combine]
  refine (if_neg other).trans ((if_pos rfl).trans ?_)
  rw [found]

theorem operator_shift {value : Int} (found : doubled c = some value)
    (shift : value = TK_LSHIFT ∨ value = TK_RSHIFT) (assigns : head rest ≠ int '=') :
    operator c g (c :: rest) =
      (value, { g with lexerExpression := expressionOf value (expressionOf c g.lexerExpression) },
        reread rest) := by
  have shifting : shifts value := by
    rcases shift with rfl | rfl <;> rfl
  have plain : value ∉ twice ∧ value ≠ int '-' ∧ ¬(value = int '<' ∨ value = int '>') := by
    rcases shift with rfl | rfl <;> decide
  rw [operator, combine_doubled found, if_pos shifting]
  simp only
  rw [combine_alone assigns (fun _ => plain.1) fun both => plain.2.1 both.1, if_neg plain.2.2]
  rfl

theorem operator_reads (valid : (Lexeme.operator c tail).Valid)
    (longest : tail ++ [head rest] ∉ tails c) :
    operator c g (tail ++ rest) =
      ((operatorToken c g.lexerExpression tail).1,
        { g with lexerExpression := (operatorToken c g.lexerExpression tail).2 },
        if tail = [] ∨ tail = [int '<'] ∨ (tail = [int '>'] ∧ c = int '>') then reread rest
        else rest) := by
  have open_ended : ∀ more, tail ++ [more] ∈ tails c → head rest ≠ more :=
    fun more there same => longest (same ▸ there)
  rcases mem_tails.mp valid.2 with rfl | rfl | ⟨two, rfl⟩ | ⟨rfl, rfl⟩ | ⟨shift, rfl⟩
  · have assigns := open_ended (int '=') (mem_tails.mpr (.inr (.inl rfl)))
    have again : head rest = c → c ∉ twice :=
      fun same two => open_ended c (mem_tails.mpr (.inr (.inr (.inl ⟨two, rfl⟩)))) same
    have points : ¬(c = int '-' ∧ head rest = int '>') :=
      fun both => open_ended (int '>') (mem_tails.mpr (.inr (.inr (.inr (.inl ⟨both.1, rfl⟩)))))
        both.2
    rw [operator, List.nil_append, combine_alone assigns again points]
    rfl
  · rw [operator, List.cons_append, combine_assigned]
    rfl
  · simp only [twice, List.map_cons, List.map_nil, List.mem_cons, List.not_mem_nil, or_false] at two
    rcases two with rfl | rfl | rfl | rfl | rfl | rfl
    · rfl
    · rfl
    · rfl
    · rfl
    · exact operator_shift rfl (.inl rfl) (open_ended (int '=') (by decide))
    · exact operator_shift rfl (.inr rfl) (open_ended (int '=') (by decide))
  · rfl
  · rcases shift with rfl | rfl
    · rfl
    · rfl

end Operators

/-- Only the first character can be one that was put back. -/
def Readable (input : Stream) : Prop :=
  ∀ c ∈ input.tail, 0 ≤ c ∧ c < 256

section Calls

variable {g : Globals} {w rest : Stream} {n : Nat} {l : Lexeme} {stop : Stop} {c : Int}

theorem reread_byte (byte : 0 ≤ c ∧ c < 256) :
    reread (c :: rest) = (if c < 128 then c else c - 256) :: rest := by
  have inside : c ≠ eof := by
    rw [eof]
    omega
  have signed : c.bmod 256 = if c < 128 then c else c - 256 := by
    rw [Int.bmod_def]
    split <;> split <;> omega
  rw [reread, ungetc, if_neg inside, signed]

theorem readable_of_bytes (bytes : ∀ c ∈ rest, 0 ≤ c ∧ c < 256) : Readable rest :=
  fun c there => bytes c (List.mem_of_mem_tail there)

theorem readable_reread (readable : Readable rest) : Readable (reread rest) := by
  cases rest with
  | nil => exact readable
  | cons c rest =>
      have later : ∀ d ∈ rest, 0 ≤ d ∧ d < 256 := readable
      rw [reread, ungetc]
      split
      · exact readable_of_bytes later
      · exact later

theorem after_readable (readable : Readable rest) : Readable (l.after rest) := by
  rw [Lexeme.after]
  induction l.putBack with
  | zero => exact readable
  | succ n ih =>
      rw [Function.iterate_succ_apply']
      exact readable_reread ih

theorem yylex_blank (blank : Blank w n) : yylex g (w ++ rest) = yylex (Globals.lines g n) rest := by
  rw [yylex, skip_blank blank]
  rfl

theorem yylex_first (visible : c ∉ spaces ∧ c ≠ int '\n') (slash : c ≠ int '/') :
    yylex g (c :: rest) = token c g rest := by
  rw [yylex, skip_stop visible slash]
  rfl

theorem yylex_slash (division : head rest ≠ int '/' ∧ head rest ≠ int '*') :
    yylex g (int '/' :: rest) = token (int '/') g (reread rest) := by
  rw [yylex, skip_slash division]
  rfl

theorem yylex_operator {tail : List Int} (bytes : ∀ c ∈ rest, 0 ≤ c ∧ c < 256)
    (valid : (Lexeme.operator c tail).Valid) (longest : (Lexeme.operator c tail).Longest rest) :
    yylex g (c :: (tail ++ rest)) =
      .ok (((Lexeme.operator c tail).read g).1, ((Lexeme.operator c tail).read g).2,
        (Lexeme.operator c tail).after rest) := by
  have mark := mark_of_mem (.inr valid.1)
  by_cases slash : c = int '/'
  · subst slash
    have shape : tail = [] ∨ tail = [int '='] := by
      rcases mem_tails.mp valid.2 with rfl | rfl | ⟨two, -⟩ | ⟨other, -⟩ | ⟨other, -⟩
      · exact .inl rfl
      · exact .inr rfl
      · exact absurd two (by decide)
      · exact absurd other (by decide)
      · exact absurd other (by decide)
    rcases shape with rfl | rfl
    · -- What stands behind a lone / makes it no longer operator.
      have assigns : head rest ≠ int '=' := fun same => longest.1 (by rw [same]; decide)
      have ended : [] ++ [head (reread rest)] ∉ tails (int '/') := by
        intro there
        have same : head (reread rest) = int '=' := by
          rcases mem_tails.mp there with none | one | ⟨two, -⟩ | ⟨other, -⟩ | ⟨other, -⟩
          · cases none
          · exact List.singleton_inj.mp one
          · exact absurd two (by decide)
          · exact absurd other (by decide)
          · exact absurd other (by decide)
        cases rest with
        | nil => exact absurd same (by decide)
        | cons d more =>
            have byte := bytes d List.mem_cons_self
            have sign : int '=' = 61 := rfl
            have plain : d ≠ int '=' := assigns
            rw [reread_byte byte] at same
            simp only [head, getc] at same
            split at same <;> omega
      have reads := operator_reads (g := g) valid ended
      rw [List.nil_append, yylex_slash (longest.2 rfl rfl), token_operator valid.1]
      rw [List.nil_append] at reads
      rw [reads]
      rfl
    · have reads := operator_reads (g := g) valid longest.1
      have differs : int '=' ≠ int '/' ∧ int '=' ≠ int '*' := by decide
      have division : head (int '=' :: rest) ≠ int '/' ∧ head (int '=' :: rest) ≠ int '*' := differs
      have same : reread (int '=' :: rest) = int '=' :: rest := by
        rw [reread_byte (by decide), if_pos (by decide)]
      rw [List.singleton_append] at reads ⊢
      rw [yylex_slash division, token_operator valid.1, same, reads]
      rfl
  · have reads := operator_reads (g := g) valid longest.1
    rw [yylex_first mark.visible slash, token_operator valid.1, reads, Lexeme.after, Lexeme.putBack]
    by_cases alone : tail = []
    · subst alone
      simp only [if_true, slash, if_false, true_or]
      rfl
    · simp only [alone, if_false, false_or]
      split <;> rfl

theorem yylex_lexeme (bytes : ∀ c ∈ rest, 0 ≤ c ∧ c < 256) (valid : l.Valid)
    (longest : l.Longest rest) :
    yylex g (l.spelling ++ rest) = .ok ((l.read g).1, (l.read g).2, l.after rest) := by
  cases l with
  | word first more =>
      have range := word_range valid.1
      have first_seen := significant (c := first) (by omega)
      rw [Lexeme.spelling, List.cons_append, yylex_first first_seen.1 first_seen.2.1,
        token_word valid longest]
      rfl
  | hexadecimal x digits =>
      rw [Lexeme.spelling, List.cons_append, yylex_first (by decide) (by decide),
        token_hexadecimal valid longest]
      rfl
  | decimal first more =>
      have first_seen := significant (digit_range valid.2.1).1
      rw [Lexeme.spelling, List.cons_append, yylex_first first_seen.1 first_seen.2.1,
        token_decimal valid longest]
      rfl
  | string body =>
      rw [Lexeme.spelling, List.append_assoc, List.cons_append, yylex_first (by decide) (by decide)]
      exact token_string valid
  | separator c =>
      have there : c ∈ separators := valid
      have slash : c ≠ int '/' := by
        rintro rfl
        exact absurd there (by decide)
      exact (yylex_first (mark_of_mem (.inl there)).visible slash).trans (token_separator there)
  | operator c tail => exact yylex_operator bytes valid longest
  | char c =>
      have single : Single c := valid
      have slash : c ≠ int '/' := by
        rintro rfl
        exact absurd single.mark.2 (by decide)
      exact (yylex_first single.visible slash).trans (token_char single)

theorem yylex_broken (broken : Broken rest stop) : yylex g rest = .error stop := by
  cases broken with
  | line body single =>
      rw [yylex, skip_pair, if_pos rfl, skip_line_hangs single]
      rfl
  | comment body rest inside breaks =>
      have behind : Behind false body := inside
      rw [List.cons_append, List.cons_append, yylex, skip_pair, if_neg (by decide), if_pos rfl,
        skip_comment_breaks behind breaks]
      rfl
  | zero rest decimal =>
      have base : ¬((getc rest).1 = int 'x' ∨ (getc rest).1 = int 'X') := not_or.mpr decimal
      rw [yylex_first (by decide) (by decide), token, if_neg (by decide), if_neg (by decide),
        if_pos rfl,
        hexadecimal]
      exact if_neg base
  | hexadecimal x rest base long =>
      rw [yylex_first (by decide) (by decide), token, if_neg (by decide), if_neg (by decide),
        if_pos rfl,
        hexadecimal, getc]
      simp only [base, if_true]
      rw [TOKEN_BUFFER_MAX, collect_long long]
      rfl
  | decimal first rest digit nonzero long =>
      have range := digit_range digit
      have seen := significant range.1
      have plain : ¬beginsWord first := by
        rw [not_word (.inl (by omega))]
        decide
      rw [yylex_first seen.1 seen.2.1, token, if_neg seen.2.2, if_neg plain, if_neg nonzero,
        if_pos digit, TOKEN_BUFFER_MAX, collect_long long]
      rfl
  | word first rest letter long =>
      have range := word_range letter
      have seen := significant (c := first) (by omega)
      rw [yylex_first seen.1 seen.2.1, token, if_neg seen.2.2, if_pos letter, TOKEN_BUFFER_MAX,
        collect_long long]
      rfl
  | string rest long =>
      rw [yylex_first (by decide) (by decide), token, if_neg (by decide), if_neg (by decide),
        if_neg (by decide), if_neg (by decide), if_pos rfl, TOKEN_BUFFER_MAX, collect_long long]
      rfl

theorem yylex_file (ends : head rest = eof ∨ head rest = 0) : ∃ input, yylex g rest =
    .ok (TK_EOF, { g with eofno := g.eofno + 1, lexerLastline := g.currentLine }.count, input) := by
  cases rest with
  | nil => exact ⟨[], rfl⟩
  | cons c rest =>
      have text : c = eof ∨ c = 0 := ends
      have visible : (c ∉ spaces ∧ c ≠ int '\n') ∧ c ≠ int '/' := by
        rcases text with rfl | rfl <;> decide
      rw [yylex_first visible.1 visible.2, token, if_pos text]
      exact ⟨rest, rfl⟩

theorem yylex_one : yylex g (TK_EOF :: rest) = .ok (TK_EOF, g.count, rest) := by
  rw [yylex_first (by decide) (by decide), token, if_neg (by decide), if_neg (by decide),
    if_neg (by decide), if_neg (by decide), if_neg (by decide), if_neg (by decide),
      if_neg (by decide)]

theorem classify_ne_eof : (classify g).1 ≠ TK_EOF := by
  have values : TK_MODIFIER ≠ TK_EOF ∧ TK_TYPE ≠ TK_EOF ∧ TK_KEYWORD ≠ TK_EOF ∧
    TK_IDENTIFIER ≠ TK_EOF := by
    decide
  rw [classify]
  split
  · exact values.1
  · exact values.2.1
  · exact values.2.2.1
  · exact values.2.2.2

theorem assigned_ne_eof (old : LexerCode) : (assigned c old).1 ≠ TK_EOF := by
  have values : TK_ARITHCOMPARE ≠ TK_EOF ∧ TK_EQCOMPARE ≠ TK_EOF ∧ TK_ASSIGN ≠ TK_EOF := by decide
  rw [assigned]
  split
  · exact values.1
  · split
    · exact values.1
    · split
      · exact values.2.1
      · split
        · exact values.2.1
        · exact values.2.2

theorem doubled_ne_eof (other : c ≠ TK_EOF) : (doubled c).getD c ≠ TK_EOF := by
  cases found : doubled c with
  | none => exact other
  | some value =>
      have twofold : c ∈ twice := by
        by_contra single
        rw [doubled_none single] at found
        cases found
      simp only [twice, List.map_cons, List.map_nil, List.mem_cons, List.not_mem_nil, or_false]
        at twofold
      rcases twofold with rfl | rfl | rfl | rfl | rfl | rfl
      all_goals
        cases found
        decide

theorem operatorToken_ne_eof (other : c ≠ TK_EOF) (old : LexerCode) (tail : List Int) :
    (operatorToken c old tail).1 ≠ TK_EOF := by
  have values : TK_ARITHCOMPARE ≠ TK_EOF ∧ TK_POINTSAT ≠ TK_EOF ∧ TK_ASSIGN ≠ TK_EOF := by decide
  rw [operatorToken]
  split
  · simp only
    split
    · exact values.1
    · exact other
  · split
    · exact assigned_ne_eof _
    · split
      · exact values.2.1
      · split
        · exact doubled_ne_eof other
        · exact values.2.2

theorem read_ne_eof (valid : l.Valid) : (l.read g).1 ≠ TK_EOF := by
  have values : TK_CONSTANT ≠ TK_EOF ∧ TK_STRING ≠ TK_EOF ∧ TK_SEPARATOR ≠ TK_EOF := by decide
  cases l with
  | word first more => exact classify_ne_eof
  | hexadecimal x digits => exact values.1
  | decimal first more => exact values.1
  | string body => exact values.2.1
  | separator c => exact values.2.2
  | operator c tail => exact operatorToken_ne_eof (mark_of_mem (.inr valid.1)).one _ _
  | char c =>
      have single : Single c := valid
      exact single.text.2.2

end Calls

section Reading

variable {input w rest : Stream} {n : Nat} {lexemes : List (Nat × Lexeme)} {finish : Finish}
  {g : Globals} {c : Int}

theorem readable_behind (readable : Readable (w ++ rest)) : Readable rest := by
  cases w with
  | nil => exact readable
  | cons c w =>
    exact fun d there => readable d (List.mem_append_right w (List.mem_of_mem_tail there))

theorem bytes_behind {l : Lexeme} (readable : Readable (l.spelling ++ rest)) :
    ∀ c ∈ rest, 0 ≤ c ∧ c < 256 := by
  have first : ∃ c more, l.spelling = c :: more := by
    cases l <;> exact ⟨_, _, rfl⟩
  rcases first with ⟨c, more, spelled⟩
  rw [spelled] at readable
  exact fun d there => readable d (List.mem_append_right more there)

/-- The calls of `yylex` follow the lexemes, by induction on the text. -/
theorem gives_splits (splits : Splits input lexemes finish) (readable : Readable input)
    (g : Globals) (tokens : List Token) :
    Gives pass ⟨tokens, g, input⟩
      (tokens ++ (tell g lexemes finish).1, (tell g lexemes finish).2) := by
  induction splits generalizing g tokens with
  | file w n rest blank ends =>
      rcases yylex_file (g := Globals.lines g n) ends with ⟨input, called⟩
      refine gives_done ?_
      rw [Lexer.pass, yylex_blank blank, called, tell, List.append_nil]
      rfl
  | one w n rest blank =>
      refine gives_done ?_
      rw [Lexer.pass, yylex_blank blank, yylex_one, tell, List.append_nil]
      rfl
  | broken w n rest stop blank broken =>
      refine gives_done ?_
      rw [Lexer.pass, yylex_blank blank, yylex_broken broken, tell, List.append_nil]
  | next w n l rest blank valid longest later finish splits ih =>
      have bytes := bytes_behind (readable_behind readable)
      have goes := ih (after_readable (readable_of_bytes bytes)) (l.read (Globals.lines g n)).2
        (tokens ++ [⟨(l.read (Globals.lines g n)).1, (l.read (Globals.lines g n)).2⟩])
      rw [List.append_assoc] at goes
      refine .next ?_ goes
      rw [Lexer.pass, yylex_blank blank, yylex_lexeme bytes valid longest]
      exact if_neg (read_ne_eof valid)

theorem comment_cases (body : Stream) :
    (∃ inner rest, body = inner ++ int '*' :: int '/' :: rest ∧ Open (inner ++ [int '*'])) ∨
      ∃ inner rest, body = inner ++ rest ∧ Open inner ∧ (head rest = eof ∨ head rest = 0) := by
  have all : (∃ inner rest, body = inner ++ int '*' :: int '/' :: rest ∧
    Open (inner ++ [int '*'])) ∨
      (∃ inner c rest, body = inner ++ c :: rest ∧ Open inner ∧ (c = eof ∨ c = 0)) ∨ Open body := by
    induction body using List.reverseRecOn with
    | nil => exact .inr (.inr ⟨by decide, List.not_mem_nil, List.not_mem_nil⟩)
    | append_singleton body c ih =>
        rcases ih with ⟨inner, rest, rfl, inside⟩ | ⟨inner, d, rest, rfl, inside, breaks⟩ | inside
        · exact .inl ⟨inner, rest ++ [c], by simp, inside⟩
        · exact .inr (.inl ⟨inner, d, rest ++ [c], by simp, inside, breaks⟩)
        · by_cases breaks : c = eof ∨ c = 0
          · exact .inr (.inl ⟨body, c, [], rfl, inside, breaks⟩)
          · by_cases closes : [int '*', int '/'] <:+ body ++ [c]
            · rcases closes with ⟨inner, same⟩
              have joined : inner ++ [int '*'] ++ [int '/'] = body ++ [c] := by
                rw [← same, List.append_assoc]
                rfl
              have parts := List.append_inj' joined rfl
              rcases parts with ⟨rfl, ends⟩
              cases ends
              exact .inl ⟨inner, [], by simp, inside⟩
            · refine .inr (.inr ⟨?_, ?_, ?_⟩)
              · rw [List.infix_concat_iff]
                exact not_or.mpr ⟨closes, inside.1⟩
              · rw [List.mem_append, List.mem_singleton]
                exact not_or.mpr ⟨inside.2.1, fun same => breaks (.inl same.symm)⟩
              · rw [List.mem_append, List.mem_singleton]
                exact not_or.mpr ⟨inside.2.2, fun same => breaks (.inr same.symm)⟩
  rcases all with closed | ⟨inner, c, rest, split, inside, breaks⟩ | inside
  · exact .inl closed
  · exact .inr ⟨inner, c :: rest, split, inside, breaks⟩
  · exact .inr ⟨body, [], (List.append_nil body).symm, inside, .inl rfl⟩

def Settled (input : Stream) : Prop :=
  input = [] ∨ ∃ c rest, input = c :: rest ∧ (c ∉ spaces ∧ c ≠ int '\n') ∧
    (c = int '/' → head rest ≠ int '/' ∧ head rest ≠ int '*')

theorem blank_cases (input : Stream) : ∃ w n rest, Blank w n ∧ input = w ++ rest ∧
    (Settled rest ∨ ∃ stop, Broken rest stop) := by
  induction size : input.length using Nat.strong_induction_on generalizing input with
  | _ bound ih =>
      have again : ∀ front n rest, (∀ w m, Blank w m → Blank (front ++ w) (n + m)) →
          input = front ++ rest → rest.length < bound → ∃ w n rest, Blank w n ∧ input = w ++ rest ∧
            (Settled rest ∨ ∃ stop, Broken rest stop) := by
        intro front n rest blank split shorter
        rcases ih rest.length shorter rest rfl with ⟨w, m, later, white, same, ends⟩
        exact ⟨front ++ w, n + m, later, blank w m white,
          by rw [split, same, List.append_assoc], ends⟩
      cases input with
      | nil => exact ⟨[], 0, [], .nothing, rfl, .inl (.inl rfl)⟩
      | cons c input =>
          rw [List.length_cons] at size
          by_cases white : c ∈ spaces
          · refine again [c] 0 input (fun w m later => ?_) rfl (by omega)
            rw [Nat.zero_add]
            exact .space c w m white later
          by_cases ends : c = int '\n'
          · subst ends
            refine again [int '\n'] 1 input (fun w m later => ?_) rfl (by omega)
            rw [Nat.add_comm]
            exact .newline w m later
          by_cases slash : c = int '/'
          · subst slash
            cases input with
            | nil =>
                refine ⟨[], 0, [int '/'], .nothing, rfl,
                  .inl (.inr ⟨_, [], rfl, ⟨white, ends⟩, ?_⟩)⟩
                exact fun _ => by decide
            | cons d input =>
                rw [List.length_cons] at size
                by_cases single : d = int '/'
                · subst single
                  by_cases closed : int '\n' ∈ input
                  · rcases List.eq_append_cons_of_mem closed with ⟨body, rest, rfl, free⟩
                    rw [List.length_append, List.length_cons] at size
                    refine again (int '/' :: int '/' :: body ++ [int '\n']) 1 rest
                      (fun w m later => ?_) (by simp) (by omega)
                    rw [Nat.add_comm, List.append_assoc]
                    exact .line body w m free later
                  · exact ⟨[], 0, _, .nothing, rfl, .inr ⟨_, .line input closed⟩⟩
                by_cases many : d = int '*'
                · subst many
                  rcases comment_cases input with ⟨body, rest, rfl, inside⟩ |
                    ⟨body, rest, rfl, inside, breaks⟩
                  · rw [List.length_append, List.length_cons, List.length_cons] at size
                    refine again (int '/' :: int '*' :: body ++ [int '*', int '/'])
                      (body.count (int '\n')) rest (fun w m later => ?_) (by simp) (by omega)
                    rw [List.append_assoc]
                    exact .comment body w m inside later
                  · exact ⟨[], 0, _, .nothing, rfl, .inr ⟨_, .comment body rest inside breaks⟩⟩
                · exact ⟨[], 0, _, .nothing, rfl,
                    .inl (.inr ⟨_, d :: input, rfl, ⟨white, ends⟩, fun _ => ⟨single, many⟩⟩)⟩
          · exact ⟨[], 0, _, .nothing, rfl,
              .inl (.inr ⟨c, input, rfl, ⟨white, ends⟩, fun same => absurd same slash⟩)⟩

theorem operator_longest (c : Int) (input : Stream) :
    ∃ tail rest, input = tail ++ rest ∧ tail ∈ tails c ∧ tail ++ [head rest] ∉ tails c := by
  let candidates := (tails c).toFinset.filter (· <+: input)
  have some : candidates.Nonempty :=
    ⟨[], Finset.mem_filter.mpr ⟨List.mem_toFinset.mpr (mem_tails.mpr (.inl rfl)), List.nil_prefix⟩⟩
  rcases Finset.exists_max_image candidates List.length some with ⟨tail, chosen, longest⟩
  rcases Finset.mem_filter.mp chosen with ⟨there, rest, rfl⟩
  refine ⟨tail, rest, rfl, List.mem_toFinset.mp there, fun longer => ?_⟩
  cases rest with
  | nil =>
      -- No operator has the end of the file in it.
      have inside : eof ∈ tail ++ [head []] := List.mem_append_right _ List.mem_cons_self
      rcases mem_tails.mp longer with same | same | ⟨two, same⟩ | ⟨-, same⟩ | ⟨shift, same⟩
      · rw [same] at inside
        cases inside
      · rw [same] at inside
        exact absurd inside (by decide)
      · rw [same, List.mem_singleton] at inside
        exact absurd (inside ▸ two) (by decide)
      · rw [same] at inside
        exact absurd inside (by decide)
      · rcases shift with rfl | rfl
        all_goals
          rw [same] at inside
          exact absurd inside (by decide)
  | cons d rest =>
      have candidate : tail ++ [d] ∈ candidates := by
        refine Finset.mem_filter.mpr ⟨List.mem_toFinset.mpr longer, rest, ?_⟩
        rw [List.append_assoc]
        rfl
      have bound := longest _ candidate
      rw [List.length_append, List.length_singleton] at bound
      omega

theorem lexeme_cases (visible : c ∉ spaces ∧ c ≠ int '\n')
    (division : c = int '/' → head rest ≠ int '/' ∧ head rest ≠ int '*')
    (text : ¬(c = eof ∨ c = 0)) (one : c ≠ TK_EOF) :
    (∃ l : Lexeme, ∃ later, c :: rest = l.spelling ++ later ∧ l.Valid ∧ l.Longest later) ∨
      ∃ stop, Broken (c :: rest) stop := by
  -- By the first character, in the order of the lexer.
  by_cases letter : beginsWord c
  · rcases run_cases inWord 255 rest with ⟨more, later, rfl, run, fits, ends⟩ | long
    · exact .inl ⟨.word c more, later, rfl, ⟨letter, run, fits⟩, ends⟩
    · exact .inr ⟨_, .word c rest letter long⟩
  by_cases zero : c = int '0'
  · subst zero
    by_cases base : head rest = int 'x' ∨ head rest = int 'X'
    · cases rest with
      | nil => exact absurd base (by decide)
      | cons x rest =>
          have prefixed : x = int 'x' ∨ x = int 'X' := base
          rcases run_cases isxdigit 254 rest with ⟨digits, later, rfl, run, fits, ends⟩ | long
          · exact .inl ⟨.hexadecimal x digits, later, rfl, ⟨prefixed, run, fits⟩, ends⟩
          · exact .inr ⟨_, .hexadecimal x rest prefixed long⟩
    · exact .inr ⟨_, .zero rest (not_or.mp base)⟩
  by_cases digit : isdigit c
  · rcases run_cases isdigit 255 rest with ⟨more, later, rfl, run, fits, ends⟩ | long
    · exact .inl ⟨.decimal c more, later, rfl, ⟨zero, digit, run, fits⟩, ends⟩
    · exact .inr ⟨_, .decimal c rest digit zero long⟩
  by_cases quote : c = int '\"'
  · subst quote
    rcases run_cases (· ≠ int '\"') 256 rest with ⟨body, later, rfl, run, fits, ends⟩ | long
    · have closed : head later = int '\"' := by
        rw [decide_eq_true_eq, not_not] at ends
        exact ends
      cases later with
      | nil => exact absurd closed (by decide)
      | cons d later =>
          have same : d = int '\"' := closed
          subst same
          have spelled : int '\"' :: (body ++ int '\"' :: later) =
              (Lexeme.string body).spelling ++ later := by
            rw [Lexeme.spelling, List.append_assoc]
            rfl
          refine .inl ⟨.string body, later, spelled, ⟨?_, fits⟩, trivial⟩
          intro there
          exact absurd rfl (of_decide_eq_true (run _ there))
    · exact .inr ⟨_, .string rest long⟩
  by_cases separates : c ∈ separators
  · exact .inl ⟨.separator c, rest, rfl, separates, trivial⟩
  by_cases operates : c ∈ operators
  · rcases operator_longest c rest with ⟨tail, later, rfl, there, longest⟩
    refine .inl ⟨.operator c tail, later, rfl, ⟨operates, there⟩, longest, ?_⟩
    intro slash alone
    subst alone
    exact division slash
  · refine .inl ⟨.char c, rest, rfl, ?_, trivial⟩
    exact ⟨⟨fun same => text (.inl same), fun same => text (.inr same), one⟩, visible,
      Bool.eq_false_of_not_eq_true letter, Bool.eq_false_of_not_eq_true digit, quote, separates,
        operates⟩

theorem reread_length (input : Stream) : (reread input).length ≤ input.length := by
  cases input with
  | nil => exact Nat.le_refl _
  | cons c input =>
      rw [reread, ungetc]
      split
      · exact Nat.le_succ _
      · exact Nat.le_refl _

theorem after_length (l : Lexeme) (input : Stream) : (l.after input).length ≤ input.length := by
  rw [Lexeme.after]
  induction l.putBack with
  | zero => exact Nat.le_refl _
  | succ n ih =>
      rw [Function.iterate_succ_apply']
      exact (reread_length _).trans ih

theorem splits_exist (input : Stream) : ∃ lexemes finish, Splits input lexemes finish := by
  induction size : input.length using Nat.strong_induction_on generalizing input with
  | _ bound ih =>
      rcases blank_cases input with ⟨w, n, rest, blank, rfl, settled | ⟨stop, broken⟩⟩
      · rcases settled with rfl | ⟨c, rest, rfl, visible, division⟩
        · exact ⟨[], _, .file w n [] blank (.inl rfl)⟩
        · by_cases text : c = eof ∨ c = 0
          · exact ⟨[], _, .file w n _ blank text⟩
          by_cases one : c = TK_EOF
          · subst one
            exact ⟨[], _, .one w n rest blank⟩
          rcases lexeme_cases visible division text one with
            ⟨l, later, spelled, valid, longest⟩ | ⟨stop, broken⟩
          · have first : 0 < l.spelling.length := by
              cases l <;> exact Nat.succ_pos _
            have shorter : (l.after later).length < bound := by
              have := after_length l later
              rw [spelled, List.length_append, List.length_append] at size
              omega
            rcases ih _ shorter (l.after later) rfl with ⟨lexemes, finish, splits⟩
            rw [spelled]
            exact ⟨_, _, .next w n l later blank valid longest lexemes finish splits⟩
          · exact ⟨[], _, .broken w n _ stop blank broken⟩
      · exact ⟨[], _, .broken w n rest stop blank broken⟩

theorem bytes_readable (text : List UInt8) : Readable (bytes text) := by
  refine readable_of_bytes fun c there => ?_
  rcases List.mem_map.mp there with ⟨b, -, rfl⟩
  have := b.toNat_lt
  omega

end Reading

/-- Whatever the pieces of a file, the calls of `yylex` end, and give the tokens of the
    lexemes of what `getc` gives of it: all of the file, if no piece is too long. -/
theorem lexes_iff (pieces : List Piece) :
    ((∀ piece ∈ pieces, piece.bytes.length ≤ 512) → given pieces = pieces.flatMap Piece.bytes) ∧
    (∃ tokens ending, Lexes pieces tokens ending) ∧ ∀ tokens ending, Lexes pieces tokens ending ↔
      ∃ lexemes finish, Splits (bytes (given pieces)) lexemes finish ∧
        (tokens, ending) = tell lexerInitialize lexemes finish := by
  have gives : ∀ lexemes finish, Splits (bytes (given pieces)) lexemes finish →
      Gives pass (start pieces) (tell lexerInitialize lexemes finish) :=
    fun lexemes finish splits =>
      gives_splits splits (bytes_readable (given pieces)) lexerInitialize []
  rcases splits_exist (bytes (given pieces)) with ⟨lexemes, finish, splits⟩
  refine ⟨Rtl.Stdio.given_all, ⟨_, _, gives lexemes finish splits⟩,
    fun tokens ending => ⟨fun lexes => ?_, ?_⟩⟩
  · exact ⟨lexemes, finish, splits, lexes.unique (gives lexemes finish splits)⟩
  · rintro ⟨lexemes, finish, splits, same⟩
    rw [Lexes, same]
    exact gives lexemes finish splits

/-- A comment counts its lines, and `<<=` is one token. -/
example : (yylex lexerInitialize ("/*\n*/<<=;".toList.map int)).toOption.map
    (fun out => (out.1, out.2.1.currentLine, out.2.2)) = some (TK_ASSIGN, 2, [int ';']) := by
  decide +kernel

end Gramado.Gramcnf.Lexemes
