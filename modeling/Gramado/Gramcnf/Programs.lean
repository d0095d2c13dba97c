/-
Programs of gramcnf from their text to the machine. A text spells a program when
its lexemes are those of the statements, with any blanks between them; then the
lexer and the parser make the objects of the statements from it, a variable has
the value of its expression, and the machine executes the objects in order.
-/
import Gramado.Gramcnf.Lexemes
import Gramado.Gramcnf.Vm
import Gramado.Rtl.Strtol
import Mathlib.Data.List.TakeWhile

namespace Gramado.Gramcnf.Programs

open Gramado.Gramcnf.Lexer (Stream LexerCode DataType Keyword Globals Lexes lexerInitialize int
    written
  reservedOf classify bytes TK_EOF TK_KEYWORD TK_IDENTIFIER TK_CONSTANT TK_STRING TK_SEPARATOR
  TK_MODIFIER TK_TYPE TK_ARITHCOMPARE)
open Gramado.Gramcnf.Lexemes
open Gramado.Gramcnf.Parser
open Gramado.Gramcnf.Tree (Comparison Operator worth)
open Gramado.Lib.Loop
open Gramado.Rtl.Stdio (Piece given)
open Gramado.Rtl.Strtol

def comparisonOf : LexerCode → Comparison
  | .gt => .gt
  | .le => .le
  | .ge => .ge
  | _ => .lt

def typeOf : DataType → TypeFound
  | .tBox => .tBox
  | .tMeta => .tMeta
  | .tVar => .tVar
  | _ => .other

def keywordOf : Keyword → KeywordFound
  | .kwReturn => .kwReturn
  | .kwExit => .kwExit
  | .kwBreak => .kwBreak
  | .kwGoto => .kwGoto
  | .kwIf => .kwIf
  | .kwWhile => .kwWhile
  | .kwName => .kwName
  | .kwContent => .kwContent
  | .kwPrint => .kwPrint
  | _ => .other

/-- What `tree_eval` reads from the buffer of a constant. -/
def constantOf (buffer : List Char) : Int64 :=
  Int64.ofInt (strtol (buffer.map int) 0)

/-- What the parser asks of a token. -/
def codeOf (t : Lexer.Token) : Code :=
  if t.value = TK_EOF then .eof
  else if t.value = TK_MODIFIER then .modifier
  else if t.value = TK_TYPE then .type (typeOf t.globals.typeFound)
  else if t.value = TK_SEPARATOR then .separator
  else if t.value = TK_KEYWORD then .keyword (keywordOf t.globals.keywordFound)
  else if t.value = TK_IDENTIFIER then .identifier
  else if t.value = TK_STRING then .string
  else if t.value = TK_CONSTANT then .constant (constantOf t.globals.realTokenBuffer)
  else if t.value = TK_ARITHCOMPARE then .arithcompare (comparisonOf t.globals.lexerExpression)
  else if 32 < t.value ∧ t.value < 127 then .char (Lexer.char t.value)
  else .other

def seen (t : Lexer.Token) : Parser.Token :=
  ⟨codeOf t, some t.globals.realTokenBuffer⟩

/-- A text that can be in a file. -/
def InFile (text : List Int) : Prop :=
  ∀ c ∈ text, 0 ≤ c ∧ c < 256

structure Word where
  first : Int
  more : List Int
  valid : (Lexeme.word first more).Valid
  fresh : reservedOf (written (first :: more)) = none
  inFile : InFile (first :: more)

structure Quote where
  body : List Int
  valid : (Lexeme.string body).Valid
  inFile : InFile body

/-- The digit that a character is in its base. -/
def digit (c : Int) : Nat :=
  if c ≤ 57 then (c - 48).toNat else if c ≤ 70 then (c - 55).toNat else (c - 87).toNat

/-- A constant, in base 10 or 16. -/
inductive Number where
  | decimal (first : Int) (more : List Int) (valid : (Lexeme.decimal first more).Valid)
  | hexadecimal (x : Int) (digits : List Int) (valid : (Lexeme.hexadecimal x digits).Valid)
      (inFile : InFile digits)

def Word.lexeme (w : Word) : Lexeme :=
  .word w.first w.more

def Word.text (w : Word) : List Char :=
  written (w.first :: w.more)

def Quote.lexeme (q : Quote) : Lexeme :=
  .string q.body

/-- The string ends with its first 0. -/
def Quote.text (q : Quote) : List Char :=
  written q.body

namespace Number

def lexeme : Number → Lexeme
  | .decimal first more _ => .decimal first more
  | .hexadecimal x digits _ _ => .hexadecimal x digits

def toInt : Number → Int
  | .decimal first more _ => numeral 10 0 ((first :: more).map digit)
  | .hexadecimal _ digits _ _ => numeral 16 0 (digits.map digit)

/-- A number that is no long is the largest one. -/
def value (number : Number) : Int64 :=
  Int64.ofInt (min number.toInt LONG_MAX)

end Number

/-- The lexeme of a reserved word. -/
def reservedWord (text : String) : Lexeme :=
  .word (int (text.toList.headD 'x')) (text.toList.tail.map int)

def mark (c : Char) : Lexeme :=
  .separator (int c)

/-- The statements of the outer loop. -/
inductive Statement where
  | print (q : Quote)
  | declare (w : Word)
  | assign (w : Word) (first : Number) (later : List (Operator × Number))
  | label (w : Word) (q : Quote)

namespace Statement

def lexemes : Statement → List Lexeme
  | .print q => [reservedWord "print", mark '(', q.lexeme, mark ')', mark ';']
  | .declare w => [reservedWord "var", w.lexeme, mark ';']
  | .assign w first later =>
      [reservedWord "var", w.lexeme, .operator (int '=') []] ++
        (first.lexeme :: later.flatMap fun pair =>
          [.operator (int pair.1.symbol) [], pair.2.lexeme]) ++ [mark ';']
  | .label w q => [reservedWord "var", w.lexeme, mark ':', q.lexeme, mark ';']

/-- The object of a statement, if the expression has at most 16 numbers and no
    quotient that is no long. -/
def object : Statement → Option Object
  | .print q => some ⟨.opPrint, .none, q.text, 0⟩
  | .declare w => some ⟨.opVarType, .none, w.text, 0⟩
  | .assign w first later =>
      if later.length ≤ 15 then
        (worth first.value (later.map fun pair => (pair.1.symbol, pair.2.value))).map
          fun value => ⟨.opVarType, .immediate, w.text, value.toUInt64⟩
      else
        none
  | .label _ q => some ⟨.opVarType, .string, q.text, 0⟩

end Statement

structure Program where
  statements : List Statement
  /-- Whether an exit is the last statement. -/
  exits : Bool

namespace Program

def lexemes (p : Program) : List Lexeme :=
  p.statements.flatMap Statement.lexemes ++
    if p.exits then [reservedWord "exit", mark ';'] else []

def last (raw : Object) (p : Program) : Object :=
  { raw with opcode := if p.exits then .opExit else .opEof }

def objects (raw : Object) (p : Program) : Option (List Object) :=
  (p.statements.mapM Statement.object).map fun objects => objects ++ [p.last raw]

end Program

/-- The lexemes of the text are those of the program, whatever is between them. -/
def Spells (text : List UInt8) (p : Program) : Prop :=
  ∃ lexemes n, Splits (bytes text) lexemes (.file n) ∧ lexemes.map Prod.snd = p.lexemes

/-- The tokens of the lexemes as the parser sees them. -/
def tokensOf (g : Globals) : List Lexeme → List Parser.Token
  | [] => []
  | l :: later => seen ⟨(l.read g).1, (l.read g).2⟩ :: tokensOf (l.read g).2 later

section Seen

variable {g : Globals} {n : Nat}

theorem lines_lines (m : Nat) : Globals.lines (Globals.lines g m) n = Globals.lines g (m + n) := by
  rw [Globals.lines, Globals.lines, Globals.lines, Nat.add_assoc]

theorem read_lines (l : Lexeme) :
    l.read (Globals.lines g n) = ((l.read g).1, Globals.lines (l.read g).2 n) := by
  cases l with
  | word first more =>
      simp only [Lexeme.read, Lexer.Globals.word, classify, Globals.lines]
      split <;> rfl
  | hexadecimal x digits => rfl
  | decimal first more => rfl
  | string body => rfl
  | separator c => rfl
  | operator c tail => rfl
  | char c => rfl

theorem tell_seen (lexemes : List (Nat × Lexeme)) (k : Nat) :
    (tell (Globals.lines g n) lexemes (.file k)).1.map seen =
      tokensOf g (lexemes.map Prod.snd) := by
  induction lexemes generalizing g n with
  | nil => rfl
  | cons pair later ih =>
      rcases pair with ⟨m, l⟩
      rw [Lexemes.tell, List.map_cons, List.map_cons, tokensOf, lines_lines, read_lines]
      exact congrArg _ ih

theorem tell_file (lexemes : List (Nat × Lexeme)) (k : Nat) :
    ∃ last, (tell g lexemes (.file k)).2 = .ok last := by
  induction lexemes generalizing g with
  | nil => exact ⟨_, rfl⟩
  | cons pair later ih => exact ih

theorem seen_word (w : Word) : seen ⟨(w.lexeme.read g).1, (w.lexeme.read g).2⟩ =
    ⟨.identifier, some w.text⟩ := by
  rw [Word.lexeme, Lexeme.read, Lexer.Globals.word, classify]
  simp only [w.fresh]
  rfl

end Seen

section Numbers

variable {c : Int} {cs : List Int}

theorem written_plain (plain : ∀ c ∈ cs, 0 < c ∧ c < 256) : (written cs).map int = cs := by
  have same : ∀ c ∈ cs, int (Lexer.char c) = c ∧ Lexer.char c ≠ '\x00' := by
    intro c there
    have range := plain c there
    have low : (c % 256).toNat = c.toNat := by rw [Int.emod_eq_of_lt (by omega) range.2]
    have valid : c.toNat.isValidChar := Or.inl (by omega)
    have number : (Lexer.char c).toNat = c.toNat := by
      rw [Lexer.char, low, Char.ofNat, dif_pos valid]
      rfl
    refine ⟨by rw [int, number]; omega, fun zero => ?_⟩
    rw [zero] at number
    have : c.toNat = 0 := number.symm
    omega
  have whole : (cs.map Lexer.char).takeWhile (· ≠ '\x00') = cs.map Lexer.char := by
    refine List.takeWhile_eq_self_iff.mpr fun d there => ?_
    rcases List.mem_map.mp there with ⟨c, inside, rfl⟩
    exact decide_eq_true (same c inside).2
  rw [written, whole, List.map_map]
  exact (List.map_congr_left fun c there => (same c there).1).trans (List.map_id cs)

theorem decimal_digit (decimal : 48 ≤ c ∧ c ≤ 57) : digitOf c = some (digit c : Int) ∧
    digit c < 10 := by
  have is : Rtl.Ctype.isdigit c = true := by
    rw [Rtl.Ctype.isdigit, Bool.and_eq_true, decide_eq_true_eq, decide_eq_true_eq]
    exact decimal
  have same : digit c = (c - 48).toNat := if_pos decimal.2
  have back : (digit c : Int) = c - 48 := by omega
  rw [digitOf, if_pos is, back]
  exact ⟨rfl, by omega⟩

theorem hexadecimal_range (inFile : 0 ≤ c ∧ c < 256) (hex : Rtl.Ctype.isxdigit c) :
    (48 ≤ c ∧ c ≤ 57) ∨ (65 ≤ c ∧ c ≤ 70) ∨ (97 ≤ c ∧ c ≤ 102) := by
  have low : c % 256 = c := Int.emod_eq_of_lt inFile.1 inFile.2
  simp only [Rtl.Ctype.isxdigit, Rtl.Ctype.hasDigit, low, Bool.or_eq_true, Bool.and_eq_true,
    decide_eq_true_eq] at hex
  exact or_assoc.mp hex

theorem hexadecimal_digit
    (range : (48 ≤ c ∧ c ≤ 57) ∨ (65 ≤ c ∧ c ≤ 70) ∨ (97 ≤ c ∧ c ≤ 102)) :
    digitOf c = some (digit c : Int) ∧ digit c < 16 := by
  rcases range with decimal | upper | lower
  · have := decimal_digit decimal
    exact ⟨this.1, by omega⟩
  · have low : c % 256 = c := Int.emod_eq_of_lt (by omega) (by omega)
    have same : digit c = (c - 55).toNat := by
      rw [digit, if_neg (by omega), if_pos upper.2]
    have back : (digit c : Int) = c - 55 := by omega
    have plain : Rtl.Ctype.isdigit c = false := not_digit (.inr (by omega))
    have letter : Rtl.Ctype.isupper c = true := by
      simp only [Rtl.Ctype.isupper, low, Bool.or_eq_true, Bool.and_eq_true, decide_eq_true_eq]
      omega
    rw [digitOf, plain, Rtl.Ctype.isalpha, letter, back]
    exact ⟨rfl, by omega⟩
  · have low : c % 256 = c := Int.emod_eq_of_lt (by omega) (by omega)
    have same : digit c = (c - 87).toNat := by
      rw [digit, if_neg (by omega), if_neg (by omega)]
    have back : (digit c : Int) = c - 87 := by omega
    have plain : Rtl.Ctype.isdigit c = false := not_digit (.inr (by omega))
    have small : Rtl.Ctype.isupper c = false := by
      rw [Bool.eq_false_iff]
      simp only [Rtl.Ctype.isupper, low, ne_eq, Bool.or_eq_true, Bool.and_eq_true,
        decide_eq_true_eq]
      omega
    have letter : Rtl.Ctype.islower c = true := by
      simp only [Rtl.Ctype.islower, low, Bool.or_eq_true, Bool.and_eq_true, decide_eq_true_eq]
      omega
    rw [digitOf, plain, Rtl.Ctype.isalpha, letter, small, back]
    exact ⟨rfl, by omega⟩

theorem digits_map (each : ∀ c ∈ cs, digitOf c = some (digit c : Int)) :
    Digits cs (cs.map digit) := by
  rw [Digits, List.map_map]
  exact List.map_congr_left each

theorem constantOf_number (number : Number) :
    constantOf (written number.lexeme.spelling) = number.value := by
  cases number with
  | decimal first more valid =>
      have spelled : (Number.decimal first more valid).lexeme.spelling = first :: more := rfl
      rcases valid with ⟨nonzero, digit, run, fits⟩
      have zero : int '0' = 48 := rfl
      have each : ∀ c ∈ first :: more, 48 ≤ c ∧ c ≤ 57 :=
        List.forall_mem_cons.mpr ⟨digit_range digit, fun c there => digit_range (run c there)⟩
      have plain : ∀ c ∈ first :: more, 0 < c ∧ c < 256 := fun c there => by
        have := each c there
        omega
      have range := digit_range digit
      have black : Rtl.Ctype.isspace first = false := by
        rw [Bool.eq_false_iff]
        simp only [Rtl.Ctype.isspace, ne_eq, Bool.or_eq_true, Bool.and_eq_true, decide_eq_true_eq]
        omega
      have unsigned : ¬first = 45 ∧ ¬first = 43 ∧ ¬first = 48 := by omega
      -- A decimal number does not begin with 0, so strtol takes base 10.
      have based : ∀ s, base16 0 (first :: s) = none := by
        intro s
        cases s with
        | nil => rfl
        | cons x s => exact if_neg fun prefixed => unsigned.2.2 prefixed.2.1
      have scanned := @scan_digits 10 0 _ _ (show 0 < 10 by omega)
        (digits_map fun c there => (decimal_digit (each c there)).1)
        (List.forall_mem_map.mpr fun c there => (decimal_digit (each c there)).2) (by decide)
      rw [constantOf, spelled, written_plain plain, strtol,
        List.dropWhile_cons_of_neg (by rw [black]; exact Bool.false_ne_true), sign,
          if_neg unsigned.1,
        if_neg unsigned.2.1]
      simp only [based, if_true, List.head?_cons, Option.some.injEq, unsigned.2.2, if_false]
      exact congrArg Int64.ofInt scanned
  | hexadecimal x digits valid inFile =>
      have spelled : (Number.hexadecimal x digits valid inFile).lexeme.spelling =
          int '0' :: x :: digits := rfl
      rcases valid with ⟨base, run, fits⟩
      have range : ∀ c ∈ digits, (48 ≤ c ∧ c ≤ 57) ∨ (65 ≤ c ∧ c ≤ 70) ∨ (97 ≤ c ∧ c ≤ 102) :=
        fun c there => hexadecimal_range (inFile c there) (run c there)
      have prefixed : x = 120 ∨ x = 88 := base
      have plain : ∀ c ∈ int '0' :: x :: digits, 0 < c ∧ c < 256 := by
        refine List.forall_mem_cons.mpr ⟨by decide, List.forall_mem_cons.mpr ⟨by omega, ?_⟩⟩
        intro c there
        have := range c there
        omega
      -- strtol reads the first digit behind 0x as a char.
      have first : charFirst digits = digits := by
        cases digits with
        | nil => rfl
        | cons c digits =>
            have := range c List.mem_cons_self
            have signed : c.bmod 256 = c := by
              rw [Int.bmod_def]
              split <;> omega
            rw [charFirst, signed]
      have scanned := @scan_digits 16 0 _ _ (show 0 < 16 by omega)
        (digits_map fun c there => (hexadecimal_digit (range c there)).1)
        (List.forall_mem_map.mpr fun c there => (hexadecimal_digit (range c there)).2) (by decide)
      have based : base16 0 (int '0' :: x :: digits) = some digits := by
        rw [base16, if_pos ⟨.inl rfl, rfl, prefixed⟩, first]
      rw [constantOf, spelled, written_plain plain, strtol,
        List.dropWhile_cons_of_neg (by decide), sign, if_neg (by decide), if_neg (by decide)]
      simp only [based]
      exact congrArg Int64.ofInt scanned

end Numbers

section Expressions

variable {g : Globals} {r : Reader} {rest : List Parser.Token} {first : Int64}
  {later : List (Operator × Int64)}

/-- The token of an operator. The comparisons have their own. -/
def operatorToken (op : Operator) : Tree.Token :=
  match op with
  | .less => .arithcompare .lt
  | .greater => .arithcompare .gt
  | op => .char op.symbol

/-- The tokens of an expression. -/
def front (first : Int64) (later : List (Operator × Int64)) : List Tree.Token :=
  .constant first :: later.flatMap fun pair => [operatorToken pair.1, .constant pair.2]

/-- What the evaluation sees of a token of an expression. -/
def treeOf : Code → Option Tree.Token
  | .constant value => some (.constant value)
  | .arithcompare expression => some (.arithcompare expression)
  | .char c => some (.char c)
  | _ => none

def Shown (t : Parser.Token) (tree : Tree.Token) : Prop :=
  treeOf t.code = some tree

theorem treeTokens_cons {t : Parser.Token} {tree : Tree.Token} (shown : Shown t tree)
    (buffer : List Char) :
    treeTokens buffer (t :: rest) = tree :: treeTokens (t.text.getD buffer) rest := by
  rcases t with ⟨code, text⟩
  cases code with
  | constant value =>
      cases shown
      rfl
  | arithcompare expression =>
      cases shown
      rfl
  | char c =>
      cases shown
      rfl
  | eof => cases shown
  | modifier => cases shown
  | type found => cases shown
  | separator => cases shown
  | keyword found => cases shown
  | identifier => cases shown
  | string => cases shown
  | other => cases shown

theorem treeTokens_front {tokens : List Parser.Token} {trees : List Tree.Token}
    (shown : List.Forall₂ Shown tokens trees) (buffer : List Char) :
    treeTokens buffer (tokens ++ ⟨.separator, some [';']⟩ :: rest) =
      trees ++ .separator ';' :: treeTokens [';'] rest := by
  induction shown generalizing buffer with
  | nil => rfl
  | cons first later ih => rw [List.cons_append, treeTokens_cons first, ih, List.cons_append]

theorem operatorOf_token (op : Operator) : Tree.operatorOf (operatorToken op) = some op.symbol := by
  cases op <;> rfl

theorem spells_front (first : Int64) (later : List (Operator × Int64)) :
    Tree.Spells first (later.map fun pair => (pair.1.symbol, pair.2)) (front first later) := by
  induction later generalizing first with
  | nil => exact .number first
  | cons pair later ih =>
      exact @Tree.Spells.cons first pair.2 _ _ [] _ _ (ih pair.2) (operatorOf_token pair.1)
        fun t there => absurd there List.not_mem_nil

theorem taken_front (first : Int64) (later : List (Operator × Int64)) (back : List Tree.Token) :
    taken .number (front first later ++ .separator ';' :: back) =
      (front first later).length + 1 := by
  induction later generalizing first with
  | nil => rfl
  | cons pair later ih =>
      have same : front first (pair :: later) =
          .constant first :: operatorToken pair.1 :: front pair.2 later := rfl
      have inner : operatorToken pair.1 ≠ .separator ';' := by
        cases pair.1 <;> exact Tree.Token.noConfusion
      rw [same, List.cons_append, List.cons_append, taken, if_neg Tree.Token.noConfusion, taken,
        if_neg inner, operatorOf_token]
      simp only [ih, List.length_cons]

/-- What a statement leaves: the rest of the tokens, and one object more or none. -/
structure After (r : Reader) (tokens : List Parser.Token) (objects : List Object) (s : Reader) :
    Prop where
  tokens : s.tokens = tokens
  pushed : s.pushed = r.pushed ++ objects
  output : s.output = r.output

theorem skip_run (n : Nat) (r : Reader) :
    ∃ s, (skip n).run r = .ok ((), s) ∧ After r (r.tokens.drop n) [] s := by
  induction n generalizing r with
  | zero => exact ⟨r, rfl, rfl, (List.append_nil _).symm, rfl⟩
  | succ n ih =>
      rcases r with ⟨tokens, buffer, found, index, output, pushed⟩
      cases tokens with
      | nil =>
          rcases ih ⟨[], buffer, found, index, output, pushed⟩ with ⟨s, runs, left⟩
          exact ⟨s, runs, left.tokens.trans List.drop_nil, left.pushed, left.output⟩
      | cons token tokens =>
          rcases ih _ with ⟨s, runs, left⟩
          exact ⟨s, runs, left.tokens, left.pushed, left.output⟩

/-- The evaluation takes the expression and the semicolon, and has its value. -/
theorem treeEval_run {tokens : List Parser.Token} {value : Int64}
    (shown : List.Forall₂ Shown tokens (front first later))
    (there : r.tokens = tokens ++ ⟨.separator, some [';']⟩ :: rest) (few : later.length ≤ 15)
    (found : worth first (later.map fun pair => (pair.1.symbol, pair.2)) = some value) :
    ∃ s, treeEval.run r = .ok (value.toUInt64, s) ∧ After r rest [] s := by
  rcases skip_run ((front first later).length + 1) r with ⟨s, runs, left⟩
  refine ⟨s, ?_, ?_, left.pushed, left.output⟩
  · have evaluated := @Tree.treeEval_ends first _ (front first later) [] (treeTokens [';'] rest)
      (.separator ';') (spells_front first later) (fun t inside => absurd inside List.not_mem_nil)
      (.inl rfl)
    rw [List.length_map, if_pos few, found, List.append_nil] at evaluated
    have exp : treeTokens r.realTokenBuffer r.tokens =
        front first later ++ .separator ';' :: treeTokens [';'] rest := by
      rw [there, treeTokens_front shown]
    simp only [treeEval, StateT.run_bind, StateT.run_get, pure_bind, exp, evaluated, taken_front,
      Lib.Fallible.need, Except.map, runs]
    rfl
  · have size := shown.length_eq
    rw [left.tokens, there, ← size, List.drop_append, List.drop_eq_nil_of_le (Nat.le_succ _),
      List.nil_append,
      Nat.add_sub_cancel_left]
    rfl

end Expressions

/-- The globals behind the lexemes. -/
def globalsAfter (g : Globals) (lexemes : List Lexeme) : Globals :=
  lexemes.foldl (fun g l => (l.read g).2) g

section Statements

variable {g : Globals} {raw : Object} {r : Reader} {rest : List Lexeme}

theorem tokensOf_append (front back : List Lexeme) :
    tokensOf g (front ++ back) = tokensOf g front ++ tokensOf (globalsAfter g front) back := by
  induction front generalizing g with
  | nil => rfl
  | cons l front ih => exact congrArg _ ih

theorem globalsAfter_append (front back : List Lexeme) :
    globalsAfter g (front ++ back) = globalsAfter (globalsAfter g front) back :=
  List.foldl_append

theorem shown_number (number : Number) :
    Shown (seen ⟨(number.lexeme.read g).1, (number.lexeme.read g).2⟩) (.constant number.value) := by
  rw [← constantOf_number number]
  cases number with
  | decimal first more valid => rfl
  | hexadecimal x digits valid inFile => rfl

theorem shown_operator (op : Operator) :
    Shown (seen ⟨((Lexeme.operator (int op.symbol) []).read g).1,
      ((Lexeme.operator (int op.symbol) []).read g).2⟩) (operatorToken op) := by
  cases op <;> rfl

theorem shown_expression (first : Number) (later : List (Operator × Number)) :
    List.Forall₂ Shown
      (tokensOf g (first.lexeme :: later.flatMap fun pair =>
        [.operator (int pair.1.symbol) [], pair.2.lexeme]))
      (front first.value (later.map fun pair => (pair.1, pair.2.value))) := by
  induction later generalizing g first with
  | nil => exact .cons (shown_number first) .nil
  | cons pair later ih =>
    exact .cons (shown_number first) (.cons (shown_operator pair.1) (ih pair.2))

/-- A variable with an expression, whose tokens the evaluation takes. -/
theorem assign_pass (w : Word) (first : Number) (later : List (Operator × Number)) {o : Object}
    (made : (Statement.assign w first later).object = some o)
    (there : r.tokens = tokensOf g ((Statement.assign w first later).lexemes ++ rest)) :
    ∃ t, pass raw (.loop, r) = .inr (.loop, t) ∧
      After r (tokensOf (globalsAfter g (Statement.assign w first later).lexemes) rest) [o] t := by
  rcases r with ⟨tokens, buffer, found, index, output, pushed⟩
  have same : tokens = tokensOf g ((Statement.assign w first later).lexemes ++ rest) := there
  subst same
  rw [Statement.object] at made
  have few : later.length ≤ 15 := by
    by_contra many
    rw [if_neg many] at made
    cases made
  rw [if_pos few] at made
  rcases Option.map_eq_some_iff.mp made with ⟨value, valued, rfl⟩
  let opening : List Lexeme := [reservedWord "var", w.lexeme, .operator (int '=') []]
  let expression : List Lexeme := first.lexeme :: later.flatMap fun pair =>
    [.operator (int pair.1.symbol) [], pair.2.lexeme]
  let opened := globalsAfter g opening
  -- The statement is the word, its name and =, the expression, and the mark behind it.
  have tokens : tokensOf g ((Statement.assign w first later).lexemes ++ rest) =
      tokensOf g opening ++ (tokensOf opened expression ++ ⟨.separator, some [';']⟩ ::
        tokensOf (globalsAfter g (Statement.assign w first later).lexemes) rest) := by
    have parts : (Statement.assign w first later).lexemes = opening ++ (expression ++ [mark ';']) :=
      List.append_assoc opening expression [mark ';']
    rw [parts, List.append_assoc, tokensOf_append, List.append_assoc, tokensOf_append,
      globalsAfter_append, globalsAfter_append]
    rfl
  have worked : worth first.value
      ((later.map fun pair => (pair.1, pair.2.value)).map fun pair => (pair.1.symbol, pair.2)) =
        some value := by
    rw [List.map_map]
    exact valued
  have fewer : (later.map fun pair => (pair.1, pair.2.value)).length ≤ 15 := by
    rwa [List.length_map]
  let before : Reader := ⟨tokensOf opened expression ++ ⟨.separator, some [';']⟩ ::
    tokensOf (globalsAfter g (Statement.assign w first later).lexemes) rest,
    opened.realTokenBuffer, .tVar, index, output, pushed⟩
  -- The evaluator takes the expression and leaves the mark.
  rcases @treeEval_run before _ _ _ _ _ (shown_expression first later) rfl fewer worked with
    ⟨s, evaluated, left⟩
  have objects : s.pushed = pushed := left.pushed.trans (List.append_nil _)
  refine ⟨{ s with pushed := s.pushed ++ [⟨.opVarType, .immediate, w.text, value.toUInt64⟩] }, ?_,
    left.tokens, congrArg (· ++ _) objects, left.output⟩
  have steps : (loopPass raw).run
      ⟨tokensOf g opening ++ before.tokens, buffer, found, index, output, pushed⟩ =
      ((treeEval >>= fun value => vmPush ⟨.opVarType, .immediate, w.text, value⟩) >>=
        fun _ => pure (some Mode.loop)).run before := by
    simp only [opening, tokensOf, seen_word]
    rfl
  rw [tokens, Parser.pass]
  simp only
  rw [steps, StateT.run_bind, StateT.run_bind, evaluated]
  rfl

theorem statement_pass (s : Statement) {o : Object} (made : s.object = some o)
    (there : r.tokens = tokensOf g (s.lexemes ++ rest)) :
    ∃ t, pass raw (.loop, r) = .inr (.loop, t) ∧
      After r (tokensOf (globalsAfter g s.lexemes) rest) [o] t := by
  rcases r with ⟨tokens, buffer, found, index, output, pushed⟩
  have same : tokens = tokensOf g (s.lexemes ++ rest) := there
  subst same
  cases s with
  | print q =>
      cases made
      exact ⟨_, rfl, rfl, rfl, rfl⟩
  | declare w =>
      cases made
      simp only [Statement.lexemes, List.cons_append, List.nil_append, tokensOf, seen_word]
      exact ⟨_, rfl, rfl, rfl, rfl⟩
  | label w q =>
      cases made
      simp only [Statement.lexemes, List.cons_append, List.nil_append, tokensOf, seen_word]
      exact ⟨_, rfl, rfl, rfl, rfl⟩
  | assign w first later => exact assign_pass w first later made rfl

theorem statements_lead {statements : List Statement} {objects : List Object}
    (made : statements.mapM Statement.object = some objects)
    (there : r.tokens = tokensOf g (statements.flatMap Statement.lexemes ++ rest)) :
    ∃ t, Leads (pass raw) (.loop, r) (.loop, t) ∧
      After r (tokensOf (globalsAfter g (statements.flatMap Statement.lexemes)) rest)
        objects t := by
  induction statements generalizing g r objects with
  | nil =>
      cases made
      exact ⟨r, .here, there, (List.append_nil _).symm, rfl⟩
  | cons s statements ih =>
      rw [List.mapM_cons] at made
      rcases Option.bind_eq_some_iff.mp made with ⟨o, first, others⟩
      rcases Option.bind_eq_some_iff.mp others with ⟨later, behind, same⟩
      cases same
      rw [List.flatMap_cons, List.append_assoc] at there
      rcases statement_pass s first there with ⟨t, step, made⟩
      rcases ih behind made.tokens with ⟨u, leads, left⟩
      refine ⟨u, .next step leads, ?_, ?_, left.output.trans made.output⟩
      · rw [left.tokens, List.flatMap_cons, globalsAfter_append]
      · rw [left.pushed, made.pushed, List.append_assoc]
        rfl

/-- The sizes of what `gramcnf_initialize` writes. -/
structure Fresh (contents : Buffer → List Char) : Prop where
  text : (contents .text).length = 84
  data : (contents .data).length = 84
  bss : (contents .bss).length = 84
  outfile : (contents .outfile).length = 55

theorem initial_fresh : Fresh initialContents :=
  ⟨rfl, rfl, rfl, rfl⟩

/-- The loop ends with the object that it pushes at the end of the file. -/
theorem eof_pass (ended : r.tokens = []) (fits : r.output.Fits) :
    pass raw (.loop, r) = .inl (.ok (r.pushed ++ [{ raw with opcode := .opEof }])) := by
  rcases r with ⟨tokens, buffer, found, index, output, pushed⟩
  have same : tokens = [] := ended
  subst same
  let t : Reader := ⟨[], buffer, found, index, output, pushed ++ [{ raw with opcode := .opEof }]⟩
  rcases @loopDone_run t fits with ⟨s, done, kept⟩
  have steps : (loopPass raw).run ⟨[], buffer, found, index, output, pushed⟩ = .ok (none, s) := by
    change ((loopDone >>= fun _ => pure none).run t : Except Parser.Stop _) = _
    rw [StateT.run_bind, done]
    rfl
  rw [pass_ends steps, kept]

/-- TEXT has room for what an exit writes, and `outfile` for all the segments then. -/
theorem exit_pass (there : r.tokens = tokensOf g [reservedWord "exit", mark ';'])
    (fresh : Fresh r.output.contents) :
    pass raw (.loop, r) = .inl (.ok (r.pushed ++ [{ raw with opcode := .opExit }])) := by
  rcases r with ⟨tokens, buffer, found, index, ⟨dumpOutput, saveSymbol, contents⟩, pushed⟩
  have same : tokens = tokensOf g [reservedWord "exit", mark ';'] := there
  subst same
  rcases fresh with ⟨text, data, bss, outfile⟩
  simp only at text data bss outfile
  have words : ";[EXIT]\n".toList.length = 8 ∧ "  ; program requested exit\n".toList.length = 27 :=
    ⟨rfl, rfl⟩
  let q : Reader := ⟨[⟨.separator, some [';']⟩], ['e', 'x', 'i', 't'], found, index,
    ⟨dumpOutput, saveSymbol, contents⟩, pushed⟩
  have exits := @parseWord_run raw q .opExit ";[EXIT]\n" "  ; program requested exit\n" [] (by
    change (contents .text).length + _ + _ < 1024
    omega) rfl
  let t : Reader := { (q.append .text ";[EXIT]\n".toList).append .text
      "  ; program requested exit\n".toList with
    tokens := []
    realTokenBuffer := [';']
    pushed := pushed ++ [{ raw with opcode := .opExit }] }
  have fits : t.output.Fits := by
    have longer : (t.output.contents .text).length = 84 + 8 + 27 := by
      change ((contents .text ++ _) ++ _).length = _
      rw [List.length_append, List.length_append, text, words.1, words.2]
    have others : t.output.contents .data = contents .data ∧
        t.output.contents .bss = contents .bss ∧
        t.output.contents .outfile = contents .outfile := ⟨rfl, rfl, rfl⟩
    rw [Output.Fits, longer, others.1, others.2.1, others.2.2]
    omega
  rcases loopDone_run fits with ⟨s, done, kept⟩
  have steps : (loopPass raw).run ⟨tokensOf g [reservedWord "exit", mark ';'], buffer, found, index,
      ⟨dumpOutput, saveSymbol, contents⟩, pushed⟩ = .ok (none, s) := by
    change ((parseExit raw >>= fun _ => loopDone >>= fun _ => pure none).run q :
      Except Parser.Stop _) = _
    rw [StateT.run_bind, parseExit, exits]
    change ((loopDone >>= fun _ => pure none).run t : Except Parser.Stop _) = _
    rw [StateT.run_bind, done]
    rfl
  rw [pass_ends steps, kept]

theorem last_pass (p : Program) (fresh : Fresh r.output.contents)
    (there : r.tokens = tokensOf g (if p.exits then [reservedWord "exit", mark ';'] else [])) :
    pass raw (.loop, r) = .inl (.ok (r.pushed ++ [p.last raw])) := by
  rw [Program.last]
  cases exits : p.exits with
  | false =>
      rw [exits, if_neg Bool.false_ne_true] at there
      rcases fresh with ⟨text, data, bss, outfile⟩
      refine eof_pass there ?_
      rw [Output.Fits]
      omega
  | true =>
      rw [exits, if_pos rfl] at there
      exact exit_pass there fresh

theorem accepts_program {p : Program} {objects : List Object} (dumpOutput : Bool)
    (made : p.objects raw = some objects) :
    Accepts raw dumpOutput (tokensOf g p.lexemes) objects := by
  rcases Option.map_eq_some_iff.mp made with ⟨front, each, rfl⟩
  rcases @statements_lead g raw (start dumpOutput (tokensOf g p.lexemes)) _ _ _ each rfl with
    ⟨t, leads, left⟩
  have fresh : Fresh t.output.contents := by
    rw [left.output]
    exact initial_fresh
  have ended := @last_pass _ raw _ p fresh left.tokens
  rw [left.pushed] at ended
  exact leads.gives (gives_done ended)

end Statements

section Machine

variable {raw : Object} {objects : List Object}

theorem object_goes {s : Statement} {o : Object} (made : s.object = some o) : o.stops = false := by
  cases s with
  | print q =>
      cases made
      rfl
  | declare w =>
      cases made
      rfl
  | assign w first later =>
      rw [Statement.object] at made
      split at made
      · rcases Option.map_eq_some_iff.mp made with ⟨value, -, rfl⟩
        rfl
      · cases made
  | label w q =>
      cases made
      rfl

theorem objects_go {statements : List Statement}
    (made : statements.mapM Statement.object = some objects) : ∀ o ∈ objects, o.stops = false := by
  induction statements generalizing objects with
  | nil =>
      cases made
      exact fun o there => absurd there List.not_mem_nil
  | cons s statements ih =>
      rw [List.mapM_cons] at made
      rcases Option.bind_eq_some_iff.mp made with ⟨o, first, others⟩
      rcases Option.bind_eq_some_iff.mp others with ⟨later, behind, same⟩
      cases same
      exact List.forall_mem_cons.mpr ⟨object_goes first, ih behind⟩

theorem last_stops (p : Program) : (p.last raw).stops = true := by
  rw [Object.stops, Program.last]
  cases p.exits <;> rfl

/-- The machine executes the objects of a program in order, as far as the stack goes. -/
theorem program_executes {p : Program} (made : p.objects raw = some objects) :
    (objects.length ≤ 256 →
      ∃ last, Gives Vm.loopPass (Vm.begin objects) (0, last) ∧ last.executed = objects) ∧
    (256 < objects.length →
      ∃ last, Gives Vm.loopPass (Vm.begin objects) (-1, last) ∧
        last.executed = objects.take 256) := by
  rcases Option.map_eq_some_iff.mp made with ⟨front, each, rfl⟩
  have goes := objects_go each
  rw [List.length_append, List.length_singleton]
  constructor
  · intro short
    have runs : Vm.Runs (front ++ [p.last raw]) := Vm.runs_of_short goes (last_stops p) (by omega)
    rcases runs.executes with ⟨last, gives, executed⟩
    rw [Vm.upToStop_eq goes (last_stops p)] at executed
    exact ⟨last, gives, executed⟩
  · intro long
    exact ⟨_, (Vm.stack_exhausted goes (by omega)).2, rfl⟩

end Machine

section Printing

/-- A lexeme that a space ends, in a file. -/
structure Plain (l : Lexeme) : Prop where
  valid : l.Valid
  inFile : InFile l.spelling
  ends : ∀ rest, l.Longest (32 :: rest) ∧ l.after (32 :: rest) = 32 :: rest

/-- The lexemes with a space before each of them, and one behind. -/
def spaced (lexemes : List Lexeme) : Stream :=
  lexemes.flatMap (fun l => 32 :: l.spelling) ++ [32]

def Program.print (p : Program) : List UInt8 :=
  (spaced p.lexemes).map fun c => UInt8.ofNat c.toNat

theorem spaced_cons (l : Lexeme) (lexemes : List Lexeme) :
    spaced (l :: lexemes) = [32] ++ (l.spelling ++ spaced lexemes) := by
  simp [spaced]

theorem spaced_head (lexemes : List Lexeme) : ∃ rest, spaced lexemes = 32 :: rest := by
  cases lexemes with
  | nil => exact ⟨[], rfl⟩
  | cons l lexemes => exact ⟨_, spaced_cons l lexemes⟩

theorem splits_spaced {lexemes : List Lexeme} (plain : ∀ l ∈ lexemes, Plain l) :
    Splits (spaced lexemes) (lexemes.map fun l => (0, l)) (.file 0) := by
  have space : Blank [32] 0 := .space 32 [] 0 (by decide) .nothing
  induction lexemes with
  | nil => exact .file [32] 0 [] space (.inl rfl)
  | cons l lexemes ih =>
      have first := plain l List.mem_cons_self
      have later := ih fun m there => plain m (List.mem_cons_of_mem l there)
      rcases spaced_head lexemes with ⟨rest, same⟩
      rw [spaced_cons]
      refine .next [32] 0 l _ space first.valid ?_ _ _ ?_
      · rw [same]
        exact (first.ends rest).1
      · rw [same, (first.ends rest).2, ← same]
        exact later

theorem bytes_print {lexemes : List Lexeme} (plain : ∀ l ∈ lexemes, Plain l) :
    bytes ((spaced lexemes).map fun c => UInt8.ofNat c.toNat) = spaced lexemes := by
  have inFile : ∀ c ∈ spaced lexemes, 0 ≤ c ∧ c < 256 := by
    intro c there
    rcases List.mem_append.mp there with among | last
    · rcases List.mem_flatMap.mp among with ⟨l, inside, spelled⟩
      rcases List.mem_cons.mp spelled with rfl | spelled
      · decide
      · exact (plain l inside).inFile c spelled
    · cases List.mem_singleton.mp last
      decide
  rw [bytes, List.map_map]
  refine (List.map_congr_left fun c there => ?_).trans (List.map_id _)
  have range := inFile c there
  have size : (UInt8.ofNat c.toNat).toNat = c.toNat := UInt8.toNat_ofNat_of_lt' (by
    rw [UInt8.size]
    omega)
  rw [Function.comp_apply, size]
  exact Int.toNat_of_nonneg range.1

theorem plain_reserved {text : String} (there : text ∈ ["print", "var", "exit"]) :
    Plain (reservedWord text) := by
  simp only [List.mem_cons, List.not_mem_nil, or_false] at there
  rcases there with rfl | rfl | rfl
  all_goals
    refine ⟨⟨by decide, ?_, by decide⟩, ?_, fun _ => ⟨Bool.false_ne_true, rfl⟩⟩
    · exact List.forall_iff_forall_mem.mp (by decide)
    · exact List.forall_iff_forall_mem.mp (by decide)

theorem plain_mark {c : Char} (there : int c ∈ Lexer.separators) : Plain (mark c) := by
  have listed := there
  rw [separators_eq] at listed
  simp only [List.mem_cons, List.not_mem_nil, or_false] at listed
  refine ⟨there, fun d same => ?_, fun _ => ⟨trivial, rfl⟩⟩
  rw [List.mem_singleton.mp same]
  omega

theorem plain_operator {c : Int} (there : c ∈ Lexer.operators) : Plain (.operator c []) := by
  have listed := there
  rw [operators_eq] at listed
  simp only [List.mem_cons, List.not_mem_nil, or_false] at listed
  have alone : [(32 : Int)] ∉ tails c := by
    intro longer
    rcases mem_tails.mp longer with none | one | ⟨two, one⟩ | ⟨-, one⟩ | ⟨-, two⟩
    · cases none
    · cases one
    · cases one
      exact absurd two (by decide)
    · cases one
    · cases two
  have differs : (32 : Int) ≠ int '/' ∧ (32 : Int) ≠ int '*' := by decide
  refine ⟨⟨there, mem_tails.mpr (.inl rfl)⟩, ?_, ?_⟩
  · intro d same
    rw [List.mem_singleton.mp same]
    omega
  · intro rest
    refine ⟨⟨alone, fun _ _ => differs⟩, ?_⟩
    rw [Lexeme.after, Lexeme.putBack, if_pos rfl]
    split <;> rfl

theorem plain_word (w : Word) : Plain w.lexeme :=
  ⟨w.valid, w.inFile, fun _ => ⟨Bool.false_ne_true, rfl⟩⟩

theorem plain_quote (q : Quote) : Plain q.lexeme := by
  refine ⟨q.valid, ?_, fun _ => ⟨trivial, rfl⟩⟩
  intro c there
  rcases List.mem_append.mp there with front | last
  · rcases List.mem_cons.mp front with rfl | inside
    · decide
    · exact q.inFile c inside
  · rw [List.mem_singleton.mp last]
    decide

theorem plain_number (number : Number) : Plain number.lexeme := by
  cases number with
  | decimal first more valid =>
      refine ⟨valid, ?_, fun _ => ⟨Bool.false_ne_true, rfl⟩⟩
      refine List.forall_mem_cons.mpr ⟨?_, fun c there => ?_⟩
      · have := digit_range valid.2.1
        omega
      · have := digit_range (valid.2.2.1 c there)
        omega
  | hexadecimal x digits valid inFile =>
      refine ⟨valid, ?_, fun _ => ⟨Bool.false_ne_true, rfl⟩⟩
      have prefixed : x = 120 ∨ x = 88 := valid.1
      exact List.forall_mem_cons.mpr ⟨by decide, List.forall_mem_cons.mpr ⟨by omega, inFile⟩⟩

theorem plain_statement (s : Statement) : ∀ l ∈ s.lexemes, Plain l := by
  cases s with
  | print q =>
      simp only [Statement.lexemes, List.forall_mem_cons]
      exact ⟨plain_reserved (by decide), plain_mark (by decide), plain_quote q,
        plain_mark (by decide), plain_mark (by decide), fun l there =>
          absurd there List.not_mem_nil⟩
  | declare w =>
      simp only [Statement.lexemes, List.forall_mem_cons]
      exact ⟨plain_reserved (by decide), plain_word w, plain_mark (by decide),
        fun l there => absurd there List.not_mem_nil⟩
  | assign w first later =>
      intro l there
      rcases List.mem_append.mp there with front | last
      · rcases List.mem_append.mp front with opening | expression
        · simp only [List.mem_cons, List.not_mem_nil, or_false] at opening
          rcases opening with rfl | rfl | rfl
          · exact plain_reserved (by decide)
          · exact plain_word w
          · exact plain_operator (by decide)
        · rcases List.mem_cons.mp expression with rfl | among
          · exact plain_number first
          · rcases List.mem_flatMap.mp among with ⟨pair, inside, spelled⟩
            rcases List.mem_cons.mp spelled with rfl | spelled
            · exact plain_operator (by cases pair.1 <;> decide)
            · rw [List.mem_singleton.mp spelled]
              exact plain_number pair.2
      · rw [List.mem_singleton.mp last]
        exact plain_mark (by decide)
  | label w q =>
      simp only [Statement.lexemes, List.forall_mem_cons]
      exact ⟨plain_reserved (by decide), plain_word w, plain_mark (by decide), plain_quote q,
        plain_mark (by decide), fun l there => absurd there List.not_mem_nil⟩

theorem plain_program (p : Program) : ∀ l ∈ p.lexemes, Plain l := by
  intro l there
  rcases List.mem_append.mp there with among | last
  · rcases List.mem_flatMap.mp among with ⟨s, -, inside⟩
    exact plain_statement s l inside
  · split at last
    · simp only [List.mem_cons, List.not_mem_nil, or_false] at last
      rcases last with rfl | rfl
      · exact plain_reserved (by decide)
      · exact plain_mark (by decide)
    · cases last

theorem spells_print (p : Program) : Spells p.print p := by
  refine ⟨p.lexemes.map fun l => (0, l), 0, ?_, ?_⟩
  · rw [Program.print, bytes_print (plain_program p)]
    exact splits_spaced (plain_program p)
  · rw [List.map_map]
    exact List.map_id _

end Printing

/-- However a file with the text of a program is read, whatever the blanks of the text,
    the program becomes the objects of its statements, if these have a value, and the
    machine executes them in order as far as they fit on its stack. -/
theorem program_runs (raw : Object) (dumpOutput : Bool) (p : Program) (objects : List Object)
    (made : p.objects raw = some objects) :
    Spells p.print p ∧
    (∀ pieces, Spells (given pieces) p → ∃ tokens ending, Lexes pieces tokens (.ok ending) ∧
      Accepts raw dumpOutput (tokens.map seen) objects) ∧
    (objects.length ≤ 256 →
      ∃ last, Gives Vm.loopPass (Vm.begin objects) (0, last) ∧ last.executed = objects) ∧
    (256 < objects.length →
      ∃ last, Gives Vm.loopPass (Vm.begin objects) (-1, last) ∧
        last.executed = objects.take 256) := by
  refine ⟨spells_print p, fun pieces spells => ?_, program_executes made⟩
  rcases spells with ⟨lexemes, n, splits, same⟩
  have lexed := gives_splits splits (bytes_readable (given pieces)) lexerInitialize []
  rcases tell_file (g := lexerInitialize) lexemes n with ⟨last, ends⟩
  have shown : (tell lexerInitialize lexemes (.file n)).1.map seen =
      tokensOf lexerInitialize (lexemes.map Prod.snd) := @tell_seen lexerInitialize 0 lexemes n
  rw [same] at shown
  rw [ends] at lexed
  refine ⟨_, last, lexed, ?_⟩
  rw [List.nil_append, shown]
  exact accepts_program dumpOutput made

section Small

def x : Word :=
  ⟨int 'x', [], ⟨by decide, List.forall_iff_forall_mem.mp (by decide), by decide⟩, by decide,
    List.forall_iff_forall_mem.mp (by decide)⟩

def one : Number :=
  .decimal (int '1') [] ⟨by decide, by decide, List.forall_iff_forall_mem.mp (by decide), by decide⟩

def two : Number :=
  .decimal (int '2') [] ⟨by decide, by decide, List.forall_iff_forall_mem.mp (by decide), by decide⟩

/-- `var x = 1 + 2 * 2;` and `exit;`. -/
def small : Program :=
  ⟨[.assign x one [(.plus, two), (.times, two)]], true⟩

/-- The text of the program as one call of `read` gives it. -/
def smallFile : Piece where
  bytes := small.print
  some_bytes := by decide
  fits := by decide

theorem small_program_runs : ∃ tokens ending, Lexes [smallFile] tokens (.ok ending) ∧
    Accepts Vm.declared true (tokens.map seen)
      [⟨.opVarType, .immediate, ['x'], 5⟩, { Vm.declared with opcode := .opExit }] := by
  have made : small.objects Vm.declared =
      some [⟨.opVarType, .immediate, ['x'], 5⟩, { Vm.declared with opcode := .opExit }] := rfl
  rcases program_runs Vm.declared true small _ made with ⟨spelled, compiled, -, -⟩
  apply compiled
  have all : given [smallFile] = small.print := by
    rw [Rtl.Stdio.given_cons, Rtl.Stdio.given_short (by decide)]
    exact List.append_nil _
  rw [all]
  exact spelled

end Small

end Gramado.Gramcnf.Programs
