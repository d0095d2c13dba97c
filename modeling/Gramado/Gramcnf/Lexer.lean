/-
The lexer of gramcnf (lexer.c): `__skip_white_space` and `yylex` on what `getc`
gives of a file. A character is an int: EOF, a byte of the file, or a byte that was
put back, which the stream keeps as a signed char. `isalnum` takes EOF for the byte
255, which is a letter, so that a word does not end with the file.
-/
import Gramado.Gramcnf.Parser
import Gramado.Rtl.Ctype
import Gramado.Rtl.Stdio

namespace Gramado.Gramcnf.Lexer

open Gramado.Lib.Loop
open Gramado.Rtl.Ctype
open Gramado.Rtl.Stdio (Iobuf Piece fopen given)

/-- What `getc` gives up to the end of the file, the character put back first. -/
abbrev Stream := List Int

def eof : Int := -1

def getc : Stream → Int × Stream
  | [] => (eof, [])
  | c :: rest => (c, rest)

/-- The one place for a character is free: one was taken just before. -/
def ungetc (c : Int) (input : Stream) : Stream :=
  if c = eof then input else c.bmod 256 :: input

section Refinement

/-- What the lexer asks of its file. -/
inductive FileCall where
  | get
  | put (c : Int)

/-- The answer of the C library, which has the file in a buffer. -/
def FileCall.buffered (s : Iobuf) : FileCall → Int × Iobuf
  | .get => Rtl.Stdio.getc s
  | .put c => Rtl.Stdio.ungetc c s

def FileCall.streamed (input : Stream) : FileCall → Int × Stream
  | .get => getc input
  | .put c => (c, ungetc c input)

/-- A character is put back only right after one was taken. -/
def Alternates : Bool → List FileCall → Prop
  | _, [] => True
  | _, .get :: calls => Alternates true calls
  | taken, .put _ :: calls => taken = true ∧ Alternates false calls

def results {σ : Type} (serve : σ → FileCall → Int × σ) : σ → List FileCall → List Int
  | _, [] => []
  | s, call :: calls => (serve s call).1 :: results serve (serve s call).2 calls

variable {s : Iobuf} {taken : Bool} {calls : List FileCall}

theorem getc_given (steady : s.Steady) :
    ((Rtl.Stdio.getc s).1, (Rtl.Stdio.getc s).2.stream) = getc s.stream := by
  rw [(Rtl.Stdio.getc_stream steady).2]
  cases s.stream <;> rfl

theorem ungetc_given (free : s.ungotten = none) (c : Int) :
    ((Rtl.Stdio.ungetc c s).1, (Rtl.Stdio.ungetc c s).2.stream) = (c, ungetc c s.stream) := by
  have room : ¬s.ungotten.isSome = true := by simp [free]
  rw [Rtl.Stdio.ungetc_stream free, Rtl.Stdio.ungetc]
  by_cases ends : c = Rtl.Stdio.EOF
  · rw [if_pos ends, if_pos ends, ends]
    rfl
  · rw [if_neg ends, if_neg ends, if_neg room]
    exact congrArg (Prod.mk c) (if_neg ends).symm

/-- The calls find the characters of the stream, however the buffer is filled in between. -/
theorem results_streamed (steady : s.Steady) (free : taken = true → s.ungotten = none)
    (alternates : Alternates taken calls) :
    results FileCall.buffered s calls = results FileCall.streamed s.stream calls := by
  induction calls generalizing s taken with
  | nil => rfl
  | cons call calls ih =>
      cases call with
      | get =>
          have same := getc_given steady
          have later := ih (Rtl.Stdio.getc_stream steady).1 (fun _ => Rtl.Stdio.getc_ungotten)
            alternates
          simp only [results, FileCall.buffered, FileCall.streamed, later, ← same]
      | put c =>
          have same := ungetc_given (free alternates.1) c
          have later := ih (Rtl.Stdio.ungetc_steady (c := c) steady) Bool.noConfusion alternates.2
          simp only [results, FileCall.buffered, FileCall.streamed, later, ← same]

/-- From the start of a file these are the characters that are given of its pieces. -/
theorem results_file (pieces : List Piece) (alternates : Alternates false calls) :
    results FileCall.buffered (fopen pieces) calls =
      results FileCall.streamed ((given pieces).map fun b => (b.toNat : Int)) calls := by
  rw [← Rtl.Stdio.fopen_stream]
  exact results_streamed (Rtl.Stdio.fopen_steady pieces) Bool.noConfusion alternates

end Refinement

def int (c : Char) : Int := c.toNat

/-- `exit(1)`, the loop behind `//` that the end of the file does not end, and a
    write behind `real_token_buffer`. -/
inductive Stop where
  | reported
  | hangs
  | outside
  deriving DecidableEq

def TOKEN_BUFFER_MAX : Nat := 256

def TK_EOF : Int := 1
def TK_KEYWORD : Int := 2
def TK_IDENTIFIER : Int := 3
def TK_CONSTANT : Int := 4
def TK_STRING : Int := 5
def TK_SEPARATOR : Int := 7
def TK_MODIFIER : Int := 10
def TK_TYPE : Int := 11
def TK_ARITHCOMPARE : Int := 12
def TK_EQCOMPARE : Int := 13
def TK_ASSIGN : Int := 14
def TK_PLUSPLUS : Int := 15
def TK_MINUSMINUS : Int := 16
def TK_ANDAND : Int := 17
def TK_OROR : Int := 18
def TK_LSHIFT : Int := 19
def TK_RSHIFT : Int := 20
def TK_POINTSAT : Int := 21

/-- `keywords_t`. -/
inductive Keyword where
  | kwNull
  | kwVoid
  | kwChar
  | kwShort
  | kwInt
  | kwLong
  | kwBox
  | kwMeta
  | kwDef
  | kwVar
  | kwLet
  | kwName
  | kwContent
  | kwPrint
  | kwInline
  | kwStatic
  | kwVolatile
  | kwSigned
  | kwUnsigned
  | kwSwitch
  | kwCase
  | kwBreak
  | kwDefault
  | kwIf
  | kwElse
  | kwDo
  | kwWhile
  | kwFor
  | kwContinue
  | kwStruct
  | kwEnum
  | kwUnion
  | kwSizeof
  | kwGoto
  | kwReturn
  | kwExit
  deriving DecidableEq

/-- `types_t`. -/
inductive DataType where
  | tNull
  | tVoid
  | tChar
  | tShort
  | tInt
  | tLong
  | tBox
  | tMeta
  | tDef
  | tVar
  | tLet
  deriving DecidableEq

/-- `lexerexpr_t`. -/
inductive LexerCode where
  | null
  | plus
  | minus
  | bitAnd
  | bitIor
  | mult
  | truncDiv
  | truncMod
  | bitXor
  | lshift
  | rshift
  | lt
  | gt
  | le
  | ge
  | ne
  | eq
  deriving DecidableEq

structure Globals where
  /-- Up to the 0 behind it. -/
  realTokenBuffer : List Char
  keywordFound : Keyword
  typeFound : DataType
  lexerExpression : LexerCode
  constantBaseFound : Nat
  currentLine : Nat
  lexerTokenCount : Nat
  lexerLastline : Nat
  eofno : Nat
  deriving DecidableEq

/-- `lexer_initialize`, with the globals that nothing has set. -/
def lexerInitialize : Globals :=
  ⟨[], .kwNull, .tNull, .null, 0, 1, 0, 1, 0⟩

/-- Where `__skip_white_space` is: between the comments, or inside of one, whose
    last character may have been a star. -/
inductive Place where
  | blank
  | line
  | comment (star : Bool)

def spaces : List Int :=
  [' ', '\t', '\x0c', '\r', '\x08'].map int

/-- The character that it returns, and the line that it comes to. -/
def skipWhiteSpace : Place → Nat → Stream → Except Stop (Int × Nat × Stream)
  | .blank, currentLine, [] => .ok (eof, currentLine, [])
  | .blank, currentLine, c :: rest =>
      if c ∈ spaces then
        skipWhiteSpace .blank currentLine rest
      else if c = int '\n' then
        skipWhiteSpace .blank (currentLine + 1) rest
      else if c = int '/' then
        match rest with
        | [] => .ok (int '/', currentLine, [])
        | d :: more =>
            if d = int '/' then
              skipWhiteSpace .line currentLine more
            else if d = int '*' then
              skipWhiteSpace (.comment false) currentLine more
            else
              .ok (int '/', currentLine, ungetc d more)
      else
        .ok (c, currentLine, rest)
  | .line, _, [] => .error .hangs
  | .line, currentLine, c :: rest =>
      if c = int '\n' then
        skipWhiteSpace .blank (currentLine + 1) rest
      else
        skipWhiteSpace .line currentLine rest
  | .comment _, _, [] => .error .reported
  | .comment star, currentLine, c :: rest =>
      if c = int '*' then
        skipWhiteSpace (.comment true) currentLine rest
      else if star ∧ c = int '/' then
        skipWhiteSpace .blank currentLine rest
      else if c = int '\n' then
        skipWhiteSpace (.comment false) (currentLine + 1) rest
      else if c = eof ∨ c = 0 then
        .error .reported
      else
        skipWhiteSpace (.comment false) currentLine rest

/-- The cases of the switch that begin a word. -/
def beginsWord (c : Int) : Bool :=
  (int 'A' ≤ c && c ≤ int 'Z') || (int 'a' ≤ c && c ≤ int 'z') || c = int '_'

def inWord (c : Int) : Bool :=
  isalnum c || c = int '_'

/-- The characters that a loop writes into the buffer, which has that much room
    for them and for the 0, with the character that ends it. -/
def collect (goes : Int → Bool) : Nat → Stream → Except Stop (List Int × Int × Stream)
  | 0, _ => .error .outside
  | room + 1, input =>
      let (c, rest) := getc input
      if goes c then do
        let (more, last, rest) ← collect goes room rest
        .ok (c :: more, last, rest)
      else
        .ok ([], c, rest)

/-- A character in a `char`. -/
def char (c : Int) : Char :=
  Char.ofNat (c % 256).toNat

/-- What was written, up to its first 0. -/
def written (buffer : List Int) : List Char :=
  (buffer.map char).takeWhile (· ≠ '\x00')

inductive Reserved where
  | modifier (keyword : Keyword)
  | type (keyword : Keyword) (type : DataType)
  | keyword (keyword : Keyword)
  deriving DecidableEq

def reserved : List (String × Reserved) :=
  [("signed", .modifier .kwSigned),
   ("unsigned", .modifier .kwUnsigned),
   ("inline", .modifier .kwInline),
   ("static", .modifier .kwStatic),
   ("volatile", .modifier .kwVolatile),
   ("void", .type .kwVoid .tVoid),
   ("char", .type .kwChar .tChar),
   ("short", .type .kwShort .tShort),
   ("int", .type .kwInt .tInt),
   ("long", .type .kwLong .tLong),
   ("box", .type .kwBox .tBox),
   ("meta", .type .kwMeta .tMeta),
   ("def", .type .kwDef .tDef),
   ("var", .type .kwVar .tVar),
   ("let", .type .kwLet .tLet),
   ("name", .keyword .kwName),
   ("content", .keyword .kwContent),
   ("print", .keyword .kwPrint),
   ("goto", .keyword .kwGoto),
   ("return", .keyword .kwReturn),
   ("exit", .keyword .kwExit),
   ("switch", .keyword .kwSwitch),
   ("case", .keyword .kwCase),
   ("break", .keyword .kwBreak),
   ("default", .keyword .kwDefault),
   ("for", .keyword .kwFor),
   ("continue", .keyword .kwContinue),
   ("do", .keyword .kwDo),
   ("while", .keyword .kwWhile),
   ("if", .keyword .kwIf),
   ("else", .keyword .kwElse),
   ("union", .keyword .kwUnion),
   ("struct", .keyword .kwStruct),
   ("enum", .keyword .kwEnum),
   ("sizeof", .keyword .kwSizeof)]

/-- The reserved word that the text is, `strlen` and `gramado_strncmp` together. -/
def reservedOf (text : List Char) : Option Reserved :=
  (reserved.find? fun entry => entry.1.toList = text).map Prod.snd

/-- `done`. The strings and the separators return before it. -/
def Globals.count (g : Globals) : Globals :=
  { g with lexerTokenCount := g.lexerTokenCount + 1 }

/-- What the word in the buffer is. -/
def classify (g : Globals) : Int × Globals :=
  match reservedOf g.realTokenBuffer with
  | some (.modifier found) => (TK_MODIFIER, { g with keywordFound := found })
  | some (.type found type) => (TK_TYPE, { g with keywordFound := found, typeFound := type })
  | some (.keyword found) => (TK_KEYWORD, { g with keywordFound := found })
  | none => (TK_IDENTIFIER, g)

def Globals.word (g : Globals) (buffer : List Int) : Int × Globals :=
  let (value, g) := classify { g with realTokenBuffer := written buffer }
  (value, g.count)

def Globals.constant (g : Globals) (base : Nat) (buffer : List Int) : Int × Globals :=
  (TK_CONSTANT, { g with realTokenBuffer := written buffer, constantBaseFound := base }.count)

def Globals.string (g : Globals) (buffer : List Int) : Int × Globals :=
  (TK_STRING, { g with realTokenBuffer := written buffer })

def Globals.separator (g : Globals) (c : Int) : Int × Globals :=
  (TK_SEPARATOR, { g with realTokenBuffer := written [c] })

def separators : List Int :=
  ['(', ')', '\x7b', '\x7d', '[', ']', ',', '.', ';', ':', '?'].map int

def operators : List Int :=
  ['+', '-', '*', '/', '<', '>', '&', '|', '%', '^', '!', '='].map int

/-- The switch behind `combine`. -/
def expressionOf (c : Int) (old : LexerCode) : LexerCode :=
  if c = int '+' then .plus
  else if c = int '-' then .minus
  else if c = int '*' then .mult
  else if c = int '/' then .truncDiv
  else if c = int '&' then .bitAnd
  else if c = int '|' then .bitIor
  else if c = int '%' then .truncMod
  else if c = int '^' then .bitXor
  else if c = TK_LSHIFT then .lshift
  else if c = TK_RSHIFT then .rshift
  else if c = int '<' then .lt
  else if c = int '>' then .gt
  else old

/-- The token of an operator with `=` behind it. -/
def assigned (c : Int) (old : LexerCode) : Int × LexerCode :=
  if c = int '<' then (TK_ARITHCOMPARE, .le)
  else if c = int '>' then (TK_ARITHCOMPARE, .ge)
  else if c = int '!' then (TK_EQCOMPARE, .ne)
  else if c = int '=' then (TK_EQCOMPARE, .eq)
  else (TK_ASSIGN, old)

/-- The token of an operator twice. The shifts go back to `combine`. -/
def doubled (c : Int) : Option Int :=
  if c = int '+' then some TK_PLUSPLUS
  else if c = int '-' then some TK_MINUSMINUS
  else if c = int '&' then some TK_ANDAND
  else if c = int '|' then some TK_OROR
  else if c = int '<' then some TK_LSHIFT
  else if c = int '>' then some TK_RSHIFT
  else none

def shifts (value : Int) : Bool :=
  value = TK_LSHIFT || value = TK_RSHIFT

/-- The token, or the shift to combine. -/
def combine (c : Int) (g : Globals) (input : Stream) :
    (Int × Globals × Stream) ⊕ (Int × Globals × Stream) :=
  let g := { g with lexerExpression := expressionOf c g.lexerExpression }
  let (c1, rest) := getc input
  let alone := if c = int '<' ∨ c = int '>' then TK_ARITHCOMPARE else c
  if c1 = int '=' then
    let (value, code) := assigned c g.lexerExpression
    .inl (value, { g with lexerExpression := code }, rest)
  else if c = c1 then
    match doubled c with
    | some value => if shifts value then .inr (value, g, rest) else .inl (value, g, rest)
    | none => .inl (alone, g, ungetc c1 rest)
  else if c = int '-' ∧ c1 = int '>' then
    .inl (TK_POINTSAT, g, rest)
  else
    .inl (alone, g, ungetc c1 rest)

/-- A shift does not come back to `combine` once more. -/
def operator (c : Int) (g : Globals) (input : Stream) : Int × Globals × Stream :=
  match combine c g input with
  | .inl token => token
  | .inr (shift, g, input) => (combine shift g input).elim id id

/-- The numbers that begin with 0 are those of base 16. -/
def hexadecimal (g : Globals) (input : Stream) : Except Stop (Int × Globals × Stream) :=
  let (x, rest) := getc input
  if x = int 'x' ∨ x = int 'X' then do
    let (digits, last, rest) ← collect isxdigit (TOKEN_BUFFER_MAX - 2) rest
    let (value, g) := g.constant 16 (int '0' :: x :: digits)
    .ok (value, g, ungetc last rest)
  else
    .error .reported

/-- The switch of `yylex`. -/
def token (c : Int) (g : Globals) (input : Stream) : Except Stop (Int × Globals × Stream) :=
  if c = eof ∨ c = 0 then
    .ok (TK_EOF, { g with eofno := g.eofno + 1, lexerLastline := g.currentLine }.count, input)
  else if beginsWord c then do
    let (more, last, rest) ← collect inWord (TOKEN_BUFFER_MAX - 1) input
    let (value, g) := g.word (c :: more)
    .ok (value, g, ungetc last rest)
  else if c = int '0' then
    hexadecimal g input
  else if isdigit c then do
    let (more, last, rest) ← collect isdigit (TOKEN_BUFFER_MAX - 1) input
    let (value, g) := g.constant 10 (c :: more)
    .ok (value, g, ungetc last rest)
  else if c = int '\"' then do
    let (body, _, rest) ← collect (· ≠ int '\"') TOKEN_BUFFER_MAX input
    let (value, g) := g.string body
    .ok (value, g, rest)
  else if c ∈ separators then
    let (value, g) := g.separator c
    .ok (value, g, input)
  else if c ∈ operators then
    let (value, g, rest) := operator c g input
    .ok (value, g.count, rest)
  else
    .ok (c, g.count, input)

def yylex (g : Globals) (input : Stream) : Except Stop (Int × Globals × Stream) := do
  let (c, currentLine, input) ← skipWhiteSpace .blank g.currentLine input
  token c { g with currentLine } input

/-- A token, with the globals as `yylex` leaves them. -/
structure Token where
  value : Int
  globals : Globals
  deriving DecidableEq

/-- How the calls of `yylex` end, up to the first TK_EOF. -/
abbrev Ending := Except Stop Token

/-- The tokens up to there, and where the lexer is. -/
structure Lexing where
  tokens : List Token
  globals : Globals
  input : Stream

def pass (l : Lexing) : (List Token × Ending) ⊕ Lexing :=
  match yylex l.globals l.input with
  | .error stop => .inl (l.tokens, .error stop)
  | .ok (value, g, rest) =>
      if value = TK_EOF then
        .inl (l.tokens, .ok ⟨value, g⟩)
      else
        .inr ⟨l.tokens ++ [⟨value, g⟩], g, rest⟩

def bytes (text : List UInt8) : Stream :=
  text.map fun b => (b.toNat : Int)

/-- The lexer begins with a file that `read` gives in these pieces. -/
def start (pieces : List Piece) : Lexing :=
  ⟨[], lexerInitialize, (fopen pieces).stream⟩

/-- What the calls of `yylex` give for the file. -/
def Lexes (pieces : List Piece) (tokens : List Token) (ending : Ending) : Prop :=
  Gives pass (start pieces) (tokens, ending)

end Gramado.Gramcnf.Lexer
