/-
The parser of gramcnf (parser.c): the outer loop, the loop inside a box, and the
statements. It goes on with what `vm_push` returns unread, so that here the
objects it pushes are listed. The generated text goes into arrays that `strcat`
knows no end of. Left out are the texts of the metadata and the printed lines; the
checks that the functions make of the token they begin with hold where they are
called.
-/
import Gramado.Gramcnf.Tree
import Gramado.Lib.Loop
import Mathlib.Logic.Function.Basic

namespace Gramado.Gramcnf.Parser

open Gramado.Lib.Loop
open Gramado.Gramcnf.Tree (Comparison operatorOf)
open Function (update)

/-- `type_found`, as far as the parser asks for it. -/
inductive TypeFound where
  | tBox
  | tMeta
  | tVar
  | other
  deriving DecidableEq

/-- `keyword_found`, as far as the parser asks for it. -/
inductive KeywordFound where
  | kwReturn
  | kwExit
  | kwBreak
  | kwGoto
  | kwIf
  | kwWhile
  | kwName
  | kwContent
  | kwPrint
  | other
  deriving DecidableEq

/-- What `yylex` returns, with what it sets beside. -/
inductive Code where
  | eof
  | modifier
  | type (found : TypeFound)
  | separator
  | keyword (found : KeywordFound)
  | identifier
  | string
  | constant (value : Int64)
  | arithcompare (expression : Comparison)
  | char (c : Char)
  | other
  deriving DecidableEq

/-- A token, and what it leaves in `real_token_buffer` unless it leaves the old
    text there, as operators and the end of the file do. -/
structure Token where
  code : Code
  text : Option (List Char)

inductive Opcode where
  | opRet
  | opPrint
  | opEof
  | opVarType
  | opBoxType
  | opMetaType
  | opBreak
  | opExit
  deriving DecidableEq

inductive Operand where
  | none
  | immediate
  | string
  deriving DecidableEq

/-- `struct object_d`, as far as the machine reads it. -/
structure Object where
  opcode : Opcode
  operand : Operand
  tokenBuffer : List Char
  value : UInt64

/-- `exit(1)` behind a message, `exit(0)` at the 32nd metadata, the loop behind a
    return without ';', what `tree_eval` stops with, and a write behind `save_symbol`
    or behind an array of the generated text. -/
inductive Stop where
  | reported
  | limit
  | hangs
  | expression (stop : Tree.Stop)
  | outside

/-- The arrays of the generated text. -/
inductive Buffer where
  | text
  | data
  | bss
  | outfile
  deriving DecidableEq

def Buffer.size : Buffer → Nat
  | .outfile => 512
  | _ => 1024

/-- `dump_output`, `save_symbol`, and what is in the arrays. -/
structure Output where
  dumpOutput : Bool
  saveSymbol : List Char
  contents : Buffer → List Char

/-- What `gramcnf_initialize` leaves. -/
def initialContents : Buffer → List Char
  | .text => "; ======================== \n".toList ++ "; Initializing TEXT buffer \n".toList ++
      "segment .text              \n".toList
  | .data => "; ======================== \n".toList ++ "; Initializing DATA buffer \n".toList ++
      "segment .data              \n".toList
  | .bss => "; ======================== \n".toList ++ "; Initializing BSS buffer  \n".toList ++
      "segment .bss               \n".toList
  | .outfile => "; ========================\n".toList ++ ";Initializing outfile ... \n\n".toList

/-- The tokens to come, the globals of the lexer and the parser, and the objects
    that `vm_push` was called for. -/
structure Reader where
  tokens : List Token
  realTokenBuffer : List Char
  typeFound : TypeFound
  metaIndex : Nat
  output : Output
  pushed : List Object

abbrev Parse := StateT Reader (Except Stop)

/-- Behind the last token there is TK_EOF, however often one asks. -/
def yylex : Parse Code := do
  let r ← get
  match r.tokens with
  | [] => return .eof
  | token :: rest =>
      set { r with
        tokens := rest
        realTokenBuffer := token.text.getD r.realTokenBuffer
        typeFound :=
          match token.code with
          | .type found => found
          | _ => r.typeFound }
      return token.code

/-- `gramado_strncmp` compares with the end of the text too. -/
def isText (c : Char) : Parse Bool := do
  return (← get).realTokenBuffer = [c]

def expect (met : Bool) : Parse Unit :=
  if met then pure () else throw .reported

def vmPush (o : Object) : Parse Unit :=
  modify fun r => { r with pushed := r.pushed ++ [o] }

/-- With a text behind what is in the array. -/
def Reader.append (r : Reader) (buffer : Buffer) (source : List Char) : Reader :=
  let contents := update r.output.contents buffer (r.output.contents buffer ++ source)
  { r with output := { r.output with contents } }

def strcat (buffer : Buffer) (source : List Char) : Parse Unit := do
  let r ← get
  if (r.output.contents buffer).length + source.length < buffer.size then
    set (r.append buffer source)
  else
    throw .outside

def strcatSymbol (buffer : Buffer) (tail : String) : Parse Unit := do
  strcat buffer ['_']
  strcat buffer (← get).output.saveSymbol
  strcat buffer tail.toList

/-- `sprintf` into `save_symbol`. -/
def saveSymbol : Parse Unit := do
  let r ← get
  if r.realTokenBuffer.length < 32 then
    set { r with output := { r.output with saveSymbol := r.realTokenBuffer } }
  else
    throw .outside

def emitLabel : Parse Unit := do
  strcat .text ";[LABEL]\n".toList
  strcat .text "segment .text\n".toList
  strcatSymbol .text ":\n"

def emitFunction : Parse Unit := do
  strcat .text ";[FUNCTION] (\n".toList
  strcat .text "segment .text \n".toList
  strcatSymbol .text ":\n"

def concatIntoOutfile : Parse Unit := do
  strcat .outfile ((← get).output.contents .text)
  strcat .outfile ((← get).output.contents .data)
  strcat .outfile ((← get).output.contents .bss)

/-- The tokens as `tree_eval` sees them, up to the end of the file. -/
def treeTokens : List Char → List Token → List Tree.Token
  | _, [] => []
  | buffer, token :: rest =>
      let buffer := token.text.getD buffer
      match token.code with
      | .eof => []
      | .constant value => .constant value :: treeTokens buffer rest
      | .separator =>
          match buffer with
          | [c] => .separator c :: treeTokens buffer rest
          | _ => .other :: treeTokens buffer rest
      | .arithcompare expression => .arithcompare expression :: treeTokens buffer rest
      | .char c => .char c :: treeTokens buffer rest
      | _ => .other :: treeTokens buffer rest

/-- How many tokens `tree_eval` takes. -/
def taken : Tree.State → List Tree.Token → Nat
  | _, [] => 0
  | state, token :: rest =>
      if token = .separator ';' then
        1
      else
        match state with
        | .number => taken .operator rest + 1
        | .operator =>
            match operatorOf token with
            | some _ => taken .number rest + 1
            | none => if token = .separator ')' then 1 else taken .operator rest + 1

def skip : Nat → Parse Unit
  | 0 => pure ()
  | n + 1 => do
      let _ ← yylex
      skip n

def treeEval : Parse UInt64 := do
  let r ← get
  let exp := treeTokens r.realTokenBuffer r.tokens
  match Tree.treeEval exp with
  | .error stop => throw (.expression stop)
  | .ok value => do
      skip (taken .number exp)
      return value

section Statements

-- The memory that `malloc` gives, for the objects of which only the opcode is set.
variable (raw : Object)

def parseMeta : Parse Unit :=
  vmPush { raw with opcode := .opMetaType }

/-- `name` and `content`, which differ in the size of the text. -/
def parseText (bound : Nat) : Parse Unit := do
  expect ((← yylex) = .separator)
  expect ((← yylex) = .string)
  let string := (← get).realTokenBuffer
  expect (0 < string.length && string.length < bound)
  strcat .outfile string
  strcat .outfile ['\n']
  let _ ← yylex
  expect (← isText ')')
  let _ ← yylex
  expect (← isText ';')

def parseName : Parse Unit :=
  parseText 64

def parseContent : Parse Unit :=
  parseText 128

def parsePrint : Parse Unit := do
  expect ((← yylex) = .separator)
  expect (← isText '(')
  expect ((← yylex) = .string)
  vmPush ⟨.opPrint, .none, (← get).realTokenBuffer, 0⟩
  let _ ← yylex
  expect (← isText ')')
  let _ ← yylex
  expect (← isText ';')

/-- `if` and `while`, whose expression is evaluated and whose body is three
    separators. -/
def parseCondition : Parse Unit := do
  expect ((← yylex) = .separator)
  let _ ← treeEval
  expect ((← yylex) = .separator)
  expect ((← yylex) = .separator)
  expect ((← yylex) = .separator)

def parseIf : Parse Unit :=
  parseCondition

def parseWhile : Parse Unit :=
  parseCondition

def parseVar : Parse Unit := do
  expect ((← yylex) = .identifier)
  let varName := (← get).realTokenBuffer
  let c ← yylex
  if c = .char '=' then do
    let value ← treeEval
    vmPush ⟨.opVarType, .immediate, varName, value⟩
  else do
    expect (c = .separator)
    if ← isText ';' then
      vmPush ⟨.opVarType, .none, varName, 0⟩
    else do
      expect (← isText ':')
      expect ((← yylex) = .string)
      vmPush ⟨.opVarType, .string, (← get).realTokenBuffer, 0⟩
      expect ((← yylex) = .separator)
      expect (← isText ';')

def parseReturn : Parse Unit := do
  let _ ← treeEval
  vmPush ⟨.opRet, .immediate, (← get).realTokenBuffer, 0⟩
  if ← isText ';' then pure () else throw .hangs

/-- `exit` and `break`. -/
def parseWord (opcode : Opcode) (marker comment : String) : Parse Unit := do
  strcat .text marker.toList
  strcat .text comment.toList
  vmPush { raw with opcode }
  expect ((← yylex) = .separator)
  expect (← isText ';')

def parseExit : Parse Unit :=
  parseWord raw .opExit ";[EXIT]\n" "  ; program requested exit\n"

def parseBreak : Parse Unit :=
  parseWord raw .opBreak ";[BREAK]\n" "  ; program requested break\n"

/-- What the loop of `parser_box` carries from pass to pass; `start` is
    `StartWithToken`. -/
structure Box where
  start : Bool
  state : Nat
  waitingIdentifierAfterType : Bool
  bracesInside : Nat
  parenthesesInside : Nat
  squareBracketsInside : Nat

/-- Whether the parser is in the outer loop or in a box. -/
inductive Mode where
  | loop
  | box (b : Box)

/-- A statement that ends the metadata of a box. -/
def nextMeta : Parse Unit := do
  modify fun r => { r with metaIndex := r.metaIndex + 1 }
  if (← get).metaIndex ≥ 32 then throw .limit else pure ()

def boxStatement (b : Box) : KeywordFound → Parse Mode
  | .kwReturn => do
      parseReturn
      nextMeta
      return .box { b with state := 1 }
  | .kwExit => do
      parseExit raw
      nextMeta
      return .loop
  | .kwBreak => do
      parseBreak raw
      nextMeta
      return .box { b with state := 1 }
  -- Neither a goto nor a keyword nobody knows changes the state.
  | .kwGoto => return .box b
  | .kwIf => do
      parseIf
      return .box { b with state := 1 }
  | .kwWhile => do
      parseWhile
      return .box { b with state := 1 }
  | .kwName => do
      parseName
      return .box { b with state := 1 }
  | .kwContent => do
      parseContent
      return .box { b with state := 1 }
  | .kwPrint => do
      parsePrint
      return .box { b with state := 1 }
  | .other => return .box b

def boxState3 (b : Box) (token : Code) : Parse Mode :=
  match token with
  | .keyword found => boxStatement raw b found
  | _ =>
      if b.parenthesesInside > 0 then
        throw .reported
      else if b.bracesInside > 0 then
        return .box { b with state := 1 }
      else
        throw .reported

/-- The separator behind a symbol. -/
def boxSymbol (b : Box) : Parse Mode := do
  expect ((← yylex) = .separator)
  if ← isText ':' then do
    emitLabel
    return .box { b with state := 1 }
  else if ← isText '[' then
    return .box { b with squareBracketsInside := b.squareBracketsInside + 1, state := 1 }
  else if ← isText '(' then do
    emitFunction
    return .box { b with parenthesesInside := b.parenthesesInside + 1, state := 1 }
  else if ← isText ')' then do
    expect (b.parenthesesInside ≥ 1)
    let b := { b with parenthesesInside := b.parenthesesInside - 1 }
    strcatSymbol .bss ": dd 0 \n"
    let _ ← yylex
    if ← isText '\x7b' then
      return .box { b with bracesInside := b.bracesInside + 1, state := 1 }
    else
      return .box b
  else if ← isText ';' then do
    strcatSymbol .bss ": dd 0 \n"
    return .box { b with state := 1 }
  else if ← isText ',' then do
    strcatSymbol .bss ": dd 0 \n"
    return .box { b with state := 1 }
  else
    throw .reported

def boxState2 (b : Box) (token : Code) : Parse Mode :=
  match token with
  | .identifier => do
      saveSymbol
      let r ← get
      expect (!(b.waitingIdentifierAfterType && r.typeFound = .tMeta &&
        r.realTokenBuffer.length = 0))
      boxSymbol { b with waitingIdentifierAfterType := false }
  | _ =>
      if b.parenthesesInside > 0 then
        boxState3 raw { b with state := 3 } token
      else if b.bracesInside > 0 then
        boxState3 raw { b with state := 3 } token
      else
        throw .reported

def boxSeparator (b : Box) : Parse Mode := do
  if ← isText '(' then do
    strcatSymbol .outfile ":\n"
    return .box { b with parenthesesInside := b.parenthesesInside + 1 }
  else if ← isText '\x7b' then
    return .box { b with bracesInside := b.bracesInside + 1 }
  else if (← isText ']') && b.squareBracketsInside > 0 then
    -- The last bracket ends the box.
    if b.squareBracketsInside - 1 = 0 then
      return .loop
    else
      return .box { b with squareBracketsInside := b.squareBracketsInside - 1 }
  else if (← isText ')') && b.parenthesesInside > 0 then
    return .box { b with parenthesesInside := b.parenthesesInside - 1 }
  else if (← isText '\x7d') && b.bracesInside > 0 then
    return .box { b with bracesInside := b.bracesInside - 1 }
  else
    return .box b

def boxState1 (b : Box) (token : Code) : Parse Mode :=
  match token with
  | .modifier => return .box { b with state := 1 }
  | .type .tBox => do
      vmPush { raw with opcode := .opBoxType }
      return .box { b with waitingIdentifierAfterType := true, state := 2 }
  | .type .tMeta => do
      parseMeta raw
      return .box { b with waitingIdentifierAfterType := true, state := 2 }
  | .type _ => return .box { b with state := 2 }
  | .separator => boxSeparator b
  | _ =>
      if b.parenthesesInside > 0 then
        boxState2 raw { b with state := 2 } token
      else if b.bracesInside > 0 then
        boxState2 raw { b with state := 2 } token
      else
        -- What is no declaration ends the box.
        return .loop

def boxState4 (b : Box) (token : Code) : Parse Mode := do
  expect (token = .separator)
  expect (← isText ';')
  return .box b

/-- What the loop of `parser_box` does with a token. -/
def boxTurn (b : Box) (token : Code) : Parse Mode :=
  if token = .eof then do
    vmPush { raw with opcode := .opEof }
    return .loop
  else
    match b.state with
    | 1 => boxState1 raw b token
    | 2 => boxState2 raw b token
    | 3 => boxState3 raw b token
    | 4 => boxState4 b token
    | _ => return .loop

/-- A pass of it, the first one of which begins with the type that led there. -/
def boxPass (b : Box) : Parse Mode :=
  if b.start then
    boxTurn raw { b with start := false } (.type .tBox)
  else do
    boxTurn raw b (← yylex)

/-- What is behind the loop of `parser_loop`. -/
def loopDone : Parse Unit := do
  if (← get).output.dumpOutput then concatIntoOutfile else pure ()

/-- What the loop does with a token; it is in its state 1 throughout. None when the
    loop ends. -/
def loopTurn (token : Code) : Parse (Option Mode) :=
  match token with
  | .eof => do
      vmPush { raw with opcode := .opEof }
      loopDone
      return none
  | .type .tBox => do
      modify fun r => { r with metaIndex := 0 }
      return some (.box ⟨true, 1, false, 0, 0, 0⟩)
  | .type .tMeta => throw .reported
  | .type .tVar => do
      parseVar
      return some .loop
  | .keyword .kwPrint => do
      parsePrint
      return some .loop
  | .keyword .kwExit => do
      parseExit raw
      loopDone
      return none
  | .keyword _ => throw .reported
  | _ => return some .loop

def loopPass : Parse (Option Mode) := do
  loopTurn raw (← yylex)

/-- A pass of whatever loop the parser is in, and how it ends: stopped, or with
    the objects that it pushed. -/
def pass (point : Mode × Reader) : Except Stop (List Object) ⊕ (Mode × Reader) :=
  match point.1 with
  | .loop =>
      match (loopPass raw).run point.2 with
      | .error stop => .inl (.error stop)
      | .ok (none, r) => .inl (.ok r.pushed)
      | .ok (some mode, r) => .inr (mode, r)
  | .box b =>
      match (boxPass raw b).run point.2 with
      | .error stop => .inl (.error stop)
      | .ok (mode, r) => .inr (mode, r)

/-- What `__parserInit` leaves: `type_found` is of no interest before a type. -/
def start (dumpOutput : Bool) (tokens : List Token) : Reader :=
  ⟨tokens, [], .other, 0, ⟨dumpOutput, [], initialContents⟩, []⟩

/-- The parser ends without an error and without a write outside of its arrays, and
    has called `vm_push` for these objects. -/
def Accepts (dumpOutput : Bool) (tokens : List Token) (objects : List Object) : Prop :=
  Gives (pass raw) (.loop, start dumpOutput tokens) (.ok objects)

end Statements

/-- The opcodes of a statement inside a box. -/
def statementOpcodes : KeywordFound → List Opcode
  | .kwReturn => [.opRet]
  | .kwExit => [.opExit]
  | .kwBreak => [.opBreak]
  | .kwPrint => [.opPrint]
  | _ => []

def keywordOpcodes : Code → List Opcode
  | .keyword found => statementOpcodes found
  | _ => []

/-- Inside parentheses or braces a keyword begins a statement. -/
def Box.inBody (b : Box) : Prop :=
  b.parenthesesInside > 0 ∨ b.bracesInside > 0

instance (b : Box) : Decidable b.inBody :=
  inferInstanceAs (Decidable (_ ∨ _))

def bodyOpcodes (b : Box) (token : Code) : List Opcode :=
  if b.inBody then keywordOpcodes token else []

/-- The types of a box and of its metadata emit too. -/
def declarationOpcodes (b : Box) : Code → List Opcode
  | .type .tBox => [.opBoxType]
  | .type .tMeta => [.opMetaType]
  | token => bodyOpcodes b token

def stateOpcodes (b : Box) (token : Code) : List Opcode :=
  match b.state with
  | 1 => declarationOpcodes b token
  | 2 => bodyOpcodes b token
  | 3 => keywordOpcodes token
  | _ => []

def boxOpcodes (b : Box) (token : Code) : List Opcode :=
  if token = .eof then [.opEof] else stateOpcodes b token

def loopOpcodes : Code → List Opcode
  | .eof => [.opEof]
  | .type .tVar => [.opVarType]
  | .keyword .kwPrint => [.opPrint]
  | .keyword .kwExit => [.opExit]
  | _ => []

def Reader.next (r : Reader) : Code :=
  match r.tokens with
  | [] => .eof
  | token :: _ => token.code

/-- What the statement that begins there emits: one object, or none. -/
def emits (point : Mode × Reader) : List Opcode :=
  match point.1 with
  | .loop => loopOpcodes point.2.next
  | .box b => boxOpcodes b (if b.start then .type .tBox else point.2.next)

/-- What the statements of the next `n` passes emit, in order. -/
def emitted (raw : Object) : Nat → Mode × Reader → List Opcode
  | 0, _ => []
  | n + 1, point =>
      emits point ++
        match pass raw point with
        | .inl _ => []
        | .inr later => emitted raw n later

/-- Where it ends without an error, the part of the parser has pushed objects with
    these opcodes. -/
def Pushes {α : Type} (opcodes : List Opcode) (x : Parse α) : Prop :=
  ∀ r a t, x.run r = .ok (a, t) →
    ∃ objects, t.pushed = r.pushed ++ objects ∧ objects.map Object.opcode = opcodes

section Parts

variable {α β : Type} {raw : Object} {x : Parse α} {f : α → Parse β}
  {first later opcodes : List Opcode} {b : Box}

theorem run_bind_ok {r t : Reader} {b : β} (served : (x >>= f).run r = .ok (b, t)) :
    ∃ a s, x.run r = .ok (a, s) ∧ (f a).run s = .ok (b, t) := by
  rw [StateT.run_bind] at served
  cases first : x.run r with
  | error stop =>
      rw [first] at served
      cases served
  | ok out =>
      rw [first] at served
      exact ⟨out.1, out.2, rfl, served⟩

theorem Pushes.bind (early : Pushes first x) (late : ∀ a, Pushes later (f a)) :
    Pushes (first ++ later) (x >>= f) := by
  intro r b t served
  rcases run_bind_ok served with ⟨a, s, begins, ends⟩
  rcases early r a s begins with ⟨front, before, codes⟩
  rcases late a s b t ends with ⟨back, behind, others⟩
  refine ⟨front ++ back, ?_, ?_⟩
  · rw [behind, before, List.append_assoc]
  · rw [List.map_append, codes, others]

theorem Pushes.quiet (early : Pushes [] x) (late : ∀ a, Pushes opcodes (f a)) :
    Pushes opcodes (x >>= f) :=
  early.bind late

theorem Pushes.then_quiet (early : Pushes opcodes x) (late : ∀ a, Pushes [] (f a)) :
    Pushes opcodes (x >>= f) := by
  have all := early.bind late
  rwa [List.append_nil] at all

theorem pushes_pure (a : α) : Pushes [] (pure a : Parse α) := by
  intro r a' t served
  cases served
  exact ⟨[], (List.append_nil _).symm, rfl⟩

theorem pushes_throw (stop : Stop) : Pushes opcodes (throw stop : Parse α) := by
  intro r a t served
  cases served

theorem get_pushes : Pushes [] (get : Parse Reader) := by
  intro r a t served
  cases served
  exact ⟨[], (List.append_nil _).symm, rfl⟩

theorem yylex_pushes : Pushes [] yylex := by
  rintro ⟨tokens, buffer, found, index, output, pushed⟩ code t served
  cases tokens with
  | nil =>
      cases served
      exact ⟨[], (List.append_nil _).symm, rfl⟩
  | cons token rest =>
      cases served
      exact ⟨[], (List.append_nil _).symm, rfl⟩

theorem isText_pushes (c : Char) : Pushes [] (isText c) := by
  intro r same t served
  cases served
  exact ⟨[], (List.append_nil _).symm, rfl⟩

theorem expect_pushes (met : Bool) : Pushes [] (expect met) := by
  cases met with
  | false => exact pushes_throw _
  | true => exact pushes_pure _

theorem vmPush_pushes (o : Object) : Pushes [o.opcode] (vmPush o) := by
  intro r a t served
  cases served
  exact ⟨[o], rfl, rfl⟩

theorem strcat_pushes (buffer : Buffer) (source : List Char) :
    Pushes [] (strcat buffer source) := by
  intro r a t served
  rcases run_bind_ok served with ⟨_, s, gets, writes⟩
  cases gets
  split at writes
  · cases writes
    exact ⟨[], (List.append_nil _).symm, rfl⟩
  · cases writes

theorem strcatSymbol_pushes (buffer : Buffer) (tail : String) :
    Pushes [] (strcatSymbol buffer tail) :=
  (strcat_pushes _ _).quiet fun _ => get_pushes.quiet fun _ => (strcat_pushes _ _).quiet fun _ =>
    strcat_pushes _ _

theorem saveSymbol_pushes : Pushes [] saveSymbol := by
  intro r a t served
  rcases run_bind_ok served with ⟨_, s, gets, writes⟩
  cases gets
  split at writes
  · cases writes
    exact ⟨[], (List.append_nil _).symm, rfl⟩
  · cases writes

theorem emitLabel_pushes : Pushes [] emitLabel :=
  (strcat_pushes _ _).quiet fun _ => (strcat_pushes _ _).quiet fun _ => strcatSymbol_pushes _ _

theorem emitFunction_pushes : Pushes [] emitFunction :=
  (strcat_pushes _ _).quiet fun _ => (strcat_pushes _ _).quiet fun _ => strcatSymbol_pushes _ _

theorem concatIntoOutfile_pushes : Pushes [] concatIntoOutfile :=
  get_pushes.quiet fun _ => (strcat_pushes _ _).quiet fun _ => get_pushes.quiet fun _ =>
    (strcat_pushes _ _).quiet fun _ => get_pushes.quiet fun _ => strcat_pushes _ _

theorem loopDone_pushes : Pushes [] loopDone := by
  refine get_pushes.quiet fun r => ?_
  cases r.output.dumpOutput with
  | true => exact concatIntoOutfile_pushes
  | false => exact pushes_pure ()

theorem skip_pushes (n : Nat) : Pushes [] (skip n) := by
  induction n with
  | zero => exact pushes_pure ()
  | succ n ih => exact yylex_pushes.quiet fun _ => ih

theorem treeEval_pushes : Pushes [] treeEval := by
  refine get_pushes.quiet fun r => ?_
  cases evaluated : Tree.treeEval (treeTokens r.realTokenBuffer r.tokens) with
  | error stop =>
      simp only [evaluated]
      exact pushes_throw _
  | ok value =>
      simp only [evaluated]
      exact (skip_pushes _).quiet fun _ => pushes_pure value

theorem separator_pushes (c : Char) : Pushes [] (do
    expect ((← yylex) = .separator)
    expect (← isText c)) :=
  yylex_pushes.quiet fun _ => (expect_pushes _).quiet fun _ =>
    (isText_pushes c).quiet fun _ => expect_pushes _

theorem closing_pushes : Pushes [] (do
    let _ ← yylex
    expect (← isText ')')
    let _ ← yylex
    expect (← isText ';')) :=
  yylex_pushes.quiet fun _ => (isText_pushes _).quiet fun _ => (expect_pushes _).quiet fun _ =>
    yylex_pushes.quiet fun _ => (isText_pushes _).quiet fun _ => expect_pushes _

theorem parseText_pushes (bound : Nat) : Pushes [] (parseText bound) :=
  yylex_pushes.quiet fun _ => (expect_pushes _).quiet fun _ =>
    yylex_pushes.quiet fun _ => (expect_pushes _).quiet fun _ =>
      get_pushes.quiet fun _ => (expect_pushes _).quiet fun _ =>
        (strcat_pushes _ _).quiet fun _ => (strcat_pushes _ _).quiet fun _ => closing_pushes

theorem parsePrint_pushes : Pushes [.opPrint] parsePrint :=
  yylex_pushes.quiet fun _ => (expect_pushes _).quiet fun _ =>
    (isText_pushes _).quiet fun _ => (expect_pushes _).quiet fun _ =>
      yylex_pushes.quiet fun _ => (expect_pushes _).quiet fun _ =>
        get_pushes.quiet fun _ => (vmPush_pushes _).then_quiet fun _ => closing_pushes

theorem parseCondition_pushes : Pushes [] parseCondition :=
  yylex_pushes.quiet fun _ => (expect_pushes _).quiet fun _ => treeEval_pushes.quiet fun _ =>
    yylex_pushes.quiet fun _ => (expect_pushes _).quiet fun _ =>
      yylex_pushes.quiet fun _ => (expect_pushes _).quiet fun _ =>
        yylex_pushes.quiet fun _ => expect_pushes _

theorem parseVar_pushes : Pushes [.opVarType] parseVar := by
  refine yylex_pushes.quiet fun _ => (expect_pushes _).quiet fun _ => get_pushes.quiet fun r => ?_
  refine yylex_pushes.quiet fun c => ?_
  by_cases assigns : c = .char '='
  · simp only [if_pos assigns]
    exact treeEval_pushes.quiet fun value => vmPush_pushes _
  · simp only [if_neg assigns]
    refine (expect_pushes _).quiet fun _ => (isText_pushes _).quiet fun bare => ?_
    cases bare with
    | true => exact vmPush_pushes _
    | false =>
        exact (isText_pushes _).quiet fun _ => (expect_pushes _).quiet fun _ =>
          yylex_pushes.quiet fun _ => (expect_pushes _).quiet fun _ =>
            get_pushes.quiet fun _ => (vmPush_pushes _).then_quiet fun _ => separator_pushes _

theorem parseReturn_pushes : Pushes [.opRet] parseReturn := by
  refine treeEval_pushes.quiet fun _ => get_pushes.quiet fun _ =>
    (vmPush_pushes _).then_quiet fun _ => (isText_pushes _).quiet fun ended => ?_
  cases ended with
  | true => exact pushes_pure ()
  | false => exact pushes_throw _

theorem parseWord_pushes (opcode : Opcode) (marker comment : String) :
    Pushes [opcode] (parseWord raw opcode marker comment) :=
  (strcat_pushes _ _).quiet fun _ => (strcat_pushes _ _).quiet fun _ =>
    (vmPush_pushes _).then_quiet fun _ => separator_pushes _

theorem nextMeta_pushes : Pushes [] nextMeta := by
  intro r a t served
  rcases run_bind_ok served with ⟨_, s, counts, rest⟩
  rcases run_bind_ok rest with ⟨_, u, gets, checks⟩
  cases counts
  cases gets
  split at checks
  · cases checks
  · cases checks
    exact ⟨[], (List.append_nil _).symm, rfl⟩

theorem boxStatement_pushes (found : KeywordFound) :
    Pushes (statementOpcodes found) (boxStatement raw b found) := by
  have again : ∀ mode : Mode, Pushes [] (pure mode : Parse Mode) := pushes_pure
  cases found with
  | kwReturn =>
      exact parseReturn_pushes.then_quiet fun _ => nextMeta_pushes.quiet fun _ => again _
  | kwExit =>
      exact (parseWord_pushes _ _ _).then_quiet fun _ => nextMeta_pushes.quiet fun _ => again _
  | kwBreak =>
      exact (parseWord_pushes _ _ _).then_quiet fun _ => nextMeta_pushes.quiet fun _ => again _
  | kwGoto => exact again _
  | kwIf => exact parseCondition_pushes.quiet fun _ => again _
  | kwWhile => exact parseCondition_pushes.quiet fun _ => again _
  | kwName => exact (parseText_pushes _).quiet fun _ => again _
  | kwContent => exact (parseText_pushes _).quiet fun _ => again _
  | kwPrint => exact parsePrint_pushes.then_quiet fun _ => again _
  | other => exact again _

/-- In state 3 a keyword begins its statement, and nothing else emits. -/
theorem boxState3_pushes {token : Code} :
    Pushes (keywordOpcodes token) (boxState3 raw b token) := by
  have other : Pushes [] (if b.parenthesesInside > 0 then throw Stop.reported
      else if b.bracesInside > 0 then pure (.box { b with state := 1 })
      else throw .reported : Parse Mode) := by
    split
    · exact pushes_throw _
    · split
      · exact pushes_pure _
      · exact pushes_throw _
  cases token with
  | keyword found => exact boxStatement_pushes found
  | eof => exact other
  | modifier => exact other
  | type found => exact other
  | separator => exact other
  | identifier => exact other
  | string => exact other
  | constant value => exact other
  | arithcompare expression => exact other
  | char c => exact other
  | other => exact other

theorem boxSymbol_pushes : Pushes [] (boxSymbol b) := by
  have again : ∀ mode : Mode, Pushes [] (pure mode : Parse Mode) := pushes_pure
  refine yylex_pushes.quiet fun _ => (expect_pushes _).quiet fun _ => ?_
  refine (isText_pushes _).quiet fun colon => ?_
  split
  · exact emitLabel_pushes.quiet fun _ => again _
  · refine (isText_pushes _).quiet fun bracket => ?_
    split
    · exact again _
    · refine (isText_pushes _).quiet fun opens => ?_
      split
      · exact emitFunction_pushes.quiet fun _ => again _
      · refine (isText_pushes _).quiet fun closes => ?_
        split
        · refine (expect_pushes _).quiet fun _ => (strcatSymbol_pushes _ _).quiet fun _ =>
            yylex_pushes.quiet fun _ => (isText_pushes _).quiet fun body => ?_
          split
          · exact again _
          · exact again _
        · refine (isText_pushes _).quiet fun ends => ?_
          split
          · exact (strcatSymbol_pushes _ _).quiet fun _ => again _
          · refine (isText_pushes _).quiet fun lists => ?_
            split
            · exact (strcatSymbol_pushes _ _).quiet fun _ => again _
            · exact pushes_throw _

theorem boxState2_pushes {token : Code} :
    Pushes (bodyOpcodes b token) (boxState2 raw b token) := by
  rw [bodyOpcodes]
  have other : Pushes (if b.inBody then keywordOpcodes token else [])
      (if b.parenthesesInside > 0 then boxState3 raw { b with state := 3 } token
        else if b.bracesInside > 0 then boxState3 raw { b with state := 3 } token
        else throw .reported) := by
    by_cases parentheses : b.parenthesesInside > 0
    · rw [if_pos (.inl parentheses), if_pos parentheses]
      exact boxState3_pushes
    · by_cases braces : b.bracesInside > 0
      · rw [if_pos (.inr braces), if_neg parentheses, if_pos braces]
        exact boxState3_pushes
      · rw [if_neg parentheses, if_neg braces]
        exact pushes_throw _
  cases token with
  | identifier =>
      have none : (if b.inBody then keywordOpcodes .identifier else []) = [] := ite_self _
      rw [none]
      exact saveSymbol_pushes.quiet fun _ => get_pushes.quiet fun _ =>
        (expect_pushes _).quiet fun _ => boxSymbol_pushes
  | keyword found => exact other
  | eof => exact other
  | modifier => exact other
  | type found => exact other
  | separator => exact other
  | string => exact other
  | constant value => exact other
  | arithcompare expression => exact other
  | char c => exact other
  | other => exact other

theorem boxSeparator_pushes : Pushes [] (boxSeparator b) := by
  have again : ∀ mode : Mode, Pushes [] (pure mode : Parse Mode) := pushes_pure
  refine (isText_pushes _).quiet fun opens => ?_
  split
  · exact (strcatSymbol_pushes _ _).quiet fun _ => again _
  · refine (isText_pushes _).quiet fun body => ?_
    split
    · exact again _
    · refine (isText_pushes _).quiet fun bracket => ?_
      split
      · split
        · exact again _
        · exact again _
      · refine (isText_pushes _).quiet fun closes => ?_
        split
        · exact again _
        · refine (isText_pushes _).quiet fun ends => ?_
          split
          · exact again _
          · exact again _

theorem boxState1_keyword {found : KeywordFound} :
    Pushes (if b.inBody then statementOpcodes found else [])
      (boxState1 raw b (.keyword found)) := by
  have through : Pushes (if b.inBody then statementOpcodes found else [])
      (boxState2 raw { b with state := 2 } (.keyword found)) := boxState2_pushes
  have unfolded : boxState1 raw b (.keyword found) =
      if b.parenthesesInside > 0 then boxState2 raw { b with state := 2 } (.keyword found)
      else if b.bracesInside > 0 then boxState2 raw { b with state := 2 } (.keyword found)
      else pure .loop := rfl
  rw [unfolded]
  by_cases parentheses : b.parenthesesInside > 0
  · rw [if_pos parentheses]
    exact through
  · by_cases braces : b.bracesInside > 0
    · rw [if_neg parentheses, if_pos braces]
      exact through
    · have outside : ¬b.inBody := not_or.mpr ⟨parentheses, braces⟩
      rw [if_neg parentheses, if_neg braces, if_neg outside]
      exact pushes_pure _

theorem boxState1_other {token : Code} (quiet : keywordOpcodes token = []) : Pushes []
    (if b.parenthesesInside > 0 then boxState2 raw { b with state := 2 } token
      else if b.bracesInside > 0 then boxState2 raw { b with state := 2 } token
      else pure .loop) := by
  have through : Pushes [] (boxState2 raw { b with state := 2 } token) := by
    have all : Pushes (bodyOpcodes { b with state := 2 } token)
        (boxState2 raw { b with state := 2 } token) := boxState2_pushes
    rwa [bodyOpcodes, quiet, ite_self] at all
  split
  · exact through
  · split
    · exact through
    · exact pushes_pure _

theorem boxState4_pushes {token : Code} : Pushes [] (boxState4 b token) :=
  (expect_pushes _).quiet fun _ => (isText_pushes _).quiet fun _ =>
    (expect_pushes _).quiet fun _ => pushes_pure _

theorem boxState1_pushes {token : Code} (going : token ≠ .eof) :
    Pushes (declarationOpcodes b token) (boxState1 raw b token) := by
  have again : ∀ mode : Mode, Pushes [] (pure mode : Parse Mode) := pushes_pure
  have other : ∀ token, keywordOpcodes token = [] → Pushes (bodyOpcodes b token)
      (if b.parenthesesInside > 0 then boxState2 raw { b with state := 2 } token
        else if b.bracesInside > 0 then boxState2 raw { b with state := 2 } token
        else pure .loop) := by
    intro token quiet
    rw [bodyOpcodes, quiet, ite_self]
    exact boxState1_other quiet
  have nothing : ∀ token, keywordOpcodes token = [] → bodyOpcodes b token = [] := by
    intro token quiet
    rw [bodyOpcodes, quiet, ite_self]
  cases token with
  | eof => exact absurd rfl going
  | type found =>
      cases found with
      | tBox => exact (vmPush_pushes _).then_quiet fun _ => again _
      | tMeta => exact (vmPush_pushes _).then_quiet fun _ => again _
      | tVar =>
          rw [declarationOpcodes, nothing _ rfl]
          · exact again _
          · simp
          · simp
      | other =>
          rw [declarationOpcodes, nothing _ rfl]
          · exact again _
          · simp
          · simp
  | keyword found => exact boxState1_keyword
  | modifier =>
      have quiet : declarationOpcodes b .modifier = [] := nothing _ rfl
      rw [quiet]
      exact again _
  | separator =>
      have quiet : declarationOpcodes b .separator = [] := nothing _ rfl
      rw [quiet]
      exact boxSeparator_pushes
  | identifier => exact other _ rfl
  | string => exact other _ rfl
  | constant value => exact other _ rfl
  | arithcompare expression => exact other _ rfl
  | char c => exact other _ rfl
  | other => exact other _ rfl

theorem boxTurn_pushes (b : Box) (token : Code) :
    Pushes (boxOpcodes b token) (boxTurn raw b token) := by
  have again : ∀ mode : Mode, Pushes [] (pure mode : Parse Mode) := pushes_pure
  by_cases ends : token = .eof
  · rw [boxOpcodes, if_pos ends, boxTurn, if_pos ends]
    exact (vmPush_pushes _).then_quiet fun _ => again _
  · rw [boxOpcodes, if_neg ends, boxTurn, if_neg ends]
    rcases b with ⟨start, state, waiting, braces, parentheses, brackets⟩
    rcases state with - | - | - | - | - | state
    · exact again _
    · exact boxState1_pushes ends
    · exact boxState2_pushes
    · exact boxState3_pushes
    · exact boxState4_pushes
    · exact again _

theorem loopTurn_pushes (token : Code) :
    Pushes (loopOpcodes token) (loopTurn raw token) := by
  have again : ∀ mode : Option Mode, Pushes [] (pure mode : Parse (Option Mode)) := pushes_pure
  cases token with
  | eof =>
      exact (vmPush_pushes _).then_quiet fun _ => loopDone_pushes.quiet fun _ => again _
  | type found =>
      cases found with
      | tBox =>
          intro r a t served
          cases served
          exact ⟨[], (List.append_nil _).symm, rfl⟩
      | tMeta => exact pushes_throw _
      | tVar => exact parseVar_pushes.then_quiet fun _ => again _
      | other => exact again _
  | keyword found =>
      cases found with
      | kwPrint => exact parsePrint_pushes.then_quiet fun _ => again _
      | kwExit =>
          exact (parseWord_pushes _ _ _).then_quiet fun _ => loopDone_pushes.quiet fun _ => again _
      | kwReturn => exact pushes_throw _
      | kwBreak => exact pushes_throw _
      | kwGoto => exact pushes_throw _
      | kwIf => exact pushes_throw _
      | kwWhile => exact pushes_throw _
      | kwName => exact pushes_throw _
      | kwContent => exact pushes_throw _
      | other => exact pushes_throw _
  | modifier => exact again _
  | separator => exact again _
  | identifier => exact again _
  | string => exact again _
  | constant value => exact again _
  | arithcompare expression => exact again _
  | char c => exact again _
  | other => exact again _

end Parts

section Runs

variable {α β : Type} {raw : Object} {r t : Reader}

theorem Pushes.none {x : Parse α} {a : α} (quiet : Pushes [] x) (served : x.run r = .ok (a, t)) :
    t.pushed = r.pushed := by
  rcases quiet r a t served with ⟨objects, pushed, codes⟩
  rw [pushed, List.map_eq_nil_iff.mp codes, List.append_nil]

theorem parseWord_pushed {opcode : Opcode} {marker comment : String}
    (served : (parseWord raw opcode marker comment).run r = .ok ((), t)) :
    t.pushed = r.pushed ++ [{ raw with opcode }] := by
  rcases run_bind_ok served with ⟨_, s, begins, served⟩
  rcases run_bind_ok served with ⟨_, u, comments, served⟩
  rcases run_bind_ok served with ⟨_, v, push, served⟩
  rw [(separator_pushes ';').none served]
  cases push
  rw [← (strcat_pushes _ _).none begins, ← (strcat_pushes _ _).none comments]

/-- The objects that end a run of the machine. -/
def Object.stops (o : Object) : Bool :=
  o.opcode = .opExit || o.opcode = .opEof

/-- The outer loop ends with the object of an exit or of the end of the file. -/
theorem loopPass_end (served : (loopPass raw).run r = .ok (none, t)) :
    ∃ front o, t.pushed = front ++ [o] ∧ o.stops = true := by
  rcases run_bind_ok served with ⟨token, s, lex, rest⟩
  have same := yylex_pushes.none lex
  -- The loop ends at the end of the file or at an exit, and both push an object that stops.
  cases token with
  | eof =>
      rcases run_bind_ok rest with ⟨_, u, push, rest⟩
      rcases run_bind_ok rest with ⟨_, v, done, last⟩
      cases push
      cases last
      exact ⟨s.pushed, _, loopDone_pushes.none done, rfl⟩
  | type found =>
      cases found with
      | tBox => cases rest
      | tMeta => cases rest
      | tVar =>
          rcases run_bind_ok rest with ⟨_, u, statement, last⟩
          cases last
      | other => cases rest
  | keyword found =>
      cases found with
      | kwPrint =>
          rcases run_bind_ok rest with ⟨_, u, statement, last⟩
          cases last
      | kwExit =>
          rcases run_bind_ok rest with ⟨_, u, statement, rest⟩
          rcases run_bind_ok rest with ⟨_, v, done, last⟩
          cases last
          exact ⟨s.pushed, _, (loopDone_pushes.none done).trans (parseWord_pushed statement), rfl⟩
      | kwReturn => cases rest
      | kwBreak => cases rest
      | kwGoto => cases rest
      | kwIf => cases rest
      | kwWhile => cases rest
      | kwName => cases rest
      | kwContent => cases rest
      | other => cases rest
  | modifier => cases rest
  | separator => cases rest
  | identifier => cases rest
  | string => cases rest
  | constant value => cases rest
  | arithcompare expression => cases rest
  | char c => cases rest
  | other => cases rest

theorem Accepts.stops {dumpOutput : Bool} {tokens : List Token} {objects : List Object}
    (accepted : Accepts raw dumpOutput tokens objects) :
    ∃ front o, objects = front ++ [o] ∧ o.stops = true := by
  rcases Gives.last accepted with ⟨⟨mode, r⟩, ended⟩
  cases mode with
  | loop =>
      simp only [pass] at ended
      cases passed : (loopPass raw).run r with
      | error stop =>
          rw [passed] at ended
          cases ended
      | ok out =>
          rcases out with ⟨mode, last⟩
          cases mode with
          | none =>
              rw [passed] at ended
              cases ended
              exact loopPass_end passed
          | some mode =>
              rw [passed] at ended
              cases ended
  | box b =>
      simp only [pass] at ended
      cases passed : (boxPass raw b).run r with
      | error stop =>
          rw [passed] at ended
          cases ended
      | ok out =>
          rw [passed] at ended
          cases ended

theorem yylex_next {code : Code} (served : yylex.run r = .ok (code, t)) : code = r.next := by
  rcases r with ⟨tokens, buffer, found, index, output, pushed⟩
  cases tokens with
  | nil =>
      cases served
      rfl
  | cons token rest =>
      cases served
      rfl

theorem loopPass_emits {mode : Option Mode} (served : (loopPass raw).run r = .ok (mode, t)) :
    ∃ objects, t.pushed = r.pushed ++ objects ∧
      objects.map Object.opcode = emits (.loop, r) := by
  rcases run_bind_ok served with ⟨token, s, lex, turn⟩
  rcases loopTurn_pushes token s mode t turn with ⟨objects, pushed, codes⟩
  rw [yylex_pushes.none lex] at pushed
  rw [yylex_next lex] at codes
  exact ⟨objects, pushed, codes⟩

theorem boxPass_emits {b : Box} {mode : Mode} (served : (boxPass raw b).run r = .ok (mode, t)) :
    ∃ objects, t.pushed = r.pushed ++ objects ∧
      objects.map Object.opcode = emits (.box b, r) := by
  rw [boxPass] at served
  cases starts : b.start with
  | true =>
      rw [starts, if_pos rfl] at served
      rcases boxTurn_pushes _ _ r mode t served with ⟨objects, pushed, codes⟩
      refine ⟨objects, pushed, ?_⟩
      simp only [emits, starts, if_true]
      exact codes
  | false =>
      rw [starts, if_neg Bool.false_ne_true] at served
      rcases run_bind_ok served with ⟨token, s, lex, turn⟩
      rcases boxTurn_pushes b token s mode t turn with ⟨objects, pushed, codes⟩
      rw [yylex_pushes.none lex] at pushed
      rw [yylex_next lex] at codes
      refine ⟨objects, pushed, ?_⟩
      simp only [emits, starts, if_neg Bool.false_ne_true]
      exact codes

theorem pass_emits {point later : Mode × Reader} (served : pass raw point = .inr later) :
    ∃ objects, later.2.pushed = point.2.pushed ++ objects ∧
      objects.map Object.opcode = emits point := by
  rcases point with ⟨mode, r⟩
  cases mode with
  | loop =>
      simp only [pass] at served
      cases passed : (loopPass raw).run r with
      | error stop =>
          rw [passed] at served
          cases served
      | ok out =>
          rcases out with ⟨mode, t⟩
          rw [passed] at served
          cases mode with
          | none => cases served
          | some mode =>
              cases served
              exact loopPass_emits passed
  | box b =>
      simp only [pass] at served
      cases passed : (boxPass raw b).run r with
      | error stop =>
          rw [passed] at served
          cases served
      | ok out =>
          rw [passed] at served
          cases served
          exact boxPass_emits passed

theorem pass_last_emits {point : Mode × Reader} {all : List Object}
    (served : pass raw point = .inl (.ok all)) :
    ∃ objects, all = point.2.pushed ++ objects ∧ objects.map Object.opcode = emits point := by
  rcases point with ⟨mode, r⟩
  cases mode with
  | loop =>
      simp only [pass] at served
      cases passed : (loopPass raw).run r with
      | error stop =>
          rw [passed] at served
          cases served
      | ok out =>
          rcases out with ⟨mode, t⟩
          rw [passed] at served
          cases mode with
          | none =>
              cases served
              exact loopPass_emits passed
          | some mode => cases served
  | box b =>
      simp only [pass] at served
      cases passed : (boxPass raw b).run r with
      | error stop =>
          rw [passed] at served
          cases served
      | ok out =>
          rw [passed] at served
          cases served

/-- The objects of a program are those that its statements emit, in their order. -/
theorem emitted_of_after {n : Nat} {point : Mode × Reader} {all : List Object}
    (ended : after (pass raw) n point = .inl (.ok all)) :
    ∃ objects, all = point.2.pushed ++ objects ∧
      objects.map Object.opcode = emitted raw n point := by
  induction n generalizing point with
  | zero => cases ended
  | succ n ih =>
      cases first : pass raw point with
      | inl out =>
          rw [after_done first] at ended
          cases ended
          rcases pass_last_emits first with ⟨objects, same, codes⟩
          refine ⟨objects, same, ?_⟩
          simp only [emitted, first, List.append_nil]
          exact codes
      | inr later =>
          rw [after_next first] at ended
          rcases pass_emits first with ⟨front, begins, codes⟩
          rcases ih ended with ⟨back, same, others⟩
          refine ⟨front ++ back, ?_, ?_⟩
          · rw [same, begins, List.append_assoc]
          · simp only [emitted, first, List.map_append, codes, others]

theorem Accepts.emitted {dumpOutput : Bool} {tokens : List Token} {objects : List Object}
    (accepted : Accepts raw dumpOutput tokens objects) :
    ∃ n, after (pass raw) n (.loop, start dumpOutput tokens) = .inl (.ok objects) ∧
      objects.map Object.opcode = emitted raw n (.loop, start dumpOutput tokens) := by
  rcases accepted with ⟨n, ended⟩
  rcases emitted_of_after ended with ⟨all, same, codes⟩
  have whole : objects = all := same
  subst whole
  exact ⟨n, ended, codes⟩

section Fitting

variable {buffer : Buffer} {source : List Char}

theorem append_contents (other : Buffer) : (r.append buffer source).output.contents other =
    if other = buffer then r.output.contents other ++ source else r.output.contents other := by
  by_cases same : other = buffer
  · subst same
    rw [if_pos rfl]
    exact Function.update_self _ _ _
  · rw [if_neg same]
    exact Function.update_of_ne same _ _

theorem strcat_run (fits : (r.output.contents buffer).length + source.length < buffer.size) :
    (strcat buffer source).run r = .ok ((), r.append buffer source) := by
  simp only [strcat, StateT.run_bind, StateT.run_get, pure_bind, if_pos fits]
  rfl

theorem parseWord_run {opcode : Opcode} {marker comment : String} {rest : List Token}
    (fits : (r.output.contents .text).length + marker.toList.length + comment.toList.length < 1024)
    (there : r.tokens = ⟨.separator, some [';']⟩ :: rest) :
    (parseWord raw opcode marker comment).run r =
      .ok ((), { (r.append .text marker.toList).append .text comment.toList with
        tokens := rest
        realTokenBuffer := [';']
        pushed := r.pushed ++ [{ raw with opcode }] }) := by
  rcases r with ⟨tokens, buffer, found, index, output, pushed⟩
  have same : tokens = ⟨.separator, some [';']⟩ :: rest := there
  subst same
  have size : Buffer.size .text = 1024 := rfl
  rw [parseWord, StateT.run_bind, strcat_run (by rw [size]; omega)]
  have both : (((Reader.append ⟨⟨.separator, some [';']⟩ :: rest, buffer, found, index, output,
      pushed⟩ .text marker.toList).output.contents .text).length + comment.toList.length <
        Buffer.size .text) := by
    rw [append_contents, if_pos rfl, List.length_append, size]
    exact fits
  have second := strcat_run both
  change ((strcat .text comment.toList).run _ >>= _) = _
  rw [second]
  rfl

/-- The segments have room behind what is in `outfile`. -/
def Output.Fits (o : Output) : Prop :=
  (o.contents .outfile).length + (o.contents .text).length + (o.contents .data).length +
    (o.contents .bss).length < 512

theorem concatIntoOutfile_run (fits : r.output.Fits) :
    ∃ s, concatIntoOutfile.run r = .ok ((), s) ∧ s.pushed = r.pushed := by
  rw [Output.Fits] at fits
  have size : Buffer.size .outfile = 512 := rfl
  let first := r.append .outfile (r.output.contents .text)
  let second := first.append .outfile (r.output.contents .data)
  have text : (strcat .outfile (r.output.contents .text)).run r = .ok ((), first) :=
    strcat_run (by omega)
  have data : (strcat .outfile (r.output.contents .data)).run first = .ok ((), second) := by
    apply strcat_run
    rw [append_contents, if_pos rfl, List.length_append]
    omega
  have bss : (strcat .outfile (r.output.contents .bss)).run second =
      .ok ((), second.append .outfile (r.output.contents .bss)) := by
    apply strcat_run
    rw [append_contents, if_pos rfl, append_contents, if_pos rfl, List.length_append,
      List.length_append]
    omega
  have kept : first.output.contents .data = r.output.contents .data ∧
      second.output.contents .bss = r.output.contents .bss := ⟨rfl, rfl⟩
  refine ⟨second.append .outfile (r.output.contents .bss), ?_, rfl⟩
  simp only [concatIntoOutfile, StateT.run_bind, StateT.run_get, pure_bind, text]
  change ((strcat .outfile (first.output.contents .data)).run first >>= _) = _
  rw [kept.1, data]
  change (strcat .outfile (second.output.contents .bss)).run second = _
  rw [kept.2, bss]

theorem loopDone_run (fits : r.output.Fits) :
    ∃ s, loopDone.run r = .ok ((), s) ∧ s.pushed = r.pushed := by
  simp only [loopDone, StateT.run_bind, StateT.run_get, pure_bind]
  cases r.output.dumpOutput with
  | false => exact ⟨r, rfl, rfl⟩
  | true => exact concatIntoOutfile_run fits

theorem pass_ends (served : (loopPass raw).run r = .ok (none, t)) :
    pass raw (.loop, r) = .inl (.ok t.pushed) := by
  rw [pass]
  simp only [served]

end Fitting

end Runs

end Gramado.Gramcnf.Parser
