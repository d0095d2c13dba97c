/-
Expressions of gramcnf (tree.c): the collector of tokens and the two passes over its buffers.
A constant behind the first is an int in the passes, an operator that nobody knows gives 0,
what comes between a number and an operator is skipped, and the buffers have 32 places.
-/
import Mathlib.Logic.Basic
import Gramado.Lib.Fallible
import Gramado.Lib.Precedence

namespace Gramado.Gramcnf.Tree

open Gramado.Lib.Fallible
open Gramado.Lib.Precedence

/-- `lexer_expression` of a comparison. -/
inductive Comparison where
  | lt
  | gt
  | le
  | ge
  deriving DecidableEq

/-- What `yylex` returns, with the value that `strtol` finds in `real_token_buffer` for a
    constant and its first character for a separator. The end of the list is TK_EOF. -/
inductive Token where
  | constant (value : Int64)
  | separator (c : Char)
  | arithcompare (expression : Comparison)
  | char (c : Char)
  | other
  deriving DecidableEq

/-- A place of `exp_buffer`, with its DT_DIGIT or DT_OPERATOR. -/
inductive Entry where
  | digit (value : Int64)
  | operator (op : Char)

/-- `exit(1)` behind a message, the trap of a quotient that is no long, or a write behind
    the end of a buffer. -/
inductive Stop where
  | reported
  | trapped
  | outside

inductive State where
  | number
  | operator

/-- The division of the processor. -/
def divides (opnd1 opnd2 result : Int64) : Option Int64 :=
  if opnd1 = Int64.minValue ∧ opnd2 = -1 then none else some result

def oper (c : Char) (opnd1 opnd2 : Int64) : Option Int64 :=
  match c with
  | '*' => some (opnd1 * opnd2)
  | '+' => some (opnd1 + opnd2)
  | '-' => some (opnd1 - opnd2)
  | '/' => if opnd2 = 0 then some 0 else divides opnd1 opnd2 (opnd1 / opnd2)
  | '%' => if opnd2 = 0 then some 0 else divides opnd1 opnd2 (opnd1 % opnd2)
  | '&' => some (opnd1 &&& opnd2)
  | '|' => some (opnd1 ||| opnd2)
  | '^' => some (opnd1 ^^^ opnd2)
  | '<' => some (if opnd1 < opnd2 then 1 else 0)
  | '>' => some (if opnd1 > opnd2 then 1 else 0)
  | _ => some 0

def isHighPrecedence (op : Char) : Bool :=
  op = '*' || op = '/' || op = '%'

/-- `int rhs = exp_buffer[i]`, as a long again. -/
def narrow (value : Int64) : Int64 :=
  value.toInt32.toInt64

/-- The first pass. `work_val` and `work_op` have as many places as the buffers. -/
def passOne (work : Work Char Int64) : List Entry → Except Stop (Work Char Int64)
  | [] => .ok work
  | .operator op :: .digit value :: rest =>
      let rhs := narrow value
      if isHighPrecedence op then do
        let folded ← need (oper op work.last rhs) .trapped
        passOne (work.setLast folded) rest
      else if work.later.length + 1 ≥ 32 then
        .error .outside
      else
        passOne (work.defer op rhs) rest
  | _ => .error .reported

def evalLinear : List Entry → Except Stop Int64
  | [] => .ok 0
  | .digit first :: rest => do
      let work ← passOne ⟨first, []⟩ rest
      need (work.join oper) .trapped
  | _ => .error .reported

/-- The operator that state 2 stores for a token. -/
def operatorOf : Token → Option Char
  | .char c =>
      if c ∈ ['+', '-', '*', '/', '&', '|', '<', '>', '%', '^', '!', '='] then some c else none
  | .arithcompare .lt => some '<'
  | .arithcompare .gt => some '>'
  | _ => none

def put (exp : List Entry) (entry : Entry) : Except Stop (List Entry) :=
  if exp.length < 32 then .ok (exp ++ [entry]) else .error .outside

/-- The 0 at the end takes a place as well, though it does not count. -/
def finish (exp : List Entry) : Except Stop (List Entry) :=
  if exp.length < 32 then .ok exp else .error .outside

def collect : State → List Entry → List Token → Except Stop (List Entry)
  | _, _, [] => .error .reported
  | state, exp, token :: rest =>
      if token = .separator ';' then
        finish exp
      else
        match state with
        | .number =>
            match token with
            | .constant value => do collect .operator (← put exp (.digit value)) rest
            | _ => .error .reported
        | .operator =>
            match operatorOf token with
            | some op => do collect .number (← put exp (.operator op)) rest
            | none => if token = .separator ')' then finish exp else collect .operator exp rest

def treeEval (tokens : List Token) : Except Stop UInt64 := do
  let exp ← collect .number [] tokens
  if exp.isEmpty then
    return 0
  else
    return (← evalLinear exp).toUInt64

/-- The operators of expressions. -/
inductive Operator where
  | plus
  | minus
  | times
  | divide
  | modulo
  | bitAnd
  | bitOr
  | bitXor
  | less
  | greater

def Operator.symbol : Operator → Char
  | .plus => '+'
  | .minus => '-'
  | .times => '*'
  | .divide => '/'
  | .modulo => '%'
  | .bitAnd => '&'
  | .bitOr => '|'
  | .bitXor => '^'
  | .less => '<'
  | .greater => '>'

def Operator.binds : Operator → Bool
  | .times | .divide | .modulo => true
  | _ => false

/-- None for the quotient that is no 64-bit integer. -/
def Operator.apply : Operator → Int64 → Int64 → Option Int64
  | .plus, a, b => some (a + b)
  | .minus, a, b => some (a - b)
  | .times, a, b => some (a * b)
  | .divide, a, b =>
      if b = 0 then some 0 else if a = Int64.minValue ∧ b = -1 then none else some (a / b)
  | .modulo, a, b => some (if b = 0 then 0 else a % b)
  | .bitAnd, a, b => some (a &&& b)
  | .bitOr, a, b => some (a ||| b)
  | .bitXor, a, b => some (a ^^^ b)
  | .less, a, b => some (if a < b then 1 else 0)
  | .greater, a, b => some (if a > b then 1 else 0)

structure Expression where
  first : Int64
  later : List (Operator × Int64)

def Expression.value (e : Expression) : Option Int64 :=
  Lib.Precedence.value Operator.apply Operator.binds e.first e.later

/-- The constants behind the first as ints. -/
def Expression.narrowed (e : Expression) : Expression :=
  { e with later := e.later.map fun pair => (pair.1, narrow pair.2) }

/-- The value that the passes find, unless a division traps. -/
def worth (first : Int64) (later : List (Char × Int64)) : Option Int64 :=
  Lib.Precedence.value oper isHighPrecedence first (later.map fun pair => (pair.1, narrow pair.2))

def Operator.ofToken : Token → Option Operator
  | .char '+' => some .plus
  | .char '-' => some .minus
  | .char '*' => some .times
  | .char '/' => some .divide
  | .char '%' => some .modulo
  | .char '&' => some .bitAnd
  | .char '|' => some .bitOr
  | .char '^' => some .bitXor
  | .char '<' => some .less
  | .char '>' => some .greater
  | .arithcompare .lt => some .less
  | .arithcompare .gt => some .greater
  | _ => none

def pairsOf : List Token → Option (List (Operator × Int64))
  | [] => some []
  | token :: .constant value :: rest => do
      let op ← Operator.ofToken token
      let later ← pairsOf rest
      return (op, value) :: later
  | _ => none

/-- The expression that the tokens are, as number (operator number)*. -/
def expressionOf : List Token → Option Expression
  | .constant first :: rest => (pairsOf rest).map fun later => ⟨first, later⟩
  | _ => none

/-- An expression has its value, anything else is reported. -/
def Right (tokens : List Token) (out : Except Stop UInt64) : Prop :=
  match expressionOf tokens with
  | some e => ∃ value, e.value = some value ∧ out = .ok value.toUInt64
  | none => out = .error .reported

/-- What ends an expression in state 2. -/
def Ends (token : Token) : Prop :=
  token = .separator ';' ∨ token = .separator ')'

/-- State 2 goes on as if the token were not there. -/
def Ignored (token : Token) : Prop :=
  operatorOf token = none ∧ ¬Ends token

/-- Numbers with operators between them, and with tokens in front of the operators that
    are skipped. -/
inductive Spells : Int64 → List (Char × Int64) → List Token → Prop where
  | number (value : Int64) : Spells value [] [.constant value]
  | cons {value next : Int64} {op : Char} {later : List (Char × Int64)}
      {skipped tokens : List Token} {token : Token} (rest : Spells next later tokens)
      (stored : operatorOf token = some op) (ignored : ∀ t ∈ skipped, Ignored t) :
      Spells value ((op, next) :: later) (.constant value :: skipped ++ token :: tokens)

def IsConstant : Token → Prop
  | .constant _ => True
  | _ => False

/-- Some token but a number is where a number should be. -/
def Wrong (tokens : List Token) : Prop :=
  ∃ token rest, tokens = token :: rest ∧ ¬IsConstant token

/-- An operand is missing: at the start, behind one of the first 16 operators, or at the
    end behind one of the first 15 and nothing traps before. -/
def Missing (tokens : List Token) : Prop :=
  Wrong tokens ∨
  ∃ first later front skipped token back, Spells first later front ∧ (∀ t ∈ skipped, Ignored t) ∧
    (operatorOf token).isSome ∧ tokens = front ++ skipped ++ token :: back ∧
    (Wrong back ∧ later.length ≤ 15 ∨
      back = [] ∧ later.length ≤ 14 ∧ (worth first later).isSome)

/-- At most 16 numbers with a value that the narrowing does not change and no trap, or a
    missing operand. -/
def Good (tokens : List Token) : Prop :=
  match expressionOf tokens with
  | some e => e.later.length ≤ 15 ∧
      (worth e.first (renamed Operator.symbol e.later)).isSome ∧ e.narrowed.value = e.value
  | none => Missing tokens

/-- What the collector stores behind the first number. -/
def entries (later : List (Char × Int64)) : List Entry :=
  later.flatMap fun pair => [.operator pair.1, .digit pair.2]

@[simp] theorem length_entries (later : List (Char × Int64)) :
    (entries later).length = 2 * later.length := by
  induction later with
  | nil => rfl
  | cons pair later ih =>
      simp only [entries, List.flatMap_cons, List.length_append, List.length_cons,
        List.length_nil] at ih ⊢
      omega

section Passes

/-- The first pass does not leave `work_val` with what fits into the buffers. -/
theorem passOne_entries (later : List (Char × Int64)) (work : Work Char Int64)
    (tail : List Entry) (room : work.later.length + later.length < 32) :
    passOne work (entries later ++ tail) =
      (need (firstPass oper isHighPrecedence work
        (later.map fun pair => (pair.1, narrow pair.2))) .trapped).bind
          fun after => passOne after tail := by
  induction later generalizing work with
  | nil => rfl
  | cons pair later ih =>
      obtain ⟨op, value⟩ := pair
      rw [List.length_cons] at room
      have unfolded : entries ((op, value) :: later) ++ tail =
          .operator op :: .digit value :: (entries later ++ tail) := rfl
      rw [unfolded, passOne, List.map_cons, firstPass]
      by_cases high : isHighPrecedence op = true
      · rw [if_pos high, if_pos high]
        cases folds : oper op work.last (narrow value) with
        | none => rfl
        | some folded =>
            have same := Work.length_setLast work folded
            exact ih (work.setLast folded) (by omega)
      · have place : ¬work.later.length + 1 ≥ 32 := by omega
        rw [if_neg high, if_neg high, if_neg place]
        exact ih (work.defer op (narrow value)) (by simp only [Work.defer, List.length_cons]; omega)

theorem evalLinear_entries (first : Int64) {later : List (Char × Int64)}
    (room : later.length < 32) :
    evalLinear (.digit first :: entries later) = need (worth first later) .trapped := by
  have passed := passOne_entries later ⟨first, []⟩ [] (by simpa using room)
  rw [List.append_nil] at passed
  rw [evalLinear, passed, worth, ← firstPass_join]
  cases firstPass oper isHighPrecedence ⟨first, []⟩
    (later.map fun pair => (pair.1, narrow pair.2)) with
  | none => rfl
  | some work => rfl

theorem oper_isSome (op : Char) (a b : Int64) (low : isHighPrecedence op = false) :
    (oper op a b).isSome := by
  simp only [isHighPrecedence, Bool.or_eq_false_iff, decide_eq_false_iff_not] at low
  obtain ⟨⟨times, divide⟩, modulo⟩ := low
  unfold oper
  split
  all_goals first | rfl | contradiction

/-- An operator without its second operand is reported, if the pass gets there. -/
theorem evalLinear_dangling (first : Int64) {later : List (Char × Int64)} (op : Char)
    (room : later.length < 32) :
    evalLinear (.digit first :: (entries later ++ [.operator op])) =
      .error (if (worth first later).isSome then .reported else .trapped) := by
  have passed := passOne_entries later ⟨first, []⟩ [.operator op] (by simpa using room)
  rw [evalLinear, passed, worth, value_isSome oper isHighPrecedence oper_isSome]
  cases firstPass oper isHighPrecedence ⟨first, []⟩
    (later.map fun pair => (pair.1, narrow pair.2)) with
  | none => rfl
  | some work => rfl

end Passes

section Collecting

variable {exp : List Entry} {rest : List Token}

theorem collect_constant (value : Int64) :
    collect .number exp (.constant value :: rest) =
      (put exp (.digit value)).bind fun exp => collect .operator exp rest :=
  rfl

theorem collect_operator {token : Token} {op : Char} (stored : operatorOf token = some op) :
    collect .operator exp (token :: rest) =
      (put exp (.operator op)).bind fun exp => collect .number exp rest := by
  have other : token ≠ .separator ';' := by
    rintro rfl
    cases stored
  simp only [collect, if_neg other, stored]
  rfl

theorem collect_wrong {tokens : List Token} (wrong : Wrong tokens)
    (inner : .separator ';' ∉ tokens) :
    collect .number exp (tokens ++ rest) = .error .reported := by
  obtain ⟨token, back, rfl, kind⟩ := wrong
  have other : token ≠ .separator ';' := fun same => inner (same ▸ List.mem_cons_self)
  cases token with
  | constant value => exact absurd trivial kind
  | separator c => simp only [List.cons_append, collect, if_neg other]
  | arithcompare expression => rfl
  | char c => rfl
  | other => rfl

theorem collect_ignored {skipped : List Token} (ignored : ∀ t ∈ skipped, Ignored t) :
    collect .operator exp (skipped ++ rest) = collect .operator exp rest := by
  induction skipped with
  | nil => rfl
  | cons token skipped ih =>
      obtain ⟨none, goes⟩ := ignored token List.mem_cons_self
      obtain ⟨semicolon, bracket⟩ := not_or.mp goes
      rw [List.cons_append, collect, if_neg semicolon]
      simp only [none, if_neg bracket]
      exact ih fun t member => ignored t (List.mem_cons_of_mem token member)

theorem collect_ends {token : Token} (ends : Ends token) :
    collect .operator exp (token :: rest) = finish exp := by
  obtain rfl | rfl := ends
  · rfl
  · rfl

/-- A spelling takes two places for each operator with its operand, and one for the first. -/
theorem collect_spells {first : Int64} {later : List (Char × Int64)} {front : List Token}
    (spells : Spells first later front) :
    collect .number exp (front ++ rest) =
      if exp.length + 2 * later.length < 32 then
        collect .operator (exp ++ .digit first :: entries later) rest
      else
        .error .outside := by
  induction spells generalizing exp with
  | number value =>
      rw [List.singleton_append, collect_constant, put]
      by_cases room : exp.length < 32
      · rw [if_pos room]
        exact (if_pos room).symm
      · rw [if_neg room]
        exact (if_neg room).symm
  | @cons value next op later skipped tokens token rests stored ignored ih =>
      rw [List.append_assoc, List.cons_append, collect_constant, put]
      by_cases room : exp.length + 1 < 32
      · have first : exp.length < 32 := by omega
        have second : (exp ++ [Entry.digit value]).length < 32 := by simpa using room
        rw [if_pos first, Except.bind, collect_ignored ignored, List.cons_append,
          collect_operator stored, put, if_pos second, Except.bind, ih]
        have length :
            (exp ++ [Entry.digit value] ++ [Entry.operator op]).length + 2 * later.length =
            exp.length + 2 * ((op, next) :: later).length := by
          simp only [List.length_append, List.length_cons, List.length_nil]
          omega
        rw [length]
        simp [entries]
      · have beyond : ¬exp.length + 2 * ((op, next) :: later).length < 32 := by
          simp only [List.length_cons]
          omega
        rw [if_neg beyond]
        by_cases first : exp.length < 32
        · have full : ¬(exp ++ [Entry.digit value]).length < 32 := by simpa using room
          rw [if_pos first, Except.bind, collect_ignored ignored, List.cons_append,
            collect_operator stored, put, if_neg full]
          rfl
        · rw [if_neg first]
          rfl

theorem collect_first {first : Int64} {later : List (Char × Int64)} {front skipped : List Token}
    (spells : Spells first later front) (ignored : ∀ t ∈ skipped, Ignored t) :
    collect .number [] (front ++ skipped ++ rest) =
      if later.length ≤ 15 then
        collect .operator (.digit first :: entries later) rest
      else
        .error .outside := by
  rw [List.append_assoc, collect_spells spells, collect_ignored ignored]
  by_cases few : later.length ≤ 15
  · rw [if_pos few, if_pos (by rw [List.length_nil]; omega)]
    rfl
  · rw [if_neg few, if_neg (by rw [List.length_nil]; omega)]

theorem collect_second {first : Int64} {later : List (Char × Int64)} {front skipped : List Token}
    {token : Token} {op : Char} (spells : Spells first later front)
    (ignored : ∀ t ∈ skipped, Ignored t) (stored : operatorOf token = some op) :
    collect .number [] (front ++ skipped ++ token :: rest) =
      if later.length ≤ 15 then
        collect .number (.digit first :: (entries later ++ [.operator op])) rest
      else
        .error .outside := by
  rw [collect_first spells ignored]
  by_cases few : later.length ≤ 15
  · have room : (Entry.digit first :: entries later).length < 32 := by
      rw [List.length_cons, length_entries]
      omega
    rw [if_pos few, if_pos few, collect_operator stored, put, if_pos room]
    rfl
  · rw [if_neg few, if_neg few]

end Collecting

section Outcomes

variable {first : Int64} {later : List (Char × Int64)} {front skipped rest : List Token}
  {token : Token}

theorem treeEval_ends (spells : Spells first later front) (ignored : ∀ t ∈ skipped, Ignored t)
    (ends : Ends token) : treeEval (front ++ skipped ++ token :: rest) =
      if later.length ≤ 15 then
        (need (worth first later) .trapped).map Int64.toUInt64
      else
        .error .outside := by
  rw [treeEval, collect_first spells ignored]
  by_cases few : later.length ≤ 15
  · have room : (Entry.digit first :: entries later).length < 32 := by
      rw [List.length_cons, length_entries]
      omega
    rw [if_pos few, if_pos few, collect_ends ends, finish, if_pos room]
    simp only [bind, Except.bind, List.isEmpty_cons, Bool.false_eq_true, if_false,
      evalLinear_entries first (show later.length < 32 by omega)]
    cases worth first later with
    | none => rfl
    | some value => rfl
  · rw [if_neg few, if_neg few]
    rfl

/-- An operator at the end is reported, if it has a place and nothing traps before. -/
theorem treeEval_dangling (spells : Spells first later front)
    (ignored : ∀ t ∈ skipped, Ignored t) (stored : (operatorOf token).isSome) :
    treeEval (front ++ skipped ++ token :: .separator ';' :: rest) = .error
      (if later.length ≤ 14 then
        if (worth first later).isSome then .reported else .trapped
      else
        .outside) := by
  obtain ⟨op, stored⟩ := Option.isSome_iff_exists.mp stored
  rw [treeEval, collect_second spells ignored stored]
  by_cases few : later.length ≤ 15
  · have ended : collect .number (.digit first :: (entries later ++ [.operator op]))
        (.separator ';' :: rest) = finish (.digit first :: (entries later ++ [.operator op])) := rfl
    have length : (Entry.digit first :: (entries later ++ [.operator op])).length =
        2 * later.length + 2 := by
      rw [List.length_cons, List.length_append, length_entries, List.length_singleton]
    rw [if_pos few, ended, finish, length]
    by_cases fewer : later.length ≤ 14
    · rw [if_pos (show 2 * later.length + 2 < 32 by omega), if_pos fewer]
      simp only [bind, Except.bind, List.isEmpty_cons, Bool.false_eq_true, if_false,
        evalLinear_dangling first op (show later.length < 32 by omega)]
    · rw [if_neg (show ¬2 * later.length + 2 < 32 by omega), if_neg fewer]
      rfl
  · rw [if_neg few, if_neg (show ¬later.length ≤ 14 by omega)]
    rfl

/-- Some other token in the place of a number is reported, if there was room up to it. -/
theorem treeEval_second {back : List Token} (spells : Spells first later front)
    (ignored : ∀ t ∈ skipped, Ignored t) (stored : (operatorOf token).isSome)
    (wrong : Wrong back) (inner : .separator ';' ∉ back) :
    treeEval (front ++ skipped ++ token :: (back ++ rest)) =
      .error (if later.length ≤ 15 then .reported else .outside) := by
  obtain ⟨op, stored⟩ := Option.isSome_iff_exists.mp stored
  rw [treeEval, collect_second spells ignored stored, collect_wrong wrong inner]
  by_cases few : later.length ≤ 15
  · rw [if_pos few, if_pos few]
    rfl
  · rw [if_neg few, if_neg few]
    rfl

theorem treeEval_wrong {tokens : List Token} (wrong : Wrong tokens)
    (inner : .separator ';' ∉ tokens) : treeEval (tokens ++ rest) = .error .reported := by
  rw [treeEval, collect_wrong wrong inner]
  rfl

end Outcomes

section Shapes

/-- Whatever the tokens are, a number, an end, or an operator with a number, a wrong token or
    nothing behind it comes next. -/
theorem behind_number (tokens : List Token) (inner : .separator ';' ∉ tokens) :
    ∃ skipped back, tokens = skipped ++ back ∧ (∀ t ∈ skipped, Ignored t) ∧
      ((back = [] ∨ ∃ rest, back = .separator ')' :: rest) ∨
        ∃ token rest, back = token :: rest ∧ (operatorOf token).isSome) := by
  induction tokens with
  | nil => exact ⟨[], [], rfl, by simp, .inl (.inl rfl)⟩
  | cons token tokens ih =>
      have other := List.ne_of_not_mem_cons inner
      have inside := List.not_mem_of_not_mem_cons inner
      by_cases stored : (operatorOf token).isSome
      · exact ⟨[], token :: tokens, rfl, by simp, .inr ⟨token, tokens, rfl, stored⟩⟩
      · by_cases bracket : token = .separator ')'
        · exact ⟨[], token :: tokens, rfl, by simp, .inl (.inr ⟨tokens, by rw [bracket]⟩)⟩
        · -- The token is skipped, with those that follow it.
          obtain ⟨skipped, back, rfl, ignored, next⟩ := ih inside
          have goes : Ignored token := ⟨by simpa using stored, not_or.mpr ⟨Ne.symm other, bracket⟩⟩
          refine ⟨token :: skipped, back, rfl, fun t member => ?_, next⟩
          obtain rfl | member := List.mem_cons.mp member
          · exact goes
          · exact ignored t member

/-- A token sequence is empty, begins wrong, or begins with a spelling. What follows the
    spelling are tokens that are skipped, then the end or an operator without its number. -/
theorem shapes (tokens : List Token) (inner : .separator ';' ∉ tokens) :
    tokens = [] ∨ Wrong tokens ∨
      ∃ first later front skipped back, Spells first later front ∧ (∀ t ∈ skipped, Ignored t) ∧
        tokens = front ++ skipped ++ back ∧
        ((back = [] ∨ ∃ rest, back = .separator ')' :: rest) ∨
          ∃ token rest, back = token :: rest ∧ (operatorOf token).isSome ∧
            (rest = [] ∨ Wrong rest)) := by
  induction length : tokens.length using Nat.strong_induction_on generalizing tokens with
  | _ n ih =>
    cases tokens with
    | nil => exact .inl rfl
    | cons token tokens =>
        by_cases constant : IsConstant token
        · refine .inr (.inr ?_)
          cases token with
          | constant value =>
              have inside := List.not_mem_of_not_mem_cons inner
              obtain ⟨skipped, back, rfl, ignored, next⟩ := behind_number tokens inside
              obtain next | ⟨token, rest, rfl, stored⟩ := next
              · exact ⟨value, [], [.constant value], skipped, back, .number value, ignored, rfl,
                  .inl next⟩
              · -- An operator: the tokens behind it have a shape of their own.
                have fewer : rest.length < n := by
                  simp only [List.length_cons, List.length_append] at length
                  omega
                have within : Token.separator ';' ∉ rest := fun member =>
                  inside (List.mem_append_right skipped (List.mem_cons_of_mem token member))
                obtain ends | wrong | ⟨first, later, front, others, back, spells, passed, rfl,
                  next⟩ :=
                  ih rest.length fewer rest within rfl
                · exact ⟨value, [], [.constant value], skipped, token :: rest, .number value,
                    ignored,
                    rfl, .inr ⟨token, rest, rfl, stored, .inl ends⟩⟩
                · exact ⟨value, [], [.constant value], skipped, token :: rest, .number value,
                    ignored,
                    rfl, .inr ⟨token, rest, rfl, stored, .inr wrong⟩⟩
                · obtain ⟨op, stored⟩ := Option.isSome_iff_exists.mp stored
                  exact ⟨value, (op, first) :: later, _, others, back, .cons spells stored ignored,
                    passed, by simp, next⟩
          | separator c => exact constant.elim
          | arithcompare expression => exact constant.elim
          | char c => exact constant.elim
          | other => exact constant.elim
        · exact .inr (.inl ⟨token, tokens, rfl, constant⟩)

end Shapes

section Expressions

theorem stored_of_ofToken {token : Token} {op : Operator}
    (known : Operator.ofToken token = some op) :
    operatorOf token = some op.symbol := by
  unfold Operator.ofToken at known
  split at known
  all_goals cases known
  all_goals rfl

theorem isHighPrecedence_symbol (op : Operator) : isHighPrecedence op.symbol = op.binds := by
  cases op
  all_goals rfl

/-- But for the remainder that traps, the arithmetic is that of the operators. -/
theorem apply_of_oper (op : Operator) (a b c : Int64) (found : oper op.symbol a b = some c) :
    op.apply a b = some c := by
  cases op with
  | modulo =>
      simp only [Operator.symbol, oper, divides] at found
      simp only [Operator.apply]
      split at found
      · rename_i zero
        rw [if_pos zero]
        exact found
      · rename_i divisor
        rw [if_neg divisor]
        split at found
        · cases found
        · exact found
  | _ => exact found

theorem value_narrowed {e : Expression} {value : Int64}
    (found : worth e.first (renamed Operator.symbol e.later) = some value) :
    e.narrowed.value = some value := by
  have same : (renamed Operator.symbol e.later).map (fun pair => (pair.1, narrow pair.2)) =
      renamed Operator.symbol e.narrowed.later := by
    simp [renamed, Expression.narrowed]
  rw [worth, same] at found
  exact value_renamed apply_of_oper isHighPrecedence_symbol found

theorem narrowed_of_ints {e : Expression} (ints : ∀ pair ∈ e.later, narrow pair.2 = pair.2) :
    e.narrowed = e := by
  obtain ⟨first, later⟩ := e
  simp only [Expression.narrowed, Expression.mk.injEq, true_and]
  have same : later.map (fun pair => (pair.1, narrow pair.2)) = later.map id :=
    List.map_congr_left fun pair member => by rw [ints pair member, id]
  rw [same, List.map_id]

theorem spells_pairsOf {tokens : List Token} {later : List (Operator × Int64)}
    (read : pairsOf tokens = some later) (value : Int64) :
    Spells value (renamed Operator.symbol later) (.constant value :: tokens) := by
  induction tokens using pairsOf.induct generalizing later value with
  | case1 =>
      cases read
      exact .number value
  | case2 token next rest ih =>
      simp only [pairsOf, Option.bind_eq_bind, Option.bind_eq_some_iff, Option.pure_def,
        Option.some.injEq] at read
      obtain ⟨op, known, pairs, read, rfl⟩ := read
      exact @Spells.cons value next _ _ [] _ token (ih read next) (stored_of_ofToken known)
        (by simp)
  | case3 tokens more pair =>
      simp [pairsOf] at read

theorem spells_expressionOf {tokens : List Token} {e : Expression}
    (read : expressionOf tokens = some e) :
    Spells e.first (renamed Operator.symbol e.later) tokens := by
  unfold expressionOf at read
  split at read
  · obtain ⟨later, pairs, rfl⟩ := Option.map_eq_some_iff.mp read
    exact spells_pairsOf pairs _
  · cases read

end Expressions

section Evaluation

variable {tokens rest : List Token}

/-- A sequence that is no expression and is reported misses an operand. -/
theorem missing_of_reported (inner : .separator ';' ∉ tokens)
    (reported : treeEval (tokens ++ .separator ';' :: rest) = .error .reported) :
    Missing tokens := by
  have evaluated : ∀ {first later front skipped rest} {token : Token}, Spells first later front →
      (∀ t ∈ skipped, Ignored t) → Ends token →
      treeEval (front ++ skipped ++ token :: rest) ≠ .error .reported := by
    intro first later front skipped rest token spells ignored ends
    rw [treeEval_ends spells ignored ends]
    split
    · cases worth first later with
      | none => exact fun same => by cases same
      | some value => exact fun same => by cases same
    · exact fun same => by cases same
  obtain rfl | wrong | ⟨first, later, front, skipped, back, spells, ignored, rfl, next⟩ :=
    shapes tokens inner
  · cases reported
  · exact .inl wrong
  · obtain (rfl | ⟨after, rfl⟩) | ⟨token, after, rfl, stored, rfl | wrong⟩ := next
    · rw [List.append_nil] at reported
      exact absurd reported (evaluated spells ignored (.inl rfl))
    · rw [List.append_assoc, List.cons_append] at reported
      exact absurd reported (evaluated spells ignored (.inr rfl))
    · rw [List.append_assoc, List.cons_append, List.nil_append,
        treeEval_dangling spells ignored stored] at reported
      refine .inr ⟨first, later, front, skipped, token, [], spells, ignored, stored, rfl, .inr ?_⟩
      by_cases few : later.length ≤ 14
      · rw [if_pos few] at reported
        refine ⟨rfl, few, ?_⟩
        by_contra trap
        rw [if_neg trap] at reported
        cases reported
      · rw [if_neg few] at reported
        cases reported
    · have inside : Token.separator ';' ∉ after := fun member =>
        inner (List.mem_append_right _ (List.mem_cons_of_mem token member))
      rw [List.append_assoc, List.cons_append, treeEval_second spells ignored stored wrong inside]
        at reported
      refine .inr ⟨first, later, front, skipped, token, after, spells, ignored, stored, rfl,
        .inl ?_⟩
      by_cases few : later.length ≤ 15
      · exact ⟨wrong, few⟩
      · rw [if_neg few] at reported
        cases reported

theorem reported_of_missing (inner : .separator ';' ∉ tokens) (missing : Missing tokens) :
    treeEval (tokens ++ .separator ';' :: rest) = .error .reported := by
  obtain wrong | ⟨first, later, front, skipped, token, back, spells, ignored, stored, rfl, next⟩ :=
    missing
  · exact treeEval_wrong wrong inner
  · rw [List.append_assoc, List.cons_append]
    obtain ⟨wrong, few⟩ | ⟨rfl, few, works⟩ := next
    · have inside : Token.separator ';' ∉ back := fun member =>
        inner (List.mem_append_right _ (List.mem_cons_of_mem token member))
      rw [treeEval_second spells ignored stored wrong inside, if_pos few]
    · rw [List.nil_append, treeEval_dangling spells ignored stored, if_pos few, if_pos works]

theorem evaluates_iff {e : Expression} (read : expressionOf tokens = some e) :
    (∃ value, e.value = some value ∧
        treeEval (tokens ++ .separator ';' :: rest) = .ok value.toUInt64) ↔
      e.later.length ≤ 15 ∧ (worth e.first (renamed Operator.symbol e.later)).isSome ∧
        e.narrowed.value = e.value := by
  have out : treeEval (tokens ++ [] ++ .separator ';' :: rest) = _ :=
    treeEval_ends (spells_expressionOf read) (by simp) (.inl rfl)
  rw [List.append_nil] at out
  rw [out, show (renamed Operator.symbol e.later).length = e.later.length from List.length_map _]
  by_cases few : e.later.length ≤ 15
  · rw [if_pos few]
    cases found : worth e.first (renamed Operator.symbol e.later) with
    | none =>
        constructor
        · rintro ⟨value, -, same⟩
          cases same
        · rintro ⟨-, works, -⟩
          cases works
    | some last =>
        rw [value_narrowed found]
        constructor
        · rintro ⟨value, worked, same⟩
          have equal : last.toUInt64 = value.toUInt64 := Except.ok.inj same
          have equal : last = value := by simpa using congrArg UInt64.toInt64 equal
          rw [worked, equal]
          exact ⟨few, rfl, rfl⟩
        · rintro ⟨-, -, same⟩
          exact ⟨last, same.symm, rfl⟩
  · rw [if_neg few]
    constructor
    · rintro ⟨value, -, same⟩
      cases same
    · rintro ⟨fits, -⟩
      exact absurd fits few

/-- An expression has its value and any other sequence is reported, exactly where the
    numbers fit and are not changed, or an operand is missing. -/
theorem treeEval_iff (inner : .separator ';' ∉ tokens) :
    Right tokens (treeEval (tokens ++ .separator ';' :: rest)) ↔ Good tokens := by
  unfold Right Good
  split
  · rename_i e read
    exact evaluates_iff read
  · exact ⟨missing_of_reported inner, reported_of_missing inner⟩

/-- `1 + 6 / 2;` -/
theorem small_evaluated :
    Right [.constant 1, .char '+', .constant 6, .char '/', .constant 2]
      (treeEval ([.constant 1, .char '+', .constant 6, .char '/', .constant 2] ++
        [.separator ';'])) := by
  refine (treeEval_iff (by decide)).mpr ⟨by decide, by decide, ?_⟩
  rw [narrowed_of_ints (by decide)]

/-- `1 2;` is 1. -/
theorem second_number_skipped :
    treeEval [.constant 1, .constant 2, .separator ';'] = .ok 1 ∧
      ¬Right [.constant 1, .constant 2] (treeEval [.constant 1, .constant 2, .separator ';']) := by
  refine ⟨rfl, fun right => ?_⟩
  have reported : treeEval [.constant 1, .constant 2, .separator ';'] = .error .reported := right
  cases reported

end Evaluation

end Gramado.Gramcnf.Tree
