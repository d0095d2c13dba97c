/-
Expressions of two precedences, as a value and the operators with their operands after it.
`value` works the terms out one by one and then joins them from the left; `firstPass` does
it in a single walk, with the terms so far kept aside and the last one still open.
-/
import Mathlib.Data.List.Basic

namespace Gramado.Lib.Precedence

variable {ω α : Type}

/-- An operand, and the tight operators with theirs. -/
structure Term (ω α : Type) where
  first : α
  later : List (ω × α)

section Reference

variable (apply : ω → α → α → Option α) (tight : ω → Bool)

/-- From the left, whatever the operators are. -/
def chain (first : α) (later : List (ω × α)) : Option α :=
  later.foldlM (fun value pair => apply pair.1 value pair.2) first

def Term.value (term : Term ω α) : Option α :=
  chain apply term.first term.later

/-- What belongs to the open term, and the terms behind it. -/
def split : List (ω × α) → List (ω × α) × List (ω × Term ω α)
  | [] => ([], [])
  | (op, rhs) :: later =>
      if tight op then
        ((op, rhs) :: (split later).1, (split later).2)
      else
        ([], (op, ⟨rhs, (split later).1⟩) :: (split later).2)

/-- The terms behind the first, worked out. -/
def values : List (ω × Term ω α) → Option (List (ω × α))
  | [] => some []
  | (op, term) :: others => do
      let rhs ← term.value apply
      let later ← values others
      return (op, rhs) :: later

def value (first : α) (later : List (ω × α)) : Option α := do
  let head ← chain apply first (split tight later).1
  let others ← values apply (split tight later).2
  chain apply head others

end Reference

/-- The first term, and the others from the newest on. -/
structure Work (ω α : Type) where
  first : α
  later : List (ω × α)

namespace Work

variable (work : Work ω α)

def last : α :=
  match work.later with
  | [] => work.first
  | (_, rhs) :: _ => rhs

def setLast (value : α) : Work ω α :=
  match work.later with
  | [] => { work with first := value }
  | (op, _) :: older => { work with later := (op, value) :: older }

def defer (op : ω) (rhs : α) : Work ω α :=
  { work with later := (op, rhs) :: work.later }

def join (apply : ω → α → α → Option α) : Option α :=
  chain apply work.first work.later.reverse

@[simp] theorem setLast_last : work.setLast work.last = work := by
  obtain ⟨first, later⟩ := work
  cases later with
  | nil => rfl
  | cons pair older => rfl

@[simp] theorem last_setLast (value : α) : (work.setLast value).last = value := by
  obtain ⟨first, later⟩ := work
  cases later with
  | nil => rfl
  | cons pair older => rfl

@[simp] theorem setLast_setLast (value other : α) :
    (work.setLast value).setLast other = work.setLast other := by
  obtain ⟨first, later⟩ := work
  cases later with
  | nil => rfl
  | cons pair older => rfl

@[simp] theorem last_defer (op : ω) (rhs : α) : (work.defer op rhs).last = rhs :=
  rfl

@[simp] theorem setLast_defer (op : ω) (rhs value : α) :
    (work.defer op rhs).setLast value = work.defer op value :=
  rfl

theorem length_setLast (value : α) : (work.setLast value).later.length = work.later.length := by
  obtain ⟨first, later⟩ := work
  cases later with
  | nil => rfl
  | cons pair older => rfl

theorem map_setLast (value : α) :
    (work.setLast value).later.map Prod.fst = work.later.map Prod.fst := by
  obtain ⟨first, later⟩ := work
  cases later with
  | nil => rfl
  | cons pair older => rfl

end Work

section Passes

variable (apply : ω → α → α → Option α) (tight : ω → Bool)

/-- A tight operator goes into the last term, any other begins a new one. -/
def firstPass : Work ω α → List (ω × α) → Option (Work ω α)
  | work, [] => some work
  | work, (op, rhs) :: later =>
      if tight op then do
        firstPass (work.setLast (← apply op work.last rhs)) later
      else
        firstPass (work.defer op rhs) later

@[simp] theorem chain_nil (first : α) : chain apply first [] = some first :=
  rfl

theorem chain_cons (first rhs : α) (op : ω) (later : List (ω × α)) :
    chain apply first ((op, rhs) :: later) =
      (apply op first rhs).bind fun value => chain apply value later :=
  rfl

/-- The walk ends with the last term worked out and the new ones before it in the list. -/
theorem firstPass_eq (later : List (ω × α)) (work : Work ω α) :
    firstPass apply tight work later =
      (chain apply work.last (split tight later).1).bind fun head =>
        (values apply (split tight later).2).bind fun others =>
          some { work.setLast head with later := others.reverse ++ (work.setLast head).later } := by
  induction later generalizing work with
  | nil => simp [firstPass, split, values]
  | cons pair later ih =>
      obtain ⟨op, rhs⟩ := pair
      by_cases binds : tight op
      · -- The operator belongs to the open term.
        simp only [firstPass, split, binds, if_true, chain_cons, Option.bind_eq_bind]
        cases apply op work.last rhs with
        | none => rfl
        | some next => simp [ih]
      · simp only [firstPass, split, binds, Bool.false_eq_true, if_false, ih, chain_nil,
          Option.bind_some, Work.last_defer, Work.setLast_defer, Work.setLast_last, values,
          Term.value, Option.bind_eq_bind, Option.bind_assoc]
        cases chain apply rhs (split tight later).1 with
        | none => rfl
        | some head =>
            cases values apply (split tight later).2 with
            | none => rfl
            | some others => simp [Work.defer]

theorem firstPass_join (first : α) (later : List (ω × α)) :
    ((firstPass apply tight ⟨first, []⟩ later).bind fun work => work.join apply) =
      value apply tight first later := by
  simp only [firstPass_eq, value, Option.bind_eq_bind, Option.bind_assoc, Work.last]
  cases chain apply first (split tight later).1 with
  | none => rfl
  | some head =>
      cases values apply (split tight later).2 with
      | none => rfl
      | some others => simp [Work.join, Work.setLast]

theorem chain_isSome {later : List (ω × α)}
    (total : ∀ pair ∈ later, ∀ a, (apply pair.1 a pair.2).isSome) (first : α) :
    (chain apply first later).isSome := by
  induction later generalizing first with
  | nil => rfl
  | cons pair later ih =>
      obtain ⟨next, applied⟩ := Option.isSome_iff_exists.mp (total pair List.mem_cons_self first)
      rw [chain_cons, applied]
      exact ih (fun other member => total other (List.mem_cons_of_mem pair member)) next

theorem loose_firstPass {later : List (ω × α)} {work after : Work ω α}
    (loose : ∀ op ∈ work.later.map Prod.fst, tight op = false)
    (passed : firstPass apply tight work later = some after) :
    ∀ op ∈ after.later.map Prod.fst, tight op = false := by
  induction later generalizing work with
  | nil =>
      cases passed
      exact loose
  | cons pair later ih =>
      obtain ⟨op, rhs⟩ := pair
      by_cases binds : tight op
      · simp only [firstPass, binds, if_true, Option.bind_eq_bind,
          Option.bind_eq_some_iff] at passed
        obtain ⟨next, -, passed⟩ := passed
        exact ih (by rwa [Work.map_setLast]) passed
      · simp only [firstPass, binds, Bool.false_eq_true, if_false] at passed
        refine ih (fun other member => ?_) passed
        obtain rfl | member := List.mem_cons.mp member
        · exact eq_false_of_ne_true binds
        · exact loose other member

/-- Where the loose operators always have a value, only the walk can fail. -/
theorem value_isSome (total : ∀ op a b, tight op = false → (apply op a b).isSome) (first : α)
    (later : List (ω × α)) : (value apply tight first later).isSome =
      (firstPass apply tight ⟨first, []⟩ later).isSome := by
  rw [← firstPass_join]
  cases passed : firstPass apply tight ⟨first, []⟩ later with
  | none => rfl
  | some work =>
      have loose := loose_firstPass apply tight (by simp) passed
      refine chain_isSome apply (fun pair member a => ?_) work.first
      exact total pair.1 a pair.2
        (loose pair.1 (List.mem_map_of_mem (List.mem_reverse.mp member)))

end Passes

section Renaming

variable {ρ : Type} {apply : ω → α → α → Option α} {other : ρ → α → α → Option α}
  {tight : ω → Bool} {binds : ρ → Bool} {name : ρ → ω}

/-- The operators under other names. -/
def renamed (name : ρ → ω) (later : List (ρ × α)) : List (ω × α) :=
  later.map fun pair => (name pair.1, pair.2)

theorem chain_renamed (finds : ∀ op a b c, apply (name op) a b = some c → other op a b = some c)
    {later : List (ρ × α)} {first last : α}
    (joined : chain apply first (renamed name later) = some last) :
    chain other first later = some last := by
  induction later generalizing first with
  | nil => exact joined
  | cons pair later ih =>
      obtain ⟨op, rhs⟩ := pair
      simp only [renamed, List.map_cons, chain_cons, Option.bind_eq_some_iff] at joined ⊢
      obtain ⟨next, applied, joined⟩ := joined
      exact ⟨next, finds op first rhs next applied, ih joined⟩

theorem split_renamed (level : ∀ op, tight (name op) = binds op) (later : List (ρ × α)) :
    split tight (renamed name later) =
      (renamed name (split binds later).1, (split binds later).2.map fun pair =>
        (name pair.1, ⟨pair.2.first, renamed name pair.2.later⟩)) := by
  induction later with
  | nil => rfl
  | cons pair later ih =>
      obtain ⟨op, rhs⟩ := pair
      simp only [renamed, List.map_cons, split, level] at ih ⊢
      split
      · simp [ih]
      · simp [ih]

theorem values_renamed (finds : ∀ op a b c, apply (name op) a b = some c → other op a b = some c)
    {others : List (ρ × Term ρ α)} {found : List (ω × α)}
    (worked : values apply (others.map fun pair =>
      (name pair.1, ⟨pair.2.first, renamed name pair.2.later⟩)) = some found) :
    ∃ later, values other others = some later ∧ found = renamed name later := by
  induction others generalizing found with
  | nil =>
      cases worked
      exact ⟨[], rfl, rfl⟩
  | cons pair others ih =>
      obtain ⟨op, term⟩ := pair
      simp only [List.map_cons, values, Term.value, Option.bind_eq_bind,
        Option.bind_eq_some_iff, Option.pure_def, Option.some.injEq] at worked
      obtain ⟨rhs, joined, later, rest, rfl⟩ := worked
      obtain ⟨after, behind, rfl⟩ := ih rest
      exact ⟨(op, rhs) :: after,
        by simp [values, Term.value, chain_renamed finds joined, behind], rfl⟩

/-- Operators that find whatever the renamed ones find also find their value. -/
theorem value_renamed (finds : ∀ op a b c, apply (name op) a b = some c → other op a b = some c)
    (level : ∀ op, tight (name op) = binds op) {first last : α} {later : List (ρ × α)}
    (found : value apply tight first (renamed name later) = some last) :
    value other binds first later = some last := by
  simp only [value, split_renamed level, Option.bind_eq_bind, Option.bind_eq_some_iff] at found ⊢
  obtain ⟨head, joined, others, worked, found⟩ := found
  obtain ⟨rest, behind, rfl⟩ := values_renamed finds worked
  exact ⟨head, chain_renamed finds joined, rest, behind, chain_renamed finds found⟩

end Renaming

end Gramado.Lib.Precedence
