/-
Lists of records of which a step changes one or appends one. `Slotwise` compares
such a list before and after the step, place by place; a place that was not
there before is `none`. The rules reduce it to the one place concerned.
-/
import Mathlib.Data.List.Basic

namespace Gramado.Lib.Slots

variable {α : Type}

def Slotwise (rel : Nat → Option α → α → Prop) (before after : List α) : Prop :=
  ∀ i b, after[i]? = some b → rel i before[i]? b

def Everywhere (holds : Nat → α → Prop) (list : List α) : Prop :=
  ∀ i a, list[i]? = some a → holds i a

section Rules

variable {rel : Nat → Option α → α → Prop} {holds : Nat → α → Prop} {list : List α}
  {i : Nat} {a b : α}

theorem slotwise_self (still : ∀ i a, rel i (some a) a) (list : List α) :
    Slotwise rel list list := by
  intro j b there
  rw [there]
  exact still j b

theorem slotwise_set_iff (still : ∀ i a, rel i (some a) a) (found : list[i]? = some a) :
    Slotwise rel list (list.set i b) ↔ rel i (some a) b := by
  have inside : i < list.length := (List.getElem?_eq_some_iff.mp found).1
  constructor
  · intro slots
    have here := slots i b (List.getElem?_set_self inside)
    rwa [found] at here
  · intro changed j d there
    by_cases same : i = j
    · subst same
      rw [List.getElem?_set_self inside, Option.some.injEq] at there
      rw [found, ← there]
      exact changed
    · rw [List.getElem?_set_ne same] at there
      rw [there]
      exact still j d

theorem getElem?_append_one {j : Nat} {d : α} (there : (list ++ [b])[j]? = some d) :
    list[j]? = some d ∨ (j = list.length ∧ d = b) := by
  by_cases old : j < list.length
  · rw [List.getElem?_append_left old] at there
    exact Or.inl there
  · rw [List.getElem?_append_right (Nat.not_lt.mp old)] at there
    rcases List.getElem?_eq_some_iff.mp there with ⟨short, rfl⟩
    have last : j - list.length = 0 := Nat.lt_one_iff.mp short
    exact Or.inr ⟨by omega, by simp [last]⟩

theorem slotwise_append_iff (still : ∀ i a, rel i (some a) a) :
    Slotwise rel list (list ++ [b]) ↔ rel list.length none b := by
  constructor
  · intro slots
    have here := slots list.length b (by simp)
    rwa [List.getElem?_eq_none (Nat.le_refl _)] at here
  · intro new j d there
    rcases getElem?_append_one there with old | ⟨rfl, rfl⟩
    · rw [old]
      exact still j d
    · rw [List.getElem?_eq_none (Nat.le_refl _)]
      exact new

@[simp] theorem everywhere_nil : Everywhere holds [] := by
  intro i a there
  cases there

theorem everywhere_set (every : Everywhere holds list) (changed : holds i b) :
    Everywhere holds (list.set i b) := by
  intro j d there
  by_cases same : i = j
  · subst same
    rcases List.getElem?_eq_some_iff.mp there with ⟨_, rfl⟩
    simpa using changed
  · rw [List.getElem?_set_ne same] at there
    exact every j d there

theorem everywhere_append (every : Everywhere holds list) (new : holds list.length b) :
    Everywhere holds (list ++ [b]) := by
  intro j d there
  rcases getElem?_append_one there with old | ⟨rfl, rfl⟩
  · exact every j d old
  · exact new

/-- Where the other places are in order, it is all about the one place. -/
theorem everywhere_set_iff (inside : i < list.length)
    (others : ∀ j a, i ≠ j → list[j]? = some a → holds j a) :
    Everywhere holds (list.set i b) ↔ holds i b := by
  constructor
  · intro every
    exact every i b (List.getElem?_set_self inside)
  · intro changed j d there
    by_cases same : i = j
    · subst same
      rw [List.getElem?_set_self inside, Option.some.injEq] at there
      exact there ▸ changed
    · rw [List.getElem?_set_ne same] at there
      exact others j d same there

theorem everywhere_append_iff (every : Everywhere holds list) :
    Everywhere holds (list ++ [b]) ↔ holds list.length b :=
  ⟨fun all => all list.length b (by simp), everywhere_append every⟩

end Rules

section Keys

variable {κ : Type} {live : α → Prop} {keys : List κ} {list : List α} {k : κ} {i : Nat} {a b : α}

/-- No two live records have the same key. The keys are kept beside the list. -/
def Distinct (live : α → Prop) (keys : List κ) (list : List α) : Prop :=
  ∀ (i j : Nat) a b, list[i]? = some a → list[j]? = some b → live a → live b →
    keys[i]? = keys[j]? → i = j

def Taken (live : α → Prop) (keys : List κ) (list : List α) (k : κ) : Prop :=
  ∃ (i : Nat) (a : α), list[i]? = some a ∧ live a ∧ keys[i]? = some k

theorem distinct_nil : Distinct live keys [] := by
  intro i j a b there
  cases there

theorem distinct_set (distinct : Distinct live keys list) (found : list[i]? = some a)
    (alive : live b → live a) : Distinct live keys (list.set i b) := by
  have before : ∀ (j : Nat) d, (list.set i b)[j]? = some d → live d →
      ∃ d', list[j]? = some d' ∧ live d' := by
    intro j d there lives
    by_cases same : i = j
    · subst same
      rw [List.getElem?_set_self (List.getElem?_eq_some_iff.mp found).1, Option.some.injEq] at there
      exact ⟨a, found, alive (there ▸ lives)⟩
    · rw [List.getElem?_set_ne same] at there
      exact ⟨d, there, lives⟩
  intro j l d e first second live₁ live₂ key
  rcases before j d first live₁ with ⟨d', old₁, alive₁⟩
  rcases before l e second live₂ with ⟨e', old₂, alive₂⟩
  exact distinct j l d' e' old₁ old₂ alive₁ alive₂ key

theorem distinct_append_iff (distinct : Distinct live keys list)
    (aligned : keys.length = list.length) :
    Distinct live (keys ++ [k]) (list ++ [b]) ↔ (live b → ¬Taken live keys list k) := by
  have old : ∀ {j : Nat} {d : α}, list[j]? = some d → (keys ++ [k])[j]? = keys[j]? ∧
      j < list.length := by
    intro j d there
    have inside := (List.getElem?_eq_some_iff.mp there).1
    exact ⟨List.getElem?_append_left (by omega), inside⟩
  have new : (keys ++ [k])[list.length]? = some k := by simp [← aligned]
  constructor
  · rintro apart lives ⟨j, d, there, alive, key⟩
    have inside := (old there).2
    have same := apart j list.length d b
      (by rw [List.getElem?_append_left inside]; exact there) (by simp) alive lives
      (by rw [(old there).1, key, new])
    omega
  · intro free j l d e first second live₁ live₂ key
    rcases getElem?_append_one first with there₁ | ⟨rfl, rfl⟩
    · rcases getElem?_append_one second with there₂ | ⟨rfl, rfl⟩
      · rw [(old there₁).1, (old there₂).1] at key
        exact distinct j l d e there₁ there₂ live₁ live₂ key
      · rw [(old there₁).1, new] at key
        exact absurd ⟨j, d, there₁, live₁, key⟩ (free live₂)
    · rcases getElem?_append_one second with there₂ | ⟨rfl, rfl⟩
      · rw [(old there₂).1, new] at key
        exact absurd ⟨l, e, there₂, live₂, key.symm⟩ (free live₁)
      · rfl

end Keys

end Gramado.Lib.Slots
