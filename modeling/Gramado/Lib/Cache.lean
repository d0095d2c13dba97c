/-
A table of `n` places that takes a key into the first free place and never
gives a place up. What it holds is a function of what it has seen: the first
`n` different keys, each with the latest value seen for it.
-/
import Gramado.Lib.Search
import Mathlib.Data.List.Nodup

namespace Gramado.Lib.Cache

variable {κ ν : Type} [DecidableEq κ]

/-- The first `n` different keys, in the order of their first appearance. -/
def admitted (n : Nat) (seen : List (κ × ν)) : List κ :=
  (seen.map Prod.fst).eraseDups.take n

def latest (seen : List (κ × ν)) (k : κ) : Option ν :=
  seen.reverse.lookup k

/-- What is remembered of a key. -/
def recalled (n : Nat) (seen : List (κ × ν)) (k : κ) : Option ν :=
  if k ∈ admitted n seen then latest seen k else none

abbrev Table (κ ν : Type) := Nat → Option (κ × ν)

def write (t : Table κ ν) (place : Nat) (entry : κ × ν) : Table κ ν :=
  fun i => if i = place then some entry else t i

def find (n : Nat) (t : Table κ ν) (k : κ) : Option Nat :=
  Search.first n fun i => (t i).map Prod.fst = some k

def vacant (n : Nat) (t : Table κ ν) : Option Nat :=
  Search.first n fun i => (t i).isNone

def learn (n : Nat) (t : Table κ ν) (entry : κ × ν) : Table κ ν :=
  match find n t entry.1 with
  | some i => write t i entry
  | none =>
      match vacant n t with
      | some i => write t i entry
      | none => t

/-- Each place holds the admitted key of its rank, and the others are free. -/
def Remembers (n : Nat) (seen : List (κ × ν)) (t : Table κ ν) : Prop :=
  ∀ i, i < n → t i =
    (admitted n seen)[i]?.bind fun k => (latest seen k).map fun v => (k, v)

section Admission

variable {n : Nat} {seen : List (κ × ν)} {k : κ} {v : ν}

theorem eraseDups_append_one (keys : List κ) (k : κ) :
    (keys ++ [k]).eraseDups = if k ∈ keys then keys.eraseDups else keys.eraseDups ++ [k] := by
  rw [List.eraseDups_append]
  by_cases old : k ∈ keys <;> simp [List.removeAll, old, List.eraseDups_cons]

theorem nodup_eraseDups (keys : List κ) : keys.eraseDups.Nodup := by
  induction keys using List.reverseRecOn with
  | nil => simp
  | append_singleton keys k ih =>
      rw [eraseDups_append_one]
      split
      · exact ih
      · rename_i new
        rw [List.nodup_append]
        refine ⟨ih, List.nodup_singleton k, ?_⟩
        rintro a old b here rfl
        rw [List.mem_singleton] at here
        subst here
        exact new (List.mem_eraseDups.mp old)

theorem nodup_admitted (n : Nat) (seen : List (κ × ν)) : (admitted n seen).Nodup :=
  (nodup_eraseDups _).sublist (List.take_sublist _ _)

theorem length_admitted_le (n : Nat) (seen : List (κ × ν)) : (admitted n seen).length ≤ n :=
  List.length_take_le _ _

theorem admitted_append_of_old (v : ν) (old : k ∈ admitted n seen ∨ n ≤ (admitted n seen).length) :
    admitted n (seen ++ [(k, v)]) = admitted n seen := by
  have map : ((seen ++ [(k, v)]).map Prod.fst) = seen.map Prod.fst ++ [k] := by simp
  rw [admitted, map, eraseDups_append_one]
  split
  · rfl
  · rename_i new
    rcases old with inside | full
    · exact absurd (List.mem_eraseDups.mp (List.mem_of_mem_take inside)) new
    · -- Nothing behind the first `n` keys is looked at.
      rw [admitted, List.length_take] at full
      exact List.take_append_of_le_length (Nat.le_trans full (Nat.min_le_right _ _))

theorem admitted_append_of_new (v : ν) (new : k ∉ admitted n seen)
    (room : (admitted n seen).length < n) :
    admitted n (seen ++ [(k, v)]) = admitted n seen ++ [k] := by
  have map : ((seen ++ [(k, v)]).map Prod.fst) = seen.map Prod.fst ++ [k] := by simp
  have short : (seen.map Prod.fst).eraseDups.length < n := by
    rw [admitted, List.length_take] at room
    omega
  have whole : admitted n seen = (seen.map Prod.fst).eraseDups :=
    List.take_of_length_le (Nat.le_of_lt short)
  rw [whole, List.mem_eraseDups] at new
  rw [whole, admitted, map, eraseDups_append_one, if_neg new, List.take_of_length_le]
  simpa using Nat.succ_le_of_lt short

theorem latest_append (seen : List (κ × ν)) (k other : κ) (v : ν) :
    latest (seen ++ [(k, v)]) other = if other = k then some v else latest seen other := by
  by_cases same : other = k
  · simp [latest, same]
  · have apart : (other == k) = false := by simp [same]
    simp [latest, List.lookup_cons, same, apart]

theorem latest_of_admitted (inside : k ∈ admitted n seen) : ∃ v, latest seen k = some v := by
  have key := List.mem_eraseDups.mp (List.mem_of_mem_take inside)
  obtain ⟨entry, there, rfl⟩ := List.mem_map.mp key
  rw [← Option.isSome_iff_exists, latest, List.lookup_isSome_iff]
  exact ⟨entry, List.mem_reverse.mpr there, by simp⟩

end Admission

section Places

variable {n : Nat} {seen : List (κ × ν)} {t : Table κ ν} {i j : Nat} {k : κ} {v : ν}

@[simp] theorem remembers_nil : Remembers n [] t ↔ ∀ i, i < n → t i = none := by
  simp [Remembers, admitted]

theorem Remembers.key (held : Remembers n seen t) (inside : i < n) :
    (t i).map Prod.fst = (admitted n seen)[i]? := by
  rw [held i inside]
  cases there : (admitted n seen)[i]? with
  | none => rfl
  | some k =>
      obtain ⟨v, last⟩ := latest_of_admitted (List.mem_of_getElem? there)
      simp [last]

theorem Remembers.value (held : Remembers n seen t) (inside : i < n)
    (there : (t i).map Prod.fst = some k) : (t i).map Prod.snd = latest seen k := by
  rw [held.key inside] at there
  rw [held i inside, there, Option.bind_some, Option.map_map]
  cases latest seen k <;> rfl

theorem Remembers.unique (held : Remembers n seen t) (insideI : i < n) (insideJ : j < n)
    (atI : (t i).map Prod.fst = some k) (atJ : (t j).map Prod.fst = some k) : i = j := by
  rw [held.key insideI] at atI
  rw [held.key insideJ] at atJ
  have short : i < (admitted n seen).length := (List.getElem?_eq_some_iff.mp atI).1
  exact (List.getElem?_inj short (nodup_admitted n seen)).mp (atI.trans atJ.symm)

theorem Remembers.find_eq_some (held : Remembers n seen t) :
    find n t k = some i ↔ (admitted n seen)[i]? = some k := by
  rw [find, Search.first_eq_some]
  constructor
  · rintro ⟨here, inside, -⟩
    rwa [held.key inside] at here
  · intro there
    have short : i < (admitted n seen).length := (List.getElem?_eq_some_iff.mp there).1
    have inside : i < n := Nat.lt_of_lt_of_le short (length_admitted_le n seen)
    have here := (held.key inside).trans there
    refine ⟨here, inside, ?_⟩
    intro j early again
    have same := held.unique (Nat.lt_trans early inside) inside again here
    exact Nat.ne_of_lt early same

theorem Remembers.find_eq_none (held : Remembers n seen t) :
    find n t k = none ↔ k ∉ admitted n seen := by
  rw [Option.eq_none_iff_forall_ne_some, List.mem_iff_getElem?, not_exists]
  exact forall_congr' fun i => not_congr held.find_eq_some

theorem Remembers.vacant_eq (held : Remembers n seen t) :
    vacant n t = if (admitted n seen).length < n then some (admitted n seen).length else none := by
  have taken : ∀ i, i < n → ((t i).isNone ↔ (admitted n seen).length ≤ i) := by
    intro i inside
    rw [← Option.isNone_map (f := Prod.fst), held.key inside, Option.isNone_iff_eq_none,
      List.getElem?_eq_none_iff]
  split
  · rename_i room
    refine Search.first_eq_some.mpr ⟨(taken _ room).mpr (Nat.le_refl _), room, ?_⟩
    intro j early free
    exact Nat.not_le.mpr early ((taken j (Nat.lt_trans early room)).mp free)
  · rename_i full
    refine Search.first_eq_none.mpr ?_
    intro j inside free
    exact full (Nat.lt_of_le_of_lt ((taken j inside).mp free) inside)

theorem Remembers.lookup (held : Remembers n seen t) :
    ((find n t k).bind fun i => (t i).map Prod.snd) = recalled n seen k := by
  cases found : find n t k with
  | none =>
      rw [held.find_eq_none] at found
      rw [recalled, if_neg found, Option.bind_none]
  | some i =>
      rw [held.find_eq_some] at found
      have member := List.mem_of_getElem? found
      have short : i < (admitted n seen).length := (List.getElem?_eq_some_iff.mp found).1
      have inside : i < n := Nat.lt_of_lt_of_le short (length_admitted_le n seen)
      rw [recalled, if_pos member, Option.bind_some]
      exact held.value inside ((held.key inside).trans found)

theorem Remembers.learn (held : Remembers n seen t) (entry : κ × ν) :
    Remembers n (seen ++ [entry]) (learn n t entry) := by
  obtain ⟨k, v⟩ := entry
  intro i inside
  cases found : find n t k with
  | some place =>
      -- The key is refreshed in its place, and no other place has it.
      have at_place := held.find_eq_some.mp found
      rw [admitted_append_of_old v (Or.inl (List.mem_of_getElem? at_place))]
      simp only [Cache.learn, found, write]
      split
      · rename_i here
        subst here
        simp [at_place, latest_append]
      · rename_i elsewhere
        rw [held i inside]
        cases there : (admitted n seen)[i]? with
        | none => rfl
        | some other =>
            have different : other ≠ k := by
              rintro rfl
              have again := held.find_eq_some.mpr there
              rw [found] at again
              exact elsewhere (Option.some.inj again).symm
            simp [latest_append, different]
  | none =>
      have new := held.find_eq_none.mp found
      have others : ∀ j : Nat, ((admitted n seen)[j]?.bind fun other =>
          (latest (seen ++ [(k, v)]) other).map fun w => (other, w)) =
          (admitted n seen)[j]?.bind fun other => (latest seen other).map fun w => (other, w) := by
        intro j
        cases there : (admitted n seen)[j]? with
        | none => rfl
        | some other =>
            have different : other ≠ k := fun same => new (same ▸ List.mem_of_getElem? there)
            simp [latest_append, different]
      simp only [Cache.learn, found, held.vacant_eq]
      by_cases room : (admitted n seen).length < n
      · -- The key takes the first free place.
        rw [admitted_append_of_new v new room, if_pos room]
        simp only [write]
        split
        · rename_i here
          subst here
          simp [latest_append]
        · rename_i elsewhere
          rw [held i inside, ← others i]
          rcases Nat.lt_or_ge i (admitted n seen).length with low | high
          · rw [List.getElem?_append_left low]
          · have beyond : (admitted n seen ++ [k]).length ≤ i := by
              rw [List.length_append, List.length_singleton]
              omega
            rw [List.getElem?_eq_none high, List.getElem?_eq_none beyond]
      · -- All the places are taken, and the entry is dropped.
        rw [admitted_append_of_old v (Or.inr (Nat.not_lt.mp room)), if_neg room, others i]
        exact held i inside

end Places

end Gramado.Lib.Cache
