/-
The pieces of a list between the elements that separate them. Separators that
follow each other have no piece between them.
-/
import Mathlib.Data.List.Basic
import Mathlib.Tactic.Common

namespace Gramado.Lib.Pieces

variable {α : Type} {sep : α → Bool}

/-- The longest parts without a separator that are not empty, in order. -/
noncomputable def pieces (sep : α → Bool) (text : List α) : List (List α) :=
  (text.splitOnP sep).filter fun piece => !piece.isEmpty

variable {text lead word : List α} {d : α}

theorem pieces_nil : pieces sep [] = [] := by
  rw [pieces, List.splitOnP_nil]
  rfl

theorem pieces_append_cons {front : List α} (separates : sep d = true) :
    pieces sep (front ++ d :: text) = pieces sep front ++ pieces sep text := by
  rw [pieces, List.splitOnP_append_cons front text separates, List.filter_append, pieces, pieces]

theorem pieces_lead (separate : ∀ c ∈ lead, sep c = true) :
    pieces sep (lead ++ text) = pieces sep text := by
  induction lead with
  | nil => rfl
  | cons c lead ih =>
      have first : pieces sep ([] ++ c :: (lead ++ text)) =
          pieces sep [] ++ pieces sep (lead ++ text) :=
        pieces_append_cons (separate c List.mem_cons_self)
      rw [List.nil_append, pieces_nil, List.nil_append] at first
      rw [List.cons_append, first]
      exact ih fun c inside => separate c (List.mem_cons_of_mem _ inside)

theorem pieces_word (nonempty : word ≠ []) (free : ∀ c ∈ word, sep c = false) :
    pieces sep word = [word] := by
  rw [pieces, List.splitOnP_eq_singleton free]
  cases word with
  | nil => exact absurd rfl nonempty
  | cons c rest => rfl

theorem first_separator (sep : α → Bool) (text : List α) :
    (∀ c ∈ text, sep c = false) ∨
    ∃ word d more, text = word ++ d :: more ∧ (∀ c ∈ word, sep c = false) ∧ sep d = true := by
  induction text with
  | nil =>
      left
      exact List.forall_mem_nil _
  | cons c rest ih =>
      by_cases first : sep c = true
      · right
        exact ⟨[], c, rest, rfl, List.forall_mem_nil _, first⟩
      · have free : sep c = false := Bool.eq_false_iff.mpr first
        rcases ih with clean | ⟨word, d, more, rfl, others, separates⟩
        · left
          exact List.forall_mem_cons.mpr ⟨free, clean⟩
        · right
          exact ⟨c :: word, d, more, rfl, List.forall_mem_cons.mpr ⟨free, others⟩, separates⟩

/-- A list either has separators only, or one last piece behind separators, or a
    first piece behind them that a separator ends. -/
theorem pieces_cases (sep : α → Bool) (text : List α) :
    (∀ c ∈ text, sep c = true) ∧ pieces sep text = [] ∨
    ∃ lead word, (∀ c ∈ lead, sep c = true) ∧ word ≠ [] ∧ (∀ c ∈ word, sep c = false) ∧
      (text = lead ++ word ∧ pieces sep text = [word] ∨
        ∃ d more, sep d = true ∧ text = lead ++ (word ++ d :: more) ∧
          pieces sep text = word :: pieces sep more) := by
  induction text with
  | nil =>
      left
      exact ⟨List.forall_mem_nil _, pieces_nil⟩
  | cons c rest ih =>
      by_cases separates : sep c = true
      · have alone : ∀ d ∈ [c], sep d = true := List.forall_mem_singleton.mpr separates
        have same : pieces sep (c :: rest) = pieces sep rest := pieces_lead alone
        rw [same]
        rcases ih with ⟨all, nothing⟩ | ⟨lead, word, before, nonempty, free, rest⟩
        · left
          exact ⟨List.forall_mem_cons.mpr ⟨separates, all⟩, nothing⟩
        · right
          refine ⟨c :: lead, word, List.forall_mem_cons.mpr ⟨separates, before⟩, nonempty, free, ?_⟩
          rcases rest with ⟨rfl, last⟩ | ⟨d, more, ends, rfl, first⟩
          · exact .inl ⟨rfl, last⟩
          · exact .inr ⟨d, more, ends, rfl, first⟩
      · have start : sep c = false := Bool.eq_false_iff.mpr separates
        right
        rcases first_separator sep rest with clean | ⟨word, d, more, rfl, others, ends⟩
        · have free : ∀ d ∈ c :: rest, sep d = false := List.forall_mem_cons.mpr ⟨start, clean⟩
          exact ⟨[], c :: rest, List.forall_mem_nil _, List.cons_ne_nil c rest, free,
            .inl ⟨rfl, pieces_word (List.cons_ne_nil c rest) free⟩⟩
        · have free : ∀ d ∈ c :: word, sep d = false := List.forall_mem_cons.mpr ⟨start, others⟩
          have cut :
            pieces sep (c :: word ++ d :: more) = pieces sep (c :: word) ++ pieces sep more :=
            pieces_append_cons ends
          rw [pieces_word (List.cons_ne_nil c word) free] at cut
          exact ⟨[], c :: word, List.forall_mem_nil _, List.cons_ne_nil c word, free,
            .inr ⟨d, more, ends, rfl, cut⟩⟩

end Gramado.Lib.Pieces
