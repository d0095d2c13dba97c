/-
One direction of a connection over a line that keeps its order. What is sent
goes on the line in numbered pieces; each number follows from the one before it
and the content between them. Nothing is said of what the numbers are, so they
may well run around.
-/
import Mathlib.Data.List.Basic

namespace Gramado.Lib.Streams

variable {α β ν : Type}

/-- How the pieces of a line are numbered, and what they hold. -/
structure Numbering (α β ν : Type) where
  number : α → ν
  content : α → List β
  next : ν → List β → ν

variable {rule : Numbering α β ν} {n m : ν} {a : α} {line later : List α} {sent stored : List β}

/-- The pieces follow one another from the number `n`, and the next one is `m`. -/
def Sequenced (rule : Numbering α β ν) : ν → List α → ν → Prop
  | n, [], m => n = m
  | n, a :: later, m => rule.number a = n ∧ Sequenced rule (rule.next n (rule.content a)) later m

theorem sequenced_snoc (sequenced : Sequenced rule n line m) (follows : rule.number a = m) :
    Sequenced rule n (line ++ [a]) (rule.next m (rule.content a)) := by
  induction line generalizing n with
  | nil =>
      cases sequenced
      exact ⟨follows, rfl⟩
  | cons b line ih => exact ⟨sequenced.1, ih sequenced.2⟩

/-- The contents of the pieces on the line, in their order. -/
def carried (rule : Numbering α β ν) (line : List α) : List β :=
  line.flatMap rule.content

/-- What was sent is what is stored and, behind it, what is on the line. The
    receiver expects the number `n`, and `m` is the sender's next one. -/
structure Stream (rule : Numbering α β ν) (n m : ν) (sent stored : List β) (line : List α) :
    Prop where
  sequenced : Sequenced rule n line m
  whole : sent = stored ++ carried rule line

theorem stream_start (n : ν) : Stream rule n n [] [] [] :=
  ⟨rfl, rfl⟩

theorem Stream.send (stream : Stream rule n m sent stored line) (follows : rule.number a = m) :
    Stream rule n (rule.next m (rule.content a)) (sent ++ rule.content a) stored (line ++ [a]) := by
  refine ⟨sequenced_snoc stream.sequenced follows, ?_⟩
  rw [stream.whole, carried, carried, List.flatMap_append, List.append_assoc]
  simp

theorem Stream.number_eq (stream : Stream rule n m sent stored (a :: later)) :
    rule.number a = n :=
  stream.sequenced.1

theorem Stream.take (stream : Stream rule n m sent stored (a :: later)) :
    Stream rule (rule.next n (rule.content a)) m sent (stored ++ rule.content a) later := by
  refine ⟨stream.sequenced.2, ?_⟩
  rw [stream.whole, List.append_assoc]
  rfl

/-- Without a piece on the line everything is stored, and the two agree. -/
theorem Stream.settled (stream : Stream rule n m sent stored []) : sent = stored ∧ n = m :=
  ⟨stream.whole.trans (List.append_nil stored), stream.sequenced⟩

end Gramado.Lib.Streams
