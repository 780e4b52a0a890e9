import Workflow.Text.Utf8

/-!
# Reading bytes

A `ByteReader` takes a thing from the front of an input and gives it with what is left, or fails.
-/

namespace Workflow

/-- A reader of one thing: what it reads, and what is left. -/
abbrev ByteReader (α : Type) := Bytes → Option (α × Bytes)

namespace ByteReader

/-- Reads `count` bytes. -/
def take (count : Nat) : ByteReader Bytes := fun input =>
  let front := input.take count
  if front.length = count then some (front, input.drop count) else none

/-- Reads `count` things. -/
def many {α : Type} (item : ByteReader α) : Nat → ByteReader (List α)
  | 0, input => some ([], input)
  | count + 1, input =>
    match item input with
    | none => none
    | some (x, rest) => (many item count rest).map fun (xs, rest) => (x :: xs, rest)

/-- Reads two things. -/
def pair {α : Type} (item : ByteReader α) : ByteReader (α × α) := fun input => do
  let (key, rest) ← item input
  let (value, rest) ← item rest
  return ((key, value), rest)

theorem take_append (front rest : Bytes) :
    take front.length (front ++ rest) = some (front, rest) := by
  simp [take]

end ByteReader

end Workflow
