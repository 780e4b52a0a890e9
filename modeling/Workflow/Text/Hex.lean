import Workflow.Text.Utf8

/-!
# Hexadecimal text

Two digits a byte. `encode` writes lower-case digits, `decode?` reads digits of either case.
-/

namespace Workflow.Hex

/-- The lower-case digit of a value below sixteen. -/
def digit (value : Nat) : Char :=
  if value < 10 then Char.ofNat (48 + value) else Char.ofNat (87 + value)

/-- The upper-case digit of a value below sixteen. -/
def upperDigit (value : Nat) : Char :=
  if value < 10 then Char.ofNat (48 + value) else Char.ofNat (55 + value)

/-- The value of a digit of either case. -/
def value? (c : Char) : Option Nat :=
  if '0' ≤ c ∧ c ≤ '9' then some (c.toNat - 48)
  else if 'a' ≤ c ∧ c ≤ 'f' then some (c.toNat - 87)
  else if 'A' ≤ c ∧ c ≤ 'F' then some (c.toNat - 55)
  else none

/-- The two digits of a byte. -/
def byte (b : UInt8) : List Char := [digit (b.toNat / 16), digit (b.toNat % 16)]

/-- The digits of all bytes, in order. -/
def encodeChars (bytes : Bytes) : List Char := bytes.flatMap byte

/-- The digits of all bytes as a string. -/
def encode (bytes : Bytes) : String := String.ofList (encodeChars bytes)

/-- The bytes that pairs of digits stand for; none for a half pair or another character. -/
def decodeChars? : List Char → Option Bytes
  | [] => some []
  | [_] => none
  | a :: b :: rest => do
    let high ← value? a
    let low ← value? b
    return UInt8.ofNat (high * 16 + low) :: (← decodeChars? rest)

/-- The bytes that a string of digits stands for. -/
def decode? (text : String) : Option Bytes := decodeChars? text.toList

/-- The last `width` digits of a number. -/
def fixed : Nat → Nat → List Char
  | 0, _ => []
  | width + 1, value => fixed width (value / 16) ++ [digit (value % 16)]

theorem length_fixed (width value : Nat) : (fixed width value).length = width := by
  induction width generalizing value with
  | zero => rfl
  | succ width ih => simp [fixed, ih]

/-- Whether a character is a digit that `encode` writes. -/
def isDigit (c : Char) : Bool := c.isDigit || ('a' ≤ c && c ≤ 'f')

theorem isDigit_digit {value : Nat} (h : value < 16) : isDigit (digit value) = true := by
  revert value
  decide

theorem isDigit_of_mem_fixed {width value : Nat} {c : Char} (h : c ∈ fixed width value) :
    isDigit c = true := by
  induction width generalizing value with
  | zero => simp [fixed] at h
  | succ width ih =>
    simp only [fixed, List.mem_append, List.mem_singleton] at h
    rcases h with h | rfl
    · exact ih h
    · exact isDigit_digit (Nat.mod_lt _ (by decide))

end Workflow.Hex
