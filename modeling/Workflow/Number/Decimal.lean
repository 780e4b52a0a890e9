import Workflow.Number.Shortest

/-!
# Decimal text

How a number is written, and the two ways one is read.

* `render` writes the shortest digits: positional while at most sixteen digits stand before the
  point and at most five zeros after it, else with an exponent. A point and a digit always show that
  the number is not an integer.
* `read` gives the nearest number to a coefficient and an exponent, `readText?` the nearest to a
  text.
* `readScaled` rounds the coefficient, then multiplies or divides by one power of ten: quick, and at
  times one unit off the nearest number.
-/

namespace Workflow.Decimal

/-- A natural number in base ten. -/
def natDigits (n : Nat) : List Char := Nat.toDigits 10 n

/-- An integer in base ten. -/
def intDigits (n : Int) : List Char :=
  if n < 0 then '-' :: natDigits n.natAbs else natDigits n.natAbs

/-- The digits of a coefficient placed against a power of ten. -/
def place (digits : List Char) (exponent : Int) : List Char :=
  let count : Int := digits.length
  let point := count + exponent
  if 0 ≤ exponent ∧ point ≤ 16 then
    digits ++ List.replicate exponent.toNat '0' ++ ['.', '0']
  else if 0 < point ∧ point ≤ 16 then
    digits.take point.toNat ++ '.' :: digits.drop point.toNat
  else if -5 < point ∧ point ≤ 0 then
    '0' :: '.' :: List.replicate (-point).toNat '0' ++ digits
  else
    let mantissa := match digits with
      | [d] => [d]
      | d :: rest => d :: '.' :: rest
      | [] => []
    mantissa ++ 'e' :: intDigits (point - 1)

/-- The text of a finite number. -/
def render (x : Binary64) : List Char :=
  let d := Shortest.digits x
  let body := place (natDigits d.coefficient) d.exponent
  if x.isNegative then '-' :: body else body

/-- The number nearest to `± coefficient * 10 ^ exponent`. -/
def read (negative : Bool) (coefficient : Nat) (exponent : Int) : Binary64 :=
  if 0 ≤ exponent then Binary64.ofRatio negative (coefficient * Nat.pow 10 exponent.toNat) 1
  else Binary64.ofRatio negative coefficient (Nat.pow 10 (-exponent).toNat)

/-- The number that digits stand for behind a number. -/
def digitsValue (n : Nat) (digits : List Char) : Nat :=
  digits.foldl (fun n c => 10 * n + (c.toNat - '0'.toNat)) n

/-- The exponent behind a mantissa: nothing, or a mark, a sign and digits. -/
def readExponent? : List Char → Option Int
  | [] => some 0
  | c :: rest =>
    if c = 'e' ∨ c = 'E' then
      let digits := if rest.head? = some '+' ∨ rest.head? = some '-' then rest.drop 1 else rest
      if digits.isEmpty || !digits.all Char.isDigit then none
      else if rest.head? = some '-' then some (-(digitsValue 0 digits : Int))
      else some (digitsValue 0 digits)
    else none

/-- A number without its sign: digits with a point anywhere, and an exponent. -/
def readUnsigned? (negative : Bool) (text : List Char) : Option Binary64 := do
  let (whole, rest) := text.span Char.isDigit
  let (fraction, rest) :=
    if rest.head? = some '.' then (rest.drop 1).span Char.isDigit else ([], rest)
  if whole.isEmpty && fraction.isEmpty then none
  else
    let exponent ← readExponent? rest
    return read negative (digitsValue 0 (whole ++ fraction)) (exponent - fraction.length)

/-- The number nearest to a text: a decimal, or the name of an infinity or of no number. -/
def readText? (text : String) : Option Binary64 :=
  let input := text.toList
  let negative := input.head? = some '-'
  let body := if negative ∨ input.head? = some '+' then input.drop 1 else input
  let word := String.ofList (body.map Char.toLower)
  if word = "nan" then some Binary64.nan
  else if word = "inf" ∨ word = "infinity" then some (Binary64.infinity negative)
  else readUnsigned? negative body

/-- The number nearest to a power of ten. -/
def powerOfTen (n : Nat) : Binary64 := Binary64.ofNat (Nat.pow 10 n)

/-- Divides by `10 ^ 308` until the remaining exponent is in the range of the powers. -/
def scaleDown : Nat → Binary64 → Nat → Binary64
  | 0, x, _ => x
  | fuel + 1, x, n =>
    if x.isZero then x
    else if n ≤ 308 then x.div (powerOfTen n)
    else scaleDown fuel (x.div (powerOfTen 308)) (n - 308)

/-- The number by rounding the coefficient first and scaling it then; none when it is too large. -/
def readScaled (negative : Bool) (coefficient : Nat) (exponent : Int) : Option Binary64 :=
  let x := Binary64.ofNat coefficient
  let magnitude :=
    if x.isZero then x
    else if 0 ≤ exponent then
      if 308 < exponent then Binary64.infinity false else x.mul (powerOfTen exponent.toNat)
    else scaleDown 8 x (-exponent).toNat
  if magnitude.isFinite then some (if negative then magnitude.neg else magnitude) else none

end Workflow.Decimal
