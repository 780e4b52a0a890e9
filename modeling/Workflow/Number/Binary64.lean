/-!
# Double-precision numbers

A `Binary64` is its 64 bits: sign, 11 bits of exponent, 52 of fraction. Arithmetic is exact on
`Nat` with one rounding at the end, to the nearest number and to the even one of two.

* `roundRatio` rounds a quotient of natural numbers.
* `ofScaled` is the number nearest to `m * 2 ^ e`.
* `mul`, `div` and `ofNat` are rounded once.
-/

namespace Workflow

/-- A double-precision number, by its bits. Equality of bits tells 0 from -0. -/
structure Binary64 where
  bits : UInt64
deriving DecidableEq

namespace Binary64

instance : Inhabited Binary64 := ⟨⟨0⟩⟩

/-- The bits of infinity. -/
def infinityBits : Nat := 0x7ff0000000000000

/-- The value of the sign bit. -/
def signBit : Nat := 0x8000000000000000

/-- One more than the largest fraction. -/
def fractionSize : Nat := 0x10000000000000

/-- Whether the sign bit is set. -/
def isNegative (x : Binary64) : Bool := decide (signBit ≤ x.bits.toNat)

/-- All bits but the sign. -/
def magnitudeBits (x : Binary64) : Nat := x.bits.toNat % signBit

/-- Neither infinite nor a NaN. -/
def isFinite (x : Binary64) : Bool := decide (x.magnitudeBits < infinityBits)

def isNaN (x : Binary64) : Bool := decide (infinityBits < x.magnitudeBits)

def isZero (x : Binary64) : Bool := decide (x.magnitudeBits = 0)

/-- The number with the given sign and remaining bits. -/
def ofParts (negative : Bool) (magnitude : Nat) : Binary64 :=
  ⟨UInt64.ofNat (magnitude % signBit + if negative then signBit else 0)⟩

/-- The quiet NaN. -/
def nan : Binary64 := ofParts false 0x7ff8000000000000

def infinity (negative : Bool) : Binary64 := ofParts negative infinityBits

def zero (negative : Bool) : Binary64 := ofParts negative 0

/-- The integer of a finite number, whose size is `significand * 2 ^ exponent`. -/
def significand (x : Binary64) : Nat :=
  let fraction := x.magnitudeBits % fractionSize
  if x.magnitudeBits < fractionSize then fraction else fraction + fractionSize

/-- The power of two that scales the significand. -/
def exponent (x : Binary64) : Int :=
  let biased := x.magnitudeBits / fractionSize
  (Nat.max biased 1 : Int) - 1075

/-- Equality of values: 0 equals -0 and a NaN equals nothing. -/
def sameValue (x y : Binary64) : Bool :=
  !x.isNaN && !y.isNaN && (x == y || (x.isZero && y.isZero))

/-- The quotient rounded to an integer, a half to the even one. -/
def roundDiv (num den : Nat) : Nat :=
  let q := num / den
  let twice := 2 * (num % den)
  if twice < den then q
  else if den < twice then q + 1
  else q + q % 2

/-- The quotient of two scaled integers, `num / den * 2 ^ -e`, rounded to an integer. -/
def roundScaled (num den : Nat) (e : Int) : Nat :=
  if 0 ≤ e then roundDiv num (den * Nat.pow 2 e.toNat)
  else roundDiv (num * Nat.pow 2 (-e).toNat) den

/-- The least power of two such that the quotient, divided by it, has at most 53 bits; not below
the power of the smallest number. -/
def scaleOf (num den : Nat) : Int :=
  let guess : Int := (num.log2 : Int) - den.log2 - 53
  let e := max guess (-1074)
  let tooLarge :=
    if 0 ≤ e then decide (den * Nat.pow 2 (e.toNat + 53) ≤ num)
    else decide (den * Nat.pow 2 53 ≤ num * Nat.pow 2 (-e).toNat)
  if tooLarge then e + 1 else e

/-- The bits, without the sign, of the number nearest to `num / den`. -/
def roundRatio (num den : Nat) : Nat :=
  if num = 0 then 0
  else
    let e := scaleOf num den
    let m := roundScaled num den e
    min (m + ((e + 1074).toNat) * fractionSize) infinityBits

/-- The number nearest to `± num / den`. -/
def ofRatio (negative : Bool) (num den : Nat) : Binary64 := ofParts negative (roundRatio num den)

/-- The number nearest to `± m * 2 ^ e`. -/
def ofScaled (negative : Bool) (m : Nat) (e : Int) : Binary64 :=
  if 0 ≤ e then ofRatio negative (m * Nat.pow 2 e.toNat) 1
  else ofRatio negative m (Nat.pow 2 (-e).toNat)

/-- The number nearest to a natural number. -/
def ofNat (n : Nat) : Binary64 := ofRatio false n 1

/-- The number nearest to an integer. -/
def ofInt (n : Int) : Binary64 := ofRatio (decide (n < 0)) n.natAbs 1

/-- The product of two finite numbers. -/
def mul (x y : Binary64) : Binary64 :=
  ofScaled (x.isNegative != y.isNegative) (x.significand * y.significand) (x.exponent + y.exponent)

/-- The quotient of two finite numbers, the second not zero. -/
def div (x y : Binary64) : Binary64 :=
  let e := x.exponent - y.exponent
  let negative := x.isNegative != y.isNegative
  if 0 ≤ e then ofRatio negative (x.significand * Nat.pow 2 e.toNat) y.significand
  else ofRatio negative x.significand (y.significand * Nat.pow 2 (-e).toNat)

/-- The same number with the other sign. -/
def neg (x : Binary64) : Binary64 := ofParts (!x.isNegative) x.magnitudeBits

end Binary64

end Workflow
