import Workflow.Number.Binary64

/-!
# The fewest digits that read back

A finite number stands for an interval of reals that round to it, the ends included when its
significand is even. `digits` picks, from the shortest decimals in that interval, the one nearest to
the number itself.

* `Decimal` is an integer times a power of ten.
* `candidates` are the two neighbours of the number on a decimal grid.
* `shortest` walks the grids from coarse to fine; seventeen digits always suffice.
-/

namespace Workflow

/-- The decimal `coefficient * 10 ^ exponent`. -/
structure Decimal where
  coefficient : Nat
  exponent : Int
deriving DecidableEq, Inhabited

namespace Shortest

/-- A positive number with the interval that rounds to it, all over one denominator. -/
structure Interval where
  low : Nat
  value : Nat
  high : Nat
  denominator : Nat
  closed : Bool

/-- The interval of a finite positive number. Below a power of two the gap is half as wide. -/
def interval (x : Binary64) : Interval :=
  let m := x.significand
  let e := x.exponent
  let narrow := m = Binary64.fractionSize ∧ -1074 < e
  let below := if narrow then 1 else 2
  let scale := Nat.pow 2 e.toNat
  let den := 4 * Nat.pow 2 (-e).toNat
  ⟨(4 * m - below) * scale, 4 * m * scale, (4 * m + 2) * scale, den, m % 2 == 0⟩

/-- Whether `coefficient * 10 ^ exponent` rounds to the number. -/
def Interval.contains (i : Interval) (d : Decimal) : Bool :=
  let num := d.coefficient * Nat.pow 10 d.exponent.toNat * i.denominator
  let ten := Nat.pow 10 (-d.exponent).toNat
  if i.closed then decide (i.low * ten ≤ num ∧ num ≤ i.high * ten)
  else decide (i.low * ten < num ∧ num < i.high * ten)

/-- How far a decimal is from the number, up to a factor that depends on the exponent only. -/
def Interval.distance (i : Interval) (d : Decimal) : Nat :=
  let num := d.coefficient * Nat.pow 10 d.exponent.toNat * i.denominator
  let value := i.value * Nat.pow 10 (-d.exponent).toNat
  if num ≤ value then value - num else num - value

/-- The number's two neighbours among the multiples of `10 ^ exponent`. -/
def Interval.candidates (i : Interval) (exponent : Int) : Decimal × Decimal :=
  let floor := i.value * Nat.pow 10 (-exponent).toNat / (i.denominator * Nat.pow 10 exponent.toNat)
  (⟨floor, exponent⟩, ⟨floor + 1, exponent⟩)

/-- The neighbour to print on one grid, if one rounds to the number; of two the nearer, and of two
equally near ones the even. -/
def Interval.pick? (i : Interval) (exponent : Int) : Option Decimal :=
  let (lower, upper) := i.candidates exponent
  match i.contains lower && lower.coefficient != 0, i.contains upper with
  | true, true =>
    if i.distance lower < i.distance upper then some lower
    else if i.distance upper < i.distance lower then some upper
    else if lower.coefficient % 2 = 0 then some lower else some upper
  | true, false => some lower
  | false, true => some upper
  | false, false => none

/-- The least exponent such that the number is below its power of ten, from a floating guess. -/
def Interval.magnitude (i : Interval) : Int :=
  let guess : Int := ((i.value.log2 : Int) - i.denominator.log2) * 30103 / 100000 - 1
  let reaches (e : Int) : Bool :=
    decide (i.denominator * Nat.pow 10 e.toNat ≤ i.value * Nat.pow 10 (-e).toNat)
  if reaches (guess + 2) then guess + 3
  else if reaches (guess + 1) then guess + 2
  else if reaches guess then guess + 1
  else guess

/-- The first hit on the grids from `exponent` down, `fuel` of them. -/
def Interval.search (i : Interval) : Nat → Int → Decimal
  | 0, exponent => (i.candidates exponent).1
  | fuel + 1, exponent =>
    match i.pick? exponent with
    | some d => d
    | none => i.search fuel (exponent - 1)

/-- Moves the zeros at the end of a coefficient into the exponent. -/
def trim : Nat → Decimal → Decimal
  | 0, d => d
  | fuel + 1, d =>
    if d.coefficient % 10 = 0 ∧ d.coefficient ≠ 0 then
      trim fuel ⟨d.coefficient / 10, d.exponent + 1⟩
    else d

/-- The decimal with the fewest digits that rounds to a finite number; nought for zero. -/
def digits (x : Binary64) : Decimal :=
  if x.isZero then ⟨0, 0⟩
  else
    let i := interval x
    trim 17 (i.search 17 (i.magnitude - 1))

end Shortest

end Workflow
