import Workflow.Number.Binary64

/-!
# Shorter floating formats

Half and single precision as formats into which some double-precision numbers fit.
`widen_of_narrow?`: nothing is lost by a number that fits.
-/

namespace Workflow

/-- A binary floating format, by the sizes of its two fields below the sign. -/
structure FloatFormat where
  exponentBits : Nat
  fractionBits : Nat
deriving DecidableEq

namespace FloatFormat

/-- The format of 16 bits. -/
def half : FloatFormat := ⟨5, 10⟩

/-- The format of 32 bits. -/
def single : FloatFormat := ⟨8, 23⟩

/-- The exponent field of infinities and NaNs. -/
def topExponent (f : FloatFormat) : Nat := Nat.pow 2 f.exponentBits - 1

/-- What the exponent field exceeds the exponent by. -/
def bias (f : FloatFormat) : Nat := Nat.pow 2 (f.exponentBits - 1) - 1

/-- The value of the sign bit. -/
def signBit (f : FloatFormat) : Nat := Nat.pow 2 (f.exponentBits + f.fractionBits)

/-- How many bits a fraction lacks to double precision. -/
def lacking (f : FloatFormat) : Nat := 52 - f.fractionBits

/-- The double-precision number of bits in the format. A NaN becomes quiet. -/
def widen (f : FloatFormat) (bits : Nat) : Binary64 :=
  let negative : Bool := decide (f.signBit ≤ bits)
  let exponent := bits / Nat.pow 2 f.fractionBits % Nat.pow 2 f.exponentBits
  let fraction := bits % Nat.pow 2 f.fractionBits
  if exponent = f.topExponent then
    if fraction = 0 then .infinity negative
    else .ofParts negative (Binary64.nan.magnitudeBits ||| (fraction * Nat.pow 2 f.lacking))
  else if exponent = 0 then .ofScaled negative fraction (1 - (f.bias + f.fractionBits : Nat))
  else .ofScaled negative (Nat.pow 2 f.fractionBits + fraction)
    ((exponent : Int) - (f.bias + f.fractionBits : Nat))

/-- The bits below the sign that stand for a number if it fits. -/
def magnitude (f : FloatFormat) (x : Binary64) : Nat :=
  let fraction := x.magnitudeBits % Binary64.fractionSize / Nat.pow 2 f.lacking
  let exponent : Int := (x.magnitudeBits / Binary64.fractionSize : Nat) - 1023 + f.bias
  if !x.isFinite then f.topExponent * Nat.pow 2 f.fractionBits + fraction
  else if 0 < exponent then exponent.toNat * Nat.pow 2 f.fractionBits + fraction
  else x.significand / Nat.pow 2 (1 - (f.bias + f.fractionBits : Nat) - x.exponent).toNat

/-- The bits of a number in the format; none if it does not fit. -/
def narrow? (f : FloatFormat) (x : Binary64) : Option Nat :=
  let bits := f.magnitude x + if x.isNegative then f.signBit else 0
  if bits < 2 * f.signBit ∧ f.widen bits = x then some bits else none

theorem widen_of_narrow? {f : FloatFormat} {x : Binary64} {bits : Nat}
    (h : f.narrow? x = some bits) : bits < 2 * f.signBit ∧ f.widen bits = x := by
  simp only [narrow?, Option.ite_none_right_eq_some, Option.some.injEq] at h
  obtain ⟨fits, rfl⟩ := h
  exact fits

end FloatFormat

end Workflow
