/-!
# Punycode

The letters of a domain label outside ASCII, written in ASCII (RFC 3492). The label's ASCII
characters come first, then a run of numbers says where the others go.

* `encodeNumber` writes one number in digits of varying weight, `readNumber?` reads one.
* `encodeLabel` writes a label; the other characters are placed in the order of their code points.
* `decodeLabel?` puts the characters back into their places.
-/

namespace Workflow.DomainName.Punycode

def base : Nat := 36

/-- The weight that a digit counts with, from its place and the bias. -/
def threshold (place bias : Nat) : Nat :=
  if place ≤ bias + 1 then 1 else if bias + 26 ≤ place then 26 else place - bias

/-- The letter or digit of a value below `base`. -/
def digit (value : Nat) : Char :=
  if value < 26 then Char.ofNat (97 + value) else Char.ofNat (22 + value)

theorem threshold_pos (place bias : Nat) : 1 ≤ threshold place bias := by
  unfold threshold
  split
  · omega
  · split <;> omega

theorem threshold_le (place bias : Nat) : threshold place bias ≤ 26 := by
  unfold threshold
  split
  · omega
  · split <;> omega

/-- One number, the digit of least weight first. -/
def encodeNumber (bias place number : Nat) : List Char :=
  let t := threshold place bias
  if number < t then [digit number]
  else
    digit (t + (number - t) % (base - t)) ::
      encodeNumber bias (place + base) ((number - t) / (base - t))
termination_by number
decreasing_by
  rename_i h
  simp only [Nat.not_lt] at h
  have low := threshold_pos place bias
  have high := threshold_le place bias
  have : t = threshold place bias := rfl
  simp only [base]
  exact Nat.lt_of_le_of_lt (Nat.div_le_self _ _) (by omega)

/-- Counts how often a number can be divided down to the last place. -/
def reduce (delta places : Nat) : Nat × Nat :=
  if 455 < delta then reduce (delta / 35) (places + base) else (delta, places)
termination_by delta
decreasing_by omega

/-- The bias for the next number. -/
def adapt (delta handled : Nat) (first : Bool) : Nat :=
  let scaled := if first then delta / 700 else delta / 2
  let (rest, places) := reduce (scaled + scaled / handled) 0
  places + base * rest / (rest + 38)

/-- Where the encoding of a label stands. -/
structure Progress where
  handled : Nat
  delta : Nat
  bias : Nat
  output : List Char

/-- Takes in one character of the label while the code point `n` is placed. -/
def placeChar (basic n : Nat) (p : Progress) (c : Nat) : Progress :=
  if c < n then { p with delta := p.delta + 1 }
  else if c = n then
    { handled := p.handled + 1
      delta := 0
      bias := adapt p.delta (p.handled + 1) (p.handled == basic)
      output := p.output ++ encodeNumber p.bias base p.delta }
  else p

/-- Places every occurrence of the code point `n`, the one placed before it being `previous`. -/
def placeAll (label : List Nat) (basic previous n : Nat) (p : Progress) : Progress :=
  let p := { p with delta := p.delta + (n - previous) * (p.handled + 1) }
  label.foldl (placeChar basic n) p

/-- The distinct code points from `low` on, in order. -/
def sortedFrom (low : Nat) (label : List Nat) : List Nat :=
  ((label.filter (low ≤ ·)).mergeSort (· ≤ ·)).eraseDups

/-- A label in ASCII, without the mark in front of it. -/
def encodeLabel (label : List Char) : List Char :=
  let points := label.map Char.toNat
  let basic := label.filter fun c => c.toNat < 128
  let start : Progress :=
    ⟨basic.length, 0, 72, if basic.isEmpty then [] else basic ++ ['-']⟩
  let step (state : Nat × Progress) (n : Nat) : Nat × Progress :=
    let p := placeAll points basic.length state.1 n state.2
    (n + 1, { p with delta := p.delta + 1 })
  ((sortedFrom 128 points).foldl step (128, start)).2.output

/-! ## Reading -/

/-- Numbers stay below this bound. -/
def bound : Nat := Nat.pow 2 32

/-- The value of a letter or digit. -/
def digitValue? (c : Char) : Option Nat :=
  if c.isDigit then some (c.toNat - 22)
  else if c.isAlpha then some (c.toLower.toNat - 97)
  else none

/-- Adds one number to `total`; `weight` is the weight of its next digit. Also gives the rest of the
text. -/
def readNumber? (bias place weight total : Nat) : List Char → Option (Nat × List Char)
  | [] => none
  | c :: rest => do
    let digit ← digitValue? c
    let total := total + digit * weight
    let t := threshold place bias
    let weight' := weight * (base - t)
    if bound ≤ total then none
    else if digit < t then some (total, rest)
    else if bound ≤ weight' then none
    else readNumber? bias (place + base) weight' total rest

theorem length_of_readNumber? {bias place weight total n : Nat} {text rest : List Char}
    (h : readNumber? bias place weight total text = some (n, rest)) :
    rest.length < text.length := by
  induction text generalizing place weight total with
  | nil => simp [readNumber?] at h
  | cons c tail ih =>
    simp only [readNumber?, Option.bind_eq_bind, Option.bind_eq_some_iff] at h
    obtain ⟨digit, -, h⟩ := h
    split at h
    · simp at h
    · split at h
      · simp only [Option.some.injEq, Prod.mk.injEq] at h
        simp [← h.2]
      · split at h
        · simp at h
        · exact Nat.lt_succ_of_lt (ih h)

/-- Puts the characters that a text places into a label. The next one is counted from the place
`index` and the code point `n` on. -/
def placeFrom? (label : List Char) (n index bias : Nat) (text : List Char) :
    Option (List Char) :=
  if text.isEmpty then some label
  else
    match _h : readNumber? bias base 1 index text with
    | none => none
    | some (total, rest) =>
      let count := label.length + 1
      let point := n + total / count
      let place := total % count
      if point.isValidChar then
        placeFrom? (label.insertIdx place (Char.ofNat point)) point (place + 1)
          (adapt (total - index) count (index == 0)) rest
      else none
termination_by text.length
decreasing_by exact length_of_readNumber? _h

/-- The ASCII characters of a label and the numbers behind its last dash. -/
def splitBasic (text : List Char) : List Char × List Char :=
  match text.reverse.span (· != '-') with
  | (numbers, '-' :: basic) =>
    if basic.isEmpty then ([], text) else (basic.reverse, numbers.reverse)
  | _ => ([], text)

/-- The label that a text in ASCII spells, which stands behind no mark. -/
def decodeLabel? (text : List Char) : Option (List Char) :=
  let (basic, numbers) := splitBasic text
  placeFrom? basic 128 0 72 numbers

end Workflow.DomainName.Punycode
