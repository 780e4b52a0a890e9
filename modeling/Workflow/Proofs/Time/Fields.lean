import Mathlib.Algebra.Ring.Nat
import Mathlib.Data.List.TakeWhile
import Workflow.Time.InstantText

/-!
# Numbers in the text of times

A number is read up to the first character that is no digit, or in a field of known width. What is
written is read back, whatever stands behind it.

* `readCount?_natDigits`: a number of any length.
* `readField?_field`: a number in a field.
* `readFraction?_fractionDigits`: a fraction without the zeros at its end.
-/

namespace Workflow

/-! ## Digits -/

namespace Decimal

/-- No digit stands at the start of a text. -/
def EndsNumber (rest : List Char) : Prop := ∀ c ∈ rest.head?, c.isDigit = false

theorem endsNumber_cons {c : Char} {rest : List Char} (h : c.isDigit = false) :
    EndsNumber (c :: rest) := by simp [EndsNumber, h]

theorem takeWhile_isDigit {digits rest : List Char} (hdigits : ∀ c ∈ digits, c.isDigit = true)
    (hrest : EndsNumber rest) : (digits ++ rest).takeWhile Char.isDigit = digits := by
  rw [List.takeWhile_append_of_pos hdigits]
  cases rest with
  | nil => simp
  | cons c rest => simp [hrest c rfl]

theorem isDigit_of_mem_natDigits {n : Nat} {c : Char} (h : c ∈ natDigits n) : c.isDigit = true :=
  Nat.isDigit_of_mem_toDigits (by decide) (by decide) h

theorem natDigits_ne_nil (n : Nat) : natDigits n ≠ [] := Nat.toDigits_ne_nil

theorem length_natDigits_le {n width : Nat} (hwidth : 0 < width) (h : n < 10 ^ width) :
    (natDigits n).length ≤ width := (Nat.length_toDigits_le_iff (by decide) hwidth).2 h

/-- The readers add up digits from the front. -/
theorem foldl_eq_ofDigitChars (digits : List Char) :
    digits.foldl (fun n c => n * 10 + (c.toNat - 48)) 0 = Nat.ofDigitChars 10 digits 0 := by
  rw [Nat.ofDigitChars_eq_foldl]
  congr 1
  funext n c
  rw [Nat.mul_comm]
  rfl

end Decimal

open Decimal

/-! ## Fields -/

namespace Instant

variable {n width : Nat} {rest : List Char}

theorem isDigit_of_mem_field {c : Char} (h : c ∈ field width n) : c.isDigit = true := by
  rcases List.mem_append.1 h with h | h
  · rw [List.eq_of_mem_replicate h]
    decide
  · exact isDigit_of_mem_natDigits h

theorem length_field (hwidth : 0 < width) (h : n < 10 ^ width) : (field width n).length = width := by
  have hlength := length_natDigits_le hwidth h
  rw [field, List.length_append, List.length_replicate]
  omega

theorem ofDigitChars_field : Nat.ofDigitChars 10 (field width n) 0 = n := by
  rw [field, Nat.ofDigitChars_append, Nat.ofDigitChars_replicate_zero, Nat.mul_zero]
  exact Nat.ofDigitChars_ten_toDigits

/-- **A number in a field** is read back. -/
theorem readField?_field (hwidth : 0 < width) (h : n < 10 ^ width) :
    readField? width (field width n ++ rest) = some (n, rest) := by
  have hlength := length_field hwidth h
  have htake : (field width n ++ rest).take width = field width n := by
    rw [List.take_append_of_le_length (by omega), List.take_of_length_le (by omega)]
  have hdrop : (field width n ++ rest).drop width = rest := by
    rw [List.drop_append_of_le_length (by omega), List.drop_of_length_le (by omega), List.nil_append]
  have hdigits : (field width n).all Char.isDigit = true :=
    List.all_eq_true.2 fun c hc => isDigit_of_mem_field hc
  unfold readField?
  simp only [htake, hdrop, hlength, hdigits, and_self, if_true, foldl_eq_ofDigitChars,
    ofDigitChars_field]

end Instant

namespace Duration

variable {n : Nat} {rest : List Char}

/-- **A number of any length** is read back. -/
theorem readCount?_natDigits (hrest : EndsNumber rest) :
    readCount? (natDigits n ++ rest) = some (n, rest) := by
  have hdigits := takeWhile_isDigit (fun c => isDigit_of_mem_natDigits (n := n)) hrest
  have hnonempty : (natDigits n).isEmpty = false := by simp [natDigits_ne_nil]
  unfold readCount?
  simp only [hdigits, hnonempty, Bool.false_eq_true, if_false, foldl_eq_ofDigitChars,
    List.drop_left]
  rw [natDigits, Nat.ofDigitChars_ten_toDigits]

/-! ## Fractions -/

/-- The zeros that were left out can be put back. -/
theorem fractionDigits_append (width n : Nat) : ∃ zeros, fractionDigits width n ++
    List.replicate zeros '0' = Instant.field width n := by
  have hdigits : fractionDigits width n =
      ((Instant.field width n).reverse.dropWhile (· == '0')).reverse := rfl
  obtain ⟨back, hback⟩ : ∃ back, back = (Instant.field width n).reverse := ⟨_, rfl⟩
  rw [← hback] at hdigits
  have hzeros : back.takeWhile (· == '0') = List.replicate (back.takeWhile (· == '0')).length '0' :=
    List.eq_replicate_of_mem fun c hc => by simpa using List.mem_takeWhile_imp hc
  refine ⟨(back.takeWhile (· == '0')).length, ?_⟩
  calc fractionDigits width n ++ List.replicate (back.takeWhile (· == '0')).length '0'
      = (back.dropWhile (· == '0')).reverse ++ (back.takeWhile (· == '0')).reverse := by
        rw [hdigits, ← List.reverse_replicate, ← hzeros]
    _ = Instant.field width n := by
        rw [← List.reverse_append, List.takeWhile_append_dropWhile, hback, List.reverse_reverse]

/-- **A fraction** is read back. -/
theorem readFraction?_fractionDigits (hn : n ≠ 0) (hlt : n < second) (hrest : EndsNumber rest) :
    readFraction? ('.' :: (fractionDigits 9 n ++ rest)) = some (some n, rest) := by
  obtain ⟨zeros, hzeros⟩ := fractionDigits_append 9 n
  have hlength : (fractionDigits 9 n).length + zeros = 9 := by
    have h := congrArg List.length hzeros
    rwa [List.length_append, List.length_replicate, Instant.length_field (by decide) hlt] at h
  have hvalue : Nat.ofDigitChars 10 (fractionDigits 9 n) 0 * 10 ^ zeros = n := by
    have h := congrArg (Nat.ofDigitChars 10 · 0) hzeros
    simp only [Nat.ofDigitChars_append, Nat.ofDigitChars_replicate_zero,
      Instant.ofDigitChars_field] at h
    rw [Nat.mul_comm, h]
  have hdigits : ∀ c ∈ fractionDigits 9 n, c.isDigit = true := by
    intro c hc
    have hmem : c ∈ Instant.field 9 n := by
      rw [← hzeros]
      exact List.mem_append_left _ hc
    exact Instant.isDigit_of_mem_field hmem
  have hnonempty : (fractionDigits 9 n).isEmpty = false := by
    rw [Bool.eq_false_iff, Ne, List.isEmpty_iff]
    intro hnil
    rw [hnil] at hvalue
    exact hn (by simpa using hvalue.symm)
  have htaken : ((fractionDigits 9 n ++ rest).takeWhile Char.isDigit).take 9 =
      fractionDigits 9 n := by
    rw [takeWhile_isDigit hdigits hrest, List.take_of_length_le (by omega)]
  have hleft : 9 - (fractionDigits 9 n).length = zeros := by omega
  unfold readFraction?
  simp only [true_or, if_true, htaken, hnonempty, Bool.false_eq_true, if_false, List.drop_left,
    foldl_eq_ofDigitChars, hleft]
  rw [show Nat.pow 10 zeros = 10 ^ zeros from rfl, hvalue]

theorem readFraction?_none {c : Char} (h : c ≠ '.' ∧ c ≠ ',') :
    readFraction? (c :: rest) = some (none, c :: rest) := by
  simp [readFraction?, h]

end Duration

end Workflow
