import Workflow.Digest.Sha256

/-!
# Digits of bytes and of digests

The hexadecimal text of bytes has two digits a byte, and a digest has 32 bytes.
-/

namespace Workflow

namespace Hex

theorem length_encodeChars (bytes : Bytes) : (encodeChars bytes).length = 2 * bytes.length := by
  induction bytes with
  | nil => rfl
  | cons b bytes ih =>
    rw [encodeChars, List.flatMap_cons, List.length_append, List.length_cons]
    have hb : (byte b).length = 2 := rfl
    have hlater : (bytes.flatMap byte).length = 2 * bytes.length := ih
    omega

theorem isDigit_of_mem_encodeChars {bytes : Bytes} {c : Char} (h : c ∈ encodeChars bytes) :
    isDigit c = true := by
  obtain ⟨b, -, hc⟩ := List.mem_flatMap.1 h
  have hb := b.toNat_lt
  simp only [byte, List.mem_cons, List.not_mem_nil, or_false] at hc
  rcases hc with rfl | rfl
  · exact isDigit_digit (by omega)
  · exact isDigit_digit (by omega)

theorem value?_digit : ∀ value < 16, value? (digit value) = some value := by decide

/-- A digit that is written has a value below sixteen. -/
theorem exists_digit {c : Char} (h : isDigit c = true) : ∃ value < 16, c = digit value := by
  have hc : Char.ofNat c.toNat = c := Char.ofNat_toNat c
  have hval : c.val.toNat = c.toNat := rfl
  have hzero : '0'.val.toNat = 48 := rfl
  have hnine : '9'.val.toNat = 57 := rfl
  have ha : 'a'.val.toNat = 97 := rfl
  have hf : 'f'.val.toNat = 102 := rfl
  simp only [isDigit, Char.isDigit, Bool.or_eq_true, Bool.and_eq_true, decide_eq_true_eq,
    Char.le_def, UInt32.le_iff_toNat_le, ge_iff_le, hval] at h
  rcases h with ⟨hlow, hhigh⟩ | ⟨hlow, hhigh⟩
  · have hlow : 48 ≤ c.toNat := hlow
    have hhigh : c.toNat ≤ 57 := hhigh
    refine ⟨c.toNat - 48, by omega, ?_⟩
    rw [digit, if_pos (by omega), Nat.add_sub_cancel' hlow, hc]
  · have hlow : 97 ≤ c.toNat := hlow
    have hhigh : c.toNat ≤ 102 := hhigh
    refine ⟨c.toNat - 87, by omega, ?_⟩
    rw [digit, if_neg (by omega), Nat.add_sub_cancel' (by omega), hc]

/-- What holds of the sixteen digits holds of every digit. -/
theorem forall_digit {p : Char → Prop} (h : ∀ value < 16, p (digit value)) {c : Char}
    (hc : isDigit c = true) : p c := by
  obtain ⟨value, hvalue, rfl⟩ := exists_digit hc
  exact h value hvalue

theorem not_mem_of_isDigit {text : List Char} (h : ∀ c ∈ text, isDigit c = true) {c : Char}
    (hc : isDigit c = false) : c ∉ text := by
  intro hmem
  rw [h c hmem] at hc
  cases hc

end Hex

namespace Sha256

theorem length_bigEndian (count value : Nat) : (bigEndian count value).length = count := by
  induction count generalizing value with
  | zero => rfl
  | succ count ih => simp [bigEndian, ih]

theorem length_digest (message : Bytes) : (digest message).length = 32 := by
  simp [digest, length_bigEndian]

theorem length_hexDigest (message : Bytes) : (hexDigest message).length = 64 := by
  rw [hexDigest, Hex.length_encodeChars, length_digest]

end Sha256

end Workflow
