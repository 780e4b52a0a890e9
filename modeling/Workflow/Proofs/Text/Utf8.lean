import Mathlib.Tactic.SplitIfs
import Workflow.Text.Utf8

/-!
# Text and bytes

* `next_encode`: the first character of encoded text is read back, whatever follows.
* `decode?_encode`, `decodeLossy_encode`: text is read back from its bytes.
-/

namespace Workflow.Utf8

theorem toNat_ofNat {n : Nat} (h : n < 256) : (UInt8.ofNat n).toNat = n := by
  rw [UInt8.toNat_ofNat']
  exact Nat.mod_eq_of_lt h

theorem next_eq {byte : UInt8} {rest : Bytes} {lead : Lead} (h : lead? byte.toNat = some lead) :
    next byte rest = readTail lead.following lead.bits lead.low lead.high rest := by
  unfold next
  rw [h]

theorem readTail_cons {n bits low high byte : Nat} {rest : Bytes} (hbyte : byte < 256)
    (hlow : low ≤ byte) (hhigh : byte ≤ high) :
    readTail (n + 1) bits low high (UInt8.ofNat byte :: rest) =
      readTail n (bits * 64 + (byte - 0x80)) 0x80 0xBF rest := by
  rw [readTail, toNat_ofNat hbyte, if_pos ⟨hlow, hhigh⟩]

/-- **A character is read back** from its bytes, whatever follows. -/
theorem next_encode (c : Char) (rest : Bytes) : ∃ byte bytes,
    String.utf8EncodeChar c = byte :: bytes ∧ next byte (bytes ++ rest) = (some c, rest) := by
  have hc : c.toNat < 0xD800 ∨ 0xDFFF < c.toNat ∧ c.toNat < 0x110000 := c.valid
  have hchar : ∀ n, n = c.toNat → Char.ofNat n = c := by
    rintro _ rfl
    exact Char.ofNat_toNat c
  have hval : c.val.toNat = c.toNat := rfl
  unfold String.utf8EncodeChar
  simp only [hval]
  -- one case for each number of bytes; the value of the bytes is that of the character
  generalize c.toNat = v at *
  split
  · refine ⟨_, _, rfl, ?_⟩
    have hlead : lead? (UInt8.ofNat v).toNat = some ⟨0, 0, 0, v⟩ := by
      rw [toNat_ofNat (by omega), lead?, if_pos (by omega)]
    rw [next_eq hlead]
    simp only [List.nil_append, readTail, hchar v rfl]
  split
  · refine ⟨_, _, rfl, ?_⟩
    have hlead : lead? (UInt8.ofNat (v / 64 % 32 + 192)).toNat = some ⟨1, 0x80, 0xBF, v / 64⟩ := by
      rw [toNat_ofNat (by omega), lead?, if_neg (by omega), if_neg (by omega), if_pos (by omega)]
      simp only [Option.some.injEq, Lead.mk.injEq, true_and]
      omega
    rw [next_eq hlead]
    simp only [List.cons_append, List.nil_append]
    rw [readTail_cons (by omega) (by omega) (by omega), readTail, hchar _ (by omega)]
  split
  · refine ⟨_, _, rfl, ?_⟩
    -- the first byte narrows the second: no overlong form and no half of a pair
    obtain ⟨low, high, hlead, hlow, hhigh⟩ : ∃ low high,
        lead? (UInt8.ofNat (v / 4096 % 16 + 224)).toNat = some ⟨2, low, high, v / 4096⟩ ∧
          low ≤ v / 64 % 64 + 128 ∧ v / 64 % 64 + 128 ≤ high := by
      rw [toNat_ofNat (by omega), lead?, if_neg (by omega), if_neg (by omega), if_neg (by omega)]
      split
      · exact ⟨0xA0, 0xBF, by simp only [Option.some.injEq, Lead.mk.injEq, true_and]; omega,
          by omega, by omega⟩
      split
      · exact ⟨0x80, 0x9F, by simp only [Option.some.injEq, Lead.mk.injEq, true_and]; omega,
          by omega, by omega⟩
      rw [if_pos (by omega)]
      exact ⟨0x80, 0xBF, by simp only [Option.some.injEq, Lead.mk.injEq, true_and]; omega,
        by omega, by omega⟩
    rw [next_eq hlead]
    simp only [List.cons_append, List.nil_append]
    rw [readTail_cons (by omega) hlow hhigh, readTail_cons (by omega) (by omega) (by omega),
      readTail, hchar _ (by omega)]
  · refine ⟨_, _, rfl, ?_⟩
    obtain ⟨low, high, hlead, hlow, hhigh⟩ : ∃ low high,
        lead? (UInt8.ofNat (v / 262144 % 8 + 240)).toNat = some ⟨3, low, high, v / 262144⟩ ∧
          low ≤ v / 4096 % 64 + 128 ∧ v / 4096 % 64 + 128 ≤ high := by
      rw [toNat_ofNat (by omega), lead?, if_neg (by omega), if_neg (by omega), if_neg (by omega),
        if_neg (by omega), if_neg (by omega), if_neg (by omega)]
      split
      · exact ⟨0x90, 0xBF, by simp only [Option.some.injEq, Lead.mk.injEq, true_and]; omega,
          by omega, by omega⟩
      split
      · exact ⟨0x80, 0xBF, by simp only [Option.some.injEq, Lead.mk.injEq, true_and]; omega,
          by omega, by omega⟩
      rw [if_pos (by omega)]
      exact ⟨0x80, 0x8F, by simp only [Option.some.injEq, Lead.mk.injEq, true_and]; omega,
        by omega, by omega⟩
    rw [next_eq hlead]
    simp only [List.cons_append, List.nil_append]
    rw [readTail_cons (by omega) hlow hhigh, readTail_cons (by omega) (by omega) (by omega),
      readTail_cons (by omega) (by omega) (by omega), readTail, hchar _ (by omega)]

theorem readTail_eq_some {n bits low high : Nat} {bytes rest : Bytes} {c : Char}
    (h : readTail (n + 1) bits low high bytes = (some c, rest)) :
    ∃ byte later, bytes = byte :: later ∧ low ≤ byte.toNat ∧ byte.toNat ≤ high ∧
      readTail n (bits * 64 + (byte.toNat - 0x80)) 0x80 0xBF later = (some c, rest) := by
  cases bytes with
  | nil => simp [readTail] at h
  | cons byte later =>
    rw [readTail] at h
    split at h
    · rename_i hrange
      exact ⟨byte, later, rfl, hrange.1, hrange.2, h⟩
    · cases h

/-- The bytes of a character by its code. -/
theorem utf8EncodeChar_ofNat {v : Nat} (h : v.isValidChar) : String.utf8EncodeChar (Char.ofNat v) =
    if v ≤ 0x7F then [UInt8.ofNat v]
    else if v ≤ 0x7FF then [UInt8.ofNat (v / 64 % 32 + 192), UInt8.ofNat (v % 64 + 128)]
    else if v ≤ 0xFFFF then [UInt8.ofNat (v / 4096 % 16 + 224), UInt8.ofNat (v / 64 % 64 + 128),
      UInt8.ofNat (v % 64 + 128)]
    else [UInt8.ofNat (v / 262144 % 8 + 240), UInt8.ofNat (v / 4096 % 64 + 128),
      UInt8.ofNat (v / 64 % 64 + 128), UInt8.ofNat (v % 64 + 128)] := by
  have hval : (Char.ofNat v).val.toNat = v := by
    rw [Char.ofNat, dif_pos h]
    rfl
  unfold String.utf8EncodeChar
  simp only [hval]

theorem ofNat_eq (byte : UInt8) {n : Nat} (h : n = byte.toNat) : UInt8.ofNat n = byte := by
  rw [h, UInt8.ofNat_toNat]

section

variable {byte : UInt8} {bits low high : Nat} {bytes rest : Bytes} {c : Char}

theorem encode_readTail_zero (hbits : bits < 0x80) (hbyte : byte.toNat = bits)
    (h : readTail 0 bits low high bytes = (some c, rest)) :
    String.utf8EncodeChar c ++ rest = byte :: bytes := by
  rw [readTail] at h
  cases h
  rw [utf8EncodeChar_ofNat (.inl (by omega)), if_pos (by omega), ofNat_eq byte hbyte.symm,
    List.singleton_append]

theorem encode_readTail_one (hbyte : byte.toNat = 0xC0 + bits) (hlow : 2 ≤ bits) (hhigh : bits < 32)
    (h : readTail 1 bits 0x80 0xBF bytes = (some c, rest)) :
    String.utf8EncodeChar c ++ rest = byte :: bytes := by
  obtain ⟨b, later, rfl, hb, hb', h⟩ := readTail_eq_some h
  rw [readTail] at h
  obtain ⟨hc, rfl⟩ := Prod.mk.inj h
  obtain ⟨v, hv⟩ : ∃ v, v = bits * 64 + (b.toNat - 0x80) := ⟨_, rfl⟩
  rw [← hv] at hc
  obtain rfl := Option.some.inj hc
  rw [utf8EncodeChar_ofNat (.inl (by omega)), if_neg (by omega), if_pos (by omega),
    ofNat_eq byte (by omega), ofNat_eq b (by omega)]
  rfl

theorem encode_readTail_two (hbyte : byte.toNat = 0xE0 + bits) (hbits : bits < 16)
    (hlow : 0x80 ≤ low) (hhigh : high ≤ 0xBF) (hlong : bits = 0 → 0xA0 ≤ low)
    (hhalf : bits = 13 → high ≤ 0x9F) (h : readTail 2 bits low high bytes = (some c, rest)) :
    String.utf8EncodeChar c ++ rest = byte :: bytes := by
  obtain ⟨b₁, later, rfl, hb₁, hb₁', h⟩ := readTail_eq_some h
  obtain ⟨b₂, later, rfl, hb₂, hb₂', h⟩ := readTail_eq_some h
  rw [readTail] at h
  obtain ⟨hc, rfl⟩ := Prod.mk.inj h
  obtain ⟨v, hv⟩ : ∃ v, v = (bits * 64 + (b₁.toNat - 0x80)) * 64 + (b₂.toNat - 0x80) := ⟨_, rfl⟩
  rw [← hv] at hc
  obtain rfl := Option.some.inj hc
  have hvalid : v < 0xD800 ∨ 0xDFFF < v ∧ v < 0x110000 := by omega
  rw [utf8EncodeChar_ofNat hvalid, if_neg (by omega), if_neg (by omega), if_pos (by omega),
    ofNat_eq byte (by omega), ofNat_eq b₁ (by omega),
    ofNat_eq b₂ (by omega)]
  rfl

theorem encode_readTail_three (hbyte : byte.toNat = 0xF0 + bits) (hbits : bits ≤ 4)
    (hlow : 0x80 ≤ low) (hhigh : high ≤ 0xBF) (hlong : bits = 0 → 0x90 ≤ low)
    (hlast : bits = 4 → high ≤ 0x8F) (h : readTail 3 bits low high bytes = (some c, rest)) :
    String.utf8EncodeChar c ++ rest = byte :: bytes := by
  obtain ⟨b₁, later, rfl, hb₁, hb₁', h⟩ := readTail_eq_some h
  obtain ⟨b₂, later, rfl, hb₂, hb₂', h⟩ := readTail_eq_some h
  obtain ⟨b₃, later, rfl, hb₃, hb₃', h⟩ := readTail_eq_some h
  rw [readTail] at h
  obtain ⟨hc, rfl⟩ := Prod.mk.inj h
  obtain ⟨v, hv⟩ : ∃ v, v = ((bits * 64 + (b₁.toNat - 0x80)) * 64 + (b₂.toNat - 0x80)) * 64 +
      (b₃.toNat - 0x80) := ⟨_, rfl⟩
  rw [← hv] at hc
  obtain rfl := Option.some.inj hc
  have hvalid : v < 0xD800 ∨ 0xDFFF < v ∧ v < 0x110000 := by omega
  rw [utf8EncodeChar_ofNat hvalid, if_neg (by omega), if_neg (by omega), if_neg (by omega),
    ofNat_eq byte (by omega), ofNat_eq b₁ (by omega),
    ofNat_eq b₂ (by omega), ofNat_eq b₃ (by omega)]
  rfl

/-- **A character that is read** has the bytes it was read from. -/
theorem encode_next (h : next byte bytes = (some c, rest)) :
    String.utf8EncodeChar c ++ rest = byte :: bytes := by
  have hbyte := byte.toNat_lt
  cases hlead : lead? byte.toNat with
  | none => simp [next, hlead] at h
  | some lead =>
    rw [next_eq hlead] at h
    unfold lead? at hlead
    -- one case for each range of first bytes
    split_ifs at hlead <;> cases hlead <;> dsimp only at h
    · exact encode_readTail_zero (by assumption) rfl h
    · exact encode_readTail_one (by omega) (by omega) (by omega) h
    · exact encode_readTail_two (by omega) (by omega) (by omega) (by omega) (by omega) (by omega) h
    · exact encode_readTail_two (by omega) (by omega) (by omega) (by omega) (by omega) (by omega) h
    · exact encode_readTail_two (by omega) (by omega) (by omega) (by omega) (by omega) (by omega) h
    · exact encode_readTail_three (by omega) (by omega) (by omega) (by omega) (by omega) (by omega) h
    · exact encode_readTail_three (by omega) (by omega) (by omega) (by omega) (by omega) (by omega) h
    · exact encode_readTail_three (by omega) (by omega) (by omega) (by omega) (by omega) (by omega) h

end

theorem encodeChars_append (text rest : List Char) :
    encodeChars (text ++ rest) = encodeChars text ++ encodeChars rest :=
  List.flatMap_append

theorem encodeChars_cons (c : Char) (text : List Char) : ∃ byte rest,
    encodeChars (c :: text) = byte :: rest ∧ next byte rest = (some c, encodeChars text) := by
  obtain ⟨byte, bytes, hencode, hnext⟩ := next_encode c (encodeChars text)
  refine ⟨byte, bytes ++ encodeChars text, ?_, hnext⟩
  rw [encodeChars, List.flatMap_cons, hencode]
  rfl

theorem decodeChars?_encodeChars (text : List Char) :
    decodeChars? (encodeChars text) = some text := by
  induction text with
  | nil => rw [encodeChars, List.flatMap_nil, decodeChars?]
  | cons c text ih =>
    obtain ⟨byte, rest, hbytes, hnext⟩ := encodeChars_cons c text
    rw [hbytes, decodeChars?, hnext, ih]
    rfl

/-- Two texts have different bytes. -/
theorem encodeChars_inj {text text' : List Char} (h : encodeChars text = encodeChars text') :
    text = text' := by
  have hread := decodeChars?_encodeChars text
  rw [h, decodeChars?_encodeChars] at hread
  exact (Option.some.inj hread).symm

theorem encodeChars_ne {text text' : List Char} (h : text ≠ text') :
    encodeChars text ≠ encodeChars text' :=
  mt encodeChars_inj h

/-- **What is read is written again** as it was. -/
theorem encodeChars_of_decodeChars? {bytes : Bytes} {text : List Char}
    (h : decodeChars? bytes = some text) : encodeChars text = bytes := by
  fun_induction decodeChars? bytes generalizing text with
  | case1 =>
    cases h
    rfl
  | case2 byte rest _ c hnext ih =>
    obtain ⟨later, hlater, rfl⟩ := Option.map_eq_some_iff.1 h
    have hencode := encode_next (Prod.ext hnext rfl)
    rw [← hencode, encodeChars, List.flatMap_cons]
    exact congrArg _ (ih hlater)
  | case3 => cases h

theorem decodeCharsLossy_encodeChars (text : List Char) :
    decodeCharsLossy (encodeChars text) = text := by
  induction text with
  | nil => rw [encodeChars, List.flatMap_nil, decodeCharsLossy]
  | cons c text ih =>
    obtain ⟨byte, rest, hbytes, hnext⟩ := encodeChars_cons c text
    rw [hbytes, decodeCharsLossy, hnext, ih]
    rfl

/-- **Text is read back** from its bytes. -/
theorem decode?_encode (text : String) : decode? (encode text) = some text := by
  rw [decode?, encode, decodeChars?_encodeChars, Option.map_some, String.ofList_toList]

theorem decodeLossy_encode (text : String) : decodeLossy (encode text) = text := by
  rw [decodeLossy, encode, decodeCharsLossy_encodeChars, String.ofList_toList]

end Workflow.Utf8
