import Workflow.Proofs.Text.Utf8
import Workflow.Text.Percent

/-!
# Escapes

* `decodeText?_of_not_mem`: a text without a percent sign stands for itself.
* `encodeComponent_of_unreserved`: a path component of unreserved characters is written as it is.
* `decode_encodeComponent`: any other is read back, and `of_mem_encodeComponent` says which characters
  its escapes have.
* `decode_append_slash`: no escape reaches across a slash.
-/

namespace Workflow.Percent

/-- The bytes of ASCII in a character are the character. -/
theorem eq_of_mem_utf8EncodeChar {c : Char} {b : UInt8} (h : b ∈ String.utf8EncodeChar c)
    (hb : b.toNat < 0x80) : c.toNat = b.toNat := by
  have hval : c.val.toNat = c.toNat := rfl
  unfold String.utf8EncodeChar at h
  simp only [hval] at h
  -- every byte of a longer character is above ASCII
  split at h
  · rw [List.mem_singleton] at h
    rw [h, Utf8.toNat_ofNat (by omega)]
  split at h
  · simp only [List.mem_cons, List.not_mem_nil, or_false] at h
    rcases h with rfl | rfl <;> rw [Utf8.toNat_ofNat (by omega)] at hb <;> omega
  split at h
  · simp only [List.mem_cons, List.not_mem_nil, or_false] at h
    rcases h with rfl | rfl | rfl <;> rw [Utf8.toNat_ofNat (by omega)] at hb <;> omega
  · simp only [List.mem_cons, List.not_mem_nil, or_false] at h
    rcases h with rfl | rfl | rfl | rfl <;> rw [Utf8.toNat_ofNat (by omega)] at hb <;> omega

/-- A character of ASCII has one byte. -/
theorem utf8EncodeChar_ascii {c : Char} (hc : c.toNat < 0x80) :
    String.utf8EncodeChar c = [UInt8.ofNat c.toNat] := by
  have hval : c.val.toNat = c.toNat := rfl
  rw [String.utf8EncodeChar, hval, if_pos (by omega)]

theorem encodeChars_cons_ascii {c : Char} (hc : c.toNat < 0x80) (text : List Char) :
    Utf8.encodeChars (c :: text) = UInt8.ofNat c.toNat :: Utf8.encodeChars text := by
  rw [Utf8.encodeChars, List.flatMap_cons, utf8EncodeChar_ascii hc]
  rfl

/-- A character of ASCII leaves its byte in a text only where it stands itself. -/
theorem not_mem_encodeChars {text : List Char} {c : Char} (hc : c.toNat < 0x80) (h : c ∉ text) :
    UInt8.ofNat c.toNat ∉ Utf8.encodeChars text := by
  intro hmem
  obtain ⟨d, hd, hb⟩ := List.mem_flatMap.1 hmem
  have hbyte : (UInt8.ofNat c.toNat).toNat = c.toNat := Utf8.toNat_ofNat (by omega)
  have hcode := eq_of_mem_utf8EncodeChar hb (by omega)
  have : d = c := Char.toNat_inj.1 (hcode.trans hbyte)
  exact h (this ▸ hd)

/-- **A byte of ASCII** in the bytes of a text is a character of the text. -/
theorem exists_of_encodeChars_eq {text : List Char} {c : Char} {front rest : Bytes}
    (hc : c.toNat < 0x80) (h : Utf8.encodeChars text = front ++ UInt8.ofNat c.toNat :: rest) :
    ∃ before after, text = before ++ c :: after ∧ Utf8.encodeChars before = front ∧
      Utf8.encodeChars after = rest := by
  induction text generalizing front with
  | nil => exact absurd h.symm (by simp [Utf8.encodeChars])
  | cons d text ih =>
    -- the byte is behind those of the first character, or this character is the one
    have hsplit : (∃ later, front = String.utf8EncodeChar d ++ later ∧
        Utf8.encodeChars text = later ++ UInt8.ofNat c.toNat :: rest) ∨
        d = c ∧ front = [] ∧ Utf8.encodeChars text = rest := by
      obtain ⟨later, hfront, hlater⟩ | ⟨bytes, hd, hbytes⟩ := List.append_eq_append_iff.1 h
      · exact .inl ⟨later, hfront, hlater⟩
      cases bytes with
      | nil => exact .inl ⟨[], by rw [hd, List.append_nil, List.append_nil], hbytes.symm⟩
      | cons byte bytes =>
        obtain ⟨rfl, hrest⟩ := List.cons.inj hbytes
        have hcode : (UInt8.ofNat c.toNat).toNat = c.toNat := Utf8.toNat_ofNat (by omega)
        have hmem : UInt8.ofNat c.toNat ∈ String.utf8EncodeChar d :=
          hd ▸ List.mem_append_right _ List.mem_cons_self
        obtain rfl : d = c :=
          Char.toNat_inj.1 ((eq_of_mem_utf8EncodeChar hmem (by omega)).trans hcode)
        rw [utf8EncodeChar_ascii hc] at hd
        obtain ⟨rfl, rfl⟩ : front = [] ∧ bytes = [] := by
          cases front with
          | nil => exact ⟨rfl, (List.cons.inj hd).2.symm⟩
          | cons => simp at hd
        exact .inr ⟨rfl, rfl, hrest.symm⟩
    obtain ⟨later, rfl, hlater⟩ | ⟨rfl, rfl, hrest⟩ := hsplit
    · obtain ⟨before, after, rfl, rfl, hafter⟩ := ih hlater
      exact ⟨d :: before, after, rfl, rfl, hafter⟩
    · exact ⟨[], text, rfl, rfl, hrest⟩

/-- A character of ASCII is in front of a text where its byte is in front of the bytes. -/
theorem head?_encodeChars {text : List Char} {c : Char} (hc : c.toNat < 0x80) :
    (Utf8.encodeChars text).head? = some (UInt8.ofNat c.toNat) ↔ text.head? = some c := by
  cases text with
  | nil => simp [Utf8.encodeChars]
  | cons d text =>
    obtain ⟨byte, bytes, hencode, -⟩ := Utf8.next_encode d []
    have hbytes : (Utf8.encodeChars (d :: text)).head? = some byte := by
      rw [Utf8.encodeChars, List.flatMap_cons, hencode]
      rfl
    rw [hbytes, List.head?_cons, Option.some.injEq, Option.some.injEq]
    constructor
    · rintro rfl
      have hcode : (UInt8.ofNat c.toNat).toNat = c.toNat := Utf8.toNat_ofNat (by omega)
      have hmem : UInt8.ofNat c.toNat ∈ String.utf8EncodeChar d := hencode ▸ List.mem_cons_self
      exact Char.toNat_inj.1 ((eq_of_mem_utf8EncodeChar hmem (by omega)).trans hcode)
    · rintro rfl
      rw [utf8EncodeChar_ascii hc] at hencode
      exact (List.cons.inj hencode).1.symm

theorem getLast?_encodeChars {text : List Char} {c : Char} (hc : c.toNat < 0x80)
    (h : text.getLast? = some c) :
    (Utf8.encodeChars text).getLast? = some (UInt8.ofNat c.toNat) := by
  obtain ⟨init, rfl⟩ := List.getLast?_eq_some_iff.1 h
  rw [Utf8.encodeChars_append, encodeChars_cons_ascii hc]
  exact List.getLast?_concat

theorem decodeBytes_of_not_mem {bytes : Bytes} (h : 0x25 ∉ bytes) : decodeBytes bytes = bytes := by
  fun_induction decodeBytes bytes with
  | case1 => rfl
  | case2 => rfl
  | case3 => rfl
  | case4 => exact absurd List.mem_cons_self h
  | case5 => exact absurd List.mem_cons_self h
  | case6 a b c rest _ ih => rw [ih fun hrest => h (List.mem_cons_of_mem _ hrest)]

/-- **A text without a percent sign** stands for itself. -/
theorem decodeText?_of_not_mem {text : String} (h : '%' ∉ text.toList) :
    decodeText? text = some text := by
  have hbytes : 0x25 ∉ Utf8.encodeChars text.toList := @not_mem_encodeChars _ '%' (by decide) h
  rw [decodeText?, decode, decodeBytes_of_not_mem hbytes]
  exact Utf8.decode?_encode text

/-- Characters of ASCII have a byte each. -/
theorem encodeChars_ascii {text : List Char} (h : ∀ c ∈ text, c.toNat < 0x80) :
    Utf8.encodeChars text = text.map fun c => UInt8.ofNat c.toNat := by
  induction text with
  | nil => rfl
  | cons c text ih =>
    rw [List.forall_mem_cons] at h
    rw [encodeChars_cons_ascii h.1, ih h.2, List.map_cons]

/-- Kept characters are written as they are. -/
theorem encodeChars_of_kept {keep : Char → Bool} {text : List Char}
    (hkeep : ∀ c ∈ text, c.toNat < 0x80 ∧ keep c = true) : encodeChars keep text = text := by
  rw [encodeChars, encodeChars_ascii fun c hc => (hkeep c hc).1, List.flatMap_map]
  induction text with
  | nil => rfl
  | cons c text ih =>
    rw [List.forall_mem_cons] at hkeep
    obtain ⟨⟨hascii, hkept⟩, hlater⟩ := hkeep
    have hbyte : encodeByte keep (UInt8.ofNat c.toNat) = [c] := by
      rw [encodeByte, Utf8.toNat_ofNat (by omega), Char.ofNat_toNat]
      simp [hascii, hkept]
    rw [List.flatMap_cons, hbyte, ih hlater, List.singleton_append]

theorem isAlphanum_ascii {c : Char} (h : c.isAlphanum = true) : c.toNat < 0x80 := by
  have hranges : c.isAlphanum = (decide ('A'.val ≤ c.val ∧ c.val ≤ 'Z'.val) ||
      ('a'.val ≤ c.val && c.val ≤ 'z'.val) || ('0'.val ≤ c.val && c.val ≤ '9'.val)) := rfl
  have hval : c.val.toNat = c.toNat := rfl
  have hZ : 'Z'.val.toNat = 90 := rfl
  have hz : 'z'.val.toNat = 122 := rfl
  have h9 : '9'.val.toNat = 57 := rfl
  rw [hranges] at h
  simp only [Bool.or_eq_true, Bool.and_eq_true, decide_eq_true_eq, UInt32.le_iff_toNat_le,
    hval] at h
  omega

theorem isUnreserved_ascii {c : Char} (h : isUnreserved c = true) : c.toNat < 0x80 ∧ c ≠ '%' := by
  refine ⟨?_, ?_⟩
  · simp only [isUnreserved, Bool.or_eq_true, beq_iff_eq] at h
    rcases h with (((h | rfl) | rfl) | rfl) | rfl
    · exact isAlphanum_ascii h
    · decide
    · decide
    · decide
    · decide
  · rintro rfl
    exact absurd h (by decide)

/-- **Unreserved characters** need no escape. -/
theorem encodeComponent_of_unreserved {text : String}
    (h : ∀ c ∈ text.toList, isUnreserved c = true) : encodeComponent text = text := by
  rw [encodeComponent, encodeChars_of_kept fun c hc => ⟨(isUnreserved_ascii (h c hc)).1, h c hc⟩,
    String.ofList_toList]

theorem not_mem_encodeComponent {text : String} (h : ∀ c ∈ text.toList, isUnreserved c = true) :
    '%' ∉ (encodeComponent text).toList := by
  rw [encodeComponent_of_unreserved h]
  exact fun hmem => (isUnreserved_ascii (h _ hmem)).2 rfl

/-! ## Reading escapes -/

theorem decodeBytes_cons_of_ne {b : UInt8} (h : b ≠ 0x25) (rest : Bytes) :
    decodeBytes (b :: rest) = b :: decodeBytes rest := by
  match rest with
  | [] => rfl
  | [_] => rw [decodeBytes, decodeBytes]
  | _ :: _ :: _ => rw [decodeBytes, if_neg h]

/-- A percent sign with no two digits behind it stands for itself. -/
theorem decodeBytes_of_no_digit {b c : UInt8} (h : digitValue? b = none ∨ digitValue? c = none)
    (rest : Bytes) : decodeBytes (0x25 :: b :: c :: rest) = 0x25 :: decodeBytes (b :: c :: rest) := by
  rw [decodeBytes, if_pos rfl]
  rcases h with h | h
  · rw [h]
  · rw [h]
    cases digitValue? b <;> rfl

theorem upperDigit_ascii : ∀ value < 16, (Hex.upperDigit value).toNat < 0x80 := by decide

theorem value?_upperDigit : ∀ value < 16, Hex.value? (Hex.upperDigit value) = some value := by
  decide

theorem digitValue?_upperDigit {value : Nat} (h : value < 16) :
    digitValue? (UInt8.ofNat (Hex.upperDigit value).toNat) = some value := by
  have hascii := upperDigit_ascii value h
  rw [digitValue?, Utf8.toNat_ofNat (by omega), Char.ofNat_toNat, value?_upperDigit value h]

/-- **A byte is read back**, kept or escaped. -/
theorem decodeBytes_encodeByte {keep : Char → Bool} (hkeep : keep '%' = false) (b : UInt8)
    (rest : Bytes) :
    decodeBytes (Utf8.encodeChars (encodeByte keep b) ++ rest) = b :: decodeBytes rest := by
  have hb := b.toNat_lt
  unfold encodeByte
  simp only
  split
  · rename_i hkept
    obtain ⟨hascii, hkept⟩ : b.toNat < 0x80 ∧ keep (Char.ofNat b.toNat) = true := by
      simpa using hkept
    have hvalid : b.toNat.isValidChar := .inl (by omega)
    have hcode : (Char.ofNat b.toNat).toNat = b.toNat := by
      rw [Char.ofNat, dif_pos hvalid]
      rfl
    rw [encodeChars_ascii (by simpa [hcode] using hascii), List.map_singleton, hcode,
      UInt8.ofNat_toNat, List.singleton_append, decodeBytes_cons_of_ne]
    rintro rfl
    rw [show Char.ofNat (UInt8.toNat 0x25) = '%' from rfl, hkeep] at hkept
    cases hkept
  · have hhigh : b.toNat / 16 < 16 := by omega
    have hlow : b.toNat % 16 < 16 := Nat.mod_lt _ (by decide)
    have hascii : ∀ c ∈ ['%', Hex.upperDigit (b.toNat / 16), Hex.upperDigit (b.toNat % 16)],
        c.toNat < 0x80 := by
      simp only [List.forall_mem_cons, List.not_mem_nil, false_imp_iff, implies_true, and_true]
      exact ⟨by decide, upperDigit_ascii _ hhigh, upperDigit_ascii _ hlow⟩
    rw [encodeChars_ascii hascii]
    simp only [List.map_cons, List.map_nil, List.cons_append, List.nil_append]
    rw [decodeBytes, if_pos (by decide)]
    simp only [digitValue?_upperDigit hhigh, digitValue?_upperDigit hlow]
    rw [Nat.mul_comm, Nat.div_add_mod, UInt8.ofNat_toNat]

theorem decodeBytes_encodeChars {keep : Char → Bool} (hkeep : keep '%' = false) (text : List Char)
    (rest : Bytes) : decodeBytes (Utf8.encodeChars (encodeChars keep text) ++ rest) =
      Utf8.encodeChars text ++ decodeBytes rest := by
  unfold encodeChars
  generalize Utf8.encodeChars text = bytes
  induction bytes with
  | nil => rfl
  | cons b bytes ih =>
    rw [List.flatMap_cons, Utf8.encodeChars_append, List.append_assoc,
      decodeBytes_encodeByte hkeep, ih, List.cons_append]

/-- **A component is read back.** -/
theorem decode_encodeComponent (text : String) :
    decode (encodeComponent text).toList = Utf8.encode text := by
  have hkeep : isUnreserved '%' = false := by decide
  have hread := decodeBytes_encodeChars hkeep text.toList []
  rw [List.append_nil, decodeBytes, List.append_nil] at hread
  rw [decode, encodeComponent, String.toList_ofList, hread]
  rfl

/-- A component is written with unreserved characters and percent signs. -/
theorem of_mem_encodeComponent {text : String} {c : Char} (h : c ∈ (encodeComponent text).toList) :
    isUnreserved c = true ∨ c = '%' := by
  rw [encodeComponent, String.toList_ofList] at h
  obtain ⟨b, -, hc⟩ := List.mem_flatMap.1 h
  have hb := b.toNat_lt
  have hdigit : ∀ value < 16, isUnreserved (Hex.upperDigit value) = true := by decide
  unfold encodeByte at hc
  simp only at hc
  split at hc
  · rename_i hkept
    obtain rfl := List.mem_singleton.1 hc
    simp only [Bool.and_eq_true] at hkept
    exact .inl hkept.2
  · simp only [List.mem_cons, List.not_mem_nil, or_false] at hc
    rcases hc with rfl | rfl | rfl
    · exact .inr rfl
    · exact .inl (hdigit _ (by omega))
    · exact .inl (hdigit _ (by omega))

theorem encodeChars_ne_nil {keep : Char → Bool} {text : List Char} (h : text ≠ []) :
    encodeChars keep text ≠ [] := by
  obtain ⟨c, text, rfl⟩ := List.exists_cons_of_ne_nil h
  have hchar : String.utf8EncodeChar c ≠ [] := by
    intro hnil
    have hlength := String.length_utf8EncodeChar c
    rw [hnil, List.length_nil] at hlength
    exact absurd hlength (Nat.ne_of_lt c.utf8Size_pos)
  obtain ⟨b, bytes, hbytes⟩ := List.exists_cons_of_ne_nil hchar
  have hbyte : encodeByte keep b ≠ [] := by
    unfold encodeByte
    simp only
    split
    · exact List.cons_ne_nil _ _
    · exact List.cons_ne_nil _ _
  simp [encodeChars, Utf8.encodeChars, hbytes, hbyte]

theorem encodeComponent_ne_nil {text : String} (h : text.toList ≠ []) :
    (encodeComponent text).toList ≠ [] := by
  rw [encodeComponent, String.toList_ofList]
  exact encodeChars_ne_nil h

/-- **No escape reaches across a slash.** -/
theorem decodeBytes_append_slash (front rest : Bytes) :
    decodeBytes (front ++ 0x2F :: rest) = decodeBytes front ++ 0x2F :: decodeBytes rest := by
  have hslash : digitValue? 0x2F = none := by decide
  have hstop : ∀ rest, decodeBytes (0x2F :: rest) = 0x2F :: decodeBytes rest :=
    fun rest => decodeBytes_cons_of_ne (by decide) rest
  -- a byte in front of the slash, and an escape that the slash breaks off
  have hone : ∀ a : UInt8, decodeBytes (a :: 0x2F :: rest) = a :: decodeBytes (0x2F :: rest) := by
    intro a
    by_cases ha : a = 0x25
    · subst ha
      match rest with
      | [] => rfl
      | c :: rest => exact decodeBytes_of_no_digit (.inl hslash) rest
    · exact decodeBytes_cons_of_ne ha _
  fun_induction decodeBytes front with
  | case1 => exact hstop rest
  | case2 a =>
    rw [List.singleton_append, hone, hstop, List.singleton_append]
  | case3 a b =>
    have htwo : decodeBytes (a :: b :: 0x2F :: rest) = a :: decodeBytes (b :: 0x2F :: rest) := by
      by_cases ha : a = 0x25
      · subst ha
        exact decodeBytes_of_no_digit (.inr hslash) rest
      · exact decodeBytes_cons_of_ne ha _
    rw [List.cons_append, List.singleton_append, htwo, hone, hstop]
    rfl
  | case4 b c later high low hhigh hlow ih =>
    rw [List.cons_append, List.cons_append, List.cons_append, decodeBytes, if_pos rfl]
    simp only [hhigh, hlow, ih, List.cons_append]
  | case5 b c later hnone ih =>
    have hnone : digitValue? b = none ∨ digitValue? c = none := by
      cases hb : digitValue? b with
      | none => exact .inl rfl
      | some high =>
        cases hc : digitValue? c with
        | none => exact .inr rfl
        | some low => exact absurd hc (hnone high low hb)
    rw [List.cons_append, List.cons_append, List.cons_append, decodeBytes_of_no_digit hnone]
    rw [List.cons_append, List.cons_append] at ih
    rw [ih, List.cons_append]
  | case6 a b c later ha ih =>
    rw [List.cons_append, decodeBytes_cons_of_ne ha, ih, List.cons_append]

theorem decode_append_slash (front rest : List Char) :
    decode (front ++ '/' :: rest) = decode front ++ 0x2F :: decode rest := by
  rw [decode, Utf8.encodeChars_append, encodeChars_cons_ascii (by decide)]
  exact decodeBytes_append_slash _ _

end Workflow.Percent
