import Mathlib.Data.List.Chain
import Mathlib.Data.List.Pairwise
import Mathlib.Data.List.TakeWhile
import Workflow.Proofs.Text.Hex
import Workflow.Text.Label

/-!
# Which names give a label

A name is spelled by its ASCII letters and digits; all other characters only part words.

* `hasWord_push`: a letter or digit, and nothing else, brings a word into the label.
* `ofName_isEmpty`: the label is empty when the name has no letter or digit.
* `IsLabel`: what a DNS label is. `isLabel_ofName` says that any other name gives one, however long
  it is and whatever characters it has.
* `ofName_of_isLabel`: a label is its own label, so taking the label of a name is done once and for
  all (`ofName_settles`).
-/

namespace Workflow.Label

variable {c : Char} {name label : List Char}

/-- A label in progress that is more than dashes. -/
def HasWord (label : List Char) : Prop := ∃ c ∈ label, c ≠ '-'

theorem hasWord_cons : HasWord (c :: label) ↔ c ≠ '-' ∨ HasWord label := by
  simp [HasWord]

theorem hasWord_endWord : HasWord (endWord label) ↔ HasWord label := by
  unfold endWord
  split
  · rfl
  · rfl
  · rw [hasWord_cons]
    simp

/-! ## Characters -/

theorem isAlphanum_eq (c : Char) :
    c.isAlphanum = ((c.isLower || c.isDigit) || c.isUpper) := by
  have hclasses : c.isAlphanum = ((c.isUpper || c.isLower) || c.isDigit) := rfl
  rw [hclasses]
  cases c.isUpper <;> cases c.isLower <;> cases c.isDigit <;> rfl

theorem isAlphanum_of_isSeparator (h : isSeparator c = true) : c.isAlphanum = false := by
  simp only [isSeparator, Bool.or_eq_true, beq_iff_eq] at h
  rcases h with (rfl | rfl) | rfl
  · decide
  · decide
  · decide

theorem ne_dash_of_isAlphanum (h : c.isAlphanum = true) : c ≠ '-' := by
  rintro rfl
  exact absurd h (by decide)

/-- Letters move by the distance between the alphabets. -/
theorem isLower_toLower (h : c.isUpper = true) : c.toLower.isLower = true := by
  have hin : c.val ≥ 'A'.val ∧ c.val ≤ 'Z'.val := of_decide_eq_true h
  have hbounds : 65 ≤ c.val.toNat ∧ c.val.toNat ≤ 90 :=
    ⟨UInt32.le_iff_toNat_le.1 hin.1, UInt32.le_iff_toNat_le.1 hin.2⟩
  have hlower : (c.toLower).val.toNat = (c.val.toNat + 32) % 2 ^ 32 := by
    have hmoved : c.toLower.val = c.val + ('a'.val - 'A'.val) := congrArg Char.val (dif_pos hin)
    rw [hmoved]
    exact UInt32.toNat_add _ _
  have hlow : 97 ≤ c.toLower.val.toNat := by omega
  have hhigh : c.toLower.val.toNat ≤ 122 := by omega
  exact Bool.and_eq_true_iff.2 ⟨decide_eq_true (UInt32.le_iff_toNat_le.2 hlow),
    decide_eq_true (UInt32.le_iff_toNat_le.2 hhigh)⟩

theorem toLower_ne_dash (h : c.isUpper = true) : c.toLower ≠ '-' := by
  intro hdash
  have hlower := isLower_toLower h
  rw [hdash] at hlower
  exact absurd hlower (by decide)

/-! ## Spelling -/

/-- **A letter or digit, and nothing else,** brings a word into the label. -/
theorem hasWord_push : HasWord (push label c) ↔ HasWord label ∨ c.isAlphanum = true := by
  unfold push
  split
  · rename_i hsep
    rw [hasWord_endWord, isAlphanum_of_isSeparator hsep]
    simp
  split
  · rename_i hkept
    have hc : c.isAlphanum = true := by rw [isAlphanum_eq, hkept, Bool.true_or]
    rw [hasWord_cons]
    exact iff_of_true (.inl (ne_dash_of_isAlphanum hc)) (.inr hc)
  rename_i hkept
  split
  · rename_i hupper
    have hc : c.isAlphanum = true := by rw [isAlphanum_eq, hupper, Bool.or_true]
    rw [hasWord_cons]
    exact iff_of_true (.inl (toLower_ne_dash hupper)) (.inr hc)
  · rename_i hupper
    have hc : c.isAlphanum = false := by
      rw [isAlphanum_eq, Bool.eq_false_iff.2 hkept, Bool.eq_false_iff.2 hupper]
      rfl
    rw [hc]
    simp

theorem hasWord_foldl : HasWord (name.foldl push label) ↔
    HasWord label ∨ ∃ c ∈ name, c.isAlphanum = true := by
  induction name generalizing label with
  | nil => simp
  | cons c name ih =>
    rw [List.foldl_cons, ih, hasWord_push, or_assoc]
    simp only [List.mem_cons, exists_eq_or_imp]

theorem spell_ne_nil : spell name ≠ [] ↔ ∃ c ∈ name, c.isAlphanum = true := by
  have hword : ∀ label : List Char, label.dropWhile (· == '-') ≠ [] ↔ HasWord label := by
    intro label
    simp [HasWord, List.dropWhile_eq_nil_iff]
  rw [spell, Ne, List.reverse_eq_nil_iff, ← Ne, hword, hasWord_foldl]
  simp [HasWord]

theorem shorten_eq_nil : shorten name label = [] ↔ label = [] := by
  unfold shorten
  split
  · rfl
  · rename_i hlong
    refine iff_of_false (by simp) ?_
    rintro rfl
    exact hlong (Nat.zero_le _)

/-- **The label is empty** when the name has no letter or digit. -/
theorem ofName_isEmpty (name : String) :
    (ofName name).isEmpty = true ↔ ¬ ∃ c ∈ name.toList, c.isAlphanum = true := by
  rw [← spell_ne_nil, Ne, Decidable.not_not, ofName, String.isEmpty_iff, String.ofList_eq_empty_iff,
    shorten_eq_nil]

/-! ## Labels -/

/-- Lower-case letters and digits, with single dashes between them and none at the end. A label in
progress is so, last character first. -/
structure Parted (text : List Char) : Prop where
  alphabet : ∀ c ∈ text, c.isLower = true ∨ c.isDigit = true ∨ c = '-'
  single : text.IsChain fun a b => a = '-' → b ≠ '-'
  last : text.getLast? ≠ some '-'

/-- Words of lower-case letters and digits, joined by single dashes. -/
structure Hyphenated (text : List Char) : Prop extends Parted text where
  first : text.head? ≠ some '-'

/-- A DNS label. -/
structure IsLabel (text : List Char) : Prop extends Hyphenated text where
  nonempty : text ≠ []
  short : text.length ≤ maxLength

theorem getLast?_of_suffix {text rest : List Char} (h : rest <:+ text) (hne : rest ≠ []) :
    rest.getLast? = text.getLast? := by
  obtain ⟨front, rfl⟩ := h
  rw [List.getLast?_append, List.getLast?_eq_some_getLast hne, Option.some_or]

namespace Parted

variable {text rest : List Char}

theorem of_suffix (h : Parted text) (hrest : rest <:+ text) : Parted rest where
  alphabet c hc := h.alphabet c (hrest.subset hc)
  single := h.single.suffix hrest
  last := by
    intro hlast
    have hne : rest ≠ [] := by
      rintro rfl
      cases hlast
    rw [getLast?_of_suffix hrest hne] at hlast
    exact h.last hlast

/-- Without the dashes in front. -/
theorem dropWhile (h : Parted text) : Hyphenated (text.dropWhile (· == '-')) where
  toParted := h.of_suffix (List.dropWhile_suffix _)
  first := by
    intro hfirst
    have hnot := List.head?_dropWhile_not (· == '-') text
    rw [hfirst] at hnot
    cases hnot

theorem dropWhile_ne_nil (h : Parted text) (hne : text ≠ []) :
    text.dropWhile (· == '-') ≠ [] := by
  intro hnil
  rw [List.dropWhile_eq_nil_iff] at hnil
  have hdash := hnil _ (List.getLast_mem hne)
  refine h.last ?_
  rw [List.getLast?_eq_some_getLast hne, eq_of_beq hdash]

theorem cons (h : Parted text) (hc : c.isLower = true ∨ c.isDigit = true) :
    Parted (c :: text) := by
  have hne : c ≠ '-' := by
    rintro rfl
    revert hc
    decide
  refine ⟨?_, ?_, ?_⟩
  · intro x hx
    rcases List.mem_cons.1 hx with rfl | hx
    · rw [← or_assoc]
      exact .inl hc
    · exact h.alphabet x hx
  · exact List.isChain_cons.2 ⟨fun _ _ hdash => absurd hdash hne, h.single⟩
  · cases text with
    | nil => simpa using hne
    | cons x text => exact h.last

/-- The end of a word, where one is in progress. -/
theorem endWord (h : Parted text) : Parted (endWord text) := by
  unfold Label.endWord
  split
  · exact h
  · exact h
  · rename_i hnil hdash
    refine ⟨?_, ?_, ?_⟩
    · intro x hx
      rcases List.mem_cons.1 hx with rfl | hx
      · exact .inr (.inr rfl)
      · exact h.alphabet x hx
    · refine List.isChain_cons.2 ⟨fun y hy _ => ?_, h.single⟩
      rintro rfl
      obtain ⟨rest, rfl⟩ := List.head?_eq_some_iff.1 hy
      exact hdash rest rfl
    · rw [← getLast?_of_suffix (List.suffix_cons _ text) hnil]
      exact h.last

theorem push (h : Parted text) (c : Char) : Parted (push text c) := by
  unfold Label.push
  split
  · exact h.endWord
  split
  · rename_i hkept
    exact h.cons (by simpa using hkept)
  split
  · rename_i hupper
    exact h.endWord.cons (.inl (isLower_toLower hupper))
  · exact h

theorem foldl_push (h : Parted text) (name : List Char) : Parted (name.foldl Label.push text) := by
  induction name generalizing text with
  | nil => exact h
  | cons c name ih => exact ih (h.push c)

end Parted

namespace Hyphenated

variable {text rest : List Char}

theorem reverse (h : Hyphenated text) : Hyphenated text.reverse where
  alphabet c hc := h.alphabet c (List.mem_reverse.1 hc)
  single := by
    rw [List.isChain_reverse]
    exact h.single.imp fun a b hab hb ha => hab ha hb
  last := by
    rw [List.getLast?_reverse]
    exact h.first
  first := by
    rw [List.head?_reverse]
    exact h.last

/-- A single word. -/
theorem of_word (h : ∀ c ∈ text, c.isLower = true ∨ c.isDigit = true) : Hyphenated text := by
  have hdash : '-' ∉ text := fun hmem => absurd (h '-' hmem) (by decide)
  refine ⟨⟨fun c hc => ?_, ?_, fun hlast => ?_⟩, fun hfirst => ?_⟩
  · rw [← or_assoc]
    exact .inl (h c hc)
  · refine (List.pairwise_of_forall_mem_list fun a ha b _ heq => ?_).isChain
    exact absurd (heq ▸ ha) hdash
  · exact hdash (List.mem_of_getLast? hlast)
  · exact hdash (List.mem_of_head? hfirst)

/-- Two texts joined by a dash. -/
theorem join (h : Hyphenated text) (hrest : Hyphenated rest) (hne : text ≠ []) (hrestne : rest ≠ []) :
    Hyphenated (text ++ '-' :: rest) := by
  refine ⟨⟨?_, ?_, ?_⟩, ?_⟩
  · intro c hc
    rcases List.mem_append.1 hc with hc | hc
    · exact h.alphabet c hc
    rcases List.mem_cons.1 hc with rfl | hc
    · exact .inr (.inr rfl)
    · exact hrest.alphabet c hc
  · refine List.isChain_append.2 ⟨h.single, List.isChain_cons.2 ⟨?_, hrest.single⟩, ?_⟩
    · rintro y hy - rfl
      exact hrest.first hy
    · rintro x hx y - rfl
      exact absurd hx h.last
  · have hsuffix : rest <:+ text ++ '-' :: rest := ⟨text ++ ['-'], by simp⟩
    rw [← getLast?_of_suffix hsuffix hrestne]
    exact hrest.last
  · rw [List.head?_append_of_ne_nil _ hne]
    exact h.first

end Hyphenated

theorem hyphenated_spell (name : List Char) : Hyphenated (spell name) := by
  have hnil : Parted [] := ⟨by simp, .nil, by simp⟩
  exact (hnil.foldl_push name).dropWhile.reverse

/-- The digits of a digest are letters and digits of labels. -/
theorem isLabelChar_of_isDigit (h : Hex.isDigit c = true) : c.isLower = true ∨ c.isDigit = true :=
  Hex.forall_digit (p := fun c => c.isLower = true ∨ c.isDigit = true) (by decide) h

/-- **What is spelled is shortened to a label.** -/
theorem isLabel_shorten (h : Hyphenated label) (hne : label ≠ []) :
    IsLabel (shorten name label) := by
  unfold shorten
  split
  · rename_i hshort
    exact ⟨h, hne, hshort⟩
  · rename_i hlong
    set digits := (Sha256.hexDigest (Utf8.encodeChars name)).take digestLength with hdigits
    set tail := label.drop (label.length - (maxLength - digestLength - 1)) with htail
    have hlengths : digits.length = 10 ∧ tail.length = 52 := by
      rw [hdigits, htail, List.length_take, List.length_drop, Sha256.length_hexDigest]
      simp only [maxLength, digestLength] at hlong ⊢
      omega
    have hword : Hyphenated digits := Hyphenated.of_word fun c hc =>
      isLabelChar_of_isDigit (Hex.isDigit_of_mem_encodeChars (List.mem_of_mem_take hc))
    have hparted : Parted tail := h.toParted.of_suffix (List.drop_suffix _ _)
    have hdigitsne : digits ≠ [] := List.ne_nil_of_length_pos (by omega)
    have htailne : tail ≠ [] := List.ne_nil_of_length_pos (by omega)
    refine ⟨hword.join hparted.dropWhile hdigitsne (hparted.dropWhile_ne_nil htailne),
      by simp, ?_⟩
    have hdrop := (List.dropWhile_sublist (l := tail) (· == '-')).length_le
    simp only [List.length_append, List.length_cons, maxLength]
    omega

/-- **Any name with a letter or digit gives a label.** -/
theorem isLabel_ofName {name : String} (h : (ofName name).isEmpty = false) :
    IsLabel (ofName name).toList := by
  have hne : spell name.toList ≠ [] := by
    intro hnil
    have hempty := ofName_isEmpty name
    rw [h, ← spell_ne_nil] at hempty
    exact absurd (hempty.2 fun hspell => hspell hnil) (by decide)
  rw [ofName, String.toList_ofList]
  exact isLabel_shorten (hyphenated_spell _) hne

/-! ## The label of a label -/

theorem push_of_kept (hc : c.isLower = true ∨ c.isDigit = true) : push label c = c :: label := by
  have hkept : (c.isLower || c.isDigit) = true := by simpa using hc
  have hsep : isSeparator c = false := by
    refine Bool.eq_false_iff.2 fun hsep => ?_
    have hnot := isAlphanum_of_isSeparator hsep
    rw [isAlphanum_eq, hkept] at hnot
    cases hnot
  rw [push, hsep, if_neg Bool.false_ne_true, if_pos hkept]

theorem endWord_cons (hc : c ≠ '-') : endWord (c :: label) = '-' :: c :: label := by
  unfold endWord
  split
  · rename_i hnil
    cases hnil
  · rename_i hdash
    exact absurd (List.cons.inj hdash).1 hc
  · rfl

/-- Every dash between words is the end of a word. -/
theorem foldl_push_of_hyphenated {text : List Char} (h : Hyphenated (label.reverse ++ text)) :
    text.foldl push label = text.reverse ++ label := by
  induction text generalizing label with
  | nil => rfl
  | cons c text ih =>
    have hpush : push label c = c :: label := by
      rcases or_assoc.2 (h.alphabet c (by simp)) with hkept | rfl
      · exact push_of_kept hkept
      · cases label with
        | nil => exact absurd rfl h.first
        | cons d label =>
          have hd : d ≠ '-' := fun hd =>
            (List.isChain_append.1 h.single).2.2 d (by simp) '-' (by simp) hd rfl
          exact endWord_cons hd
    rw [List.foldl_cons, hpush, ih (by simpa using h)]
    simp

/-- There is no dash at the end to be dropped. -/
theorem Parted.dropWhile_reverse {text : List Char} (h : Parted text) :
    text.reverse.dropWhile (· == '-') = text.reverse := by
  cases hrev : text.reverse with
  | nil => rfl
  | cons c rest =>
    refine List.dropWhile_cons_of_neg fun hc => h.last ?_
    rw [← List.head?_reverse, hrev, List.head?_cons, eq_of_beq hc]

theorem spell_of_hyphenated (h : Hyphenated name) : spell name = name := by
  have hfold : name.foldl push [] = name.reverse ++ [] := foldl_push_of_hyphenated h
  rw [List.append_nil] at hfold
  rw [spell, hfold, h.dropWhile_reverse, List.reverse_reverse]

/-- **A label is its own label.** -/
theorem ofName_of_isLabel {name : String} (h : IsLabel name.toList) : ofName name = name := by
  rw [ofName, spell_of_hyphenated h.toHyphenated, shorten, if_pos h.short, String.ofList_toList]

/-- **The label of a name** is empty or a DNS label, by whether the name has a letter or digit, and
a second time nothing changes: every label is its own. -/
theorem ofName_settles (name : String) :
    (ofName name = "" ↔ ¬ ∃ c ∈ name.toList, c.isAlphanum = true) ∧
      ((∃ c ∈ name.toList, c.isAlphanum = true) → IsLabel (ofName name).toList) ∧
      (IsLabel name.toList → ofName name = name) ∧
      ofName (ofName name) = ofName name := by
  have hempty : ofName name = "" ↔ ¬ ∃ c ∈ name.toList, c.isAlphanum = true := by
    rw [← ofName_isEmpty, String.isEmpty_iff]
  have hlabel : (∃ c ∈ name.toList, c.isAlphanum = true) → IsLabel (ofName name).toList := by
    intro hword
    refine isLabel_ofName (Bool.eq_false_iff.2 fun hnone => ?_)
    exact (ofName_isEmpty name).1 hnone hword
  refine ⟨hempty, hlabel, ofName_of_isLabel, ?_⟩
  by_cases hword : ∃ c ∈ name.toList, c.isAlphanum = true
  · exact ofName_of_isLabel (hlabel hword)
  · rw [hempty.2 hword]
    rfl

theorem ofName_settles_camel :
    ofName "__Train_Model" = "train-model" ∧ IsLabel "train-model".toList ∧
      ofName "train-model" = "train-model" := by
  have hname : ofName "__Train_Model" = "train-model" := by decide
  obtain ⟨-, hlabel, -, -⟩ := ofName_settles "__Train_Model"
  have htrain := hlabel ⟨'T', by decide, by decide⟩
  rw [hname] at htrain
  exact ⟨hname, htrain, (ofName_settles "train-model").2.2.1 htrain⟩

end Workflow.Label
