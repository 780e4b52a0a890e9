import Mathlib.Data.List.SplitBy
import Workflow.Proofs.Text.Label

/-!
# Labels by words

A name is made of words: separators part them, and an upper-case letter starts one. Its label is the
words joined by dashes, or the end of that behind a digest.

* `words`: the words of a name, by splitting. `ofWords`: the label that they give.
* `split_induction`: a text up to its first separator or upper-case letter, and what follows it.
* `foldl_push_cut`, `foldl_push_pieces`: what is left of a run of letters and digits, and of a whole
  text, when they are taken in character by character is their words, joined by dashes.
* `ofName_eq_ofWords`: so the label of a name is the one that its words give.
-/

namespace Workflow.Label

/-- The characters of a name that count. -/
def isSpelled (c : Char) : Bool := c.isAlphanum || isSeparator c

/-- A text cut in front of every upper-case letter. -/
def cut (run : List Char) : List (List Char) := run.splitBy fun _ c => !c.isUpper

/-- A text cut at separators as well. -/
def pieces (text : List Char) : List (List Char) := (text.splitOnP isSeparator).flatMap cut

/-- The words of a name, in lower case. -/
def words (name : List Char) : List (List Char) :=
  ((pieces (name.filter isSpelled)).filter (!·.isEmpty)).map (List.map Char.toLower)

/-- Words with single dashes between them. -/
def join (words : List (List Char)) : List Char := List.intercalate ['-'] words

/-- The label that the words of a name give: all of them joined if that is short enough, or else the
last 52 characters, without a dash in front, behind ten digits of the digest of the name. -/
def ofWords (name : String) : String :=
  let joined := join (words name.toList)
  if joined.length ≤ 63 then String.ofList joined
  else
    let digits := (Sha256.hexDigest (Utf8.encodeChars name.toList)).take 10
    let tail := joined.drop (joined.length - 52)
    String.ofList (digits ++ '-' :: if tail.head? = some '-' then tail.drop 1 else tail)

variable {c : Char} {label run text : List Char}

/-! ## Cutting -/

/-- Before an upper-case letter a word ends. -/
theorem cut_append_upper (hc : c.isUpper = true) (run rest : List Char) :
    cut (run ++ c :: rest) = cut run ++ cut (c :: rest) :=
  List.splitBy_append_cons rest fun _ _ => by simp [hc]

/-- A character and what follows it up to the next upper-case letter are one word. -/
theorem cut_word (c : Char) (h : ∀ d ∈ run, d.isUpper = false) : cut (c :: run) = [c :: run] := by
  refine List.splitBy_of_isChain (List.cons_ne_nil c run) ?_
  induction run generalizing c with
  | nil => exact .singleton c
  | cons d run ih =>
    rw [List.forall_mem_cons] at h
    exact List.isChain_cons_cons.2 ⟨by simp [h.1], ih d h.2⟩

theorem cut_eq_nil : cut run = [] ↔ run = [] := List.splitBy_eq_nil

theorem mem_of_mem_cut {word : List Char} (h : word ∈ cut run) (hc : c ∈ word) : c ∈ run := by
  have hflat : (cut run).flatten = run := List.flatten_splitBy _ run
  rw [← hflat]
  exact List.mem_flatten_of_mem h hc

theorem pieces_append_separator (hc : isSeparator c = true) (text rest : List Char) :
    pieces (text ++ c :: rest) = pieces text ++ pieces rest := by
  rw [pieces, List.splitOnP_append_cons text rest hc, List.flatMap_append]
  rfl

theorem pieces_run (h : ∀ c ∈ run, isSeparator c = false) : pieces run = cut run := by
  rw [pieces, List.splitOnP_eq_singleton h, List.flatMap_cons, List.flatMap_nil, List.append_nil]

/-- A text without the characters of a kind, or such a text before one of them and another text. -/
theorem split_induction (p : Char → Bool) {motive : List Char → Prop}
    (run : ∀ run, (∀ c ∈ run, p c = false) → motive run)
    (parted : ∀ run c rest, (∀ c ∈ run, p c = false) → p c = true → motive rest →
      motive (run ++ c :: rest)) (text : List Char) : motive text := by
  induction hlength : text.length using Nat.strongRecOn generalizing text with
  | ind length ih =>
    have hfree : ∀ c ∈ text.takeWhile (!p ·), p c = false := fun c hc => by
      simpa using List.mem_takeWhile_imp hc
    have hsplit : text.takeWhile (!p ·) ++ text.dropWhile (!p ·) = text :=
      List.takeWhile_append_dropWhile
    cases hrest : text.dropWhile (!p ·) with
    | nil =>
      rw [hrest, List.append_nil] at hsplit
      rw [← hsplit]
      exact run _ hfree
    | cons c rest =>
      have hstop := List.head?_dropWhile_not (!p ·) text
      rw [hrest] at hsplit hstop
      rw [← hsplit]
      refine parted _ c rest hfree (by simpa using hstop) (ih rest.length ?_ rest rfl)
      rw [← hlength, ← hsplit, List.length_append, List.length_cons]
      omega

/-! ## Joining -/

theorem join_cons_cons (word second : List Char) (words : List (List Char)) :
    join (word :: second :: words) = word ++ '-' :: join (second :: words) := by
  simp [join, List.intercalate_cons_cons]

theorem join_append {words rest : List (List Char)} (h : words ≠ []) (hrest : rest ≠ []) :
    join (words ++ rest) = join words ++ '-' :: join rest := by
  obtain ⟨next, rest, rfl⟩ := List.exists_cons_of_ne_nil hrest
  induction words with
  | nil => exact absurd rfl h
  | cons word words ih =>
    cases words with
    | nil =>
      have hword : join [word] = word := List.intercalate_singleton
      rw [List.singleton_append, join_cons_cons, hword]
    | cons second words =>
      rw [List.cons_append, List.cons_append, join_cons_cons, join_cons_cons, ← List.cons_append,
        ih (List.cons_ne_nil _ _), List.append_assoc, List.cons_append]

/-- A tail has at most one dash in front. -/
theorem Parted.dropWhile_eq (h : Parted text) :
    text.dropWhile (· == '-') = if text.head? = some '-' then text.drop 1 else text := by
  cases text with
  | nil => rfl
  | cons c text =>
    by_cases hc : c = '-'
    · subst hc
      have hfirst : text.dropWhile (· == '-') = text := by
        cases text with
        | nil => rfl
        | cons d text =>
          have hd : d ≠ '-' := (List.isChain_cons_cons.1 h.single).1 rfl
          exact List.dropWhile_cons_of_neg (by simpa using hd)
      rw [List.dropWhile_cons_of_pos (by simp), hfirst]
      rfl
    · rw [List.dropWhile_cons_of_neg (by simpa using hc), if_neg (by simpa using hc)]

/-- Words of lower-case letters and digits are hyphenated when they are joined. -/
theorem hyphenated_join {words : List (List Char)}
    (h : ∀ word ∈ words, word ≠ [] ∧ ∀ c ∈ word, c.isLower = true ∨ c.isDigit = true) :
    Hyphenated (join words) := by
  suffices Hyphenated (join words) ∧ (words ≠ [] → join words ≠ []) from this.1
  induction words with
  | nil => exact ⟨.of_word (by simp [join]), fun hne => absurd rfl hne⟩
  | cons word words ih =>
    obtain ⟨⟨hne, hword⟩, hrest⟩ := List.forall_mem_cons.1 h
    obtain ⟨hjoined, hjoinedne⟩ := ih hrest
    cases words with
    | nil =>
      have hsingle : join [word] = word := List.intercalate_singleton
      rw [hsingle]
      exact ⟨.of_word hword, fun _ => hne⟩
    | cons second words =>
      rw [join_cons_cons]
      have hnext := hjoinedne (List.cons_ne_nil second words)
      exact ⟨(Hyphenated.of_word hword).join hjoined hne hnext, fun _ => by simp⟩

/-! ## Characters that are taken in -/

theorem toLower_of_not_isUpper (h : c.isUpper = false) : c.toLower = c :=
  dif_neg (of_decide_eq_false h)

theorem isSeparator_of_isAlphanum (h : c.isAlphanum = true) : isSeparator c = false := by
  refine Bool.eq_false_iff.2 fun hsep => ?_
  rw [isAlphanum_of_isSeparator hsep] at h
  cases h

/-- A letter in lower case or a digit. -/
theorem kept_toLower (h : c.isAlphanum = true) :
    c.toLower.isLower = true ∨ c.toLower.isDigit = true := by
  cases hupper : c.isUpper with
  | true => exact .inl (isLower_toLower hupper)
  | false =>
    rw [toLower_of_not_isUpper hupper]
    rw [isAlphanum_eq, hupper, Bool.or_false] at h
    simpa using h

theorem toLower_ne_dash_of_isAlphanum (h : c.isAlphanum = true) : c.toLower ≠ '-' := by
  intro hdash
  have hkept := kept_toLower h
  rw [hdash] at hkept
  revert hkept
  decide

theorem push_not_upper (h : c.isAlphanum = true) (hc : c.isUpper = false) :
    push label c = c.toLower :: label := by
  have hkept := kept_toLower h
  rw [toLower_of_not_isUpper hc] at hkept ⊢
  exact push_of_kept hkept

/-- The three alphabets have no character in common. -/
theorem not_kept_of_isUpper (hc : c.isUpper = true) : (c.isLower || c.isDigit) = false := by
  have hin : c.val ≥ 'A'.val ∧ c.val ≤ 'Z'.val := of_decide_eq_true hc
  have hlower : c.isLower = false := by
    refine Bool.eq_false_iff.2 fun h => ?_
    have hfrom : c.val ≥ 'a'.val := of_decide_eq_true (Bool.and_eq_true_iff.1 h).1
    exact absurd (UInt32.le_trans hfrom hin.2) (by decide)
  have hdigit : c.isDigit = false := by
    refine Bool.eq_false_iff.2 fun h => ?_
    have hto : c.val ≤ '9'.val := of_decide_eq_true (Bool.and_eq_true_iff.1 h).2
    exact absurd (UInt32.le_trans hin.1 hto) (by decide)
  rw [hlower, hdigit, Bool.or_false]

theorem push_upper (hc : c.isUpper = true) : push label c = c.toLower :: endWord label := by
  have hword : c.isAlphanum = true := by rw [isAlphanum_eq, hc, Bool.or_true]
  rw [push, isSeparator_of_isAlphanum hword, if_neg Bool.false_ne_true, not_kept_of_isUpper hc,
    if_neg Bool.false_ne_true, if_pos hc]

theorem push_separator (hc : isSeparator c = true) : push label c = endWord label := if_pos hc

/-- Other characters are dropped. -/
theorem push_not_spelled (hc : isSpelled c = false) : push label c = label := by
  rw [isSpelled, Bool.or_eq_false_iff, isAlphanum_eq, Bool.or_eq_false_iff] at hc
  obtain ⟨⟨hkept, hupper⟩, hsep⟩ := hc
  simp [push, hsep, hkept, hupper]

theorem isAlphanum_of_isSpelled (h : isSpelled c = true) (hfree : isSeparator c = false) :
    c.isAlphanum = true := by
  rwa [isSpelled, hfree, Bool.or_false] at h

theorem foldl_push_filter (name label : List Char) :
    (name.filter isSpelled).foldl push label = name.foldl push label := by
  induction name generalizing label with
  | nil => rfl
  | cons c name ih =>
    cases hc : isSpelled c with
    | true => rw [List.filter_cons_of_pos hc, List.foldl_cons, List.foldl_cons, ih]
    | false => rw [List.filter_cons_of_neg (by simp [hc]), List.foldl_cons, push_not_spelled hc, ih]

/-! ## Runs -/

/-- No word is in progress. -/
def Closed (label : List Char) : Prop := endWord label = label

theorem closed_nil : Closed [] := rfl

theorem closed_cons_dash (label : List Char) : Closed ('-' :: label) := rfl

theorem closed_endWord (label : List Char) : Closed (endWord label) := by
  cases label with
  | nil => exact closed_nil
  | cons c label =>
    by_cases hc : c = '-'
    · subst hc
      exact closed_cons_dash label
    · rw [endWord_cons hc]
      exact closed_cons_dash (c :: label)

/-- Letters and digits leave a word in progress. -/
theorem endWord_foldl (h : ∀ c ∈ run, c.isAlphanum = true) (hne : run ≠ []) :
    endWord (run.foldl push label) = '-' :: run.foldl push label := by
  obtain ⟨front, c, rfl⟩ : ∃ front c, run = front ++ [c] :=
    ⟨run.dropLast, run.getLast hne, (List.dropLast_append_getLast hne).symm⟩
  have hc : c.isAlphanum = true := h c (by simp)
  obtain ⟨rest, hrest⟩ : ∃ rest, push (front.foldl push label) c = c.toLower :: rest := by
    cases hupper : c.isUpper with
    | true => exact ⟨_, push_upper hupper⟩
    | false => exact ⟨_, push_not_upper hc hupper⟩
  rw [List.foldl_append, List.foldl_cons, List.foldl_nil, hrest,
    endWord_cons (toLower_ne_dash_of_isAlphanum hc)]

/-- The first character of a word, where none is in progress. -/
theorem push_closed (h : c.isAlphanum = true) (hclosed : Closed label) :
    push label c = c.toLower :: label := by
  cases hupper : c.isUpper with
  | true => rw [push_upper hupper, hclosed]
  | false => exact push_not_upper h hupper

/-- A single word. -/
theorem foldl_push_word (hc : c.isAlphanum = true) (h : ∀ d ∈ run, d.isAlphanum = true)
    (hlower : ∀ d ∈ run, d.isUpper = false) (hclosed : Closed label) :
    (c :: run).foldl push label = ((c :: run).map Char.toLower).reverse ++ label := by
  have hrest : ∀ label, run.foldl push label = (run.map Char.toLower).reverse ++ label := by
    induction run with
    | nil => exact fun label => rfl
    | cons d run ih =>
      rw [List.forall_mem_cons] at h hlower
      intro label
      rw [List.foldl_cons, push_not_upper h.1 hlower.1, ih h.2 hlower.2]
      simp
  rw [List.foldl_cons, push_closed hc hclosed, hrest]
  simp

theorem foldl_push_cut_cons (hc : c.isAlphanum = true) (h : ∀ d ∈ run, d.isAlphanum = true)
    (hclosed : Closed label) : (c :: run).foldl push label =
      (join ((cut (c :: run)).map (List.map Char.toLower))).reverse ++ label := by
  induction run using split_induction Char.isUpper generalizing c label with
  | run word hlower =>
    rw [foldl_push_word hc h hlower hclosed, cut_word c hlower, List.map_singleton]
    exact congrArg (·.reverse ++ label) List.intercalate_singleton.symm
  | parted word u rest hlower hu ih =>
    obtain ⟨hword, hurest⟩ := List.forall_mem_append.1 h
    obtain ⟨hualpha, hrest⟩ := List.forall_mem_cons.1 hurest
    have hfirst := foldl_push_word hc hword hlower hclosed
    have hend : endWord ((c :: word).foldl push label) = '-' :: (c :: word).foldl push label :=
      endWord_foldl (List.forall_mem_cons.2 ⟨hc, hword⟩) (List.cons_ne_nil c word)
    rw [hfirst] at hend
    -- the upper-case letter ends the first word and starts the next
    have hnext : ∀ text, (u :: rest).foldl push text = (u :: rest).foldl push (endWord text) := by
      intro text
      rw [List.foldl_cons, List.foldl_cons, push_upper hu, push_closed hualpha (closed_endWord text)]
    rw [← List.cons_append, List.foldl_append, hfirst, hnext, hend,
      ih hualpha hrest (closed_cons_dash _), cut_append_upper hu, cut_word c hlower, List.map_append,
      join_append (by simp) (by simp [cut_eq_nil])]
    simp [join]

/-- **A run of letters and digits** is taken in as its words, joined by dashes. -/
theorem foldl_push_cut (h : ∀ c ∈ run, c.isAlphanum = true) (hclosed : Closed label) :
    run.foldl push label = (join ((cut run).map (List.map Char.toLower))).reverse ++ label := by
  cases run with
  | nil => rfl
  | cons c run =>
    rw [List.forall_mem_cons] at h
    exact foldl_push_cut_cons h.1 h.2 hclosed

/-! ## Texts -/

/-- **A text of characters that count** is taken in as its words, joined by dashes, and a dash that
separators leave behind the last. -/
theorem foldl_push_pieces (h : ∀ c ∈ text, isSpelled c = true) (hclosed : Closed label) :
    ∃ dashes, (∀ c ∈ dashes, c = '-') ∧ text.foldl push label =
      dashes ++ (join ((pieces text).map (List.map Char.toLower))).reverse ++ label := by
  induction text using split_induction isSeparator generalizing label with
  | run run hfree =>
    refine ⟨[], by simp, ?_⟩
    have hwords : ∀ c ∈ run, c.isAlphanum = true := fun c hc =>
      isAlphanum_of_isSpelled (h c hc) (hfree c hc)
    rw [foldl_push_cut hwords hclosed, pieces_run hfree]
    rfl
  | parted run c rest hfree hc ih =>
    obtain ⟨hspelled, hrest⟩ := List.forall_mem_append.1 h
    have hwords : ∀ c ∈ run, c.isAlphanum = true := fun c hc =>
      isAlphanum_of_isSpelled (hspelled c hc) (hfree c hc)
    have hfirst := foldl_push_cut hwords hclosed
    rw [List.foldl_append, List.foldl_cons, push_separator hc, pieces_append_separator hc,
      pieces_run hfree, List.map_append]
    by_cases hne : run = []
    · subst hne
      obtain ⟨dashes, hdashes, heq⟩ := ih (List.forall_mem_cons.1 hrest).2 hclosed
      refine ⟨dashes, hdashes, ?_⟩
      rw [List.foldl_nil, hclosed, heq]
      rfl
    · obtain ⟨dashes, hdashes, heq⟩ :=
        ih (List.forall_mem_cons.1 hrest).2 (closed_cons_dash (run.foldl push label))
      rw [endWord_foldl hwords hne, heq, hfirst]
      by_cases hlast : pieces rest = []
      · -- nothing but separators is left
        refine ⟨dashes ++ ['-'], ?_, ?_⟩
        · simpa [or_imp, forall_and] using hdashes
        · simp [hlast, join]
      · refine ⟨dashes, hdashes, ?_⟩
        rw [join_append (by simpa [cut_eq_nil] using hne) (by simpa using hlast)]
        simp

theorem mem_pieces (h : ∀ c ∈ text, isSpelled c = true) {word : List Char}
    (hword : word ∈ pieces text) : word ≠ [] ∧ ∀ c ∈ word, c.isAlphanum = true := by
  induction text using split_induction isSeparator with
  | run run hfree =>
    rw [pieces_run hfree] at hword
    refine ⟨List.ne_nil_of_mem_splitBy hword, fun c hc => ?_⟩
    have hmem := mem_of_mem_cut hword hc
    exact isAlphanum_of_isSpelled (h c hmem) (hfree c hmem)
  | parted run c rest hfree hc ih =>
    obtain ⟨hspelled, hrest⟩ := List.forall_mem_append.1 h
    rw [pieces_append_separator hc, pieces_run hfree] at hword
    rcases List.mem_append.1 hword with hword | hword
    · refine ⟨List.ne_nil_of_mem_splitBy hword, fun c hc => ?_⟩
      have hmem := mem_of_mem_cut hword hc
      exact isAlphanum_of_isSpelled (hspelled c hmem) (hfree c hmem)
    · exact ih (List.forall_mem_cons.1 hrest).2 hword

/-! ## Names -/

/-- Cutting leaves no empty words. -/
theorem words_eq (name : List Char) :
    words name = (pieces (name.filter isSpelled)).map (List.map Char.toLower) := by
  have hall : ∀ word ∈ pieces (name.filter isSpelled), (!word.isEmpty) = true := fun word hword => by
    simpa using (mem_pieces (fun c hc => (List.mem_filter.1 hc).2) hword).1
  rw [words, List.filter_eq_self.2 hall]

theorem hyphenated_words (name : List Char) : Hyphenated (join (words name)) := by
  refine hyphenated_join fun word hword => ?_
  rw [words_eq] at hword
  obtain ⟨piece, hpiece, rfl⟩ := List.mem_map.1 hword
  obtain ⟨hne, hpiece⟩ := mem_pieces (fun c hc => (List.mem_filter.1 hc).2) hpiece
  refine ⟨by simpa using hne, fun c hc => ?_⟩
  obtain ⟨d, hd, rfl⟩ := List.mem_map.1 hc
  exact kept_toLower (hpiece d hd)

/-- **A name is spelled** as its words, joined by dashes. -/
theorem spell_eq_join (name : List Char) : spell name = join (words name) := by
  have hspelled : ∀ c ∈ name.filter isSpelled, isSpelled c = true :=
    fun c hc => (List.mem_filter.1 hc).2
  obtain ⟨dashes, hdashes, hfold⟩ := foldl_push_pieces hspelled closed_nil
  rw [foldl_push_filter, ← words_eq, List.append_nil] at hfold
  rw [spell, hfold, List.dropWhile_append_of_pos (by simpa using hdashes),
    (hyphenated_words name).dropWhile_reverse, List.reverse_reverse]

/-- **The label of a name** is the one that its words give, for every name. -/
theorem ofName_eq_ofWords (name : String) : ofName name = ofWords name := by
  have hword := hyphenated_words name.toList
  rw [ofName, spell_eq_join, ofWords, shorten]
  generalize join (words name.toList) = joined at hword
  generalize Sha256.hexDigest (Utf8.encodeChars name.toList) = digest
  have htail := (hword.toParted.of_suffix (List.drop_suffix (joined.length - 52) joined)).dropWhile_eq
  have hmax : maxLength = 63 := rfl
  rw [hmax]
  by_cases hshort : joined.length ≤ 63
  · rw [if_pos hshort, if_pos hshort]
  · rw [if_neg hshort, if_neg hshort]
    exact congrArg (fun tail => String.ofList (digest.take 10 ++ '-' :: tail)) htail

example : ofWords "HTTPServer__v2.x y" = "h-t-t-p-server-v2-xy" := by decide

end Workflow.Label
