import Workflow.Proofs.Url.Host
import Workflow.Proofs.Url.Stem

/-!
# Segments behind a text

What becomes of segments that are put behind a text which is read as a URL. They go to the end of
the path, except where the text ends before its host: there the first of them is the host.

* `ofTrimmed?_render`: segments at the end of the path.
* `parse?_append_render`, `parse?_of_mark`: blanks at the ends of the text do not matter, and behind a
  query nothing does.
* `ofTrimmed?_special`, `ofTrimmed?_other`, `filePath?_awaited`: digits as a host.
* `AwaitsHost.hosts`: two runs of digits are on two hosts.
-/

namespace Workflow.Url

open UrlPath

variable {text digits : List Char} {segments : List (List Char)}

/-- What stands behind the first slash of plain segments has none in front. -/
theorem follows_render {later : List Char} (h : ∀ segment ∈ segments, IsPlain segment)
    (hrender : render segments = '/' :: later) : Follows '/' later := by
  intro _ c rest hrest
  have hlater : ∀ d ∈ later, d = '/' ∨ IsPlainChar d := fun d hd =>
    of_mem_render h (hrender ▸ List.mem_cons_of_mem _ hd)
  obtain ⟨first, others, rfl⟩ := List.exists_cons_of_ne_nil (l := segments) (by
    rintro rfl
    cases hrender)
  have hfirst := h first List.mem_cons_self
  obtain ⟨d, first', rfl⟩ := List.exists_cons_of_ne_nil hfirst.nonempty
  have hd : IsPlainChar d := hfirst.isPlainChar d List.mem_cons_self
  have hcons : later = d :: (first' ++ render others) := (List.cons.inj hrender).2.symm
  rw [hcons, clean_cons_of_not hd.isDropped] at hrest
  obtain ⟨rfl, -⟩ := List.cons.inj hrest
  exact isSlash_of_isPlainChar hd true

/-- **Plain segments** behind a text are below one URL, unless a host is to come. -/
theorem ofTrimmed?_render (hfree : QueryFree text) (hhost : ¬ AwaitsHost text) :
    ∃ base? : Option Url, ∀ segments, segments ≠ [] → (∀ segment ∈ segments, IsPlain segment) →
      ofTrimmed? (text ++ render segments) = base?.map (·.below segments) := by
  obtain ⟨stem?, hstem, hread⟩ := ofTrimmed?_append .slash hfree fun _ => hhost
  beta_reduce at hread
  cases stem? with
  | none =>
    refine ⟨none, fun segments hne h => ?_⟩
    obtain ⟨later, hlater⟩ := exists_of_render hne
    rw [hlater, hread later (follows_render h hlater)]
    rfl
  | some stem =>
    obtain ⟨base, hbase⟩ := stem.url_render (hstem stem rfl)
    refine ⟨some base, fun segments hne h => ?_⟩
    obtain ⟨later, hlater⟩ := exists_of_render hne
    rw [hlater, hread later (follows_render h hlater), Option.map_some, ← hlater, hbase segments hne h]
    rfl

/-- A query in a text hides all that is behind it. -/
theorem ofTrimmed?_mark {e : Char} (he : IsMark e) (hfree : QueryFree text) (later later' : List Char) :
    ofTrimmed? (text ++ e :: later) = ofTrimmed? (text ++ e :: later') := by
  have hne : e ≠ '/' := by cases he <;> decide
  obtain ⟨stem?, -, hread⟩ := ofTrimmed?_append he.isEnd hfree fun h => absurd h hne
  beta_reduce at hread
  rw [hread later fun h => absurd h hne, hread later' fun h => absurd h hne]
  cases stem? with
  | none => rfl
  | some stem => rw [Option.map_some, Option.map_some, stem.url_query he later later']

/-! ## Blanks -/

/-- Controls and blanks. -/
def isOuter (c : Char) : Bool := c.toNat ≤ 0x20

theorem trim_eq (text : List Char) :
    trim text = Text.dropEndWhile isOuter (text.dropWhile isOuter) := rfl

theorem dropEndWhile_append_stop {c : Char} (hc : isOuter c = false) (text later : List Char) :
    Text.dropEndWhile isOuter (text ++ c :: later) = text ++ c :: Text.dropEndWhile isOuter later := by
  rw [Text.dropEndWhile, List.reverse_append, List.reverse_cons, List.append_assoc,
    List.singleton_append, dropWhile_append_stop hc]
  simp [Text.dropEndWhile]

theorem isOuter_of_isPlainChar {c : Char} (h : IsPlainChar c) : isOuter c = false := by
  rcases h with h | rfl
  · rw [← Bool.not_eq_true]
    intro houter
    have hcode : c.toNat ≤ 0x20 := by simpa [isOuter] using houter
    have hnone : ∀ n < 0x21, Percent.isUnreserved (Char.ofNat n) = false := by decide
    have hfalse := hnone c.toNat (by omega)
    rw [Char.ofNat_toNat, h] at hfalse
    cases hfalse
  · decide

/-- A text with segments behind it has no blanks at its end. -/
theorem trim_append_render (text : List Char) (hne : segments ≠ [])
    (h : ∀ segment ∈ segments, IsPlain segment) :
    trim (text ++ render segments) = text.dropWhile isOuter ++ render segments := by
  have hslash : isOuter '/' = false := by decide
  obtain ⟨rest, hrest⟩ := exists_of_render hne
  have hstart : (text ++ render segments).dropWhile isOuter =
      text.dropWhile isOuter ++ render segments := by
    rw [hrest, dropWhile_append_stop hslash]
  rw [trim_eq, hstart]
  obtain hnil | ⟨init, last, hlast⟩ := List.eq_nil_or_concat (render segments)
  · rw [hrest] at hnil
    cases hnil
  · have hmem : last ∈ render segments := by
      rw [hlast, List.concat_eq_append]
      simp
    have houter : isOuter last = false := by
      rcases of_mem_render h hmem with rfl | hplain
      · exact hslash
      · exact isOuter_of_isPlainChar hplain
    rw [hlast, List.concat_eq_append, ← List.append_assoc, dropEndWhile_append_stop houter]
    rfl

/-- A URL with segments at its end is read behind the blanks in front of it. -/
theorem parse?_append_render {uri : String} (huri : uri.toList = text ++ render segments)
    (hne : segments ≠ []) (h : ∀ segment ∈ segments, IsPlain segment) :
    parse? uri = ofTrimmed? (text.dropWhile isOuter ++ render segments) := by
  rw [parse?_eq, huri, trim_append_render text hne h]

/-- A text with a query or a fragment, up to the first sign of one. -/
theorem exists_mark (h : ¬ QueryFree text) :
    ∃ front e rest, IsMark e ∧ QueryFree front ∧ text = front ++ e :: rest := by
  induction text with
  | nil => exact absurd nofun h
  | cons c text ih =>
    by_cases hc : (c != '?' && c != '#') = true
    · obtain ⟨front, e, rest, he, hfree, rfl⟩ := ih fun hfree => h (List.forall_mem_cons.2 ⟨hc, hfree⟩)
      exact ⟨c :: front, e, rest, he, List.forall_mem_cons.2 ⟨hc, hfree⟩, rfl⟩
    · refine ⟨[], c, text, ?_, nofun, rfl⟩
      by_cases hquery : c = '?'
      · exact hquery ▸ .query
      · by_cases hfragment : c = '#'
        · exact hfragment ▸ .fragment
        · simp [hquery, hfragment] at hc

/-- **Behind a query or a fragment** nothing is read. -/
theorem parse?_of_mark {uri start : String} (huri : uri.toList = start.toList ++ render segments)
    (hmark : ¬ QueryFree start.toList) (hne : segments ≠ [])
    (h : ∀ segment ∈ segments, IsPlain segment) : parse? uri = parse? start := by
  obtain ⟨front, e, rest, he, hfree, hstart⟩ := exists_mark hmark
  have houter : isOuter e = false := by cases he <;> decide
  have hdrop : start.toList.dropWhile isOuter = front.dropWhile isOuter ++ e :: rest := by
    rw [hstart, dropWhile_append_stop houter]
  have hfree' : QueryFree (front.dropWhile isOuter) :=
    hfree.of_subset fun c hc => (List.dropWhile_sublist _).subset hc
  rw [parse?_append_render huri hne h, parse?_eq, trim_eq, hdrop, dropEndWhile_append_stop houter,
    List.append_assoc, List.cons_append]
  exact ofTrimmed?_mark he hfree' _ _

/-! ## Digits as a host -/

section

variable (hdigits : ∀ c ∈ digits, Hex.isDigit c = true)

include hdigits

theorem splitHost_digits : splitHost false digits = (digits, []) := by
  induction digits with
  | nil => rfl
  | cons c digits ih =>
    rw [List.forall_mem_cons] at hdigits
    have hc : c ≠ ':' ∧ c ≠ '[' ∧ c ≠ ']' :=
      Hex.forall_digit (p := fun c => c ≠ ':' ∧ c ≠ '[' ∧ c ≠ ']') (by decide) hdigits.1
    rw [splitHost, if_neg (by simp [hc.1])]
    simp only [if_neg hc.2.1, if_neg hc.2.2, ih hdigits.2]

theorem readAuthority?_digits (hne : digits ≠ []) (special ended : Bool) :
    readAuthority? special ended digits =
      (if special then Host.ofSpecial? digits else some digits).map fun host => (some host, []) := by
  have huser : splitUser? digits = none := by
    have hall : ∀ c ∈ digits.reverse, (c != '@') = true := fun c hc =>
      Hex.forall_digit (p := fun c => (c != '@') = true) (by decide)
        (hdigits c (List.mem_reverse.1 hc))
    unfold splitUser?
    rw [List.span_eq_takeWhile_dropWhile, List.dropWhile_eq_nil_iff.2 hall]
  have hport : readPort? [] = some [] := rfl
  rw [readAuthority?_eq, huser]
  simp only [readPlace?, splitHost_digits hdigits, List.isEmpty_iff, hne, if_false,
    Host.ofOther?_digits hdigits, hport, Option.map_some]
  cases (if special then Host.ofSpecial? digits else some digits) <;> rfl

/-- The host of an authority that digits make up. -/
theorem ofAuthority?_digits (hne : digits ≠ []) (h : ∀ segment ∈ segments, IsPlain segment)
    (scheme : List Char) (special : Bool) :
    ofAuthority? scheme special (digits ++ render segments) =
      (if special then Host.ofSpecial? digits else some digits).map fun host =>
        ⟨String.ofList scheme, some (String.ofList host),
          if special || !(beforeQuery (render segments)).isEmpty then
            readPath special (render segments) else [], true⟩ := by
  let isOpen (c : Char) : Bool := !(isSlash special c || c == '?' || c == '#')
  have hopen : ∀ c ∈ digits, isOpen c = true := fun c hc =>
    Hex.forall_digit (p := fun c => (!(isSlash special c || c == '?' || c == '#')) = true)
      (by cases special <;> decide) (hdigits c hc)
  have htake : (digits ++ render segments).takeWhile isOpen = digits := by
    rw [List.takeWhile_append_of_pos hopen]
    cases segments with
    | nil => exact List.append_nil digits
    | cons first others =>
      have hstop : isOpen '/' = false := by cases special <;> decide
      have hrender : render (first :: others) = '/' :: (first ++ render others) := rfl
      rw [hrender, List.takeWhile_cons_of_neg (by simp [hstop]), List.append_nil]
  unfold ofAuthority?
  simp only
  rw [htake, List.drop_left, readAuthority?_digits hdigits hne]
  cases (if special then Host.ofSpecial? digits else some digits) <;> rfl

theorem clean_digits : clean digits = digits :=
  clean_eq_self fun _ hc => Hex.forall_digit (p := fun c => isDropped c = false) (by decide)
    (hdigits _ hc)

theorem isSlash_digits {c : Char} (hc : c ∈ digits) : isSlash true c = false :=
  Hex.forall_digit (p := fun c => isSlash true c = false) (by decide) (hdigits c hc)

/-- The host of a file that digits make up. -/
theorem takeWhile_digits (h : ∀ segment ∈ segments, IsPlain segment) :
    (beforeQuery (digits ++ render segments)).takeWhile (!isSlash true ·) = digits := by
  have hfree : QueryFree digits := fun d hd =>
    Hex.forall_digit (p := fun d => (d != '?' && d != '#') = true) (by decide) (hdigits d hd)
  have hquery : beforeQuery (digits ++ render segments) = digits ++ render segments :=
    List.takeWhile_eq_self_iff.2 (queryFree_append.2 ⟨hfree, queryFree_render h⟩)
  have hall : ∀ d ∈ digits, (!isSlash true d) = true := fun d hd => by
    rw [isSlash_digits hdigits hd]
    rfl
  rw [hquery, List.takeWhile_append_of_pos hall]
  cases segments with
  | nil => exact List.append_nil digits
  | cons first others =>
    have hrender : render (first :: others) = '/' :: (first ++ render others) := rfl
    rw [hrender, List.takeWhile_cons_of_neg (by decide), List.append_nil]

/-- Digits are no name of this host. -/
theorem ne_localHost (hlength : digits.length = 32) {host : List Char}
    (h : Host.ofSpecial? digits = some host) : host ≠ localHost := by
  rintro rfl
  rcases Host.ofSpecial?_digits hdigits hlength h with heq | ⟨_, n, -, -, -, heq⟩
  · exact Hex.not_mem_of_isDigit hdigits (c := 'l') (by decide) (heq ▸ by decide)
  · have hdot := Host.mem_ipv4Text n
    rw [← heq] at hdot
    exact absurd hdot (by decide)

end

/-- Segments alone name no drive. -/
theorem hasDrive_render {front : List Char} (hfront : front.dropWhile isDropped = [])
    (h : ∀ segment ∈ segments, IsPlain segment) :
    (readSegments true true (behindSlash true (front ++ render segments))).hasDrive = false := by
  by_cases hne : segments = []
  · subst hne
    have hrender : front ++ render [] = front := List.append_nil front
    rw [hrender, behindSlash, hfront]
    rfl
  · rw [readSegments_behindSlash true true hfront hne h]
    rfl

/-- Nothing visible is left between the host and the segments. -/
theorem exists_dropVisible_digits {scheme rest : List Char} {c : Char}
    (hscheme : splitScheme? (clean text) = some (scheme, rest))
    (hdigits : ∀ c ∈ digits, Hex.isDigit c = true) (hrest : rest = [c])
    (segments : List (List Char)) :
    ∃ front, dropVisible (2 + digits.length) (behindScheme text rest ++
        '/' :: (digits ++ render segments)) = front ++ render segments ∧
      front.dropWhile isDropped = [] := by
  have hvisible : clean (behindScheme text rest ++ '/' :: digits) = c :: '/' :: digits := by
    rw [clean_append, clean_behindScheme hscheme, hrest, clean_cons_of_not (by decide),
      clean_digits hdigits]
    rfl
  have hcount : (clean (behindScheme text rest ++ '/' :: digits)).length = 2 + digits.length := by
    rw [hvisible, List.length_cons, List.length_cons]
    omega
  refine ⟨dropVisible (2 + digits.length) (behindScheme text rest ++ '/' :: digits), ?_, ?_⟩
  · rw [← List.cons_append, ← List.append_assoc, dropVisible_append hcount.ge]
  · have hclean := clean_dropVisible (2 + digits.length) (behindScheme text rest ++ '/' :: digits)
    rw [List.drop_eq_nil_of_le hcount.le] at hclean
    refine List.dropWhile_eq_nil_iff.2 fun d hd => ?_
    simpa using List.filter_eq_nil_iff.1 hclean d hd

section

variable {scheme rest : List Char} (hscheme : splitScheme? (clean text) = some (scheme, rest))
  (hdigits : ∀ c ∈ digits, Hex.isDigit c = true) (hlength : digits.length = 32)
  (hplain : ∀ segment ∈ segments, IsPlain segment)

include hdigits hplain

theorem clean_digits_append : clean (digits ++ render segments) = digits ++ render segments := by
  rw [clean_append, clean_digits hdigits, clean_render hplain]

include hscheme hlength

/-- **Digits behind the slashes of a scheme with domains** are the host. -/
theorem ofTrimmed?_special (hkind : schemeKind scheme = .special)
    (hrest : ∀ c ∈ rest, isSlash true c = true) :
    ofTrimmed? (text ++ '/' :: (digits ++ render segments)) =
      (Host.ofSpecial? digits).map fun host => ⟨String.ofList scheme, some (String.ofList host),
        readPath true (render segments), true⟩ := by
  have hne : digits ≠ [] := List.ne_nil_of_length_pos (by omega)
  have hdrop : (rest ++ '/' :: (digits ++ render segments)).dropWhile (isSlash true) =
      digits ++ render segments := by
    obtain ⟨first, others, hfirst⟩ := List.exists_cons_of_ne_nil hne
    have hstop : isSlash true first = false :=
      isSlash_digits hdigits (hfirst ▸ List.mem_cons_self)
    rw [List.dropWhile_append, List.dropWhile_eq_nil_iff.2 hrest]
    simp only [List.isEmpty_nil, if_true]
    rw [List.dropWhile_cons_of_pos (by decide), hfirst, List.cons_append,
      List.dropWhile_cons_of_neg (by simp [hstop])]
  rw [ofTrimmed?_cons hscheme .slash, hkind, clean_digits_append hdigits hplain]
  simp only [hdrop]
  rw [ofAuthority?_digits hdigits hne hplain]
  rfl

/-- Digits behind two slashes are the host of any other scheme. -/
theorem ofTrimmed?_other (hkind : schemeKind scheme = .other) (hrest : rest = ['/']) :
    ofTrimmed? (text ++ '/' :: (digits ++ render segments)) =
      some ⟨String.ofList scheme, some (String.ofList digits),
        if !(beforeQuery (render segments)).isEmpty then readPath false (render segments) else [],
        true⟩ := by
  have hne : digits ≠ [] := List.ne_nil_of_length_pos (by omega)
  rw [ofTrimmed?_cons hscheme .slash, hkind, clean_digits_append hdigits hplain, hrest]
  exact ofAuthority?_digits hdigits hne hplain scheme false

/-- **A file on a host of digits** is on another host. -/
theorem filePath?_awaited {url : Url} {c : Char} (hkind : schemeKind scheme = .file)
    (hrest : rest = [c]) (hslash : isSlash true c = true)
    (hurl : ofTrimmed? (text ++ '/' :: (digits ++ render segments)) = some url) :
    url.scheme = "file" ∧ url.filePath? = none := by
  have hvisible : clean (behindScheme text rest ++ '/' :: (digits ++ render segments)) =
      c :: '/' :: (digits ++ render segments) := by
    rw [clean_append, clean_behindScheme hscheme, hrest, clean_cons_of_not (by decide),
      clean_digits_append hdigits hplain]
    rfl
  have hletter : isDriveLetter digits = false := by
    unfold isDriveLetter
    split
    · cases hlength
    · rfl
  have hempty : digits.isEmpty = false := by
    rw [List.isEmpty_eq_false_iff]
    exact List.ne_nil_of_length_pos (by omega)
  obtain ⟨front, hdropped, hfront⟩ := exists_dropVisible_digits hscheme hdigits hrest segments
  rw [ofTrimmed?_cons hscheme .slash, hkind] at hurl
  simp only [ofFile?, hvisible, hslash, takeWhile_digits hdigits hplain, hletter, hdropped,
    hempty] at hurl
  obtain ⟨host, hhost, hurl⟩ := Option.bind_eq_some_iff.1 hurl
  have hlocal := ne_localHost hdigits hlength hhost
  have hname : String.ofList host ≠ "localhost" := fun heq =>
    hlocal (by rw [← String.toList_ofList (l := host), heq]; rfl)
  rw [if_neg (by simpa using hlocal)] at hurl
  obtain rfl := Option.some.inj hurl
  refine ⟨rfl, ?_⟩
  rw [filePath?, ofFilePath]
  simp [hasDrive_render hfront hplain, hname]

end

theorem ofList_file_iff {scheme : List Char} :
    schemeKind scheme = .file ↔ String.ofList scheme = "file" := by
  unfold schemeKind
  simp only
  split
  · rename_i h
    simp [h]
  · rename_i h
    split
    · simp [h]
    · simp [h]

/-- **Behind a text that awaits its host** two runs of digits are on two hosts, or on another host
than this one. -/
theorem AwaitsHost.hosts {digits' : List Char} {segments' : List (List Char)} {url url' : Url}
    (hawaits : AwaitsHost text) (hdigits : ∀ c ∈ digits, Hex.isDigit c = true)
    (hdigits' : ∀ c ∈ digits', Hex.isDigit c = true) (hlength : digits.length = 32)
    (hlength' : digits'.length = 32) (hplain : ∀ segment ∈ segments, IsPlain segment)
    (hplain' : ∀ segment ∈ segments', IsPlain segment)
    (hurl : ofTrimmed? (text ++ render (digits :: segments)) = some url)
    (hurl' : ofTrimmed? (text ++ render (digits' :: segments')) = some url') :
    url.scheme = url'.scheme ∧ (url.scheme = "file" → url.filePath? = none) ∧
      (url.scheme ≠ "file" → ∃ host host', url.host = some host ∧ url'.host = some host' ∧
        (host = host' → digits = digits')) := by
  obtain ⟨scheme, rest, hscheme, hkind⟩ := hawaits
  have hofList : ∀ {a b : List Char}, String.ofList a = String.ofList b → a = b := by
    intro a b h
    rw [← String.toList_ofList (l := a), h, String.toList_ofList]
  split at hkind
  · rename_i hfile
    obtain ⟨c, hrest, hslash⟩ := hkind
    obtain ⟨heq, hnone⟩ :=
      filePath?_awaited hscheme hdigits hlength hplain hfile hrest hslash hurl
    obtain ⟨heq', -⟩ :=
      filePath?_awaited hscheme hdigits' hlength' hplain' hfile hrest hslash hurl'
    exact ⟨heq.trans heq'.symm, fun _ => hnone, fun hne => absurd heq hne⟩
  · rename_i hspecial
    have hread := ofTrimmed?_special hscheme hdigits hlength hplain hspecial hkind
    have hread' := ofTrimmed?_special hscheme hdigits' hlength' hplain' hspecial hkind
    obtain ⟨host, hhost, rfl⟩ := Option.map_eq_some_iff.1 (hread.symm.trans hurl)
    obtain ⟨host', hhost', rfl⟩ := Option.map_eq_some_iff.1 (hread'.symm.trans hurl')
    refine ⟨rfl, fun heq => ?_, fun _ => ⟨_, _, rfl, rfl, fun heq => ?_⟩⟩
    · rw [ofList_file_iff.2 heq] at hspecial
      cases hspecial
    · rw [← hofList heq] at hhost'
      exact Host.ofSpecial?_inj hdigits hdigits' hlength hlength' hhost hhost'
  · rename_i hother
    have hread := ofTrimmed?_other hscheme hdigits hlength hplain hother hkind
    have hread' := ofTrimmed?_other hscheme hdigits' hlength' hplain' hother hkind
    obtain rfl := Option.some.inj (hread.symm.trans hurl)
    obtain rfl := Option.some.inj (hread'.symm.trans hurl')
    refine ⟨rfl, fun heq => ?_, fun _ => ⟨_, _, rfl, rfl, hofList⟩⟩
    rw [ofList_file_iff.2 heq] at hother
    cases hother

end Workflow.Url
