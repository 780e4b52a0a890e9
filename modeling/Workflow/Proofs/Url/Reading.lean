import Mathlib.Data.List.TakeDrop
import Mathlib.Data.List.TakeWhile
import Workflow.Proofs.Url.Path
import Workflow.Url.Basic

/-!
# URLs that go on

A URL is read from left to right. Up to a slash or a query the reading depends on what stands before
it alone, unless the host is still to come.

* `Stem`: how far a URL is read, when the rest of it belongs to its path.
* `ofTrimmed?_append`: a text leads to one stem whatever follows it.
* `AwaitsHost`: texts whose next segment is a host.
-/

namespace Workflow.Url

open UrlPath

variable {text later : List Char} {c e : Char}

/-- A text with no query and no fragment. -/
def QueryFree (text : List Char) : Prop := ∀ c ∈ text, (c != '?' && c != '#') = true

instance (text : List Char) : Decidable (QueryFree text) := List.decidableBAll _ text

/-- What may stand behind a place in a path: a slash, a query or a fragment. -/
inductive IsEnd : Char → Prop where
  | slash : IsEnd '/'
  | query : IsEnd '?'
  | fragment : IsEnd '#'

theorem beforeQuery_append (h : QueryFree text) (later : List Char) :
    beforeQuery (text ++ later) = text ++ beforeQuery later :=
  List.takeWhile_append_of_pos h

theorem queryFree_append : QueryFree (text ++ later) ↔ QueryFree text ∧ QueryFree later :=
  List.forall_mem_append

theorem queryFree_iff : QueryFree text ↔ ¬ ('?' ∈ text ∨ '#' ∈ text) := by
  rw [not_or]
  constructor
  · exact fun h => ⟨fun hmem => absurd (h _ hmem) (by decide), fun hmem => absurd (h _ hmem) (by decide)⟩
  · intro h c hc
    have hquery : c ≠ '?' := fun heq => h.1 (heq ▸ hc)
    have hfragment : c ≠ '#' := fun heq => h.2 (heq ▸ hc)
    simp [hquery, hfragment]

theorem QueryFree.of_subset (h : QueryFree text) (hsub : ∀ c ∈ later, c ∈ text) :
    QueryFree later := fun c hc => h c (hsub c hc)

/-! ## Stems -/

/-- How far a URL is read, when the rest belongs to its path. Each has the front of the path. -/
inductive Stem where
  | flat (scheme : String) (front : List Char)
  | rooted (scheme : String) (host : Option String) (special : Bool) (front : List Char)
  | file (host : Option (List Char)) (behind : Bool) (front : List Char)

namespace Stem

def front : Stem → List Char
  | .flat _ front => front
  | .rooted _ _ _ front => front
  | .file _ _ front => front

/-- The URL whose path goes on with a text. -/
def url (stem : Stem) (text : List Char) : Url :=
  match stem with
  | .flat scheme front => ⟨scheme, none, beforeQuery (front ++ clean text), false⟩
  | .rooted scheme host special front =>
    let path := front ++ clean text
    ⟨scheme, host, if special || !(beforeQuery path).isEmpty then readPath special path else [],
      true⟩
  | .file host behind front =>
    let path := front ++ text
    ofFilePath host (if behind then behindSlash true path else path)

end Stem

/-- Behind a slash no second one follows. -/
def Follows (e : Char) (later : List Char) : Prop :=
  e = '/' → ∀ c rest, clean later = c :: rest → isSlash true c = false

/-- Whatever follows, reading goes on from one stem, if it goes on. -/
def GoesOn (e : Char) (read : List Char → Option Url) : Prop :=
  ∃ stem? : Option Stem, (∀ stem ∈ stem?, QueryFree stem.front) ∧
    ∀ later, Follows e later → read later = stem?.map (·.url (e :: later))

theorem GoesOn.of_stem {read : List Char → Option Url} (stem : Stem) (hfree : QueryFree stem.front)
    (h : ∀ later, Follows e later → read later = some (stem.url (e :: later))) : GoesOn e read :=
  ⟨some stem, by rintro _ ⟨⟩; exact hfree, h⟩

theorem GoesOn.of_eq {read read' : List Char → Option Url} (h : GoesOn e read)
    (heq : ∀ later, Follows e later → read' later = read later) : GoesOn e read' := by
  obtain ⟨stem?, hfree, hread⟩ := h
  exact ⟨stem?, hfree, fun later hlater => (heq later hlater).trans (hread later hlater)⟩

/-! ## Schemes -/

/-- The URL of a scheme without domains, behind the colon. -/
def ofOther? (scheme rest : List Char) : Option Url :=
  match rest with
  | '/' :: '/' :: rest => ofAuthority? scheme false rest
  | '/' :: _ => some ⟨String.ofList scheme, none, readPath false rest, true⟩
  | _ => some ⟨String.ofList scheme, none, beforeQuery rest, false⟩

/-- The URL of a text without blanks at its ends. -/
def ofTrimmed? (text : List Char) : Option Url :=
  (splitScheme? (clean text)).bind fun (scheme, rest) =>
    match schemeKind scheme with
    | .file => ofFile? (dropVisible ((clean text).length - rest.length) text)
    | .special => ofAuthority? scheme true (rest.dropWhile (isSlash true))
    | .other => ofOther? scheme rest

theorem parse?_eq (text : String) : parse? text = ofTrimmed? (trim text.toList) := rfl

/-- The scheme is in front of a colon. -/
theorem exists_of_splitScheme? {scheme rest : List Char}
    (h : splitScheme? text = some (scheme, rest)) : ∃ front, text = front ++ ':' :: rest := by
  unfold splitScheme? at h
  split at h
  · cases h
  · rename_i c later
    split at h
    · split at h
      · rename_i hdrop
        cases h
        refine ⟨(c :: later).takeWhile isSchemeChar, ?_⟩
        rw [← hdrop]
        exact (List.takeWhile_append_dropWhile ..).symm
      · cases h
    · cases h

/-- A scheme does not reach across the end of a path. -/
theorem splitScheme?_append (he : IsEnd e) (text later : List Char) :
    splitScheme? (text ++ e :: later) =
      (splitScheme? text).map fun (scheme, rest) => (scheme, rest ++ e :: later) := by
  have halpha : e.isAlpha = false := by cases he <;> decide
  have hscheme : isSchemeChar e = false := by cases he <;> decide
  have hcolon : e ≠ ':' := by cases he <;> decide
  cases text with
  | nil =>
    unfold splitScheme?
    simp [halpha]
  | cons c text =>
    unfold splitScheme?
    simp only [List.cons_append]
    split
    · rw [← List.cons_append, dropWhile_append_stop hscheme, takeWhile_append_stop hscheme]
      cases (c :: text).dropWhile isSchemeChar with
      | nil =>
        rw [List.nil_append]
        split
        · rename_i hrest
          exact absurd (List.cons.inj hrest).1 hcolon
        · rfl
      | cons d rest =>
        rw [List.cons_append]
        by_cases hd : d = ':'
        · subst hd
          rfl
        · split
          · rename_i hrest
            exact absurd (List.cons.inj hrest).1 hd
          · split
            · rename_i hrest
              exact absurd (List.cons.inj hrest).1 hd
            · rfl
    · rfl

/-! ## Authorities -/

theorem mem_of_splitHost {inside : Bool} (h : c ∈ (splitHost inside text).2) : c ∈ text := by
  induction text generalizing inside with
  | nil => exact h
  | cons d text ih =>
    unfold splitHost at h
    split at h
    · exact h
    · exact List.mem_cons_of_mem _ (ih h)

theorem mem_of_readPort? {after : List Char} (h : readPort? text = some after) (hc : c ∈ after) :
    c ∈ text := by
  unfold readPort? at h
  split at h
  · rename_i rest
    simp only at h
    split at h
    · cases h
    split at h
    · cases h
      exact absurd hc List.not_mem_nil
    · rename_i hafter
      split at h
      · cases h
        exact List.mem_cons_of_mem _ (List.mem_of_mem_drop hc)
      · cases h
  · cases h
    exact hc

theorem mem_of_splitUser? {user place : List Char} (h : splitUser? text = some (user, place))
    (hc : c ∈ place) : c ∈ text := by
  unfold splitUser? at h
  split at h
  · rename_i after before hspan
    cases h
    rw [List.span_eq_takeWhile_dropWhile] at hspan
    rw [List.mem_reverse, ← (Prod.mk.inj hspan).1] at hc
    exact List.mem_reverse.1 ((List.takeWhile_sublist _).subset hc)
  · cases h

/-- Reads the part of an authority behind its user. -/
def readPlace? (special : Bool) (user place : List Char) :
    Option (Option (List Char) × List Char) :=
  if (splitHost false place).1.isEmpty then
    if special || !(splitHost false place).2.isEmpty || !(user.isEmpty || user == [':']) then none
    else some (none, [])
  else
    (if special then Host.ofSpecial? (splitHost false place).1
      else Host.ofOther? (splitHost false place).1).bind fun host =>
        (readPort? (splitHost false place).2).map fun after => (some host, after)

theorem readAuthority?_eq (special ended : Bool) (text : List Char) :
    readAuthority? special ended text =
      match splitUser? text with
      | none => readPlace? special [] text
      | some (user, place) =>
        if user.isEmpty && place.isEmpty && !ended then none else readPlace? special user place := by
  have hport : ∀ (text host : List Char), ((readPort? text).bind fun after =>
      some (some host, after)) = (readPort? text).map fun after => (some host, after) := by
    intro text host
    cases readPort? text <;> rfl
  unfold readAuthority? readPlace?
  simp only [← hport]
  cases splitUser? text with
  | none => cases special <;> rfl
  | some found =>
    simp only
    split
    · rfl
    · cases special <;> rfl

/-- What stands behind a port is in the authority. -/
theorem mem_of_readAuthority? {special ended : Bool} {host : Option (List Char)} {after : List Char}
    (h : readAuthority? special ended text = some (host, after)) (hc : c ∈ after) : c ∈ text := by
  have hplace : ∀ {user place : List Char}, readPlace? special user place = some (host, after) →
      c ∈ place := by
    intro user place h
    unfold readPlace? at h
    split at h
    · split at h
      · cases h
      · cases h
        exact absurd hc List.not_mem_nil
    · obtain ⟨_, -, h⟩ := Option.bind_eq_some_iff.1 h
      obtain ⟨_, hport, h⟩ := Option.map_eq_some_iff.1 h
      cases h
      exact mem_of_splitHost (mem_of_readPort? hport hc)
  rw [readAuthority?_eq] at h
  split at h
  · exact hplace h
  · rename_i huser
    split at h
    · cases h
    · exact mem_of_splitUser? huser (hplace h)

/-- The authority at the start of a text. -/
def authorityOf (special : Bool) (text : List Char) : List Char :=
  text.takeWhile fun c => !(isSlash special c || c == '?' || c == '#')

/-- How far a URL is read behind the slashes that announce an authority, when a path follows. -/
def authorityStem? (scheme : List Char) (special : Bool) (text : List Char) : Option Stem :=
  (readAuthority? special false (authorityOf special text)).map fun found =>
    .rooted (String.ofList scheme) (found.1.map String.ofList) special
      (found.2 ++ text.drop (authorityOf special text).length)

theorem queryFree_authorityStem? {scheme : List Char} {special : Bool} (hfree : QueryFree text) :
    ∀ stem ∈ authorityStem? scheme special text, QueryFree stem.front := by
  intro stem hstem
  obtain ⟨⟨host, after⟩, hread, rfl⟩ := Option.map_eq_some_iff.1 hstem
  refine hfree.of_subset fun c hc => ?_
  rcases List.mem_append.1 hc with hc | hc
  · exact (List.takeWhile_sublist _).subset (mem_of_readAuthority? hread hc)
  · exact List.mem_of_mem_drop hc

theorem ofAuthority?_cons (he : IsEnd e) (scheme : List Char) (special : Bool)
    (later : List Char) : ofAuthority? scheme special (text ++ e :: clean later) =
      (authorityStem? scheme special text).map (·.url (e :: later)) := by
  have hdropped : isDropped e = false := by cases he <;> decide
  have hstop : (!(isSlash special e || e == '?' || e == '#')) = false := by
    cases he <;> cases special <;> decide
  have hlength : (authorityOf special text).length ≤ text.length :=
    (List.takeWhile_prefix _).length_le
  have htake : (text ++ e :: clean later).takeWhile (fun c =>
      !(isSlash special c || c == '?' || c == '#')) = authorityOf special text :=
    takeWhile_append_stop hstop
  have hrest : (text ++ e :: clean later).drop (authorityOf special text).length =
      text.drop (authorityOf special text).length ++ e :: clean later :=
    List.drop_append_of_le_length hlength
  have hended : (text.drop (authorityOf special text).length ++ e :: clean later).isEmpty =
      false := by simp
  unfold ofAuthority? authorityStem?
  simp only
  rw [htake, hrest, hended]
  cases readAuthority? special false (authorityOf special text) with
  | none => rfl
  | some found =>
    obtain ⟨host, after⟩ := found
    simp only [Option.map_some, Stem.url, clean_cons_of_not hdropped, List.append_assoc]
    rfl

/-- **An authority** ends before the end of a path. -/
theorem ofAuthority?_append (he : IsEnd e) (scheme : List Char) (special : Bool)
    (hfree : QueryFree text) :
    GoesOn e fun later => ofAuthority? scheme special (text ++ e :: clean later) :=
  ⟨authorityStem? scheme special text, queryFree_authorityStem? hfree,
    fun later _ => ofAuthority?_cons he scheme special later⟩

/-! ## Files -/

/-- Without two slashes in front there is no host. -/
theorem ofFile?_append_of_not_slashes (hfree : QueryFree text)
    (h : ∀ later, Follows e later → ∀ a b rest, clean (text ++ e :: later) = a :: b :: rest →
      (isSlash true a && isSlash true b) = false) :
    GoesOn e fun later => ofFile? (text ++ e :: later) := by
  refine .of_stem (.file none true text) hfree fun later hlater => ?_
  unfold ofFile?
  split
  · rename_i a b rest hvisible
    rw [h later hlater a b rest hvisible]
    rfl
  · rfl

/-- The host of a file ends before the end of a path. -/
theorem takeWhile_host (he : IsEnd e) (hfree : QueryFree text) (later : List Char) :
    (beforeQuery (text ++ e :: later)).takeWhile (!isSlash true ·) =
      text.takeWhile (!isSlash true ·) := by
  rw [beforeQuery_append hfree]
  cases he with
  | slash => exact takeWhile_append_stop (by decide)
  | query => rw [beforeQuery, List.takeWhile_cons_of_neg (by decide), List.append_nil]
  | fragment => rw [beforeQuery, List.takeWhile_cons_of_neg (by decide), List.append_nil]

/-- Behind two slashes a host is read, if it is no drive, and the path after it. -/
theorem ofFile?_append_of_slashes (he : IsEnd e) (hfree : QueryFree text) {a b : Char}
    {rest : List Char} (hvisible : clean text = a :: b :: rest)
    (hslashes : (isSlash true a && isSlash true b) = true) :
    GoesOn e fun later => ofFile? (text ++ e :: later) := by
  have hdropped : isDropped e = false := by cases he <;> decide
  have hrestFree : QueryFree rest := hfree.of_subset fun c hc =>
    mem_of_mem_clean (hvisible ▸ List.mem_cons_of_mem _ (List.mem_cons_of_mem _ hc))
  have hdropFree : ∀ n, QueryFree (dropVisible n text) := fun n =>
    hfree.of_subset fun c => mem_of_mem_dropVisible
  let hostText := rest.takeWhile (!isSlash true ·)
  have hlength : 2 + hostText.length ≤ (clean text).length := by
    have hle : hostText.length ≤ rest.length := (List.takeWhile_prefix _).length_le
    rw [hvisible, List.length_cons, List.length_cons]
    omega
  refine ⟨if isDriveLetter hostText then some (.file none false (dropVisible 2 text))
    else (if hostText.isEmpty then some localHost else Host.ofSpecial? hostText).map fun host =>
      if host == localHost then .file none false (dropVisible (2 + hostText.length) text)
      else .file (some host) true (dropVisible (2 + hostText.length) text), ?_, fun later _ => ?_⟩
  · intro stem hstem
    split at hstem
    · cases hstem
      exact hdropFree 2
    · obtain ⟨host, -, rfl⟩ := Option.map_eq_some_iff.1 hstem
      split
      · exact hdropFree _
      · exact hdropFree _
  · unfold ofFile?
    simp only [clean_append, clean_cons_of_not hdropped, hvisible, List.cons_append]
    rw [if_pos hslashes, takeWhile_host he hrestFree, dropVisible_append (by omega),
      dropVisible_append hlength]
    have hurl : ∀ host : List Char, (if host == localHost
        then ofFilePath none (dropVisible (2 + hostText.length) text ++ e :: later)
        else ofFilePath (some host)
          (behindSlash true (dropVisible (2 + hostText.length) text ++ e :: later))) =
        (if host == localHost then Stem.file none false (dropVisible (2 + hostText.length) text)
        else .file (some host) true (dropVisible (2 + hostText.length) text)).url (e :: later) := by
      intro host
      split
      · rfl
      · rfl
    simp only [hurl]
    split
    · rfl
    split
    · rfl
    · cases Host.ofSpecial? hostText <;> rfl

theorem ofFile?_append (he : IsEnd e) (hfree : QueryFree text)
    (hhost : e = '/' → ∀ c, clean text = [c] → isSlash true c = false) :
    GoesOn e fun later => ofFile? (text ++ e :: later) := by
  have hdropped : isDropped e = false := by cases he <;> decide
  have hclean : ∀ later, clean (text ++ e :: later) = clean text ++ e :: clean later := by
    intro later
    rw [clean_append, clean_cons_of_not hdropped]
  -- what stands in front of the path has none, one or both of the slashes
  cases hvisible : clean text with
  | nil =>
    refine ofFile?_append_of_not_slashes hfree fun later hlater a b rest hrest => ?_
    rw [hclean, hvisible, List.nil_append] at hrest
    obtain ⟨rfl, hb⟩ := List.cons.inj hrest
    cases he with
    | slash => rw [hlater rfl b rest hb, Bool.and_false]
    | query => rfl
    | fragment => rfl
  | cons a visible =>
    cases visible with
    | nil =>
      refine ofFile?_append_of_not_slashes hfree fun later hlater a' b rest hrest => ?_
      rw [hclean, hvisible, List.singleton_append] at hrest
      obtain ⟨rfl, hbehind⟩ := List.cons.inj hrest
      obtain ⟨rfl, -⟩ := List.cons.inj hbehind
      cases he with
      | slash => rw [hhost rfl a hvisible, Bool.false_and]
      | query => exact Bool.and_false _
      | fragment => exact Bool.and_false _
    | cons b rest =>
      by_cases hslashes : (isSlash true a && isSlash true b) = true
      · exact ofFile?_append_of_slashes he hfree hvisible hslashes
      · refine ofFile?_append_of_not_slashes hfree fun later _ a' b' rest' hrest => ?_
        rw [hclean, hvisible] at hrest
        obtain ⟨rfl, hbehind⟩ := List.cons.inj hrest
        obtain ⟨rfl, -⟩ := List.cons.inj hbehind
        simpa using hslashes

/-- The path of a URL is that of its file, but for the slash behind a drive. -/
theorem filePath?_eq_some {url : Url} {bytes : Bytes} (h : url.filePath? = some bytes) :
    bytes = Percent.decode url.path ∨ bytes = Percent.decode url.path ++ [0x2F] := by
  unfold Url.filePath? at h
  split at h
  · simp only at h
    split at h
    · split at h
      · exact .inr (Option.some.inj h).symm
      · exact .inl (Option.some.inj h).symm
    · exact .inl (Option.some.inj h).symm
  · cases h

/-! ## All schemes -/

/-- Texts whose next segment is a host: the slashes in front of it are still to come. -/
def AwaitsHost (text : List Char) : Prop :=
  ∃ scheme rest, splitScheme? (clean text) = some (scheme, rest) ∧
    match schemeKind scheme with
    | .file => ∃ c, rest = [c] ∧ isSlash true c = true
    | .special => ∀ c ∈ rest, isSlash true c = true
    | .other => rest = ['/']

theorem QueryFree.clean (h : QueryFree text) : QueryFree (clean text) :=
  h.of_subset fun _ => mem_of_mem_clean

theorem QueryFree.of_splitScheme? {scheme rest : List Char} (h : QueryFree text)
    (hscheme : splitScheme? (UrlPath.clean text) = some (scheme, rest)) : QueryFree rest := by
  obtain ⟨front, hfront⟩ := exists_of_splitScheme? hscheme
  refine h.clean.of_subset fun c hc => ?_
  rw [hfront]
  exact List.mem_append_right _ (List.mem_cons_of_mem _ hc)

theorem ofSpecial?_append (he : IsEnd e) (scheme : List Char) (hfree : QueryFree text)
    (hhost : e = '/' → ¬ ∀ c ∈ text, isSlash true c = true) :
    GoesOn e fun later =>
      ofAuthority? scheme true ((text ++ e :: clean later).dropWhile (isSlash true)) := by
  have hdrop : ∀ later, (text ++ e :: later).dropWhile (isSlash true) =
      text.dropWhile (isSlash true) ++ e :: later := by
    intro later
    cases he with
    | slash =>
      have hne : text.dropWhile (isSlash true) ≠ [] := fun hnil =>
        hhost rfl (List.dropWhile_eq_nil_iff.1 hnil)
      rw [List.dropWhile_append, if_neg (by simpa using hne)]
    | query => exact dropWhile_append_stop (by decide) _ _
    | fragment => exact dropWhile_append_stop (by decide) _ _
  have hfree' : QueryFree (text.dropWhile (isSlash true)) :=
    hfree.of_subset fun c hc => (List.dropWhile_sublist _).subset hc
  exact (ofAuthority?_append he scheme true hfree').of_eq fun later _ => by rw [hdrop]

theorem ofOther?_rooted {rest : List Char} (h : ∀ later, rest ≠ '/' :: later)
    (scheme : List Char) : ofOther? scheme ('/' :: rest) =
      some ⟨String.ofList scheme, none, readPath false ('/' :: rest), true⟩ := by
  unfold ofOther?
  split
  · rename_i heq
    exact absurd (List.cons.inj heq).2 (h _)
  · rfl
  · rename_i hnot
    exact absurd rfl (hnot rest)

theorem ofOther?_flat {rest : List Char} (h : ∀ later, rest ≠ '/' :: later)
    (scheme : List Char) :
    ofOther? scheme rest = some ⟨String.ofList scheme, none, beforeQuery rest, false⟩ := by
  unfold ofOther?
  split
  · exact absurd rfl (h _)
  · exact absurd rfl (h _)
  · rfl

theorem ofOther?_append (he : IsEnd e) (scheme : List Char) (hfree : QueryFree text)
    (hhost : e = '/' → text ≠ ['/']) :
    GoesOn e fun later => ofOther? scheme (text ++ e :: clean later) := by
  have hdropped : isDropped e = false := by cases he <;> decide
  have hflat : (∀ later, Follows e later → ∀ rest, text ++ e :: clean later ≠ '/' :: rest) →
      GoesOn e fun later => ofOther? scheme (text ++ e :: clean later) := by
    refine fun h => .of_stem (.flat (String.ofList scheme) text) hfree fun later hlater => ?_
    rw [ofOther?_flat (h later hlater), Stem.url, clean_cons_of_not hdropped]
  have hrooted : (∀ later, Follows e later → ∃ rest, text ++ e :: clean later = '/' :: rest ∧
      ∀ later, rest ≠ '/' :: later) →
      GoesOn e fun later => ofOther? scheme (text ++ e :: clean later) := by
    refine fun h => .of_stem (.rooted (String.ofList scheme) none false text) hfree
      fun later hlater => ?_
    obtain ⟨rest, hrest, hslash⟩ := h later hlater
    rw [Stem.url, clean_cons_of_not hdropped, hrest, ofOther?_rooted hslash, beforeQuery,
      List.takeWhile_cons_of_pos (by decide)]
    rfl
  have hslash : ∀ later, Follows '/' later → ∀ rest, clean later ≠ '/' :: rest := by
    intro later hlater rest hrest
    exact absurd (hlater rfl '/' rest hrest) (by decide)
  match text with
  | [] =>
    cases he with
    | slash => exact hrooted fun later hlater => ⟨clean later, rfl, hslash later hlater⟩
    | query => exact hflat fun later _ rest => nofun
    | fragment => exact hflat fun later _ rest => nofun
  | [c] =>
    by_cases hc : c = '/'
    · subst hc
      have hne : e ≠ '/' := fun heq => hhost heq rfl
      exact hrooted fun later _ => ⟨e :: clean later, rfl, fun _ heq => hne (List.cons.inj heq).1⟩
    · exact hflat fun later _ rest heq => hc (List.cons.inj heq).1
  | c :: d :: rest =>
    by_cases hc : c = '/'
    · subst hc
      by_cases hd : d = '/'
      · subst hd
        have hfree' : QueryFree rest := hfree.of_subset fun c hc =>
          List.mem_cons_of_mem _ (List.mem_cons_of_mem _ hc)
        exact (ofAuthority?_append he scheme false hfree').of_eq fun _ _ => rfl
      · exact hrooted fun later _ => ⟨_, rfl, fun _ heq => hd (List.cons.inj heq).1⟩
    · exact hflat fun later _ rest heq => hc (List.cons.inj heq).1

/-- What is behind the colon of a scheme, with the characters in it that a URL drops. -/
def behindScheme (text rest : List Char) : List Char :=
  dropVisible ((clean text).length - rest.length) text

section

variable {scheme rest : List Char} (hscheme : splitScheme? (clean text) = some (scheme, rest))

include hscheme

theorem clean_behindScheme : clean (behindScheme text rest) = rest := by
  obtain ⟨front, hfront⟩ := exists_of_splitScheme? hscheme
  have hcolon : clean text = (front ++ [':']) ++ rest := by rw [hfront, List.append_assoc]; rfl
  rw [behindScheme, clean_dropVisible, hcolon, List.length_append, Nat.add_sub_cancel,
    List.drop_left]

/-- The scheme of a text is that of all texts that go on behind it. -/
theorem ofTrimmed?_cons (he : IsEnd e) (later : List Char) : ofTrimmed? (text ++ e :: later) =
    match schemeKind scheme with
    | .file => ofFile? (behindScheme text rest ++ e :: later)
    | .special => ofAuthority? scheme true ((rest ++ e :: clean later).dropWhile (isSlash true))
    | .other => ofOther? scheme (rest ++ e :: clean later) := by
  have hdropped : isDropped e = false := by cases he <;> decide
  have hvisible : clean (text ++ e :: later) = clean text ++ e :: clean later := by
    rw [clean_append, clean_cons_of_not hdropped]
  have hcount : (clean text ++ e :: clean later).length - (rest ++ e :: clean later).length =
      (clean text).length - rest.length := by
    simp only [List.length_append]
    omega
  unfold ofTrimmed?
  rw [hvisible, splitScheme?_append he, hscheme]
  simp only [Option.map_some, Option.bind_some, hcount, dropVisible_append (Nat.sub_le _ _)]
  rfl

end

/-- **A text leads to one stem** whatever follows it, unless a host is to come. -/
theorem ofTrimmed?_append (he : IsEnd e) (hfree : QueryFree text)
    (hhost : e = '/' → ¬ AwaitsHost text) :
    GoesOn e fun later => ofTrimmed? (text ++ e :: later) := by
  cases hscheme : splitScheme? (clean text) with
  | none =>
    have hdropped : isDropped e = false := by cases he <;> decide
    refine ⟨none, nofun, fun later _ => ?_⟩
    simp only [ofTrimmed?, clean_append, clean_cons_of_not hdropped, splitScheme?_append he, hscheme]
    rfl
  | some found =>
    obtain ⟨scheme, rest⟩ := found
    have hrestFree : QueryFree rest := hfree.of_splitScheme? hscheme
    simp only [ofTrimmed?_cons hscheme he]
    cases hkind : schemeKind scheme with
    | file =>
      have hbehindFree : QueryFree (behindScheme text rest) :=
        hfree.of_subset fun c => mem_of_mem_dropVisible
      refine ofFile?_append he hbehindFree fun heq c hc => ?_
      rw [clean_behindScheme hscheme] at hc
      by_contra hslash
      refine hhost heq ⟨scheme, rest, hscheme, ?_⟩
      rw [hkind]
      exact ⟨c, hc, by simpa using hslash⟩
    | special =>
      refine ofSpecial?_append he scheme hrestFree fun heq hall => hhost heq ⟨scheme, rest, hscheme, ?_⟩
      rw [hkind]
      exact hall
    | other =>
      refine ofOther?_append he scheme hrestFree fun heq hrest => hhost heq ⟨scheme, rest, hscheme, ?_⟩
      rw [hkind]
      exact hrest

end Workflow.Url
