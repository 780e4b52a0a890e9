import Workflow.Proofs.Url.Authority

/-!
# A prefix and what is below it

A text is read as a URL, with or without slashes at its end, and so is the text with plain segments
behind it. Unless a host is to come, the second URL is below the first.

* `Closes`: a path but for slashes at its end.
* `readPath_closes`: a path is read up to the same place, be slashes behind it or segments.
* `Reads`: a reader that goes on from one stem. `Continues`: one URL is below another.
* `Reads.continues`: what is read from one stem is below one URL.
* `ofTrimmed?_continues`: texts that go on behind a prefix.
-/

namespace Workflow

namespace UrlPath

variable {trail : Trail} {raws : List (List Char)}

/-! ## Empty segments -/

theorem splitOn_append_slashes (text : List Char) (n : Nat) :
    (text ++ List.replicate n '/').splitOn '/' = text.splitOn '/' ++ List.replicate n [] := by
  induction n with
  | zero => rw [List.replicate_zero, List.append_nil, List.replicate_zero, List.append_nil]
  | succ n ih =>
    rw [List.replicate_succ', ← List.append_assoc, List.splitOn_append_cons_self, ih,
      List.replicate_succ', List.append_assoc]
    rfl

theorem render_replicate (n : Nat) : render (List.replicate n []) = List.replicate n '/' := by
  induction n with
  | zero => rfl
  | succ n ih =>
    rw [List.replicate_succ, List.replicate_succ, ← ih]
    rfl

theorem Trail.pushAll_push (trail : Trail) (segment : List Char) (segments : List (List Char)) :
    (trail.push segment).pushAll segments = trail.pushAll (segment :: segments) := by
  simp [Trail.push, Trail.pushAll]

/-- Empty segments are taken in as they are. -/
theorem walk_replicate (trail : Trail) (n : Nat) :
    walk false trail (List.replicate (n + 1) []) = trail.pushAll (List.replicate (n + 1) []) := by
  induction n generalizing trail with
  | zero => rfl
  | succ n ih =>
    have hread : read false false trail [] = trail.push [] := rfl
    have hne : List.replicate (n + 1) ([] : List Char) ≠ [] := List.cons_ne_nil _ _
    rw [List.replicate_succ, walk, hread, ih, Trail.pushAll_push]
    exact hne

/-- A dot that stands last leaves an empty segment behind. -/
theorem read_last (trail : Trail) (raw : List Char) :
    read false true trail raw = read false false trail raw ∨
      read false true trail raw = (read false false trail raw).push [] := by
  unfold read
  simp only [Bool.false_and, Bool.false_eq_true, if_false]
  split
  · exact .inr rfl
  split
  · exact .inr rfl
  · exact .inl rfl

theorem walk_eq_or (hne : raws ≠ []) (trail : Trail) :
    walk false trail raws = raws.foldl (read false false) trail ∨
      walk false trail raws = (raws.foldl (read false false) trail).push [] := by
  obtain ⟨init, last, rfl⟩ := (List.eq_nil_or_concat raws).resolve_left hne
  rw [List.concat_eq_append, walk_append false trail init (List.cons_ne_nil _ _), List.foldl_append]
  exact read_last _ last

/-- Empty segments at the end of a path are slashes. -/
theorem render_pushAll_replicate (trail : Trail) (n : Nat) :
    render (segments false (trail.pushAll (List.replicate n []))) =
      render (trail.front false) ++ List.replicate n '/' := by
  have hsegments : segments false (trail.pushAll (List.replicate n [])) =
      trail.front false ++ List.replicate n [] := by
    simp [segments, Trail.front, Trail.pushAll]
  rw [hsegments, render_append, render_replicate]

end UrlPath

namespace Url

open UrlPath

variable {text : List Char} {segments : List (List Char)} {u u' : Url} {n : Nat}

/-! ## Paths -/

/-- A path but for slashes at its end. With two of them it is no path of an object. -/
def Closes (front path : List Char) : Prop :=
  path = front ∨ path = front ++ ['/'] ∨ ∃ more, path = more ++ ['/', '/']

theorem closes_slashes (front : List Char) (n : Nat) :
    Closes front (front ++ List.replicate n '/') := by
  match n with
  | 0 => exact .inl (List.append_nil front)
  | 1 => exact .inr (.inl rfl)
  | n + 2 =>
    refine .inr (.inr ⟨front ++ List.replicate n '/', ?_⟩)
    rw [List.append_assoc, ← List.replicate_append_replicate]
    rfl

theorem queryFree_append_slashes (hfree : QueryFree text) (n : Nat) :
    QueryFree (text ++ List.replicate n '/') := by
  refine queryFree_append.2 ⟨hfree, fun c hc => ?_⟩
  rw [List.eq_of_mem_replicate hc]
  decide

theorem readSegments_append_slashes (special : Bool) (hfree : QueryFree text) (n : Nat) :
    readSegments special false (text ++ List.replicate n '/') =
      walk false {} (splitSegments special text ++ List.replicate n []) := by
  have hquery : beforeQuery (text ++ List.replicate n '/') = text ++ List.replicate n '/' :=
    List.takeWhile_eq_self_iff.2 (queryFree_append_slashes hfree n)
  have hslash : (if isSlash special '/' then '/' else '/') = '/' := ite_self _
  rw [readSegments, hquery, splitSegments, List.map_append, List.map_replicate, hslash,
    splitOn_append_slashes]
  rfl

/-- The segments of a text leave the same front, be slashes behind them or not. -/
theorem closes_walk {raws : List (List Char)} (hne : raws ≠ []) (n : Nat) :
    Closes (render ((raws.foldl (read false false) {}).front false))
      (render (UrlPath.segments false (walk false {} (raws ++ List.replicate n [])))) := by
  cases n with
  | zero =>
    rw [List.replicate_zero, List.append_nil]
    rcases walk_eq_or hne {} with hwalk | hwalk
    · exact .inl (congrArg (fun trail => render (UrlPath.segments false trail)) hwalk)
    · exact .inr (.inl (hwalk ▸ render_pushAll_replicate _ 1))
  | succ n =>
    have hmore : List.replicate (n + 1) ([] : List Char) ≠ [] := List.cons_ne_nil _ _
    rw [walk_append false {} raws hmore, walk_replicate, render_pushAll_replicate]
    exact closes_slashes _ _

/-- Where nothing visible stands in front of slashes, the path is these slashes, and one at least. -/
theorem readPath_slashes (special : Bool) (htext : text.dropWhile isDropped = []) (n : Nat) :
    Closes [] (readPath special (text ++ List.replicate n '/')) := by
  have hpath : ∀ n, render (UrlPath.segments false (readSegments special false
      (List.replicate n '/'))) = List.replicate (n + 1) '/' := by
    intro n
    have hnone : QueryFree [] := nofun
    have hread := readSegments_append_slashes special hnone n
    rw [List.nil_append] at hread
    rw [hread]
    exact (congrArg (fun trail => render (UrlPath.segments false trail))
      (walk_replicate {} n)).trans (render_pushAll_replicate {} (n + 1))
  have hslash : isSlash special '/' = true := by cases special <;> rfl
  rw [readPath, behindSlash]
  cases n with
  | zero =>
    rw [List.replicate_zero, List.append_nil, htext]
    exact .inr (.inl (hpath 0))
  | succ n =>
    -- the first slash is the one that the path is read behind
    rw [List.replicate_succ, dropWhile_append_stop (by decide), htext, List.nil_append]
    simp only [hslash, if_true]
    rw [hpath]
    exact closes_slashes [] (n + 1)

/-- **A path is read up to the same place**, be slashes behind it or segments. -/
theorem readPath_closes (special : Bool) (hfree : QueryFree text) : ∃ front,
    (∀ segments, segments ≠ [] → (∀ segment ∈ segments, IsPlain segment) →
      readPath special (text ++ render segments) = front ++ render segments) ∧
    (∀ n, Closes front (readPath special (text ++ List.replicate n '/'))) ∧
    (text = [] → front = []) := by
  by_cases htext : text.dropWhile isDropped = []
  · refine ⟨[], fun segments hne h => ?_, readPath_slashes special htext, fun _ => rfl⟩
    rw [readPath, readSegments_behindSlash special false htext hne h, segments_pushAll false {} hne h]
    rfl
  · obtain ⟨behind, hfree', hbehind⟩ := behindSlash_append special hfree htext
    refine ⟨render (((splitSegments special behind).foldl (read false false) {}).front false),
      fun segments hne h => ?_, fun n => ?_, fun hnil => absurd (congrArg _ hnil) htext⟩
    · rw [readPath, hbehind, readSegments_append_render special false hfree' hne h,
        segments_pushAll false _ hne h, render_append]
    · rw [readPath, hbehind, readSegments_append_slashes special hfree']
      exact closes_walk (List.splitOn_ne_nil _ _) n

/-- Plain segments alone are the path. -/
theorem readPath_render (special : Bool) (hne : segments ≠ [])
    (h : ∀ segment ∈ segments, IsPlain segment) :
    readPath special (render segments) = render segments := by
  have hnone : QueryFree [] := nofun
  obtain ⟨front, hrender, -, hnil⟩ := readPath_closes special hnone
  obtain rfl := hnil rfl
  exact hrender segments hne h

/-! ## Readers -/

/-- A URL is below another: it has the same scheme and host, and segments behind the path of the
other, slashes at the end of that path passed over. -/
structure Continues (u u' : Url) (segments : List (List Char)) : Prop where
  scheme : u'.scheme = u.scheme
  host : u'.host = u.host
  path : ∃ front, u'.path = front ++ render segments ∧ Closes front u.path

/-- A reader that goes on from one stem: behind slashes, and where the text ends. -/
structure Reads (stem? : Option Stem) (read : List Char → Option Url) : Prop where
  free : ∀ stem ∈ stem?, QueryFree stem.front
  behind : ∀ later, read ('/' :: later) = stem?.map (·.url ('/' :: later))
  alone : ∀ url, read [] = some url → ∀ stem ∈ stem?, url = stem.url []

theorem Reads.of_stem {read : List Char → Option Url} (stem : Stem) (hfree : QueryFree stem.front)
    (h : ∀ later, read later = some (stem.url later)) : Reads (some stem) read where
  free := by rintro _ ⟨⟩; exact hfree
  behind later := h ('/' :: later)
  alone url hurl := by
    rintro _ ⟨⟩
    rw [h] at hurl
    exact (Option.some.inj hurl).symm

theorem clean_slashes (n : Nat) : clean (List.replicate n '/') = List.replicate n '/' := by
  refine clean_eq_self fun c hc => ?_
  rw [List.eq_of_mem_replicate hc]
  decide

/-- The path behind an authority is empty where its text is, if the scheme has no domains. -/
theorem path_rooted {scheme : String} {host : Option String} {special : Bool} {front later : List Char}
    (hfree : QueryFree (front ++ later)) (hclean : clean later = later) :
    ((Stem.rooted scheme host special front).url later).path =
      if special = false ∧ front ++ later = [] then [] else readPath special (front ++ later) := by
  have hquery : beforeQuery (front ++ later) = front ++ later :=
    List.takeWhile_eq_self_iff.2 hfree
  simp only [Stem.url, hclean, hquery]
  cases special <;> cases front ++ later <;> rfl

/-- **What is put behind a stem** is below the URL that ends there. -/
theorem Stem.url_continues (stem : Stem) (hfree : QueryFree stem.front)
    (hfile : (stem.url (List.replicate n '/')).scheme ≠ "file") (hne : segments ≠ [])
    (h : ∀ segment ∈ segments, IsPlain segment) :
    Continues (stem.url (List.replicate n '/')) (stem.url (render segments)) segments := by
  cases stem with
  | flat scheme front =>
    have hquery : beforeQuery (front ++ render segments) = front ++ render segments :=
      List.takeWhile_eq_self_iff.2 (queryFree_append.2 ⟨hfree, queryFree_render h⟩)
    have hslashes : beforeQuery (front ++ List.replicate n '/') = front ++ List.replicate n '/' :=
      List.takeWhile_eq_self_iff.2 (queryFree_append_slashes hfree n)
    refine ⟨rfl, rfl, front, ?_, ?_⟩
    · rw [Stem.url, clean_render h, hquery]
    · rw [Stem.url, clean_slashes, hslashes]
      exact closes_slashes front n
  | rooted scheme host special text =>
    have hfree : QueryFree text := hfree
    obtain ⟨front, hrender, hcloses, hnil⟩ := readPath_closes special hfree
    refine ⟨rfl, rfl, front, ?_, ?_⟩
    · obtain ⟨rest, hrest⟩ := exists_of_render hne
      rw [path_rooted (queryFree_append.2 ⟨hfree, queryFree_render h⟩) (clean_render h), if_neg,
        hrender segments hne h]
      simp [hrest]
    · rw [path_rooted (queryFree_append_slashes hfree n) (clean_slashes n)]
      split
      · rename_i hempty
        exact .inl (hnil (List.append_eq_nil_iff.1 hempty.2).1).symm
      · exact hcloses n
  | file host behind front => exact absurd rfl hfile

/-- **What is read from one stem** is below one URL. -/
theorem Reads.continues {stem? : Option Stem} {read : List Char → Option Url}
    (hread : Reads stem? read) (hu : read (List.replicate n '/') = some u) (hfile : u.scheme ≠ "file")
    (hu' : read (render segments) = some u') (hne : segments ≠ [])
    (h : ∀ segment ∈ segments, IsPlain segment) : Continues u u' segments := by
  obtain ⟨rest, hrest⟩ := exists_of_render hne
  rw [hrest, hread.behind, ← hrest] at hu'
  obtain ⟨stem, rfl, rfl⟩ := Option.map_eq_some_iff.1 hu'
  have hstem : u = stem.url (List.replicate n '/') := by
    cases n with
    | zero => exact hread.alone u hu stem rfl
    | succ n =>
      rw [List.replicate_succ, hread.behind] at hu
      exact (Option.some.inj hu).symm
  subst hstem
  exact stem.url_continues (hread.free stem rfl) hfile hne h

/-! ## Authorities -/

/-- Whether an authority ends its text decides at most whether it is refused. -/
theorem readAuthority?_inj {special ended ended' : Bool} {found found' : Option (List Char) × List Char}
    (h : readAuthority? special ended text = some found)
    (h' : readAuthority? special ended' text = some found') : found = found' := by
  rw [readAuthority?_eq] at h h'
  cases huser : splitUser? text with
  | none =>
    rw [huser] at h h'
    exact Option.some.inj (h.symm.trans h')
  | some user =>
    obtain ⟨user, place⟩ := user
    simp only [huser] at h h'
    split at h
    · cases h
    split at h'
    · cases h'
    exact Option.some.inj (h.symm.trans h')

/-- An authority at the end of a text is read as with a path behind it, if both are read. -/
theorem ofAuthority?_reads (scheme : List Char) (special : Bool) (hfree : QueryFree text) :
    Reads (authorityStem? scheme special text)
      fun later => ofAuthority? scheme special (text ++ clean later) where
  free := queryFree_authorityStem? hfree
  behind later := by
    rw [clean_cons_of_not (by decide)]
    exact ofAuthority?_cons .slash scheme special later
  alone url hurl stem hstem := by
    obtain ⟨found, hfound, rfl⟩ := Option.map_eq_some_iff.1 hstem
    rw [show clean [] = [] from rfl, List.append_nil, ofAuthority?] at hurl
    obtain ⟨found', hfound', hurl⟩ := Option.bind_eq_some_iff.1 hurl
    obtain rfl := readAuthority?_inj hfound hfound'
    rw [← Option.some.inj hurl, Stem.url, show clean [] = [] from rfl, List.append_nil]
    rfl

/-! ## Schemes -/

/-- Behind the colon of a scheme without domains, one stem is read if something stands there and no
host is to come. -/
theorem ofOther?_reads {rest : List Char} (hfree : QueryFree rest) (hne : rest ≠ [])
    (hhost : rest ≠ ['/']) (scheme : List Char) :
    ∃ stem?, Reads stem? fun later => ofOther? scheme (rest ++ clean later) := by
  obtain ⟨c, behind, rfl⟩ := List.exists_cons_of_ne_nil hne
  by_cases hc : c = '/'
  · subst hc
    have hbehind : behind ≠ [] := fun hnil => hhost (hnil ▸ rfl)
    obtain ⟨d, behind, rfl⟩ := List.exists_cons_of_ne_nil hbehind
    by_cases hd : d = '/'
    · subst hd
      have hfree' : QueryFree behind := hfree.of_subset fun c hc =>
        List.mem_cons_of_mem _ (List.mem_cons_of_mem _ hc)
      exact ⟨_, ofAuthority?_reads scheme false hfree'⟩
    · refine ⟨_, .of_stem (.rooted (String.ofList scheme) none false ('/' :: d :: behind)) hfree
        fun later => ?_⟩
      rw [List.cons_append, List.cons_append, ofOther?_rooted fun _ heq => hd (List.cons.inj heq).1]
      rfl
  · refine ⟨_, .of_stem (.flat (String.ofList scheme) (c :: behind)) hfree fun later => ?_⟩
    rw [List.cons_append, ofOther?_flat fun _ heq => hc (List.cons.inj heq).1]
    rfl

/-- Behind the slashes of a scheme with domains, one stem is read if a host stands there. -/
theorem ofSpecial?_reads {rest : List Char} (hfree : QueryFree rest)
    (hhost : ¬ ∀ c ∈ rest, isSlash true c = true) (scheme : List Char) : ∃ stem?, Reads stem?
      fun later => ofAuthority? scheme true ((rest ++ clean later).dropWhile (isSlash true)) := by
  have hne : rest.dropWhile (isSlash true) ≠ [] := fun hnil =>
    hhost (List.dropWhile_eq_nil_iff.1 hnil)
  have hdrop : ∀ later, (rest ++ later).dropWhile (isSlash true) =
      rest.dropWhile (isSlash true) ++ later := by
    intro later
    rw [List.dropWhile_append, if_neg (by simpa using hne)]
  have hfree' : QueryFree (rest.dropWhile (isSlash true)) :=
    hfree.of_subset fun c hc => (List.dropWhile_sublist _).subset hc
  simp only [hdrop]
  exact ⟨_, ofAuthority?_reads scheme true hfree'⟩

/-- Slashes behind the colon of a scheme without domains are a path. -/
theorem ofOther?_slashes (scheme : List Char) (n : Nat) : ∃ path hasSegments,
    ofOther? scheme (List.replicate n '/') = some ⟨String.ofList scheme, none, path, hasSegments⟩ ∧
      Closes [] path := by
  have hpath : ∀ n, Closes [] (readPath false ([] ++ List.replicate n '/')) :=
    readPath_slashes false rfl
  match n with
  | 0 => exact ⟨_, _, rfl, .inl rfl⟩
  | 1 => exact ⟨_, _, rfl, hpath 1⟩
  | 2 => exact ⟨_, _, rfl, .inl rfl⟩
  | n + 3 =>
    -- an authority without a host stands between the first two slashes and the others
    exact ⟨_, _, rfl, hpath (n + 1)⟩

/-- **Behind the colon of a scheme without domains** segments alone are below slashes alone. -/
theorem ofOther?_continues {scheme : List Char}
    (hu : ofOther? scheme (List.replicate n '/') = some u)
    (hu' : ofOther? scheme (render segments) = some u') (hne : segments ≠ [])
    (h : ∀ segment ∈ segments, IsPlain segment) : Continues u u' segments := by
  obtain ⟨path, hasSegments, hslashes, hcloses⟩ := ofOther?_slashes scheme n
  rw [hslashes] at hu
  cases hu
  obtain ⟨later, hlater⟩ := exists_of_render hne
  have hbehind : ∀ rest, later ≠ '/' :: rest := by
    rintro rest rfl
    have hfollows := follows_render h hlater rfl '/' (clean rest) (clean_cons_of_not (by decide) _)
    exact absurd hfollows (by decide)
  rw [hlater, ofOther?_rooted hbehind, ← hlater, readPath_render false hne h] at hu'
  cases hu'
  exact ⟨rfl, rfl, [], rfl, hcloses⟩

/-! ## All schemes -/

/-- The scheme of a text is read in the same way where the text ends and behind it. -/
theorem ofTrimmed?_behind {scheme rest later : List Char}
    (hscheme : splitScheme? (clean text) = some (scheme, rest))
    (hlater : later = [] ∨ ∃ more, later = '/' :: more) : ofTrimmed? (text ++ later) =
      match schemeKind scheme with
      | .file => ofFile? (behindScheme text rest ++ later)
      | .special => ofAuthority? scheme true ((rest ++ clean later).dropWhile (isSlash true))
      | .other => ofOther? scheme (rest ++ clean later) := by
  obtain rfl | ⟨more, rfl⟩ := hlater
  · have hclean : clean [] = [] := rfl
    rw [hclean, List.append_nil, List.append_nil, List.append_nil]
    exact congrArg (fun found => Option.bind found _) hscheme
  · rw [clean_cons_of_not (by decide)]
    exact ofTrimmed?_cons hscheme .slash more

theorem slashes_cases (n : Nat) :
    List.replicate n '/' = [] ∨ ∃ more, List.replicate n '/' = '/' :: more := by
  cases n with
  | zero => exact .inl rfl
  | succ n => exact .inr ⟨_, List.replicate_succ⟩

/-- **A prefix goes on**: what is read with segments behind it is below what is read with slashes,
unless a host is to come. -/
theorem ofTrimmed?_continues (hfree : QueryFree text) (hhost : ¬ AwaitsHost text)
    (hu : ofTrimmed? (text ++ List.replicate n '/') = some u) (hfile : u.scheme ≠ "file")
    (hu' : ofTrimmed? (text ++ render segments) = some u') (hne : segments ≠ [])
    (h : ∀ segment ∈ segments, IsPlain segment) : Continues u u' segments := by
  obtain ⟨later, hlater⟩ := exists_of_render hne
  cases hscheme : splitScheme? (clean text) with
  | none =>
    rw [hlater, ofTrimmed?, clean_append, clean_cons_of_not (by decide), splitScheme?_append .slash,
      hscheme] at hu'
    cases hu'
  | some found =>
    obtain ⟨scheme, rest⟩ := found
    have hrestFree : QueryFree rest := hfree.of_splitScheme? hscheme
    rw [ofTrimmed?_behind hscheme (slashes_cases n)] at hu
    rw [ofTrimmed?_behind hscheme (.inr ⟨later, hlater⟩)] at hu'
    unfold AwaitsHost at hhost
    cases hkind : schemeKind scheme with
    | file =>
      simp only [hkind] at hu
      exact absurd (scheme_ofFile? hu) hfile
    | special =>
      simp only [hkind] at hu hu'
      obtain ⟨stem?, hread⟩ := ofSpecial?_reads hrestFree
        (fun hall => hhost ⟨scheme, rest, hscheme, by rw [hkind]; exact hall⟩) scheme
      exact hread.continues hu hfile hu' hne h
    | other =>
      simp only [hkind] at hu hu'
      by_cases hrest : rest = []
      · rw [hrest, List.nil_append, clean_slashes] at hu
        rw [hrest, List.nil_append, clean_render h] at hu'
        exact ofOther?_continues hu hu' hne h
      · obtain ⟨stem?, hread⟩ := ofOther?_reads hrestFree hrest
          (fun hall => hhost ⟨scheme, rest, hscheme, by rw [hkind]; exact hall⟩) scheme
        exact hread.continues hu hfile hu' hne h

end Url

end Workflow
