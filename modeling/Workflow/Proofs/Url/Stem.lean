import Workflow.Proofs.Url.Reading

/-!
# What follows a stem

Behind a place in the path of a URL stand a query, which does not matter, or more segments, which
end up at the end of the path.

* `Stem.url_query`: two URLs of one stem with queries behind it are the same.
* `Url.below`: a URL with more segments in its path.
* `Stem.url_render`: plain segments behind a stem are below one URL.
-/

namespace Workflow

namespace Url

open UrlPath

variable {text later : List Char} {e : Char} {segments : List (List Char)}

/-! ## Queries -/

/-- The signs at the start of a query and of a fragment. -/
inductive IsMark : Char → Prop where
  | query : IsMark '?'
  | fragment : IsMark '#'

theorem IsMark.isEnd (he : IsMark e) : IsEnd e := by
  cases he with
  | query => exact .query
  | fragment => exact .fragment

theorem beforeQuery_append_mark (he : IsMark e) (text later : List Char) :
    beforeQuery (text ++ e :: later) = beforeQuery text :=
  takeWhile_append_stop (by cases he <;> decide)

/-- A slash that a path is read behind is not in its query. -/
theorem beforeQuery_behindSlash (he : IsMark e) (special : Bool) (text later later' : List Char) :
    beforeQuery (behindSlash special (text ++ e :: later)) =
      beforeQuery (behindSlash special (text ++ e :: later')) := by
  have hdropped : isDropped e = false := by cases he <;> decide
  have hslash : isSlash special e = false := by cases he <;> cases special <;> decide
  unfold behindSlash
  rw [dropWhile_append_stop hdropped, dropWhile_append_stop hdropped]
  cases text.dropWhile isDropped with
  | nil =>
    simp only [List.nil_append, hslash, Bool.false_eq_true, if_false, beforeQuery_append_mark he]
  | cons c rest =>
    simp only [List.cons_append]
    split
    · rw [beforeQuery_append_mark he, beforeQuery_append_mark he]
    · rw [beforeQuery_append_mark he, beforeQuery_append_mark he]

/-- **A query behind a stem** does not matter. -/
theorem Stem.url_query (he : IsMark e) (stem : Stem) (later later' : List Char) :
    stem.url (e :: later) = stem.url (e :: later') := by
  have hdropped : isDropped e = false := by cases he <;> decide
  cases stem with
  | flat scheme front =>
    simp only [Stem.url, clean_cons_of_not hdropped, beforeQuery_append_mark he]
  | rooted scheme host special front =>
    have hpath := beforeQuery_behindSlash he special front (clean later) (clean later')
    simp only [Stem.url, clean_cons_of_not hdropped, beforeQuery_append_mark he, readPath,
      readSegments, hpath]
  | file host behind front =>
    have hpath := beforeQuery_behindSlash he true front later later'
    cases behind with
    | true => simp only [Stem.url, ofFilePath, readSegments, if_true, hpath]
    | false =>
      simp only [Stem.url, ofFilePath, readSegments, Bool.false_eq_true, if_false,
        beforeQuery_append_mark he]

/-! ## Segments -/

/-- A URL with more segments in its path. -/
def below (base : Url) (segments : List (List Char)) : Url :=
  { base with path := base.path ++ render segments }

theorem queryFree_render (h : ∀ segment ∈ segments, IsPlain segment) :
    QueryFree (render segments) := by
  intro c hc
  rcases of_mem_render h hc with rfl | hc
  · decide
  · have hquery : c ≠ '?' := hc.ne_of (by decide) (by decide)
    have hmark : c ≠ '#' := hc.ne_of (by decide) (by decide)
    simp [hquery, hmark]

/-- Plain characters separate no segments. -/
theorem isSlash_of_isPlainChar {c : Char} (h : IsPlainChar c) (special : Bool) :
    isSlash special c = false := by
  have hforward : c ≠ '/' := h.ne_of (by decide) (by decide)
  have hback : c ≠ '\\' := h.ne_of (by decide) (by decide)
  simp [isSlash, hforward, hback]

theorem map_slash_eq_self (special : Bool) (h : ∀ c ∈ text, c = '/' ∨ IsPlainChar c) :
    text.map (fun c => if isSlash special c then '/' else c) = text := by
  refine (List.map_congr_left fun c hc => ?_).trans (List.map_id _)
  rcases h c hc with rfl | hc
  · exact ite_self _
  · simp [isSlash_of_isPlainChar hc]

theorem splitSegments_append_render (special : Bool) (text : List Char)
    (h : ∀ segment ∈ segments, IsPlain segment) :
    splitSegments special (text ++ render segments) = splitSegments special text ++ segments := by
  rw [splitSegments, List.map_append, map_slash_eq_self special fun c => of_mem_render h,
    splitOn_append_render _ h]
  rfl

theorem splitSegments_of_isPlain (special : Bool) {segment : List Char} (h : IsPlain segment) :
    splitSegments special segment = [segment] := by
  rw [splitSegments, map_slash_eq_self special fun c hc => .inr (h.isPlainChar c hc),
    List.splitOn_eq_singleton (h.not_mem (by decide) (by decide))]

/-- Segments are read behind any text in the same way. -/
theorem readSegments_append_render (special file : Bool) (hfree : QueryFree text)
    (hne : segments ≠ []) (h : ∀ segment ∈ segments, IsPlain segment) :
    readSegments special file (text ++ render segments) =
      ((splitSegments special text).foldl (read file false) {}).pushAll segments := by
  have hquery : beforeQuery (text ++ render segments) = text ++ render segments :=
    List.takeWhile_eq_self_iff.2 (queryFree_append.2 ⟨hfree, queryFree_render h⟩)
  rw [readSegments, hquery, splitSegments_append_render special text h,
    walk_append_plain file {} _ hne h]

/-- The slash that a path is read behind is the first of the segments, when nothing else stands in
front. -/
theorem readSegments_behindSlash (special file : Bool) (htext : text.dropWhile isDropped = [])
    (hne : segments ≠ []) (h : ∀ segment ∈ segments, IsPlain segment) :
    readSegments special file (behindSlash special (text ++ render segments)) =
      Trail.pushAll {} segments := by
  obtain ⟨first, later, rfl⟩ := List.exists_cons_of_ne_nil hne
  rw [List.forall_mem_cons] at h
  have hrender : render (first :: later) = '/' :: (first ++ render later) := rfl
  have hslash : isSlash special '/' = true := by cases special <;> rfl
  have hbehind : behindSlash special (text ++ render (first :: later)) = first ++ render later := by
    rw [behindSlash, hrender, dropWhile_append_stop (by decide), htext]
    simp only [List.nil_append, hslash, if_true]
  have hfree : QueryFree (first ++ render later) :=
    (queryFree_render (List.forall_mem_cons.2 h)).of_subset fun c hc =>
      hrender ▸ List.mem_cons_of_mem _ hc
  have hquery : beforeQuery (first ++ render later) = first ++ render later :=
    List.takeWhile_eq_self_iff.2 hfree
  rw [hbehind, readSegments, hquery, splitSegments_append_render special first h.2,
    splitSegments_of_isPlain special h.1]
  exact walk_plain file {} (List.forall_mem_cons.2 h)

/-- Where something visible stands in front, it decides what is behind the slash. -/
theorem behindSlash_append (special : Bool) (hfree : QueryFree text)
    (htext : text.dropWhile isDropped ≠ []) : ∃ behind, QueryFree behind ∧
      ∀ later, behindSlash special (text ++ later) = behind ++ later := by
  obtain ⟨c, rest, htext⟩ := List.exists_cons_of_ne_nil htext
  have hdrop : ∀ later, (text ++ later).dropWhile isDropped = c :: (rest ++ later) := by
    intro later
    rw [List.dropWhile_append, htext]
    rfl
  have hrestFree : QueryFree rest := hfree.of_subset fun d hd =>
    (List.dropWhile_sublist _).subset (htext ▸ List.mem_cons_of_mem _ hd)
  simp only [behindSlash, hdrop]
  by_cases hslash : isSlash special c = true
  · exact ⟨rest, hrestFree, fun later => if_pos hslash⟩
  · exact ⟨text, hfree, fun later => if_neg hslash⟩

/-- Segments are read behind a slash in the same way, be it in front of them or the first of
theirs. -/
theorem exists_behindSlash (special file : Bool) (hfree : QueryFree text) :
    ∃ trail : Trail, ∀ segments, segments ≠ [] → (∀ segment ∈ segments, IsPlain segment) →
      readSegments special file (behindSlash special (text ++ render segments)) =
        trail.pushAll segments := by
  by_cases htext : text.dropWhile isDropped = []
  · exact ⟨{}, fun segments => readSegments_behindSlash special file htext⟩
  · obtain ⟨behind, hfree', hbehind⟩ := behindSlash_append special hfree htext
    exact ⟨_, fun segments hne h => by
      rw [hbehind, readSegments_append_render special file hfree' hne h]⟩

/-- **Plain segments behind a stem** are below one URL. -/
theorem Stem.url_render (stem : Stem) (hfree : QueryFree stem.front) :
    ∃ base : Url, ∀ segments, segments ≠ [] → (∀ segment ∈ segments, IsPlain segment) →
      stem.url (render segments) = base.below segments := by
  cases stem with
  | flat scheme front =>
    refine ⟨⟨scheme, none, front, false⟩, fun segments _ h => ?_⟩
    have hquery : beforeQuery (front ++ render segments) = front ++ render segments :=
      List.takeWhile_eq_self_iff.2 (queryFree_append.2 ⟨hfree, queryFree_render h⟩)
    rw [Stem.url, clean_render h, hquery]
    rfl
  | rooted scheme host special front =>
    obtain ⟨trail, htrail⟩ := exists_behindSlash special false hfree
    refine ⟨⟨scheme, host, render (trail.front false), true⟩, fun segments hne h => ?_⟩
    have hread := htrail segments hne h
    have hsome : (beforeQuery (front ++ render segments)).isEmpty = false := by
      obtain ⟨rest, hrest⟩ := exists_of_render hne
      have hfront := beforeQuery_append hfree (render segments)
      rw [Stem.front] at hfront
      rw [hfront, hrest, beforeQuery, List.takeWhile_cons_of_pos (by decide)]
      simp
    rw [Stem.front] at hread
    simp only [Stem.url, clean_render h, hsome, Bool.not_false, Bool.or_true, if_true, readPath, hread,
      segments_pushAll false trail hne h, render_append]
    rfl
  | file host behind front =>
    obtain ⟨trail, htrail⟩ : ∃ trail : Trail, ∀ segments, segments ≠ [] →
        (∀ segment ∈ segments, IsPlain segment) →
        readSegments true true (if behind then behindSlash true (front ++ render segments)
          else front ++ render segments) = trail.pushAll segments := by
      cases behind with
      | true => exact exists_behindSlash true true hfree
      | false => exact ⟨_, fun segments => readSegments_append_render true true hfree⟩
    refine ⟨⟨"file", (if trail.hasDrive then none else host).map String.ofList,
      render (trail.front true), true⟩, fun segments hne h => ?_⟩
    simp only [Stem.url, ofFilePath, htrail segments hne h, segments_pushAll true trail hne h,
      render_append]
    rfl

end Url

end Workflow
