import Workflow.Proofs.Text.Percent
import Workflow.Url.Path

/-!
# Plain segments of paths

A segment that was written with escapes is no dot and no drive letter, so it stays where it is put.

* `clean_append`, `dropVisible_append`: what is dropped from a text that goes on.
* `IsPlain`, `isPlain_encodeComponent`: segments that are written with escapes.
* `walk_append_plain`: plain segments behind others are taken in as they are.
* `segments_append_plain`: they stand at the end of what is left.
-/

namespace Workflow.UrlPath

variable {text later : List Char} {c : Char}

/-! ## Lists that go on -/

/-- What is taken up to a member that ends it. -/
theorem takeWhile_append_stop {p : Char → Bool} (hc : p c = false) :
    (text ++ c :: later).takeWhile p = text.takeWhile p := by
  induction text with
  | nil => rw [List.nil_append, List.takeWhile_cons_of_neg (by simp [hc]), List.takeWhile_nil]
  | cons d text ih => rw [List.cons_append, List.takeWhile_cons, List.takeWhile_cons, ih]

theorem dropWhile_append_stop {α : Type} {p : α → Bool} {x : α} (hx : p x = false)
    (xs ys : List α) : (xs ++ x :: ys).dropWhile p = xs.dropWhile p ++ x :: ys := by
  induction xs with
  | nil => rw [List.nil_append, List.dropWhile_cons_of_neg (by simp [hx]), List.dropWhile_nil,
      List.nil_append]
  | cons y xs ih =>
    rw [List.cons_append, List.dropWhile_cons, List.dropWhile_cons, ih]
    split
    · rfl
    · rfl

/-! ## Dropped characters -/

theorem clean_append (text later : List Char) : clean (text ++ later) = clean text ++ clean later :=
  List.filter_append ..

theorem clean_cons_of_not (hc : isDropped c = false) (text : List Char) :
    clean (c :: text) = c :: clean text := List.filter_cons_of_pos (by simp [hc])

theorem clean_eq_self (h : ∀ c ∈ text, isDropped c = false) : clean text = text :=
  List.filter_eq_self.2 fun c hc => by simp [h c hc]

theorem mem_of_mem_clean (h : c ∈ clean text) : c ∈ text := (List.mem_filter.1 h).1

/-- What is behind the first visible characters is behind them whatever follows. -/
theorem dropVisible_append {n : Nat} (h : n ≤ (clean text).length) (later : List Char) :
    dropVisible n (text ++ later) = dropVisible n text ++ later := by
  induction text generalizing n with
  | nil =>
    obtain rfl := Nat.le_zero.1 h
    rw [dropVisible, dropVisible, List.nil_append]
  | cons d text ih =>
    cases n with
    | zero => rfl
    | succ n =>
      rw [List.cons_append, dropVisible, dropVisible]
      by_cases hd : isDropped d = true
      · rw [if_pos hd, if_pos hd]
        refine ih ?_
        rwa [clean, List.filter_cons_of_neg (by simp [hd])] at h
      · rw [if_neg hd, if_neg hd]
        refine ih ?_
        rw [clean_cons_of_not (by simpa using hd), List.length_cons] at h
        exact Nat.le_of_succ_le_succ h

theorem clean_dropVisible (n : Nat) (text : List Char) :
    clean (dropVisible n text) = (clean text).drop n := by
  induction text generalizing n with
  | nil => cases n <;> rfl
  | cons d text ih =>
    cases n with
    | zero => rfl
    | succ n =>
      rw [dropVisible]
      by_cases hd : isDropped d = true
      · rw [if_pos hd, ih, clean, clean, List.filter_cons_of_neg (by simp [hd])]
      · rw [if_neg hd, ih, clean_cons_of_not (by simpa using hd), List.drop_succ_cons]

theorem mem_of_mem_dropVisible {n : Nat} (h : c ∈ dropVisible n text) : c ∈ text := by
  induction text generalizing n with
  | nil => cases n <;> exact h
  | cons d text ih =>
    cases n with
    | zero => exact h
    | succ n =>
      rw [dropVisible] at h
      split at h
      · exact List.mem_cons_of_mem _ (ih h)
      · exact List.mem_cons_of_mem _ (ih h)

/-! ## Plain segments -/

/-- Characters that are written for the bytes of a component. -/
def IsPlainChar (c : Char) : Prop := Percent.isUnreserved c = true ∨ c = '%'

/-- A segment that stays in a path. -/
structure IsPlain (segment : List Char) : Prop where
  nonempty : segment ≠ []
  isPlainChar : ∀ c ∈ segment, IsPlainChar c
  notDot : isSingleDot segment = false
  notDots : isDoubleDot segment = false

theorem IsPlainChar.ne_of {d : Char} (h : IsPlainChar c) (hd : Percent.isUnreserved d = false)
    (hpercent : d ≠ '%') : c ≠ d := by
  rintro rfl
  rcases h with h | h
  · rw [hd] at h
    cases h
  · exact hpercent h

theorem IsPlainChar.isDropped (h : IsPlainChar c) : isDropped c = false := by
  simp only [UrlPath.isDropped, Bool.or_eq_false_iff, beq_eq_false_iff_ne]
  exact ⟨⟨h.ne_of (by decide) (by decide), h.ne_of (by decide) (by decide)⟩,
    h.ne_of (by decide) (by decide)⟩

section

variable {segment : List Char} {segments : List (List Char)}

theorem IsPlain.clean (h : IsPlain segment) : clean segment = segment :=
  clean_eq_self fun c hc => (h.isPlainChar c hc).isDropped

theorem IsPlain.not_mem (h : IsPlain segment) {d : Char} (hd : Percent.isUnreserved d = false)
    (hpercent : d ≠ '%') : d ∉ segment :=
  fun hmem => (h.isPlainChar d hmem).ne_of hd hpercent rfl

theorem IsPlain.splitDrive? (h : IsPlain segment) : splitDrive? segment = none := by
  unfold UrlPath.splitDrive?
  rw [h.clean]
  split
  · exact absurd (List.mem_cons_of_mem _ List.mem_cons_self)
      (h.not_mem (d := ':') (by decide) (by decide))
  · rfl

theorem IsPlain.isDriveLetter (h : IsPlain segment) : isDriveLetter segment = false := by
  unfold UrlPath.isDriveLetter
  split
  · rename_i letter mark
    have hmark := h.isPlainChar mark (List.mem_cons_of_mem _ List.mem_cons_self)
    have hcolon : mark ≠ ':' := hmark.ne_of (by decide) (by decide)
    have hbar : mark ≠ '|' := hmark.ne_of (by decide) (by decide)
    simp [hcolon, hbar]
  · rfl

/-- Every spelling of a dot is read as one. -/
theorem decode_afterDot {rest : List Char} (h : afterDot segment = some rest) :
    Percent.decode segment = 0x2E :: Percent.decode rest := by
  unfold afterDot at h
  split at h
  · cases h
    rw [Percent.decode, Percent.encodeChars_cons_ascii (by decide),
      Percent.decodeBytes_cons_of_ne (by decide)]
    rfl
  · rename_i e later
    split at h
    · rename_i he
      cases h
      have hascii : e.toNat < 0x80 := by rcases he with rfl | rfl <;> decide
      rw [Percent.decode, Percent.encodeChars_cons_ascii (by decide),
        Percent.encodeChars_cons_ascii (by decide), Percent.encodeChars_cons_ascii hascii,
        Percent.decodeBytes, if_pos (by decide)]
      rcases he with rfl | rfl <;> rfl
    · cases h
  · cases h

/-- **A component of a path** is written as a plain segment, unless it is empty or dots. -/
theorem isPlain_encodeComponent {name : String} (hne : name.toList ≠ [])
    (hdot : name.toList ≠ ['.']) (hdots : name.toList ≠ ['.', '.']) :
    IsPlain (Percent.encodeComponent name).toList := by
  have hread := Percent.decode_encodeComponent name
  refine ⟨Percent.encodeComponent_ne_nil hne, fun c => Percent.of_mem_encodeComponent, ?_, ?_⟩
  · rw [← Bool.not_eq_true]
    intro hsingle
    have hafter : afterDot (Percent.encodeComponent name).toList = some [] := by
      simpa [isSingleDot] using hsingle
    rw [decode_afterDot hafter] at hread
    exact Utf8.encodeChars_ne hdot hread.symm
  · rw [← Bool.not_eq_true]
    intro hdouble
    have hafter : ((afterDot (Percent.encodeComponent name).toList).bind afterDot) = some [] := by
      simpa [isDoubleDot] using hdouble
    obtain ⟨rest, hfirst, hsecond⟩ := Option.bind_eq_some_iff.1 hafter
    rw [decode_afterDot hfirst, decode_afterDot hsecond] at hread
    exact Utf8.encodeChars_ne hdots hread.symm

/-- **A plain segment** is taken in as it is. -/
theorem IsPlain.read (h : IsPlain segment) (file isLast : Bool) (trail : Trail) :
    read file isLast trail segment = trail.push segment := by
  unfold UrlPath.read
  simp only [h.clean, h.splitDrive?, h.notDot, h.notDots, h.isDriveLetter, ite_self, Bool.and_false,
    Bool.false_eq_true, if_false]

/-- Takes in segments as they are. -/
def Trail.pushAll (trail : Trail) (segments : List (List Char)) : Trail :=
  ⟨segments.reverse ++ trail.before, trail.hasDrive⟩

theorem walk_plain (file : Bool) (trail : Trail) (h : ∀ segment ∈ segments, IsPlain segment) :
    walk file trail segments = trail.pushAll segments := by
  induction segments generalizing trail with
  | nil => rfl
  | cons segment segments ih =>
    rw [List.forall_mem_cons] at h
    cases segments with
    | nil => exact h.1.read file true trail
    | cons next segments =>
      rw [walk, h.1.read, ih _ h.2]
      · simp [Trail.push, Trail.pushAll]
      · exact List.cons_ne_nil next segments

/-- Segments in front of others are not the last. -/
theorem walk_append (file : Bool) (trail : Trail) (front : List (List Char)) (hne : segments ≠ []) :
    walk file trail (front ++ segments) =
      walk file (front.foldl (read file false) trail) segments := by
  induction front generalizing trail with
  | nil => rfl
  | cons raw front ih =>
    rw [List.cons_append, walk, ih]
    · rfl
    · exact fun hnil => hne (List.append_eq_nil_iff.1 hnil).2

/-- **Plain segments behind others** are taken in as they are. -/
theorem walk_append_plain (file : Bool) (trail : Trail) (front : List (List Char))
    (hne : segments ≠ []) (h : ∀ segment ∈ segments, IsPlain segment) :
    walk file trail (front ++ segments) =
      (front.foldl (read file false) trail).pushAll segments := by
  rw [walk_append file trail front hne, walk_plain file _ h]

/-- The segments in front of plain ones. -/
def Trail.front (file : Bool) (trail : Trail) : List (List Char) :=
  if file then trail.before.reverse.dropWhile List.isEmpty else trail.before.reverse

/-- **Plain segments stand at the end** of what is left of a path. -/
theorem segments_pushAll (file : Bool) (trail : Trail) (hne : segments ≠ [])
    (h : ∀ segment ∈ segments, IsPlain segment) :
    UrlPath.segments file (trail.pushAll segments) = trail.front file ++ segments := by
  obtain ⟨first, later, rfl⟩ := List.exists_cons_of_ne_nil hne
  have hfirst : first.isEmpty = false := by
    simpa using (h first List.mem_cons_self).nonempty
  unfold UrlPath.segments Trail.front Trail.pushAll
  simp only [List.reverse_append, List.reverse_reverse]
  cases file with
  | false => rfl
  | true =>
    simp only [if_true]
    rw [dropWhile_append_stop hfirst]
    split
    · rename_i hnil
      exact absurd hnil (by simp)
    · rfl

theorem render_append (front segments : List (List Char)) :
    render (front ++ segments) = render front ++ render segments := List.flatMap_append

theorem exists_of_render (hne : segments ≠ []) : ∃ rest, render segments = '/' :: rest := by
  obtain ⟨first, later, rfl⟩ := List.exists_cons_of_ne_nil hne
  exact ⟨first ++ render later, rfl⟩

theorem of_mem_render (h : ∀ segment ∈ segments, IsPlain segment) (hc : c ∈ render segments) :
    c = '/' ∨ IsPlainChar c := by
  obtain ⟨segment, hmem, hc⟩ := List.mem_flatMap.1 hc
  rcases List.mem_cons.1 hc with rfl | hc
  · exact .inl rfl
  · exact .inr ((h segment hmem).isPlainChar c hc)

theorem clean_render (h : ∀ segment ∈ segments, IsPlain segment) :
    UrlPath.clean (render segments) = render segments := by
  refine clean_eq_self fun c hc => ?_
  rcases of_mem_render h hc with rfl | hc
  · decide
  · exact hc.isDropped

/-- The text of segments is split where they begin. -/
theorem splitOn_append_render (front : List Char) (h : ∀ segment ∈ segments, IsPlain segment) :
    (front ++ render segments).splitOn '/' = front.splitOn '/' ++ segments := by
  induction segments generalizing front with
  | nil =>
    rw [render, List.flatMap_nil, List.append_nil, List.append_nil]
  | cons segment segments ih =>
    rw [List.forall_mem_cons] at h
    have hslash : '/' ∉ segment := h.1.not_mem (by decide) (by decide)
    have hrender : render (segment :: segments) = '/' :: (segment ++ render segments) := rfl
    rw [hrender, List.splitOn_append_cons_self, ih segment h.2, List.splitOn_eq_singleton hslash]
    rfl

end

end Workflow.UrlPath
