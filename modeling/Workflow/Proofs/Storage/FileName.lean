import Workflow.Proofs.Storage.Paths
import Workflow.Proofs.Text.Ends
import Workflow.Proofs.Text.Percent
import Workflow.Storage.Uri

/-!
# The file name of a URI

The file name is what stands behind the last slash, once the slashes at the end are gone. It is left
out when nothing stands there, or dots.

* `Uri.IsFileName`: what can be a file name.
* `Uri.EndsIn`: where the file name stands in the URI.
* `Uri.fileName?_eq_some_iff`: the file name of a URI is exactly that.
* `FilePath.isComponent_encode`: a file name is one component of a path.
-/

namespace Workflow

namespace Uri

variable {uri name : String}

/-- A text without slashes that is not empty and not dots. -/
structure IsFileName (name : String) : Prop where
  nonempty : name.toList ≠ []
  noSlash : '/' ∉ name.toList
  notDot : name.toList ≠ ['.']
  notDots : name.toList ≠ ['.', '.']

/-- A URI ends in a text, slashes behind it passed over: it stands at the start or behind a slash. -/
def EndsIn (uri name : String) : Prop :=
  ∃ front slashes, uri.toList = front ++ name.toList ++ slashes ∧ (∀ c ∈ front.getLast?, c = '/') ∧
    ∀ c ∈ slashes, c = '/'

/-- Only slashes are taken from the end, and all of them. -/
theorem exists_dropEndSlashes (text : List Char) :
    (∃ n, text = dropEndSlashes text ++ List.replicate n '/') ∧
      (dropEndSlashes text).getLast? ≠ some '/' := by
  obtain ⟨⟨slashes, htext, hslashes⟩, hlast⟩ := Text.dropEndWhile_eq_iff.1
    (rfl : Text.dropEndWhile (· == '/') text = dropEndSlashes text)
  have hreplicate : slashes = List.replicate slashes.length '/' :=
    List.eq_replicate_of_mem fun c hc => by simpa using hslashes c hc
  exact ⟨⟨slashes.length, hreplicate ▸ htext⟩, fun hend => absurd (hlast '/' hend) (by decide)⟩

/-- What stands behind the last slash of a text, slashes at the end passed over. -/
def lastPiece (text : List Char) : List Char :=
  ((dropEndSlashes text).reverse.takeWhile (· != '/')).reverse

/-- A text comes apart at its last piece. -/
theorem exists_lastPiece (text : List Char) : ∃ front slashes,
    text = front ++ lastPiece text ++ slashes ∧ (∀ c ∈ front.getLast?, c = '/') ∧
      (∀ c ∈ slashes, c = '/') ∧ '/' ∉ lastPiece text := by
  obtain ⟨⟨n, htext⟩, -⟩ := exists_dropEndSlashes text
  obtain ⟨-, hfront⟩ := Text.dropEndWhile_eq_iff.1
    (rfl : Text.dropEndWhile (· != '/') (dropEndSlashes text) = _)
  have hpiece : Text.dropEndWhile (· != '/') (dropEndSlashes text) ++ lastPiece text =
      dropEndSlashes text := List.rdropWhile_append_rtakeWhile
  refine ⟨_, List.replicate n '/', by rw [hpiece]; exact htext, fun c hc => ?_,
    fun c hc => List.eq_of_mem_replicate hc, fun hmem => ?_⟩
  · simpa using hfront c hc
  · simpa using List.mem_takeWhile_imp (List.mem_reverse.1 hmem)

/-- There is no other piece to come apart at. -/
theorem lastPiece_append {front piece slashes : List Char} (hfront : ∀ c ∈ front.getLast?, c = '/')
    (hne : piece ≠ []) (hpiece : '/' ∉ piece) (hslashes : ∀ c ∈ slashes, c = '/') :
    lastPiece (front ++ piece ++ slashes) = piece := by
  have hend : dropEndSlashes (front ++ piece ++ slashes) = front ++ piece := by
    refine Text.dropEndWhile_append_exact (fun c hc => ?_) fun c hc => by simp [hslashes c hc]
    rw [List.getLast?_append_of_ne_nil _ hne] at hc
    have hmem := List.mem_of_getLast? hc
    simpa using fun heq : c = '/' => hpiece (heq ▸ hmem)
  have hrun : ∀ c ∈ piece.reverse, (c != '/') = true := by
    intro c hc
    simpa using fun heq : c = '/' => hpiece (heq ▸ List.mem_reverse.1 hc)
  have hstop : front.reverse.takeWhile (· != '/') = [] := by
    rw [← List.head?_reverse] at hfront
    cases hreverse : front.reverse with
    | nil => rfl
    | cons c rest =>
      rw [hreverse] at hfront
      exact List.takeWhile_cons_of_neg (by simp [hfront c rfl])
  rw [lastPiece, hend, List.reverse_append, List.takeWhile_append_of_pos hrun, hstop,
    List.append_nil, List.reverse_reverse]

theorem fileName?_eq_some_iff_lastPiece : fileName? uri = some name ↔
    lastPiece uri.toList = name.toList ∧ name.toList ≠ [] ∧ name.toList ≠ ['.'] ∧
      name.toList ≠ ['.', '.'] := by
  change (if (lastPiece uri.toList).isEmpty || lastPiece uri.toList == ['.'] ||
    lastPiece uri.toList == ['.', '.'] then none else some (String.ofList (lastPiece uri.toList))) =
      some name ↔ _
  split
  · rename_i hnone
    simp only [Bool.or_eq_true, List.isEmpty_iff, beq_iff_eq] at hnone
    refine iff_of_false nofun ?_
    rintro ⟨hpiece, hne, hdot, hdots⟩
    rw [hpiece] at hnone
    exact hnone.elim (fun h => h.elim hne hdot) hdots
  · rename_i hsome
    simp only [Bool.or_eq_true, List.isEmpty_iff, beq_iff_eq, not_or] at hsome
    constructor
    · rintro ⟨⟩
      rw [String.toList_ofList]
      exact ⟨rfl, hsome.1.1, hsome.1.2, hsome.2⟩
    · rintro ⟨hpiece, -⟩
      rw [hpiece, String.ofList_toList]

/-- **The file name of a URI** is the text that the URI ends in, if it can be a file name. -/
theorem fileName?_eq_some_iff : fileName? uri = some name ↔ EndsIn uri name ∧ IsFileName name := by
  rw [fileName?_eq_some_iff_lastPiece]
  constructor
  · rintro ⟨hpiece, hne, hdot, hdots⟩
    obtain ⟨front, slashes, huri, hfront, hslashes, hslash⟩ := exists_lastPiece uri.toList
    rw [hpiece] at huri hslash
    exact ⟨⟨front, slashes, huri, hfront, hslashes⟩, hne, hslash, hdot, hdots⟩
  · rintro ⟨⟨front, slashes, huri, hfront, hslashes⟩, h⟩
    rw [huri]
    exact ⟨lastPiece_append hfront h.nonempty h.noSlash hslashes, h.nonempty, h.notDot, h.notDots⟩

end Uri

namespace FilePath

variable {name : String}

theorem isComponent_encode (h : Uri.IsFileName name) : IsComponent (Utf8.encode name) where
  nonempty := Utf8.encodeChars_ne h.nonempty
  noSlash := Percent.not_mem_encodeChars (c := '/') (by decide) h.noSlash
  notDot := Utf8.encodeChars_ne h.notDot
  notDots := Utf8.encodeChars_ne h.notDots

end FilePath

end Workflow
