import Mathlib.Data.List.DropRight
import Workflow.Text.Blank

/-!
# The end of a list

`dropEndWhile` takes members from the end until one does not satisfy the predicate. So it splits the
list: behind what is left stand only members that satisfy it, and what is left does not end in one.
No other split is like that (`dropEndWhile_eq_iff`).
-/

namespace Workflow.Text

variable {α : Type} {p : α → Bool} {items front tail : List α}

/-- A run of members is dropped up to a list that does not start like it. -/
theorem dropWhile_append_exact (hfront : ∀ a ∈ front, p a = true)
    (htail : ∀ a ∈ tail.head?, p a = false) : (front ++ tail).dropWhile p = tail := by
  rw [List.dropWhile_append_of_pos hfront]
  cases tail with
  | nil => rfl
  | cons a tail => exact List.dropWhile_cons_of_neg (by simp [htail a rfl])

/-- A tail is dropped from behind a list that does not end like it. -/
theorem dropEndWhile_append_exact (hfront : ∀ a ∈ front.getLast?, p a = false)
    (htail : ∀ a ∈ tail, p a = true) : dropEndWhile p (front ++ tail) = front := by
  have htail' : ∀ a ∈ tail.reverse, p a = true := fun a ha => htail a (List.mem_reverse.1 ha)
  have hfront' : ∀ a ∈ front.reverse.head?, p a = false := by rwa [List.head?_reverse]
  rw [dropEndWhile, List.reverse_append, dropWhile_append_exact htail' hfront', List.reverse_reverse]

/-- **What is dropped** is a tail of members that satisfy the predicate, behind a list that does not
end in one. -/
theorem dropEndWhile_eq_iff : dropEndWhile p items = front ↔
    (∃ tail, items = front ++ tail ∧ ∀ a ∈ tail, p a = true) ∧
      ∀ a ∈ front.getLast?, p a = false := by
  constructor
  · rintro rfl
    refine ⟨⟨items.rtakeWhile p, List.rdropWhile_append_rtakeWhile.symm,
      fun _ ha => List.mem_rtakeWhile_imp ha⟩, fun a ha => ?_⟩
    have hne := List.ne_nil_of_mem (List.mem_of_getLast? ha)
    rw [Option.mem_def, List.getLast?_eq_some_getLast hne, Option.some_inj] at ha
    rw [← ha, ← Bool.not_eq_true]
    exact List.rdropWhile_last_not p items hne
  · rintro ⟨⟨tail, rfl, htail⟩, hfront⟩
    exact dropEndWhile_append_exact hfront htail

/-- **White space around a text** goes, if the text has none. -/
theorem trim_surrounded {before after text : List Char} (hbefore : ∀ c ∈ before, isBlank c = true)
    (hafter : ∀ c ∈ after, isBlank c = true) (htext : ∀ c ∈ text, isBlank c = false) :
    trim (before ++ text ++ after) = text := by
  have hlast : ∀ c ∈ text.getLast?, isBlank c = false :=
    fun c hc => htext c (List.mem_of_getLast? hc)
  cases text with
  | nil =>
    have hall : ∀ c ∈ before ++ [] ++ after, isBlank c = true := by
      rw [List.append_nil]
      exact List.forall_mem_append.2 ⟨hbefore, hafter⟩
    rw [trim, List.dropWhile_eq_nil_iff.2 hall]
    rfl
  | cons c text =>
    have hhead : ∀ a ∈ (c :: text ++ after).head?, isBlank a = false := by
      intro a ha
      cases ha
      exact htext c List.mem_cons_self
    rw [trim, List.append_assoc, dropWhile_append_exact hbefore hhead,
      dropEndWhile_append_exact hlast hafter]

end Workflow.Text
