import Workflow.DomainName.Basic

/-!
# Domain names in ASCII

A name of small letters and digits is its own normal form: nothing in it is mapped or composed.

* `mapText?_ascii`, `normalize_ascii`: mapping and composition leave such a text alone.
* `toAscii?_eq`: a name of one label that is read is the label.
-/

namespace Workflow.DomainName

variable {text : List Char}

/-- Small letters and digits stand for themselves. -/
theorem mapText?_ascii (h : ∀ c ∈ text, c.toNat < 0x80 ∧ c.toLower = c) :
    mapText? text = some text := by
  have hall : text.mapM map? = some (text.map ([·])) := by
    induction text with
    | nil => rfl
    | cons c text ih =>
      rw [List.forall_mem_cons] at h
      rw [List.mapM_cons, map?_ascii h.1.1, h.1.2, ih h.2]
      rfl
  rw [mapText?, hall, Option.map_some, ← List.flatMap_def, List.flatMap_singleton']

theorem combiningClass_ascii {c : Char} (h : c.toNat < 0x80) : combiningClass c = 0 :=
  if_pos (by omega)

theorem sortMarks_ascii (h : ∀ c ∈ text, c.toNat < 0x80) : sortMarks text = text := by
  induction text with
  | nil => rfl
  | cons c text ih =>
    rw [List.forall_mem_cons] at h
    have hrest : sortMarks (c :: text) = insertMark c (sortMarks text) := rfl
    rw [hrest, ih h.2]
    cases text with
    | nil => rfl
    | cons d text =>
      have hd : combiningClass d = 0 := combiningClass_ascii (h.2 d List.mem_cons_self)
      rw [insertMark, if_neg (by simp [hd])]

theorem joinMarks_ascii (base : Char) (h : ∀ c ∈ text, c.toNat < 0x80) :
    joinMarks base [] text = base :: text := by
  induction text generalizing base with
  | nil => rfl
  | cons c text ih =>
    rw [List.forall_mem_cons] at h
    have hjoin : join? base c = none := if_pos (by omega)
    rw [joinMarks]
    simp only [if_true, hjoin, combiningClass_ascii h.1, ih c h.2]
    rfl

/-- **Letters without marks** are composed already. -/
theorem normalize_ascii (h : ∀ c ∈ text, c.toNat < 0x80) : normalize text = text := by
  have hparts : text.flatMap (decomposeChar maxDepth) = text := by
    induction text with
    | nil => rfl
    | cons c text ih =>
      rw [List.forall_mem_cons] at h
      have hc : decomposeChar maxDepth c = [c] := by
        rw [maxDepth, decomposeChar, if_pos (by omega)]
      rw [List.flatMap_cons, hc, ih h.2, List.singleton_append]
  rw [normalize, hparts, sortMarks_ascii h, compose]
  cases text with
  | nil => rfl
  | cons c text =>
    rw [List.forall_mem_cons] at h
    have hc : (decide (combiningClass c ≠ 0)) = false := by simp [combiningClass_ascii h.1]
    rw [List.dropWhile_cons_of_neg (by simp [hc]), List.takeWhile_cons_of_neg (by simp [hc])]
    exact joinMarks_ascii c h.2

/-- **A name of one plain label** is read as it is, if it is read. -/
theorem toAscii?_eq {domain : List Char} (h : ∀ c ∈ text, c.toNat < 0x80 ∧ c.toLower = c)
    (hdot : '.' ∉ text) (hmark : asciiMark.isPrefixOf text = false)
    (hread : toAscii? text = some domain) : domain = text := by
  have hascii : isAscii text = true := List.all_eq_true.2 fun c hc => by simpa using (h c hc).1
  have hforms : Label.forms? text = some ⟨text, text⟩ := by
    rw [Label.forms?, if_neg (by simp [hmark]), if_pos hascii]
  unfold toAscii? at hread
  rw [mapText?_ascii h, Option.bind_eq_bind, Option.bind_some,
    normalize_ascii fun c hc => (h c hc).1] at hread
  simp only [List.splitOn_eq_singleton hdot] at hread
  split at hread
  · cases hread
  · rw [List.mapM_cons, Label.ofText?, hforms] at hread
    simp only [Option.bind_eq_bind, Option.bind_some] at hread
    split at hread
    · simp only [Option.pure_def, List.mapM_nil, Option.bind_some] at hread
      split at hread
      · simpa [List.intercalate] using (Option.some.inj hread).symm
      · cases hread
    · cases hread

end Workflow.DomainName
