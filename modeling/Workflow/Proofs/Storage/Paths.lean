import Mathlib.Tactic.SplitIfs
import Workflow.Proofs.Outcome
import Workflow.Storage.FileSystem

/-!
# Paths that end in a name

A path is put together from the bytes of a directory, with a slash at their end, and a name. What is
asked of such a path comes apart at the same place.

* `Opens`: bytes behind which a name can stand. `opened` are those of a directory.
* `IsComponent`: a component by itself. `IsName`: one that leads to a place of its own.
* `components_append`, `parent?_append`, `fileName?_append`: the components of such a path.
* `FileSystem.resolve_append`: where it leads.
-/

namespace Workflow

namespace FilePath

variable {base rest n : Bytes} {p : FilePath}

/-! ## Parts -/

/-- Nothing is open behind these bytes: they are empty or end with a slash. -/
def Opens (base : Bytes) : Prop := base = [] ∨ ∃ front, base = front ++ [slash]

/-- A run of bytes between slashes, other than dots. -/
structure IsComponent (n : Bytes) : Prop where
  nonempty : n ≠ []
  noSlash : slash ∉ n
  notDot : n ≠ dot
  notDots : n ≠ dots

/-- A name between slashes, other than dots, that a file system takes. -/
structure IsName (n : Bytes) : Prop where
  nonempty : n ≠ []
  noSlash : slash ∉ n
  noNul : 0 ∉ n
  notDot : n ≠ dot
  notDots : n ≠ dots
  short : n.length ≤ FileSystem.maxName

theorem IsName.isComponent (h : IsName n) : IsComponent n where
  nonempty := h.nonempty
  noSlash := h.noSlash
  notDot := h.notDot
  notDots := h.notDots

theorem parts_nil : parts ⟨[]⟩ = [] := rfl

/-- What stands between slashes on either side of a slash. -/
theorem parts_append_slash (front rest : Bytes) :
    parts ⟨front ++ slash :: rest⟩ = parts ⟨front⟩ ++ parts ⟨rest⟩ := by
  simp only [parts, List.splitOn_append_cons_self, List.filter_append]

theorem Opens.parts_append (h : Opens base) (rest : Bytes) :
    parts ⟨base ++ rest⟩ = parts ⟨base⟩ ++ parts ⟨rest⟩ := by
  obtain rfl | ⟨front, rfl⟩ := h
  · rfl
  · rw [List.append_assoc, List.singleton_append, parts_append_slash, parts_append_slash, parts_nil,
      List.append_nil]

theorem parts_of_not_mem (hne : n ≠ []) (hslash : slash ∉ n) : parts ⟨n⟩ = [n] := by
  simp [parts, List.splitOn_eq_singleton hslash, hne]

/-- A part is a run of bytes without slashes. -/
theorem of_mem_parts {part : Bytes} (h : part ∈ p.parts) : part ≠ [] ∧ slash ∉ part := by
  have hsplit : ∀ bytes : Bytes, ∀ part ∈ bytes.splitOn slash, slash ∉ part := by
    intro bytes
    induction bytes with
    | nil => simp
    | cons b bytes ih =>
      intro part hpart
      rw [List.splitOn_cons_eq_if_modifyHead] at hpart
      -- a slash opens a part, any other byte goes to the front of the first one
      split at hpart
      · rcases List.mem_cons.1 hpart with rfl | hpart
        · exact List.not_mem_nil
        · exact ih part hpart
      · rename_i hb
        obtain ⟨first, later, hparts⟩ := List.exists_cons_of_ne_nil (List.splitOn_ne_nil slash bytes)
        rw [hparts, List.modifyHead_cons] at hpart
        rcases List.mem_cons.1 hpart with rfl | hpart
        · have hfirst := ih first (hparts ▸ List.mem_cons_self)
          rw [List.mem_cons, not_or]
          exact ⟨fun h => hb (beq_iff_eq.2 h.symm), hfirst⟩
        · exact ih part (hparts ▸ List.mem_cons_of_mem _ hpart)
  obtain ⟨hmem, hne⟩ := List.mem_filter.1 h
  exact ⟨by simpa using hne, hsplit _ _ hmem⟩

/-! ## Directories -/

/-- The bytes of a directory behind which a name can stand. -/
def opened (p : FilePath) : Bytes :=
  if p.bytes.isEmpty || p.bytes.getLast? == some slash then p.bytes else p.bytes ++ [slash]

theorem opens_opened (p : FilePath) : Opens p.opened := by
  unfold opened
  split
  · rename_i h
    rw [Bool.or_eq_true, List.isEmpty_iff, beq_iff_eq] at h
    rcases h with h | h
    · exact .inl h
    · obtain ⟨front, hfront⟩ := List.getLast?_eq_some_iff.1 h
      exact .inr ⟨front, hfront⟩
  · exact .inr ⟨_, rfl⟩

theorem join_eq_opened {q : FilePath} (h : q.isAbsolute = false) :
    p.join q = ⟨p.opened ++ q.bytes⟩ := by
  unfold join opened
  rw [if_neg (by simp [h])]
  split
  · rfl
  · rw [List.append_assoc, List.singleton_append]

theorem IsComponent.isAbsolute (h : IsComponent n) (rest : Bytes) :
    isAbsolute ⟨n ++ rest⟩ = false := by
  obtain ⟨b, n, rfl⟩ := List.exists_cons_of_ne_nil h.nonempty
  have hb : b ≠ slash := fun heq => h.noSlash (heq ▸ List.mem_cons_self)
  simpa [isAbsolute] using hb

theorem IsName.isAbsolute (h : IsName n) (rest : Bytes) : isAbsolute ⟨n ++ rest⟩ = false :=
  h.isComponent.isAbsolute rest

theorem IsComponent.getLast?_ne (h : IsComponent n) (front : Bytes) :
    (front ++ n).getLast? ≠ some slash := by
  rw [List.getLast?_append_of_ne_nil _ h.nonempty]
  exact fun hlast => h.noSlash (List.mem_of_getLast? hlast)

theorem IsName.getLast?_ne (h : IsName n) (front : Bytes) : (front ++ n).getLast? ≠ some slash :=
  h.isComponent.getLast?_ne front

theorem IsComponent.opened_append (h : IsComponent n) (base : Bytes) :
    opened ⟨base ++ n⟩ = base ++ n ++ [slash] := by
  unfold opened
  rw [if_neg]
  simpa [h.nonempty] using h.getLast?_ne base

theorem IsName.opened_append (h : IsName n) (base : Bytes) :
    opened ⟨base ++ n⟩ = base ++ n ++ [slash] :=
  h.isComponent.opened_append base

/-- A path with a component at its end is absolute if it is without. -/
theorem Opens.isAbsolute_component (h : Opens base) (hn : IsComponent n) (rest : Bytes) :
    isAbsolute ⟨base ++ (n ++ rest)⟩ = isAbsolute ⟨base⟩ := by
  obtain rfl | ⟨front, rfl⟩ := h
  · exact hn.isAbsolute rest
  · cases front <;> rfl

theorem Opens.isAbsolute_append (h : Opens base) (hn : IsName n) (rest : Bytes) :
    isAbsolute ⟨base ++ (n ++ rest)⟩ = isAbsolute ⟨base⟩ :=
  h.isAbsolute_component hn.isComponent rest

/-! ## Components -/

theorem Opens.components_component (h : Opens base) (hn : IsComponent n) :
    components ⟨base ++ n⟩ = components ⟨base⟩ ++ [.name n] := by
  have habsolute := h.isAbsolute_component hn []
  rw [List.append_nil] at habsolute
  have hparts : parts ⟨base ++ n⟩ = parts ⟨base⟩ ++ [n] := by
    rw [h.parts_append, parts_of_not_mem hn.nonempty hn.noSlash]
  -- a dot in front is the one dot that makes a component
  have hhead : (parts ⟨base ++ n⟩).head? = some dot ↔ (parts ⟨base⟩).head? = some dot := by
    rw [hparts]
    cases parts ⟨base⟩ with
    | nil => simpa using hn.notDot
    | cons part parts => rfl
  have hlast : componentOf n = .name n := if_neg hn.notDots
  simp only [components, habsolute, hhead]
  rw [hparts, List.filter_append, List.map_append, List.filter_cons_of_pos (by simpa using hn.notDot)]
  simp [hlast]

theorem components_append (h : Opens base) (hn : IsName n) :
    components ⟨base ++ n⟩ = components ⟨base⟩ ++ [.name n] :=
  h.components_component hn.isComponent

theorem fileName?_append (h : Opens base) (hn : IsName n) : fileName? ⟨base ++ n⟩ = some n := by
  rw [fileName?, components_append h hn, List.getLast?_concat]

theorem parent?_append (h : Opens base) (hn : IsName n) :
    parent? ⟨base ++ n⟩ = some (ofComponents (components ⟨base⟩)) := by
  rw [parent?, components_append h hn, List.reverse_append, List.reverse_singleton,
    List.singleton_append]
  simp only [List.reverse_reverse]

/-- A component with a slash behind it. -/
def openComponent : PathComponent → Bytes
  | .root => [slash]
  | .here => dot ++ [slash]
  | .up => dots ++ [slash]
  | .name n => n ++ [slash]

theorem renderComponents_append (front : List PathComponent) (n : Bytes) :
    renderComponents (front ++ [.name n]) = front.flatMap openComponent ++ n := by
  induction front with
  | nil => rfl
  | cons c front ih =>
    have hne : ∀ d later, front ++ [.name n] = d :: later →
        renderComponents (c :: front ++ [.name n]) =
          openComponent c ++ renderComponents (front ++ [.name n]) := by
      intro d later hmore
      rw [List.cons_append, hmore]
      cases c <;> simp [renderComponents, openComponent]
    obtain ⟨d, later, hmore⟩ :=
      List.exists_cons_of_ne_nil (List.append_ne_nil_of_right_ne_nil front (List.cons_ne_nil (.name n) []))
    rw [hne d later hmore, ih, List.flatMap_cons, List.append_assoc]

theorem opens_openComponent (c : PathComponent) : Opens (openComponent c) := by
  cases c with
  | root => exact .inr ⟨[], rfl⟩
  | here => exact .inr ⟨dot, rfl⟩
  | up => exact .inr ⟨dots, rfl⟩
  | name n => exact .inr ⟨n, rfl⟩

/-- The bytes of a directory as they are written when the path of a file in it is taken apart. -/
def directory (base : Bytes) : Bytes := (components ⟨base⟩).flatMap openComponent

theorem Opens.append {front : Bytes} (hfront : Opens front) (h : Opens base) : Opens (front ++ base) := by
  obtain rfl | ⟨b, rfl⟩ := h
  · rwa [List.append_nil]
  · exact .inr ⟨front ++ b, by rw [List.append_assoc]⟩

theorem opens_directory (base : Bytes) : Opens (directory base) := by
  unfold directory
  induction components ⟨base⟩ with
  | nil => exact .inl rfl
  | cons c cs ih => exact (opens_openComponent c).append ih

/-- The path of the directory in which a named file is. -/
theorem parent?_in_named (h : Opens base) {dir : Bytes} (hdir : IsName dir) (hn : IsName n) :
    parent? ⟨base ++ dir ++ [slash] ++ n⟩ = some ⟨directory base ++ dir⟩ := by
  have hopens : Opens (base ++ dir ++ [slash]) := .inr ⟨_, rfl⟩
  have hparts : parts ⟨base ++ dir ++ [slash]⟩ = parts ⟨base ++ dir⟩ := by
    rw [parts_append_slash, parts_nil, List.append_nil]
  have habsolute : isAbsolute ⟨base ++ dir ++ [slash]⟩ = isAbsolute ⟨base ++ dir⟩ := by
    rw [List.append_assoc, h.isAbsolute_append hdir, ← h.isAbsolute_append hdir [], List.append_nil]
  have hcomponents : components ⟨base ++ dir ++ [slash]⟩ = components ⟨base⟩ ++ [.name dir] := by
    rw [← components_append h hdir]
    simp only [components, hparts, habsolute]
  rw [parent?_append hopens hn, hcomponents, ofComponents, renderComponents_append]
  rfl

/-- What is between the slashes of a component. -/
def partsOf : PathComponent → List Bytes
  | .root => []
  | .here => [dot]
  | .up => [dots]
  | .name n => [n]

theorem partsOf_componentOf (part : Bytes) : partsOf (componentOf part) = [part] := by
  unfold componentOf
  split
  · rename_i h
    rw [h]
    rfl
  · rfl

/-- A name among the components is one of the parts. -/
theorem mem_parts_of_mem_components (h : .name n ∈ p.components) : n ∈ p.parts := by
  simp only [components, List.mem_append, List.mem_map, List.mem_filter] at h
  rcases h with h | ⟨part, ⟨hmem, -⟩, hname⟩
  · split_ifs at h <;> simp at h
  · unfold componentOf at hname
    split at hname
    · cases hname
    · cases hname
      exact hmem

/-- The root is a component of absolute paths alone. -/
theorem isAbsolute_of_mem_components (h : .root ∈ p.components) : p.isAbsolute = true := by
  simp only [components, List.mem_append, List.mem_map] at h
  rcases h with h | ⟨part, -, hroot⟩
  · split_ifs at h with habsolute
    · exact habsolute
    · simp at h
    · simp at h
  · unfold componentOf at hroot
    split at hroot <;> cases hroot

theorem parts_openComponent {c : PathComponent} (h : c ∈ p.components) :
    parts ⟨openComponent c⟩ = partsOf c := by
  cases c with
  | root => rfl
  | here => rfl
  | up => rfl
  | name n =>
    obtain ⟨hne, hslash⟩ := of_mem_parts (mem_parts_of_mem_components h)
    rw [openComponent, parts_append_slash, parts_nil, List.append_nil, parts_of_not_mem hne hslash]
    rfl

/-- **The directory of a path** has the parts of the path other than dots. -/
theorem parts_directory (base : Bytes) :
    (parts ⟨directory base⟩).filter (· != dot) = (parts ⟨base⟩).filter (· != dot) := by
  have hall : ∀ cs : List PathComponent, (∀ c ∈ cs, c ∈ components ⟨base⟩) →
      parts ⟨cs.flatMap openComponent⟩ = cs.flatMap partsOf := by
    intro cs hcs
    induction cs with
    | nil => rfl
    | cons c cs ih =>
      rw [List.forall_mem_cons] at hcs
      rw [List.flatMap_cons, (opens_openComponent c).parts_append, parts_openComponent hcs.1,
        ih hcs.2, List.flatMap_cons]
  have hmap : ∀ names : List Bytes, (names.map componentOf).flatMap partsOf = names := by
    intro names
    rw [List.flatMap_map]
    simp [partsOf_componentOf]
  rw [directory, hall _ fun c hc => hc]
  simp only [components, List.flatMap_append, hmap, List.filter_append, List.filter_filter,
    Bool.and_self]
  split_ifs <;> rfl

theorem isAbsolute_directory (base : Bytes) : isAbsolute ⟨directory base⟩ = isAbsolute ⟨base⟩ := by
  by_cases habsolute : isAbsolute ⟨base⟩ = true
  · rw [habsolute, directory, components, if_pos habsolute]
    rfl
  · rw [Bool.not_eq_true] at habsolute
    rw [habsolute, directory]
    -- no component but the root is written with a slash in front
    have hmem : ∀ c ∈ components ⟨base⟩, (openComponent c).head? ≠ some slash := by
      intro c hc
      cases c with
      | root => exact absurd (isAbsolute_of_mem_components hc) (by simp [habsolute])
      | here => decide
      | up => decide
      | name n =>
        obtain ⟨hne, hslash⟩ := of_mem_parts (mem_parts_of_mem_components hc)
        obtain ⟨b, n, rfl⟩ := List.exists_cons_of_ne_nil hne
        have hb : b ≠ slash := fun heq => hslash (heq ▸ List.mem_cons_self)
        simpa [openComponent] using hb
    cases hcomponents : components ⟨base⟩ with
    | nil => rfl
    | cons c cs =>
      have hfirst := hmem c (hcomponents ▸ List.mem_cons_self)
      have hne : openComponent c ≠ [] := by cases c <;> simp [openComponent]
      obtain ⟨b, rest, hopen⟩ := List.exists_cons_of_ne_nil hne
      rw [hopen] at hfirst
      rw [List.flatMap_cons, hopen]
      simpa [isAbsolute] using hfirst

end FilePath

namespace FileSystem

open FilePath

variable {fs : FileSystem} {base n : Bytes} {dir l : Location}

/-! ## Places -/

/-- The directory that bytes with a name behind them lead through. -/
def walk (fs : FileSystem) (base : Bytes) : Except OsError Location :=
  (parts ⟨base⟩).foldlM fs.descend (if isAbsolute ⟨base⟩ then [] else fs.working)

/-- **A path that ends in a component** leads to its entry in the directory. -/
theorem resolve_component (h : Opens base) (hn : IsComponent n) {place : Place} :
    fs.resolve ⟨base ++ n⟩ = .ok place ↔ 0 ∉ base ∧ 0 ∉ n ∧ base.length + n.length < maxPath ∧
      ∃ dir, fs.walk base = .ok dir ∧ place = .entry (dir ++ [n]) false := by
  have hempty : ¬ (base ++ n).isEmpty = true := by simp [hn.nonempty]
  have hnul : (base ++ n).contains 0 = true ↔ ¬ (0 ∉ base ∧ 0 ∉ n) := by
    simp [imp_iff_not_or]
  have hlast : ((base ++ n).getLast? == some slash) = false := by simpa using hn.getLast?_ne base
  have habsolute := h.isAbsolute_component hn []
  rw [List.append_nil] at habsolute
  have hparts : (parts ⟨base ++ n⟩).reverse = n :: (parts ⟨base⟩).reverse := by
    rw [h.parts_append, parts_of_not_mem hn.nonempty hn.noSlash, List.reverse_append,
      List.reverse_singleton, List.singleton_append]
  have hdots : ¬ (n = dot ∨ n = dots) := not_or.2 ⟨hn.notDot, hn.notDots⟩
  unfold resolve
  simp only [hnul, if_neg hempty, hparts, List.reverse_reverse, habsolute, if_neg hdots, hlast]
  rw [← and_assoc]
  by_cases hfree : 0 ∉ base ∧ 0 ∉ n
  · rw [if_neg (not_not.2 hfree)]
    by_cases hlong : maxPath ≤ (base ++ n).length
    · rw [if_pos hlong]
      simp only [reduceCtorEq, false_iff, not_and]
      rw [List.length_append] at hlong
      intro _ hshort
      omega
    · rw [if_neg hlong, Outcome.bind_eq_ok]
      rw [List.length_append, Nat.not_le] at hlong
      simp only [hfree, not_false_eq_true, hlong, and_self, true_and, Outcome.pure_eq_ok]
      exact exists_congr fun dir => and_congr_right fun _ => eq_comm
  · simp [hfree]

/-- **A path that ends in a name** leads to the entry of the name in the directory. -/
theorem resolve_append (h : Opens base) (hn : IsName n) {place : Place} :
    fs.resolve ⟨base ++ n⟩ = .ok place ↔ 0 ∉ base ∧ base.length + n.length < maxPath ∧
      ∃ dir, fs.walk base = .ok dir ∧ place = .entry (dir ++ [n]) false := by
  rw [resolve_component h hn.isComponent]
  simp only [hn.noNul, not_false_eq_true, true_and]

/-- Dots do not matter on the way. -/
theorem foldlM_descend_filter (parts : List Bytes) :
    (parts.filter (· != dot)).foldlM fs.descend dir = parts.foldlM fs.descend dir := by
  induction parts generalizing dir with
  | nil => rfl
  | cons part parts ih =>
    by_cases hpart : part = dot
    · rw [List.filter_cons_of_neg (by simp [hpart]), List.foldlM_cons, descend, if_pos hpart, ih]
      rfl
    · rw [List.filter_cons_of_pos (by simpa using hpart), List.foldlM_cons, List.foldlM_cons]
      exact bind_congr fun _ => ih

theorem walk_directory (base : Bytes) : fs.walk (directory base) = fs.walk base := by
  unfold walk
  rw [isAbsolute_directory, ← foldlM_descend_filter, parts_directory, foldlM_descend_filter]

/-- A name is entered where it is a directory. -/
theorem descend_eq_ok (hn : IsName n) :
    fs.descend dir n = .ok l ↔ fs.entryAt? (dir ++ [n]) = some .directory ∧ l = dir ++ [n] := by
  have hshort : ¬ maxName < n.length := Nat.not_lt.2 hn.short
  rw [descend, if_neg hn.notDot, if_neg hn.notDots, if_neg hshort]
  split
  · rename_i hentry
    simp [hentry, eq_comm]
  · rename_i hentry
    simp [hentry]
  · rename_i hentry
    simp [hentry]

theorem walk_append (h : Opens base) (hn : IsName n) :
    fs.walk (base ++ n ++ [slash]) = .ok l ↔
      ∃ dir, fs.walk base = .ok dir ∧ fs.entryAt? (dir ++ [n]) = some .directory ∧
        l = dir ++ [n] := by
  have hparts : parts ⟨base ++ n ++ [slash]⟩ = parts ⟨base⟩ ++ [n] := by
    rw [parts_append_slash, parts_nil, List.append_nil, h.parts_append,
      parts_of_not_mem hn.nonempty hn.noSlash]
  have habsolute := h.isAbsolute_append hn [slash]
  rw [← List.append_assoc] at habsolute
  unfold walk
  rw [hparts, habsolute, List.foldlM_append, Outcome.bind_eq_ok]
  simp only [List.foldlM_cons, List.foldlM_nil, bind_pure, descend_eq_ok hn]

end FileSystem

end Workflow
