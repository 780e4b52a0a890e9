import Workflow.Proofs.Outcome
import Workflow.Storage.FileSystem

/-!
# What the file system keeps

A path names the same place as long as no directory goes away, and nothing that the library does
takes one away.

* `fileAt?` is the place where a path names a file, or could.
* `read_eq_ok`, `write_eq_ok`: when a file is read and written, in terms of that place.
* `Extends`: making directories leaves all that was there.
* `read_write`: what was written is read.
-/

namespace Workflow.FileSystem

variable {fs fs' fs'' : FileSystem} {p q : FilePath} {l m : Location} {content : Bytes}

/-! ## Places -/

/-- The place where a path names a file, or where a file of this path would be. -/
def fileAt? (fs : FileSystem) (p : FilePath) : Option Location :=
  match fs.resolve p with
  | .ok (.entry l false) => if hasLongName l then none else some l
  | _ => none

theorem fileAt?_eq_some :
    fs.fileAt? p = some l ↔ fs.resolve p = .ok (.entry l false) ∧ hasLongName l = false := by
  unfold fileAt?
  split
  · rename_i l' h
    rw [h]
    split
    · rename_i hlong
      simp only [reduceCtorEq, false_iff, not_and]
      rintro h
      cases h
      simp [hlong]
    · rename_i hlong
      constructor
      · intro h
        cases h
        exact ⟨rfl, by simpa using hlong⟩
      · rintro ⟨h, -⟩
        cases h
        rfl
  · rename_i h
    simp only [reduceCtorEq, false_iff, not_and]
    intro hl
    exact absurd hl (h l)

theorem resolve_ne_nil {slashed : Bool} (h : fs.resolve p = .ok (.entry l slashed)) : l ≠ [] := by
  unfold resolve at h
  split at h
  · cases h
  split at h
  · cases h
  split at h
  · cases h
  split at h
  · cases h
  · rename_i last front _
    cases hdir : front.reverse.foldlM fs.descend (if p.isAbsolute then [] else fs.working) with
    | error e => rw [hdir] at h; cases h
    | ok dir =>
      rw [hdir] at h
      simp only [bind, Except.bind] at h
      split at h
      · cases h
      · cases h
        simp

/-- **A file is read** where a file is. -/
theorem read_eq_ok : fs.read p = .ok content ↔
    ∃ l, fs.fileAt? p = some l ∧ fs.entryAt? l = some (.file content) := by
  simp only [fileAt?_eq_some]
  unfold read
  cases h : fs.resolve p with
  | error e => simp [bind, Except.bind]
  | ok place =>
    cases place with
    | directory => simp [bind, Except.bind, Outcome.throw_eq_ok]
    | entry l slashed =>
      simp only [bind, Except.bind]
      split
      · rename_i hlong
        simp [hlong, Outcome.throw_eq_ok]
      · rename_i hlong
        split
        · rename_i hentry
          simp [hentry, Outcome.throw_eq_ok]
        · rename_i hentry
          simp [hentry, Outcome.throw_eq_ok]
        · rename_i c hentry
          cases slashed with
          | true => simp [Outcome.throw_eq_ok]
          | false => simp [hentry, hlong, pure, Except.pure]

/-- **A file is written** where there is no directory, and only its place changes. -/
theorem write_eq_ok : fs.write p content = .ok fs' ↔
    ∃ l, fs.fileAt? p = some l ∧ fs.entryAt? l ≠ some .directory ∧
      fs' = fs.set l (.file content) := by
  simp only [fileAt?_eq_some]
  unfold write
  cases h : fs.resolve p with
  | error e => simp [bind, Except.bind]
  | ok place =>
    cases place with
    | directory => simp [bind, Except.bind]
    | entry l slashed =>
      cases slashed with
      | true => simp [bind, Except.bind]
      | false =>
        simp only [bind, Except.bind, Bool.false_eq_true, if_false]
        by_cases hlong : hasLongName l = true
        · simp [hlong]
        by_cases hentry : fs.entryAt? l = some .directory
        · simp [hlong, hentry]
        rw [if_neg hlong, if_neg hentry, Outcome.pure_eq_ok]
        constructor
        · rintro rfl
          exact ⟨l, ⟨rfl, by simpa using hlong⟩, hentry, rfl⟩
        · rintro ⟨l', ⟨hl, -⟩, -, rfl⟩
          cases hl
          rfl

theorem isFile_of_read (h : fs.read p = .ok content) : fs.isFile p = true := by
  obtain ⟨l, hplace, hentry⟩ := read_eq_ok.1 h
  rw [isFile, (fileAt?_eq_some.1 hplace).1]
  simp [hentry]

/-- An entry put below the root is there, and all others are as before. -/
theorem entryAt?_set_of_ne (hl : l ≠ []) (e : Entry) (m : Location) :
    (fs.set l e).entryAt? m = if m = l then some e else fs.entryAt? m := by
  by_cases hm : m = []
  · subst hm
    rw [if_neg (Ne.symm hl)]
    rfl
  · exact entryAt?_set fs l m e hm

/-! ## Directories that stay -/

/-- Where all directories stay, a walk through them leads to the same one. -/
theorem foldlM_descend_mono
    (hdir : ∀ l, fs.entryAt? l = some .directory → fs'.entryAt? l = some .directory)
    {parts : List Bytes} {dir dir' : Location} (h : parts.foldlM fs.descend dir = .ok dir') :
    parts.foldlM fs'.descend dir = .ok dir' := by
  have hstep : ∀ {dir part dir'}, fs.descend dir part = .ok dir' → fs'.descend dir part = .ok dir' := by
    intro dir part dir' h
    unfold descend at h ⊢
    split
    · rwa [if_pos ‹_›] at h
    rw [if_neg ‹_›] at h
    split
    · rwa [if_pos ‹_›] at h
    rw [if_neg ‹_›] at h
    split
    · rwa [if_pos ‹_›] at h
    rw [if_neg ‹_›] at h
    split at h
    · rename_i hentry
      rw [hdir _ hentry]
      exact h
    · cases h
    · cases h
  induction parts generalizing dir with
  | nil => exact h
  | cons part parts ih =>
    rw [List.foldlM_cons, Outcome.bind_eq_ok] at h ⊢
    obtain ⟨next, hnext, hrest⟩ := h
    exact ⟨next, hstep hnext, ih hrest⟩

/-- Where all directories stay, a path that could be followed leads to the same place: only
directories are entered on the way. -/
theorem resolve_mono (hworking : fs'.working = fs.working)
    (hdir : ∀ l, fs.entryAt? l = some .directory → fs'.entryAt? l = some .directory)
    {place : Place} (h : fs.resolve p = .ok place) : fs'.resolve p = .ok place := by
  unfold resolve at h ⊢
  split
  · rwa [if_pos ‹_›] at h
  rw [if_neg ‹_›] at h
  split
  · rwa [if_pos ‹_›] at h
  rw [if_neg ‹_›] at h
  split
  · rwa [if_pos ‹_›] at h
  rw [if_neg ‹_›] at h
  split at h
  · exact h
  · rename_i last front _
    obtain ⟨dir, hdir', hrest⟩ := Outcome.bind_eq_ok.1 h
    refine Outcome.bind_eq_ok.2 ⟨dir, ?_, hrest⟩
    rw [hworking]
    exact foldlM_descend_mono hdir hdir'

/-- All that was there stays, and what comes in are directories. -/
structure Extends (fs fs' : FileSystem) : Prop where
  working : fs'.working = fs.working
  kept : ∀ l e, fs.entryAt? l = some e → fs'.entryAt? l = some e
  added : ∀ l, fs.entryAt? l = none → fs'.entryAt? l = none ∨ fs'.entryAt? l = some .directory

theorem Extends.refl (fs : FileSystem) : fs.Extends fs := ⟨rfl, fun _ _ h => h, fun _ h => .inl h⟩

theorem Extends.trans (h : fs.Extends fs') (h' : fs'.Extends fs'') : fs.Extends fs'' where
  working := h'.working.trans h.working
  kept := fun l e hl => h'.kept l e (h.kept l e hl)
  added := by
    intro l hl
    rcases h.added l hl with hl | hl
    · exact h'.added l hl
    · exact .inr (h'.kept l _ hl)

/-- The files are the same. -/
theorem Extends.file_iff (h : fs.Extends fs') :
    fs'.entryAt? l = some (.file content) ↔ fs.entryAt? l = some (.file content) := by
  refine ⟨fun hl => ?_, h.kept l _⟩
  cases hold : fs.entryAt? l with
  | some e => rw [← h.kept l e hold, hl]
  | none =>
    rcases h.added l hold with hnew | hnew
    · rw [hnew] at hl
      cases hl
    · rw [hnew] at hl
      cases hl

/-- Paths that could be followed lead to the same places. -/
theorem Extends.fileAt? (h : fs.Extends fs') (hl : fs.fileAt? p = some l) : fs'.fileAt? p = some l := by
  obtain ⟨hplace, hlong⟩ := fileAt?_eq_some.1 hl
  exact fileAt?_eq_some.2 ⟨resolve_mono h.working (fun m => h.kept m _) hplace, hlong⟩

theorem makeDirectory_extends (h : fs.makeDirectory p = .ok fs') : fs.Extends fs' := by
  unfold makeDirectory at h
  obtain ⟨place, -, h⟩ := Outcome.bind_eq_ok.1 h
  split at h
  · cases h
  · rename_i l _
    split at h
    · cases h
    split at h
    · cases h
    rename_i hnone
    obtain rfl := Outcome.pure_eq_ok.1 h
    rw [Bool.not_eq_true, Option.isSome_eq_false_iff, Option.isNone_iff_eq_none] at hnone
    have hl : l ≠ [] := by
      rintro rfl
      cases hnone
    refine ⟨rfl, fun m e hm => ?_, fun m hm => ?_⟩
    · rw [entryAt?_set_of_ne hl, if_neg, hm]
      rintro rfl
      rw [hnone] at hm
      cases hm
    · rw [entryAt?_set_of_ne hl]
      split
      · exact .inr rfl
      · exact .inl hm

theorem ensureDirectory_extends : fs.Extends (fs.ensureDirectory p).1 := by
  unfold ensureDirectory
  split
  · exact makeDirectory_extends ‹_›
  · exact .refl fs

theorem createUpwards_extends (fs : FileSystem) : ∀ components : List PathComponent,
    fs.Extends (fs.createUpwards components).1
  | [] => .refl fs
  | last :: front => by
    have hfront := createUpwards_extends fs front
    unfold createUpwards
    simp only
    split
    · split
      · rename_i fs' hmade
        rw [hmade] at hfront
        exact hfront.trans ensureDirectory_extends
      · exact hfront
    · exact ensureDirectory_extends

/-- **Making directories** leaves all that was there. -/
theorem createDirectories_extends (fs : FileSystem) (p : FilePath) :
    fs.Extends (fs.createDirectories p).1 := by
  unfold createDirectories
  split
  · split
    · exact .refl fs
    · rename_i front _
      have hfront := createUpwards_extends fs front
      split
      · rename_i fs' hmade
        rw [hmade] at hfront
        exact hfront.trans ensureDirectory_extends
      · exact hfront
  · exact ensureDirectory_extends

/-- Makes the directory that a file is to be in. -/
def createParent (fs : FileSystem) (p : FilePath) : FileSystem × Except OsError Unit :=
  match p.parent? with
  | some dir => fs.createDirectories dir
  | none => (fs, .ok ())

theorem createParent_extends (fs : FileSystem) (p : FilePath) :
    fs.Extends (fs.createParent p).1 := by
  unfold createParent
  split
  · exact createDirectories_extends fs _
  · exact .refl fs

/-! ## Written files -/

/-- A written file is where its path says, and every other path that could be followed leads where
it did. -/
theorem fileAt?_write (h : fs.write p content = .ok fs') (hl : fs.fileAt? q = some l) :
    fs'.fileAt? q = some l := by
  obtain ⟨m, hm, hentry, rfl⟩ := write_eq_ok.1 h
  have hne := resolve_ne_nil (fileAt?_eq_some.1 hm).1
  obtain ⟨hplace, hlong⟩ := fileAt?_eq_some.1 hl
  have hworking : (fs.set m (.file content)).working = fs.working := rfl
  refine fileAt?_eq_some.2 ⟨resolve_mono hworking (fun m' hm' => ?_) hplace, hlong⟩
  rw [entryAt?_set_of_ne hne, if_neg, hm']
  rintro rfl
  exact hentry hm'

/-- **What was written is read**, at its own path. -/
theorem read_write (h : fs.write p content = .ok fs') : fs'.read p = .ok content := by
  obtain ⟨l, hl, -, hfs⟩ := write_eq_ok.1 h
  have hne := resolve_ne_nil (fileAt?_eq_some.1 hl).1
  refine read_eq_ok.2 ⟨l, fileAt?_write h hl, ?_⟩
  rw [hfs, entryAt?_set_of_ne hne, if_pos rfl]

/-- A file can be written to a path, once its directory is made. -/
def Admits (fs : FileSystem) (p : FilePath) : Prop :=
  ∃ files place, fs.createParent p = (files, .ok ()) ∧ files.fileAt? p = some place ∧
    files.entryAt? place ≠ some .directory

theorem Admits.of_write {files : FileSystem} (hparent : fs.createParent p = (files, .ok ()))
    (h : files.write p content = .ok fs') : fs.Admits p := by
  obtain ⟨place, hplace, hentry, -⟩ := write_eq_ok.1 h
  exact ⟨files, place, hparent, hplace, hentry⟩

end Workflow.FileSystem
