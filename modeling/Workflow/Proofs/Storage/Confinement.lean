import Workflow.Proofs.Storage.Scratch

/-!
# Scratch files stay in the sandbox

A scratch path is the sandbox, the directory of a fresh id and at most one more name, whatever the
hint is. No part of the hint leads upwards, so that the path leads below the sandbox if it leads
anywhere.

* `FilePath.components_join`: a path in a directory has one more component.
* `FreshId.names`: the names in a scratch path.
* `StorageConfig.scratchPath_confined`: the file name of a hint, the components of the scratch path,
  and where it leads.
-/

namespace Workflow

namespace FilePath

variable {p : FilePath} {n : Bytes}

/-! ## Paths in a directory -/

theorem parts_opened (p : FilePath) : parts ⟨p.opened⟩ = p.parts := by
  unfold opened
  split
  · rfl
  · rw [parts_append_slash, parts_nil, List.append_nil]

theorem isAbsolute_opened (p : FilePath) : isAbsolute ⟨p.opened⟩ = p.isAbsolute := by
  unfold opened
  split
  · rfl
  · rename_i h
    rw [Bool.or_eq_true, not_or, List.isEmpty_iff] at h
    obtain ⟨b, rest, hbytes⟩ := List.exists_cons_of_ne_nil h.1
    rw [isAbsolute, isAbsolute, hbytes]
    rfl

theorem components_opened (p : FilePath) : components ⟨p.opened⟩ = p.components := by
  unfold components
  rw [parts_opened, isAbsolute_opened]

theorem IsComponent.join_eq (h : IsComponent n) (p : FilePath) : p.join ⟨n⟩ = ⟨p.opened ++ n⟩ := by
  have habsolute := h.isAbsolute []
  rw [List.append_nil] at habsolute
  exact join_eq_opened habsolute

/-- **A path in a directory** has the components of the directory and one more. -/
theorem components_join (h : IsComponent n) : (p.join ⟨n⟩).components = p.components ++ [.name n] := by
  rw [h.join_eq, (opens_opened p).components_component h, components_opened]

end FilePath

namespace FileSystem

open FilePath

variable {fs : FileSystem} {p : FilePath} {n : Bytes} {place : Place} {l : Location}

theorem walk_opened (fs : FileSystem) (p : FilePath) : fs.walk p.opened = fs.walk p.bytes := by
  unfold walk
  rw [parts_opened, isAbsolute_opened]

/-- **A path in a directory** leads to its entry there, if it leads anywhere. -/
theorem of_resolve_join (h : IsComponent n) (hplace : fs.resolve (p.join ⟨n⟩) = .ok place) :
    ∃ dir, fs.walk p.bytes = .ok dir ∧ place = .entry (dir ++ [n]) false := by
  rw [h.join_eq, resolve_component (opens_opened p) h] at hplace
  obtain ⟨-, -, -, dir, hdir, rfl⟩ := hplace
  exact ⟨dir, walk_opened fs p ▸ hdir, rfl⟩

/-- A walk into a directory of a directory goes through it. -/
theorem of_walk_join (h : IsName n) (hwalk : fs.walk (p.join ⟨n⟩).bytes = .ok l) :
    ∃ dir, fs.walk p.bytes = .ok dir ∧ l = dir ++ [n] := by
  rw [← walk_opened, h.isComponent.join_eq, h.opened_append, walk_append (opens_opened p) h] at hwalk
  obtain ⟨dir, hdir, -, rfl⟩ := hwalk
  exact ⟨dir, walk_opened fs p ▸ hdir, rfl⟩

end FileSystem

/-! ## Scratch paths -/

/-- The names that a scratch path has behind the sandbox. -/
def FreshId.names (id : FreshId) (hint : String) : List Bytes :=
  Utf8.encode id.text :: ((Uri.fileName? hint).map Utf8.encode).toList

namespace StorageConfig

open FilePath

variable {c : StorageConfig} {id : FreshId} {hint : String}

theorem components_scratchPath (c : StorageConfig) (id : FreshId) (hint : String) :
    (c.scratchPath id (some hint)).components =
      c.sandbox.components ++ (id.names hint).map .name := by
  have hdir : (c.sandbox.join (.ofText id.text)).components =
      c.sandbox.components ++ [.name (Utf8.encode id.text)] :=
    components_join id.isName.isName_encode.isComponent
  unfold scratchPath FreshId.names
  rw [Option.bind_some]
  cases hname : Uri.fileName? hint with
  | none => exact hdir
  | some name =>
    obtain ⟨-, hname⟩ := Uri.fileName?_eq_some_iff.1 hname
    refine (components_join (isComponent_encode hname)).trans ?_
    rw [hdir, List.append_assoc]
    rfl

theorem of_resolve_scratchPath {fs : FileSystem} {place : FileSystem.Place}
    (h : fs.resolve (c.scratchPath id (some hint)) = .ok place) :
    ∃ dir, fs.walk c.sandbox.bytes = .ok dir ∧ place = .entry (dir ++ id.names hint) false := by
  have hid := id.isName.isName_encode
  unfold scratchPath at h
  rw [Option.bind_some] at h
  unfold FreshId.names
  cases hname : Uri.fileName? hint with
  | none =>
    rw [hname] at h
    exact FileSystem.of_resolve_join hid.isComponent h
  | some name =>
    rw [hname] at h
    obtain ⟨-, hname⟩ := Uri.fileName?_eq_some_iff.1 hname
    obtain ⟨inner, hinner, rfl⟩ := FileSystem.of_resolve_join (isComponent_encode hname) h
    obtain ⟨dir, hdir, rfl⟩ := FileSystem.of_walk_join hid hinner
    exact ⟨dir, hdir, by rw [List.append_assoc]; rfl⟩

/-- **A scratch path stays in the sandbox**, whatever the hint is. The file name of a hint is what it
ends in, slashes at its end passed over, and there is none if that is empty or dots. The scratch path
has the components of the sandbox, the fresh id and that file name, if there is one. In a file system
it leads to the place of these names below the sandbox, if it leads anywhere. -/
theorem scratchPath_confined (c : StorageConfig) (id : FreshId) (hint : String) :
    (∀ name, Uri.fileName? hint = some name ↔ Uri.EndsIn hint name ∧ Uri.IsFileName name) ∧
      (c.scratchPath id (some hint)).components =
        c.sandbox.components ++ (id.names hint).map .name ∧
      ∀ (fs : FileSystem) (place : FileSystem.Place),
        fs.resolve (c.scratchPath id (some hint)) = .ok place →
          ∃ dir, fs.walk c.sandbox.bytes = .ok dir ∧ place = .entry (dir ++ id.names hint) false :=
  ⟨fun _ => Uri.fileName?_eq_some_iff, components_scratchPath c id hint,
    fun _ _ => of_resolve_scratchPath⟩

/-- Two dots are no name, and a query is not taken off. -/
example : (Uri.fileName? "s3://bucket/raw/..///", Uri.fileName? "s3://bucket/a%2Fb?x#..") =
    (none, some "a%2Fb?x#..") := by decide

end StorageConfig

end Workflow
