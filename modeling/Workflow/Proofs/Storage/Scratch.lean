import Workflow.Proofs.Storage.FileName
import Workflow.Proofs.Storage.Files
import Workflow.Proofs.Text.Hex
import Workflow.Proofs.Text.Percent
import Workflow.Storage.Config

/-!
# Scratch files

A scratch file is in a directory of its own, which has the name of a fresh id. Where one could be
written another can be: all that is above the directory is there by then, and the directory is not.

* `FileSystem.admits_fresh`: the step from one name of a directory to another.
* `Hex.IsName.isName_encode`, `Uri.fileName?_append`: hexadecimal texts are plain names, as bytes and
  in a URI.
* `StorageConfig.admits_scratchPath`: the same for the scratch paths of a configuration.
-/

namespace Workflow

namespace FileSystem

open FilePath

variable {fs files files' : FileSystem} {base id id' name : Bytes} {content : Bytes}

/-- Once a directory is made its path leads somewhere. -/
theorem resolve_of_createDirectories {p : FilePath} (hne : p.components ≠ [])
    (h : fs.createDirectories p = (files, .ok ())) : ∃ place, files.resolve p = .ok place := by
  -- whatever was made above it, the directory itself comes last
  have hensure : ∀ fs : FileSystem, fs.ensureDirectory p = (files, .ok ()) →
      ∃ place, files.resolve p = .ok place := by
    intro fs h
    unfold ensureDirectory at h
    split at h
    · rename_i made hmade
      cases h
      have hextends := makeDirectory_extends hmade
      obtain ⟨place, hplace, -⟩ := Outcome.bind_eq_ok.1 hmade
      exact ⟨place, resolve_mono hextends.working (fun l => hextends.kept l _) hplace⟩
    · rename_i hfailed
      obtain ⟨rfl, hdone⟩ := Prod.mk.inj h
      have hdirectory : fs.isDirectory p = true := by
        by_contra hnot
        rw [if_neg hnot] at hdone
        cases hdone
      unfold isDirectory at hdirectory
      split at hdirectory
      · exact ⟨_, ‹_›⟩
      · exact ⟨_, ‹_›⟩
      · cases hdirectory
  unfold createDirectories at h
  split at h
  · split at h
    · rename_i hnil
      exact absurd (List.reverse_eq_nil_iff.1 hnil) hne
    · split at h
      · exact hensure _ h
      · rename_i hfailed
        exact absurd (h ▸ rfl) (hfailed files)
  · exact hensure _ h

theorem walk_mono {l : Location} (hworking : files'.working = files.working)
    (hdir : ∀ l, files.entryAt? l = some .directory → files'.entryAt? l = some .directory)
    (h : files.walk base = .ok l) : files'.walk base = .ok l := by
  unfold walk at h ⊢
  rw [hworking]
  exact foldlM_descend_mono hdir h

theorem hasLongName_append (hname : IsName name) (dir : Location) :
    hasLongName (dir ++ [name]) = false := by
  rw [hasLongName, List.getLast?_concat, Option.any_some, decide_eq_false_iff_not]
  exact Nat.not_lt.2 hname.short

/-- A directory is made in one that is there, if nothing has its name. -/
theorem createDirectories_new {dir : Location} (hbase : Opens base) (hid : IsName id)
    (hnul : 0 ∉ base) (hshort : base.length + id.length < maxPath) (hwalk : fs.walk base = .ok dir)
    (hnone : fs.entryAt? (dir ++ [id]) = none) :
    fs.createDirectories ⟨base ++ id⟩ = (fs.set (dir ++ [id]) .directory, .ok ()) ∧
      fs.Extends (fs.set (dir ++ [id]) .directory) := by
  have hresolve : fs.resolve ⟨base ++ id⟩ = .ok (.entry (dir ++ [id]) false) :=
    (resolve_append hbase hid).2 ⟨hnul, hshort, dir, hwalk, rfl⟩
  have hmake : fs.makeDirectory ⟨base ++ id⟩ = .ok (fs.set (dir ++ [id]) .directory) := by
    rw [makeDirectory, hresolve]
    simp only [bind, Except.bind, hasLongName_append hid, hnone]
    rfl
  refine ⟨?_, makeDirectory_extends hmake⟩
  rw [createDirectories, hmake]
  simp only
  rw [ensureDirectory, hmake]

/-- **A file can be written** into a directory that is still to be made, where one of the same name
was written into another directory beside it. -/
theorem admits_fresh (hbase : Opens base) (hid : IsName id) (hid' : IsName id') (hname : IsName name)
    (hlength : id'.length = id.length)
    (hparent : fs.createParent ⟨base ++ id ++ [slash] ++ name⟩ = (files, .ok ()))
    (hwrite : files.write ⟨base ++ id ++ [slash] ++ name⟩ content = .ok files')
    (hfresh : ∀ l, files'.entryAt? l ≠ none → id' ∉ l) :
    files'.Admits ⟨base ++ id' ++ [slash] ++ name⟩ := by
  have hopens : ∀ dir : Bytes, Opens (base ++ dir ++ [slash]) := fun dir => .inr ⟨_, rfl⟩
  have hnone : ∀ l, id' ∈ l → files'.entryAt? l = none := by
    intro l hmem
    by_contra hsome
    exact hfresh l hsome hmem
  -- the first file went through the directory of its id
  obtain ⟨place, hplace, hentry, hset⟩ := write_eq_ok.1 hwrite
  obtain ⟨hnul, hshort, dirId, hwalkId, hplaceEq⟩ :=
    (resolve_append (hopens id) hname).1 (fileAt?_eq_some.1 hplace).1
  obtain ⟨dir, hwalk, -, -⟩ := (walk_append hbase hid).1 hwalkId
  have hne := resolve_ne_nil (fileAt?_eq_some.1 hplace).1
  have hkept : ∀ l, files.entryAt? l = some .directory → files'.entryAt? l = some .directory := by
    intro l hl
    rw [hset, entryAt?_set_of_ne hne, if_neg, hl]
    rintro rfl
    exact hentry hl
  have hworking : files'.working = files.working := by rw [hset]; rfl
  have hwalk' := walk_mono hworking hkept hwalk
  -- the path of that directory was short enough
  have hparent' : fs.createDirectories ⟨directory base ++ id⟩ = (files, .ok ()) := by
    rwa [createParent, parent?_in_named hbase hid hname] at hparent
  have hcomponents : components ⟨directory base ++ id⟩ ≠ [] := by
    rw [components_append (opens_directory base) hid]
    simp
  obtain ⟨_, hresolve⟩ := resolve_of_createDirectories hcomponents hparent'
  obtain ⟨hnulDir, hshortDir, -⟩ := (resolve_append (opens_directory base) hid).1 hresolve
  -- so the directory of the other id can be made, and a file in it
  obtain ⟨hmade, hextends⟩ := createDirectories_new (opens_directory base) hid' hnulDir
    (by omega) ((walk_directory base).trans hwalk') (hnone _ (by simp))
  have hwalkNew := walk_mono hextends.working (fun l => hextends.kept l _) hwalk'
  have hdirNew : (files'.set (dir ++ [id']) .directory).entryAt? (dir ++ [id']) = some .directory := by
    rw [entryAt?_set_of_ne (by simp), if_pos rfl]
  have hresolveNew : (files'.set (dir ++ [id']) .directory).resolve ⟨base ++ id' ++ [slash] ++ name⟩ =
      .ok (.entry (dir ++ [id'] ++ [name]) false) := by
    refine (resolve_append (hopens id') hname).2 ⟨?_, ?_, _,
      (walk_append hbase hid').2 ⟨dir, hwalkNew, hdirNew, rfl⟩, rfl⟩
    · simp only [List.mem_append, not_or] at hnul ⊢
      exact ⟨⟨hnul.1.1, hid'.noNul⟩, hnul.2⟩
    · simp only [List.length_append] at hshort ⊢
      omega
  refine ⟨_, dir ++ [id'] ++ [name], ?_, fileAt?_eq_some.2 ⟨hresolveNew, hasLongName_append hname _⟩,
    ?_⟩
  · rw [createParent, parent?_in_named hbase hid' hname]
    exact hmade
  · rw [entryAt?_set_of_ne (by simp), if_neg (by simp), hnone _ (by simp)]
    simp

end FileSystem

/-! ## Names of hexadecimal digits -/

/-- A text of hexadecimal digits that a file system takes as a name. -/
structure Hex.IsName (text : String) : Prop where
  nonempty : text.toList ≠ []
  isDigit : ∀ c ∈ text.toList, Hex.isDigit c = true
  short : text.toList.length ≤ FileSystem.maxName

namespace Hex.IsName

variable {text : String}

theorem isUnreserved (h : IsName text) : ∀ c ∈ text.toList, Percent.isUnreserved c = true := by
  intro c hc
  exact Hex.forall_digit (p := fun c => Percent.isUnreserved c = true) (by decide) (h.isDigit c hc)

theorem encode_eq_map (h : IsName text) :
    Utf8.encode text = text.toList.map fun c => UInt8.ofNat c.toNat :=
  Percent.encodeChars_ascii fun c hc => (Percent.isUnreserved_ascii (h.isUnreserved c hc)).1

theorem not_mem (h : IsName text) {c : Char} (hc : Hex.isDigit c = false) : c ∉ text.toList :=
  Hex.not_mem_of_isDigit h.isDigit hc

/-- Such a text is a name. -/
theorem isName_encode (h : IsName text) : FilePath.IsName (Utf8.encode text) := by
  have hslash : FilePath.slash ∉ Utf8.encode text :=
    Percent.not_mem_encodeChars (by decide) (@not_mem _ h '/' (by decide))
  have hdot : ∀ bytes : Bytes, 0x2E ∈ bytes → Utf8.encode text ≠ bytes := by
    rintro bytes hmem rfl
    exact Percent.not_mem_encodeChars (by decide) (@not_mem _ h '.' (by decide)) hmem
  refine ⟨?_, hslash, ?_, hdot _ (by decide), hdot _ (by decide), ?_⟩
  · rw [h.encode_eq_map]
    simpa using h.nonempty
  · exact Percent.not_mem_encodeChars (by decide) (@not_mem _ h '\x00' (by decide))
  · rw [h.encode_eq_map, List.length_map]
    exact h.short

end Hex.IsName

/-- A fresh id is such a text. -/
theorem FreshId.isName (id : FreshId) : Hex.IsName id.text where
  nonempty := by
    intro hnil
    have hlength := id.length_eq
    rw [text, String.toList_ofList] at hnil
    rw [hnil] at hlength
    cases hlength
  isDigit := by
    rw [text, String.toList_ofList]
    exact id.isDigit
  short := by
    rw [text, String.toList_ofList, id.length_eq]
    decide

theorem FreshId.length_encode (id : FreshId) : (Utf8.encode id.text).length = 32 := by
  rw [id.isName.encode_eq_map, List.length_map, text, String.toList_ofList, id.length_eq]

/-- The last component of a URI that ends in such a text. -/
theorem Uri.fileName?_append {front : List Char} {text : String}
    (hfront : front = [] ∨ ∃ init, front = init ++ ['/']) (h : Hex.IsName text) :
    fileName? (String.ofList (front ++ text.toList)) = some text := by
  have hdot : ∀ chars : List Char, '.' ∈ chars → text.toList ≠ chars := by
    intro chars hmem heq
    exact h.not_mem (by decide : Hex.isDigit '.' = false) (heq ▸ hmem)
  refine fileName?_eq_some_iff.2 ⟨⟨front, [], ?_, fun c hc => ?_, nofun⟩, ?_⟩
  · rw [String.toList_ofList, List.append_nil]
  · obtain rfl | ⟨init, rfl⟩ := hfront
    · cases hc
    · simpa using hc.symm
  · exact ⟨h.nonempty, h.not_mem (by decide), hdot _ (.head _), hdot _ (.head _)⟩

theorem Uri.fileName?_self {text : String} (h : Hex.IsName text) : fileName? text = some text := by
  have hself := fileName?_append (.inl rfl) h
  rwa [List.nil_append, String.ofList_toList] at hself

/-! ## Paths of a configuration -/

namespace StorageConfig

open FilePath

variable {c : StorageConfig} {id id' : FreshId} {hint hint' name : String}

/-- The scratch path of a plain name. -/
theorem scratchPath_eq (hhint : Uri.fileName? hint = some name) (hname : Hex.IsName name) :
    c.scratchPath id (some hint) =
      ⟨c.sandbox.opened ++ Utf8.encode id.text ++ [slash] ++ Utf8.encode name⟩ := by
  have hrelative : ∀ {text : String}, Hex.IsName text → isAbsolute (.ofText text) = false := by
    intro text htext
    have habsolute := htext.isName_encode.isAbsolute []
    rwa [List.append_nil] at habsolute
  rw [scratchPath, Option.bind_some, hhint]
  simp only
  rw [join_eq_opened (hrelative id.isName), join_eq_opened (hrelative hname), ofText, ofText,
    id.isName.isName_encode.opened_append]

theorem fileName?_scratchPath (hhint : Uri.fileName? hint = some name) (hname : Hex.IsName name) :
    (c.scratchPath id (some hint)).fileName? = some (Utf8.encode name) := by
  rw [scratchPath_eq hhint hname]
  exact fileName?_append (.inr ⟨_, rfl⟩) hname.isName_encode

/-- **A scratch file can be written** under a fresh id, where one of the same name was written under
another. -/
theorem admits_scratchPath {fs files files' : FileSystem} {content : Bytes}
    (hhint : Uri.fileName? hint = some name) (hhint' : Uri.fileName? hint' = some name)
    (hname : Hex.IsName name)
    (hparent : fs.createParent (c.scratchPath id (some hint)) = (files, .ok ()))
    (hwrite : files.write (c.scratchPath id (some hint)) content = .ok files')
    (hfresh : ∀ l, files'.entryAt? l ≠ none → Utf8.encode id'.text ∉ l) :
    files'.Admits (c.scratchPath id' (some hint')) := by
  rw [scratchPath_eq hhint hname] at hparent hwrite
  rw [scratchPath_eq hhint' hname]
  exact FileSystem.admits_fresh (opens_opened _) id.isName.isName_encode id'.isName.isName_encode
    hname.isName_encode (by rw [id.length_encode, id'.length_encode]) hparent hwrite hfresh

/-- The URI of a plain name. -/
theorem remotePath_eq (hname : Hex.IsName name) :
    c.remotePath id (some name) none = c.outputPrefix ++ "/" ++ id.text ++ "/" ++ name := by
  rw [remotePath, Option.bind_some, Uri.fileName?_self hname]
  simp only
  rw [Percent.encodeComponent_of_unreserved hname.isUnreserved]

/-- The last component of that URI is the name. -/
theorem fileName?_remotePath (hname : Hex.IsName name) :
    Uri.fileName? (c.remotePath id (some name) none) = some name := by
  have hend : ∃ init, (c.outputPrefix ++ "/" ++ id.text ++ "/").toList = init ++ ['/'] :=
    ⟨_, String.toList_append⟩
  have hname' := Uri.fileName?_append (.inr hend) hname
  rwa [← String.toList_append, String.ofList_toList, ← remotePath_eq hname] at hname'

end StorageConfig

end Workflow
