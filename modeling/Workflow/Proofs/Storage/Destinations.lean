import Workflow.Proofs.Storage.Keys
import Workflow.Proofs.Storage.Scratch
import Workflow.Proofs.Storage.Transcript
import Workflow.Proofs.Url.Segments

/-!
# Where uploads go

An upload without a destination gets a URI with a fresh id in it. What decides where its content is
put is what the URI is read as: an object, a file on this host, or the text of a path. The id is a
name in any of them, unless the prefix ends the path before it.

* `FileSystem.fileAt?_below`: names in the place of a file.
* `FreshId.segments`: what stands behind the prefix in the URI of an upload.
* `FreshId.through`, `FreshId.of_read_below`: the id in a path and in the key of an object.
* `StorageConfig.CutsOff`: prefixes behind whose query no segment is read.
* `Storage.siteOf?_cutsOff`, `Storage.siteOf?_remotePath_inj`: under such a prefix all uploads go to
  one place, under any other each id has its own.
-/

namespace Workflow

/-! ## Files -/

namespace FileSystem

open FilePath

variable {fs : FileSystem} {p : FilePath} {base n part : Bytes} {later : List Bytes}
  {dir dir' l : Location}

/-- One step leads nowhere, or into the directory of its name. -/
theorem of_descend (hdots : part ≠ dots) (h : fs.descend dir part = .ok l) :
    part = dot ∧ l = dir ∨ part ≠ dot ∧ l = dir ++ [part] := by
  unfold descend at h
  rw [if_neg hdots] at h
  split at h
  · rename_i hdot
    cases h
    exact .inl ⟨hdot, rfl⟩
  · rename_i hdot
    split at h
    · cases h
    split at h
    · cases h
      exact .inr ⟨hdot, rfl⟩
    · cases h
    · cases h

/-- Without two dots a walk leads downwards. -/
theorem prefix_of_foldlM_descend (hdots : dots ∉ later) (h : later.foldlM fs.descend dir = .ok dir') :
    dir <+: dir' := by
  induction later generalizing dir with
  | nil =>
    obtain rfl := Outcome.pure_eq_ok.1 h
    exact List.prefix_rfl
  | cons part later ih =>
    rw [List.mem_cons, not_or] at hdots
    rw [List.foldlM_cons, Outcome.bind_eq_ok] at h
    obtain ⟨next, hnext, hrest⟩ := h
    have hbelow := ih hdots.2 hrest
    rcases of_descend (Ne.symm hdots.1) hnext with ⟨-, rfl⟩ | ⟨-, rfl⟩
    · exact hbelow
    · exact (List.prefix_append _ _).trans hbelow

/-- **The place of a file** goes through the names that its path goes through. -/
theorem fileAt?_below (hparts : p.parts = parts ⟨base⟩ ++ n :: later)
    (habsolute : p.isAbsolute = isAbsolute ⟨base⟩) (hdot : n ≠ dot) (hdots : n ≠ dots)
    (hlater : dots ∉ later) (h : fs.fileAt? p = some l) :
    ∃ dir, fs.walk base = .ok dir ∧ dir ++ [n] <+: l := by
  obtain ⟨hresolve, -⟩ := fileAt?_eq_some.1 h
  unfold resolve at hresolve
  split at hresolve
  · cases hresolve
  split at hresolve
  · cases hresolve
  split at hresolve
  · cases hresolve
  split at hresolve
  · cases hresolve
  rename_i last front hreverse
  obtain ⟨place, hplace, hrest⟩ := Outcome.bind_eq_ok.1 hresolve
  split at hrest
  · cases hrest
  rename_i hlast
  have hl : l = place ++ [last] := by
    rw [Outcome.pure_eq_ok, Place.entry.injEq] at hrest
    exact hrest.1.symm
  have hsplit : parts ⟨base⟩ ++ n :: later = front.reverse ++ [last] := by
    rw [← hparts, ← List.reverse_reverse (p.parts), hreverse, List.reverse_cons]
  rw [habsolute] at hplace
  -- the name is the last part, or one that is entered on the way to it
  obtain rfl | ⟨more, final, rfl⟩ := List.eq_nil_or_concat later
  · obtain ⟨hfront, hname⟩ := List.append_inj' hsplit rfl
    cases hname
    rw [← hfront] at hplace
    exact ⟨place, hplace, hl ▸ List.prefix_rfl⟩
  · rw [List.concat_eq_append] at hsplit hlater
    rw [← List.cons_append, ← List.append_assoc] at hsplit
    obtain ⟨hfront, hname⟩ := List.append_inj' hsplit rfl
    cases hname
    rw [← hfront, List.foldlM_append] at hplace
    obtain ⟨dir, hdir, hplace⟩ := Outcome.bind_eq_ok.1 hplace
    rw [List.foldlM_cons, Outcome.bind_eq_ok] at hplace
    obtain ⟨next, hnext, hplace⟩ := hplace
    have hbelow := prefix_of_foldlM_descend (fun hmem => hlater (List.mem_append_left _ hmem)) hplace
    obtain ⟨heq, -⟩ | ⟨-, rfl⟩ := of_descend hdots hnext
    · exact absurd heq hdot
    · exact ⟨dir, hdir, hl ▸ hbelow.trans (List.prefix_append _ _)⟩

end FileSystem

namespace FilePath

/-- A path that goes through a name. -/
def Through (p : FilePath) (front n : Bytes) : Prop :=
  ∃ rest, p.bytes = front ++ slash :: (n ++ rest) ∧ (rest = [] ∨ ∃ more, rest = slash :: more) ∧
    dots ∉ parts ⟨rest⟩

/-- **Two files whose paths part at a name** are at different places. -/
theorem Through.name_inj {fs : FileSystem} {p p' : FilePath} {front n n' : Bytes} {l : Location}
    (hn : IsName n) (hn' : IsName n') (hp : p.Through front n) (hp' : p'.Through front n')
    (h : fs.fileAt? p = some l) (h' : fs.fileAt? p' = some l) : n = n' := by
  have hbelow : ∀ {p : FilePath} {n : Bytes}, IsName n → p.Through front n → fs.fileAt? p = some l →
      ∃ dir, fs.walk (front ++ [slash]) = .ok dir ∧ dir ++ [n] <+: l := by
    rintro p n hn ⟨rest, hbytes, hrest, hdots⟩ hfile
    have hname : parts ⟨n ++ rest⟩ = n :: parts ⟨rest⟩ := by
      obtain rfl | ⟨more, rfl⟩ := hrest
      · rw [List.append_nil, parts_of_not_mem hn.nonempty hn.noSlash]
        rfl
      · have hmore : parts ⟨slash :: more⟩ = parts ⟨more⟩ := parts_append_slash [] more
        rw [parts_append_slash, parts_of_not_mem hn.nonempty hn.noSlash, hmore]
        rfl
    have hparts : p.parts = parts ⟨front ++ [slash]⟩ ++ n :: parts ⟨rest⟩ := by
      have hbase : parts ⟨front ++ [slash]⟩ = parts ⟨front⟩ := by
        rw [parts_append_slash, parts_nil, List.append_nil]
      rw [hbase, ← hname, ← parts_append_slash, ← hbytes]
    have habsolute : p.isAbsolute = isAbsolute ⟨front ++ [slash]⟩ := by
      unfold isAbsolute
      rw [hbytes]
      cases front <;> rfl
    exact FileSystem.fileAt?_below hparts habsolute hn.notDot hn.notDots hdots hfile
  obtain ⟨dir, hwalk, ⟨more, hl⟩⟩ := hbelow hn hp h
  obtain ⟨dir', hwalk', ⟨more', hl'⟩⟩ := hbelow hn' hp' h'
  rw [hwalk] at hwalk'
  cases hwalk'
  rw [← hl', List.append_assoc, List.append_assoc] at hl
  exact (List.cons.inj (List.append_cancel_left hl)).1

/-- A text that is a part of a path and does not lead upwards. -/
theorem isPart_encode {name : String} (hne : name.toList ≠ []) (hslash : '/' ∉ name.toList)
    (hdots : name.toList ≠ ['.', '.']) :
    Utf8.encode name ≠ [] ∧ slash ∉ Utf8.encode name ∧ Utf8.encode name ≠ dots :=
  ⟨Utf8.encodeChars_ne hne, Percent.not_mem_encodeChars (c := '/') (by decide) hslash,
    Utf8.encodeChars_ne hdots⟩

end FilePath

/-! ## URIs of uploads -/

/-- The last component of a URI is a name. -/
theorem Uri.of_fileName? {uri name : String} (h : Uri.fileName? uri = some name) :
    name.toList ≠ [] ∧ '/' ∉ name.toList ∧ name.toList ≠ ['.'] ∧ name.toList ≠ ['.', '.'] := by
  obtain ⟨-, hname⟩ := Uri.fileName?_eq_some_iff.1 h
  exact ⟨hname.nonempty, hname.noSlash, hname.notDot, hname.notDots⟩

namespace FreshId

open UrlPath

variable {id id' : FreshId} {stem stem' : Option String}

/-- What the URI of an upload has behind the prefix: the id, and the file name of the stem. -/
def segments (id : FreshId) (stem : Option String) : List (List Char) :=
  id.digits :: ((stem.bind Uri.fileName?).map fun name =>
    (Percent.encodeComponent name).toList).toList

theorem segments_some {uri name : String} (id : FreshId) (h : Uri.fileName? uri = some name) :
    id.segments (some uri) = [id.digits, (Percent.encodeComponent name).toList] := by
  rw [segments, Option.bind_some, h]
  rfl

theorem toList_remotePath (c : StorageConfig) (id : FreshId) (stem : Option String) :
    (c.remotePath id stem none).toList = c.outputPrefix.toList ++ render (id.segments stem) := by
  unfold StorageConfig.remotePath segments
  cases stem.bind Uri.fileName? with
  | none => simp [render, text]
  | some name => simp [render, text]

theorem isPlain_digits (id : FreshId) : IsPlain id.digits := by
  have htext : id.text.toList = id.digits := String.toList_ofList
  have hdot : '.' ∉ id.text.toList := id.isName.not_mem (by decide)
  have hplain : IsPlain (Percent.encodeComponent id.text).toList :=
    isPlain_encodeComponent id.isName.nonempty (fun h => hdot (h ▸ List.mem_cons_self))
      (fun h => hdot (h ▸ List.mem_cons_self))
  rwa [Percent.encodeComponent_of_unreserved id.isName.isUnreserved, htext] at hplain

theorem isPlain_segments (id : FreshId) (stem : Option String) :
    ∀ segment ∈ id.segments stem, IsPlain segment := by
  intro segment hmem
  rcases List.mem_cons.1 hmem with rfl | hmem
  · exact id.isPlain_digits
  · rw [Option.mem_toList, Option.map_eq_some_iff] at hmem
    obtain ⟨name, hname, rfl⟩ := hmem
    obtain ⟨uri, -, hname⟩ := Option.bind_eq_some_iff.1 hname
    obtain ⟨hne, -, hdot, hdots⟩ := Uri.of_fileName? hname
    exact isPlain_encodeComponent hne hdot hdots

theorem segments_ne_nil (id : FreshId) (stem : Option String) : id.segments stem ≠ [] :=
  List.cons_ne_nil _ _

theorem render_segments (id : FreshId) (stem : Option String) : render (id.segments stem) =
    '/' :: (id.digits ++ (stem.bind Uri.fileName?).elim [] fun name =>
      '/' :: (Percent.encodeComponent name).toList) := by
  unfold segments
  cases stem.bind Uri.fileName? <;> simp [render]

/-- The bytes of what stands behind the id: a slash and a name, or nothing. -/
def tail (name : Option Bytes) : Bytes := name.elim [] (FilePath.slash :: ·)

theorem decode_segments (front : List Char) (id : FreshId) (stem : Option String) :
    Percent.decode (front ++ render (id.segments stem)) = Percent.decode front ++
      FilePath.slash :: (Utf8.encode id.text ++ tail ((stem.bind Uri.fileName?).map Utf8.encode)) := by
  have htext : Percent.decode id.digits = Utf8.encode id.text := by
    rw [← Percent.decode_encodeComponent, Percent.encodeComponent_of_unreserved id.isName.isUnreserved,
      text, String.toList_ofList]
  rw [render_segments, Percent.decode_append_slash]
  cases stem.bind Uri.fileName? with
  | none =>
    rw [Option.elim_none, List.append_nil, htext]
    exact congrArg _ (congrArg _ (List.append_nil _).symm)
  | some name =>
    rw [Option.elim_some, Percent.decode_append_slash, htext, Percent.decode_encodeComponent]
    rfl

theorem encode_segments (front : List Char) (id : FreshId) (stem : Option String) :
    Utf8.encodeChars (front ++ render (id.segments stem)) = Utf8.encodeChars front ++
      FilePath.slash :: (Utf8.encode id.text ++ tail ((stem.bind Uri.fileName?).map fun name =>
        Utf8.encode (Percent.encodeComponent name))) := by
  have htext : Utf8.encodeChars id.digits = Utf8.encode id.text := by
    rw [Utf8.encode, text, String.toList_ofList]
  rw [render_segments, Utf8.encodeChars_append, Percent.encodeChars_cons_ascii (by decide),
    Utf8.encodeChars_append, htext]
  cases stem.bind Uri.fileName? with
  | none => rfl
  | some name =>
    rw [Option.elim_some, Percent.encodeChars_cons_ascii (by decide)]
    rfl

/-- **A path through an id**, with a name and perhaps a slash behind it. -/
theorem through {p : FilePath} {front : Bytes} (name : Option Bytes) (closing : Bytes)
    (hbytes : p.bytes = front ++ FilePath.slash :: (Utf8.encode id.text ++ tail name) ++ closing)
    (hend : closing = [] ∨ closing = [FilePath.slash])
    (hname : ∀ n ∈ name, n ≠ [] ∧ FilePath.slash ∉ n ∧ n ≠ FilePath.dots) :
    p.Through front (Utf8.encode id.text) := by
  have hparts : FilePath.parts ⟨tail name ++ closing⟩ = name.toList := by
    have hslash : ∀ bytes : Bytes, FilePath.parts ⟨FilePath.slash :: bytes⟩ =
        FilePath.parts ⟨bytes⟩ := FilePath.parts_append_slash []
    have hlast : FilePath.parts ⟨tail name ++ closing⟩ = FilePath.parts ⟨tail name⟩ := by
      rcases hend with rfl | rfl
      · rw [List.append_nil]
      · rw [FilePath.parts_append_slash, FilePath.parts_nil, List.append_nil]
    rw [hlast]
    cases name with
    | none => rfl
    | some n =>
      obtain ⟨hne, hmem, -⟩ := hname n rfl
      rw [tail, Option.elim_some, hslash, FilePath.parts_of_not_mem hne hmem]
      rfl
  refine ⟨tail name ++ closing, by rw [hbytes]; simp, ?_, ?_⟩
  · cases name with
    | none =>
      rcases hend with rfl | rfl
      · exact .inl rfl
      · exact .inr ⟨[], rfl⟩
    | some n => exact .inr ⟨n ++ closing, rfl⟩
  · rw [hparts]
    intro hmem
    exact (hname _ (Option.mem_toList.1 hmem)).2.2 rfl

theorem isPart_fileName {n : Bytes} (hn : n ∈ (stem.bind Uri.fileName?).map Utf8.encode) :
    n ≠ [] ∧ FilePath.slash ∉ n ∧ n ≠ FilePath.dots := by
  obtain ⟨name, hname, rfl⟩ := Option.map_eq_some_iff.1 hn
  obtain ⟨uri, -, hname⟩ := Option.bind_eq_some_iff.1 hname
  obtain ⟨hne, hslash, -, hdots⟩ := Uri.of_fileName? hname
  exact FilePath.isPart_encode hne hslash hdots

theorem isPart_component {n : Bytes} (hn : n ∈ (stem.bind Uri.fileName?).map fun name =>
    Utf8.encode (Percent.encodeComponent name)) :
    n ≠ [] ∧ FilePath.slash ∉ n ∧ n ≠ FilePath.dots := by
  obtain ⟨name, hname, rfl⟩ := Option.map_eq_some_iff.1 hn
  obtain ⟨uri, -, hname⟩ := Option.bind_eq_some_iff.1 hname
  obtain ⟨hne, -, hdot, hdots⟩ := Uri.of_fileName? hname
  have hplain := isPlain_encodeComponent hne hdot hdots
  exact FilePath.isPart_encode hplain.nonempty (hplain.not_mem (by decide) (by decide))
    fun htext => absurd (htext ▸ hplain.notDots) (by decide)

/-- Neither an id nor a name ends in a slash. -/
theorem getLast?_tail (front : Bytes) (id : FreshId) (stem : Option String) :
    (front ++ FilePath.slash :: (Utf8.encode id.text ++
      tail ((stem.bind Uri.fileName?).map Utf8.encode))).getLast? ≠ some FilePath.slash := by
  intro hend
  cases hname : (stem.bind Uri.fileName?).map Utf8.encode with
  | none =>
    rw [hname, tail, Option.elim_none, List.append_nil, ← List.singleton_append,
      ← List.append_assoc] at hend
    exact id.isName.isName_encode.getLast?_ne _ hend
  | some n =>
    obtain ⟨hne, hslash, -⟩ := isPart_fileName (Option.mem_def.2 hname)
    have hsplit : front ++ FilePath.slash :: (Utf8.encode id.text ++ FilePath.slash :: n) =
        front ++ FilePath.slash :: (Utf8.encode id.text ++ [FilePath.slash]) ++ n := by simp
    rw [hname, tail, Option.elim_some, hsplit, List.getLast?_append_of_ne_nil _ hne] at hend
    exact hslash (List.mem_of_getLast? hend)

/-- **The path of an object below a URL** begins as the URL says, and the id stands in it where the
URL ends. -/
theorem of_read_below {base : Url} {path : List Char}
    (hread : Utf8.decodeChars? (Percent.decode (base.below (id.segments stem)).path) = some path) :
    Utf8.encodeChars path = Percent.decode base.path ++ FilePath.slash ::
        (Utf8.encode id.text ++ tail ((stem.bind Uri.fileName?).map Utf8.encode)) ∧
      (path.head? = some '/' ↔
        (Percent.decode base.path ++ [FilePath.slash]).head? = some FilePath.slash) ∧
      path ≠ [] ∧ path.getLast? ≠ some '/' := by
  have hbytes := (Utf8.encodeChars_of_decodeChars? hread).trans (decode_segments base.path id stem)
  refine ⟨hbytes, ?_, ?_, fun hend => ?_⟩
  · rw [← Percent.head?_encodeChars (by decide), hbytes]
    cases Percent.decode base.path <;> rfl
  · rintro rfl
    exact absurd hbytes.symm (by simp [Utf8.encodeChars])
  · have hlast := Percent.getLast?_encodeChars (by decide) hend
    rw [hbytes] at hlast
    exact getLast?_tail _ id stem hlast

end FreshId

/-! ## Sites -/

/-- The prefix is a URL with a query or a fragment: what is put behind it is read as more of that, and
no part of the place. -/
def StorageConfig.CutsOff (c : StorageConfig) : Prop :=
  ∃ url, Url.parse? c.outputPrefix = some url ∧ (url.scheme = "file" ∨ 1 < url.scheme.length) ∧
    ('?' ∈ c.outputPrefix.toList ∨ '#' ∈ c.outputPrefix.toList)

instance (c : StorageConfig) : Decidable c.CutsOff :=
  match h : Url.parse? c.outputPrefix with
  | none => .isFalse fun ⟨_, hurl, _⟩ => by rw [h] at hurl; cases hurl
  | some url =>
    decidable_of_iff ((url.scheme = "file" ∨ 1 < url.scheme.length) ∧
      ('?' ∈ c.outputPrefix.toList ∨ '#' ∈ c.outputPrefix.toList))
      ⟨fun hcut => ⟨url, h, hcut⟩, fun ⟨_, hurl, hcut⟩ => by rw [h] at hurl; cases hurl; exact hcut⟩

namespace Storage

open UrlPath

variable {s : Storage} {uri : String} {url : Url} {site : Site}

/-- A URI that is no URL, or one with a drive for a scheme. -/
def NamesPath (uri : String) : Prop :=
  ∀ url, Url.parse? uri = some url → url.scheme ≠ "file" ∧ ¬ 1 < url.scheme.length

theorem siteOf?_of_namesPath (h : NamesPath uri) :
    s.siteOf? uri = (s.files.fileAt? (.ofText uri)).map .file := by
  unfold siteOf? Uri.isRemote Uri.toLocalPath
  cases hparse : Url.parse? uri with
  | none => rfl
  | some url =>
    obtain ⟨hfile, hshort⟩ := h url hparse
    simp [hfile, hshort]

theorem siteOf?_file (hparse : Url.parse? uri = some url) (hfile : url.scheme = "file") :
    s.siteOf? uri = url.filePath?.bind fun bytes => (s.files.fileAt? ⟨bytes⟩).map .file := by
  unfold siteOf? Uri.isRemote Uri.toLocalPath
  simp only [hparse, hfile, if_true]
  cases url.filePath? <;> rfl

theorem siteOf?_remote (hparse : Url.parse? uri = some url) (hfile : url.scheme ≠ "file")
    (hlong : 1 < url.scheme.length) (h : s.siteOf? uri = some site) :
    ∃ path key, Utf8.decodeChars? (Percent.decode url.path) = some path ∧
      RemoteLocation.keyOf? path = some key ∧
      site = .object (url.scheme ++ "://" ++ url.host.getD "") (String.ofList key) := by
  unfold siteOf? at h
  rw [if_pos ((Uri.isRemote_iff hparse).2 ⟨hfile, hlong⟩)] at h
  obtain ⟨location, hlocation, rfl⟩ := Option.map_eq_some_iff.1 h
  obtain ⟨hurl, -, hstore, path, hpath, hkey⟩ := RemoteLocation.parse?_eq_some_iff.1 hlocation
  obtain rfl := Option.some.inj (hparse.symm.trans hurl)
  exact ⟨path, _, hpath, hkey, by rw [hstore, String.ofList_toList]⟩

/-- Where a URL leads does not depend on how it is spelled. -/
theorem siteOf?_congr {uri' : String} (hparse : Url.parse? uri = some url)
    (hparse' : Url.parse? uri' = some url) (h : url.scheme = "file" ∨ 1 < url.scheme.length) :
    s.siteOf? uri = s.siteOf? uri' := by
  have hremote : Uri.isRemote uri = Uri.isRemote uri' := by
    unfold Uri.isRemote
    rw [hparse, hparse']
  have hlocation : (RemoteLocation.parse? uri).map (fun l => Site.object l.store l.key) =
      (RemoteLocation.parse? uri').map fun l => .object l.store l.key := by
    unfold RemoteLocation.parse?
    rw [hparse, hparse', hremote]
  by_cases hfile : url.scheme = "file"
  · rw [siteOf?_file hparse hfile, siteOf?_file hparse' hfile]
  · have hlong : 1 < url.scheme.length := h.resolve_left hfile
    have hremote' := (Uri.isRemote_iff hparse').2 ⟨hfile, hlong⟩
    unfold siteOf?
    rw [hremote, if_pos hremote', if_pos hremote', hlocation]

variable {c : StorageConfig} {id id' : FreshId} {stem stem' : Option String}

/-- **Under a prefix that cuts off** all uploads go to the place of the prefix. -/
theorem siteOf?_cutsOff (h : c.CutsOff) :
    s.siteOf? (c.remotePath id stem none) = s.siteOf? c.outputPrefix := by
  obtain ⟨url, hparse, hplace, hmark⟩ := h
  have hparse' : Url.parse? (c.remotePath id stem none) = some url := by
    rw [Url.parse?_of_mark (FreshId.toList_remotePath c id stem)
      (fun hfree => Url.queryFree_iff.1 hfree hmark) (id.segments_ne_nil stem)
      (id.isPlain_segments stem), hparse]
  exact siteOf?_congr hparse' hparse hplace

theorem text_inj (h : Utf8.encode id.text = Utf8.encode id'.text) : id.text = id'.text :=
  String.toList_inj.1 (Utf8.encodeChars_inj h)

/-- Two paths by their text are at two places. -/
theorem siteOf?_namesPath_inj (hpath : NamesPath (c.remotePath id stem none))
    (hpath' : NamesPath (c.remotePath id' stem' none))
    (hsite : s.siteOf? (c.remotePath id stem none) = some site)
    (hsite' : s.siteOf? (c.remotePath id' stem' none) = some site) : id.text = id'.text := by
  have hthrough : ∀ (id : FreshId) (stem : Option String),
      FilePath.Through (.ofText (c.remotePath id stem none)) (Utf8.encodeChars c.outputPrefix.toList)
        (Utf8.encode id.text) := by
    intro id stem
    refine FreshId.through ((stem.bind Uri.fileName?).map fun name =>
      Utf8.encode (Percent.encodeComponent name)) [] ?_ (.inl rfl)
      fun _ => FreshId.isPart_component
    rw [List.append_nil, FilePath.ofText, Utf8.encode, FreshId.toList_remotePath,
      FreshId.encode_segments]
  rw [siteOf?_of_namesPath hpath, Option.map_eq_some_iff] at hsite
  rw [siteOf?_of_namesPath hpath', Option.map_eq_some_iff] at hsite'
  obtain ⟨place, hplace, rfl⟩ := hsite
  obtain ⟨place', hplace', heq⟩ := hsite'
  cases heq
  exact text_inj (FilePath.Through.name_inj id.isName.isName_encode id'.isName.isName_encode
    (hthrough id stem) (hthrough id' stem') hplace hplace')

/-- Two files of this host are at two places. -/
theorem siteOf?_below_file_inj {base : Url} (hfile : base.scheme = "file")
    (hparse : Url.parse? (c.remotePath id stem none) = some (base.below (id.segments stem)))
    (hparse' : Url.parse? (c.remotePath id' stem' none) = some (base.below (id'.segments stem')))
    (hsite : s.siteOf? (c.remotePath id stem none) = some site)
    (hsite' : s.siteOf? (c.remotePath id' stem' none) = some site) : id.text = id'.text := by
  have hthrough : ∀ (id : FreshId) (stem : Option String) (bytes : Bytes),
      (base.below (id.segments stem)).filePath? = some bytes →
      FilePath.Through ⟨bytes⟩ (Percent.decode base.path) (Utf8.encode id.text) := by
    intro id stem bytes hbytes
    have hpath := FreshId.decode_segments base.path id stem
    rcases Url.filePath?_eq_some hbytes with rfl | rfl
    · exact FreshId.through _ [] (hpath.trans (List.append_nil _).symm) (.inl rfl)
        fun _ => FreshId.isPart_fileName
    · exact FreshId.through _ [FilePath.slash] (congrArg (· ++ [FilePath.slash]) hpath) (.inr rfl)
        fun _ => FreshId.isPart_fileName
  rw [siteOf?_file hparse hfile, Option.bind_eq_some_iff] at hsite
  rw [siteOf?_file hparse' hfile, Option.bind_eq_some_iff] at hsite'
  obtain ⟨bytes, hbytes, hsite⟩ := hsite
  obtain ⟨bytes', hbytes', hsite'⟩ := hsite'
  obtain ⟨place, hplace, rfl⟩ := Option.map_eq_some_iff.1 hsite
  obtain ⟨place', hplace', heq⟩ := Option.map_eq_some_iff.1 hsite'
  cases heq
  exact text_inj (FilePath.Through.name_inj id.isName.isName_encode id'.isName.isName_encode
    (hthrough id stem bytes hbytes) (hthrough id' stem' bytes' hbytes') hplace hplace')

/-- Two objects below one URL have two keys. -/
theorem siteOf?_below_object_inj {base : Url} (hfile : base.scheme ≠ "file")
    (hlong : 1 < base.scheme.length)
    (hparse : Url.parse? (c.remotePath id stem none) = some (base.below (id.segments stem)))
    (hparse' : Url.parse? (c.remotePath id' stem' none) = some (base.below (id'.segments stem')))
    (hsite : s.siteOf? (c.remotePath id stem none) = some site)
    (hsite' : s.siteOf? (c.remotePath id' stem' none) = some site) : id.text = id'.text := by
  obtain ⟨path, key, hread, hkey, rfl⟩ := siteOf?_remote hparse hfile hlong hsite
  obtain ⟨path', key', hread', hkey', heq⟩ := siteOf?_remote hparse' hfile hlong hsite'
  have hsame : key = key' := by
    rw [Site.object.injEq] at heq
    have htext := congrArg String.toList heq.2
    rwa [String.toList_ofList, String.toList_ofList] at htext
  subst hsame
  obtain ⟨hpath, hhead, hne, hlast⟩ := FreshId.of_read_below hread
  obtain ⟨hpath', hhead', hne', hlast'⟩ := FreshId.of_read_below hread'
  obtain rfl := RemoteLocation.keyOf?_inj (hhead.trans hhead'.symm) hne hne' hlast hlast' hkey hkey'
  have hbehind := (List.cons.inj (List.append_cancel_left (hpath.symm.trans hpath'))).2
  refine text_inj (List.append_inj hbehind ?_).1
  rw [id.length_encode, id'.length_encode]

/-- A URI without a file on this host leads to the file of its text or to an object. -/
theorem siteOf?_cases
    (hfile : ∀ url, Url.parse? uri = some url → url.scheme = "file" → url.filePath? = none)
    (hsite : s.siteOf? uri = some site) :
    NamesPath uri ∧ (∃ place, site = .file place) ∨
      ∃ url key, Url.parse? uri = some url ∧ url.scheme ≠ "file" ∧
        site = .object (url.scheme ++ "://" ++ url.host.getD "") key := by
  by_cases hpath : NamesPath uri
  · rw [siteOf?_of_namesPath hpath, Option.map_eq_some_iff] at hsite
    obtain ⟨place, -, rfl⟩ := hsite
    exact .inl ⟨hpath, place, rfl⟩
  · unfold NamesPath at hpath
    simp only [not_forall, not_and, not_not] at hpath
    obtain ⟨url, hparse, hlong⟩ := hpath
    by_cases hscheme : url.scheme = "file"
    · rw [siteOf?_file hparse hscheme, hfile url hparse hscheme] at hsite
      cases hsite
    · obtain ⟨_, key, -, -, rfl⟩ := siteOf?_remote hparse hscheme (hlong hscheme) hsite
      exact .inr ⟨url, _, hparse, hscheme, rfl⟩

/-- Two ids that stand where a host is to come are two hosts. -/
theorem siteOf?_awaited_inj {text : List Char} (hawaits : Url.AwaitsHost text)
    (hparse : ∀ (id : FreshId) (stem : Option String), Url.parse? (c.remotePath id stem none) =
      Url.ofTrimmed? (text ++ render (id.segments stem)))
    (hsite : s.siteOf? (c.remotePath id stem none) = some site)
    (hsite' : s.siteOf? (c.remotePath id' stem' none) = some site) : id.text = id'.text := by
  have hosts : ∀ {id id' : FreshId} {stem stem' : Option String} {url url' : Url},
      Url.parse? (c.remotePath id stem none) = some url →
      Url.parse? (c.remotePath id' stem' none) = some url' →
      url.scheme = url'.scheme ∧ (url.scheme = "file" → url.filePath? = none) ∧
        (url.scheme ≠ "file" → ∃ host host', url.host = some host ∧ url'.host = some host' ∧
          (host = host' → id.digits = id'.digits)) := by
    intro id id' stem stem' url url' hurl hurl'
    rw [hparse] at hurl hurl'
    exact hawaits.hosts id.isDigit id'.isDigit id.length_eq id'.length_eq
      (List.forall_mem_cons.1 (id.isPlain_segments stem)).2
      (List.forall_mem_cons.1 (id'.isPlain_segments stem')).2 hurl hurl'
  have hnone : ∀ (id : FreshId) (stem : Option String), ∀ url,
      Url.parse? (c.remotePath id stem none) = some url → url.scheme = "file" →
      url.filePath? = none := fun id stem url hurl => (hosts hurl hurl).2.1
  rcases siteOf?_cases (hnone id stem) hsite with ⟨hpath, place, rfl⟩ | ⟨url, key, hurl, hfile, rfl⟩
  · rcases siteOf?_cases (hnone id' stem') hsite' with ⟨hpath', -⟩ | ⟨_, _, _, _, heq⟩
    · exact siteOf?_namesPath_inj hpath hpath' hsite hsite'
    · cases heq
  · rcases siteOf?_cases (hnone id' stem') hsite' with ⟨_, _, heq⟩ | ⟨url', key', hurl', hfile', heq⟩
    · cases heq
    · obtain ⟨hscheme, -, hnames⟩ := hosts hurl hurl'
      obtain ⟨host, host', hhost, hhost', hdigits⟩ := hnames hfile
      rw [Site.object.injEq, hscheme, hhost, hhost', Option.getD_some, Option.getD_some] at heq
      have hsame : host = host' := by
        have htext := congrArg String.toList heq.1
        simp only [String.toList_append] at htext
        exact String.toList_inj.1 (List.append_cancel_left htext)
      rw [FreshId.text, FreshId.text, hdigits hsame]

/-- **Under any other prefix each id has a place of its own.** -/
theorem siteOf?_remotePath_inj (hkeeps : ¬ c.CutsOff)
    (hsite : s.siteOf? (c.remotePath id stem none) = some site)
    (hsite' : s.siteOf? (c.remotePath id' stem' none) = some site) : id.text = id'.text := by
  have hparse : ∀ (id : FreshId) (stem : Option String), Url.parse? (c.remotePath id stem none) =
      Url.ofTrimmed? (c.outputPrefix.toList.dropWhile Url.isOuter ++ render (id.segments stem)) :=
    fun id stem => Url.parse?_append_render (FreshId.toList_remotePath c id stem)
      (id.segments_ne_nil stem) (id.isPlain_segments stem)
  by_cases hfree : Url.QueryFree c.outputPrefix.toList
  · have hfree' : Url.QueryFree (c.outputPrefix.toList.dropWhile Url.isOuter) :=
      hfree.of_subset fun d hd => (List.dropWhile_sublist _).subset hd
    by_cases hawaits : Url.AwaitsHost (c.outputPrefix.toList.dropWhile Url.isOuter)
    · exact siteOf?_awaited_inj hawaits hparse hsite hsite'
    · -- all URIs are below one URL, and its scheme says what they are read as
      obtain ⟨base?, hbase⟩ := Url.ofTrimmed?_render hfree' hawaits
      have hbelow : ∀ (id : FreshId) (stem : Option String),
          Url.parse? (c.remotePath id stem none) = base?.map (·.below (id.segments stem)) :=
        fun id stem => (hparse id stem).trans
          (hbase _ (id.segments_ne_nil stem) (id.isPlain_segments stem))
      cases base? with
      | none =>
        have hpath : ∀ (id : FreshId) (stem : Option String),
            NamesPath (c.remotePath id stem none) := by
          intro id stem url hurl
          rw [hbelow] at hurl
          cases hurl
        exact siteOf?_namesPath_inj (hpath id stem) (hpath id' stem') hsite hsite'
      | some base =>
        by_cases hfile : base.scheme = "file"
        · exact siteOf?_below_file_inj hfile (hbelow id stem) (hbelow id' stem') hsite hsite'
        by_cases hlong : 1 < base.scheme.length
        · exact siteOf?_below_object_inj hfile hlong (hbelow id stem) (hbelow id' stem') hsite hsite'
        · have hpath : ∀ (id : FreshId) (stem : Option String),
              NamesPath (c.remotePath id stem none) := by
            intro id stem url hurl
            rw [hbelow] at hurl
            cases hurl
            exact ⟨hfile, hlong⟩
          exact siteOf?_namesPath_inj (hpath id stem) (hpath id' stem') hsite hsite'
  · -- nothing behind the query is read, so the prefix is no URL of an object or of a file
    have hmark : '?' ∈ c.outputPrefix.toList ∨ '#' ∈ c.outputPrefix.toList :=
      not_not.1 fun hnot => hfree (Url.queryFree_iff.2 hnot)
    have hpath : ∀ (id : FreshId) (stem : Option String),
        NamesPath (c.remotePath id stem none) := by
      intro id stem url hurl
      rw [Url.parse?_of_mark (FreshId.toList_remotePath c id stem) hfree (id.segments_ne_nil stem)
        (id.isPlain_segments stem)] at hurl
      rw [← not_or]
      exact fun hplace => hkeeps ⟨url, hurl, hplace, hmark⟩
    exact siteOf?_namesPath_inj (hpath id stem) (hpath id' stem') hsite hsite'

end Storage

end Workflow
