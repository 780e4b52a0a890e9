import Workflow.Proofs.Calls
import Workflow.Proofs.Storage.Files
import Workflow.Proofs.Storage.Objects

/-!
# Content of storage

A URI leads to a `Site`, a file or an object, and content is kept by site: two URIs of one site name
the same content.

* `getBytes_eq_ok`: a URI is read when there is content at its site.
* `getBytes_within_of`, `putBytes_within_of`: how a call relates the storage it finds to the one it
  leaves, by what its steps do.
* `putBytes_stored`: an upload puts content at the site of its URI and nowhere else.
* `getData_reads`: a download brings content from the site of its URI to a path.
-/

namespace Workflow

/-- Where content is kept. -/
inductive Site where
  | object (store key : String)
  | file (place : Location)
deriving DecidableEq

namespace Storage

open Calls

variable {s s' s'' : Storage} {uri : String} {content : Bytes} {headers : UploadHeaders}

/-- The site that a URI leads to. -/
def siteOf? (s : Storage) (uri : String) : Option Site :=
  if Uri.isRemote uri then (RemoteLocation.parse? uri).map fun l => .object l.store l.key
  else
    match Uri.toLocalPath uri with
    | .ok p => (s.files.fileAt? p).map .file
    | .error _ => none

/-- The content at a site. -/
def contentAt? (s : Storage) : Site → Option Bytes
  | .object store key => (s.stores.objectOf? store key).map (·.content)
  | .file place =>
    match s.files.entryAt? place with
    | some (.file content) => some content
    | _ => none

theorem contentAt?_file (place : Location) :
    s.contentAt? (.file place) = some content ↔ s.files.entryAt? place = some (.file content) := by
  simp only [contentAt?]
  split
  · rename_i c h
    rw [h]
    simp
  · rename_i h
    simp only [reduceCtorEq, false_iff]
    exact h content

theorem read_eq_ok (p : FilePath) : s.files.read p = .ok content ↔
    ∃ place, s.files.fileAt? p = some place ∧ s.contentAt? (.file place) = some content := by
  simp only [FileSystem.read_eq_ok, contentAt?_file]

/-! ## Reading -/

theorem outcome_locate (uri : String) : outcome (locate uri) s =
    match RemoteLocation.parse? uri with
    | some location => (.ok location, s)
    | none => (.error (.invalidUri uri), s) := by
  unfold locate
  cases RemoteLocation.parse? uri <;> rfl

/-- The bucket of a store is the one that the store has, or a new one. -/
theorem outcome_bucketOf (location : RemoteLocation) : outcome (bucketOf location) s =
    match s.stores.routes.lookup location.store with
    | some bucket => (.ok bucket, s)
    | none =>
      if location.url.scheme = "memory" ∧ location.url.host = none then
        (.ok (s.stores.openStore location.store).2,
          { s with stores := (s.stores.openStore location.store).1 })
      else (.error .backend, s) := by
  unfold bucketOf
  rw [outcome_get_bind]
  cases s.stores.routes.lookup location.store with
  | some bucket => rfl
  | none =>
    simp only
    split
    · rfl
    · rfl

/-- **An object is read** when there is one at the site of the URI. -/
theorem getRemote_eq_ok : (outcome (getRemote uri) s).1 = .ok content ↔
    ∃ location, RemoteLocation.parse? uri = some location ∧
      s.contentAt? (.object location.store location.key) = some content := by
  unfold getRemote
  rw [outcome_modify_bind, outcome_bind, outcome_locate]
  cases RemoteLocation.parse? uri with
  | none => simp
  | some location =>
    simp only [Option.some.injEq, exists_eq_left', contentAt?, Stores.objectOf?]
    rw [outcome_bind, outcome_bucketOf]
    simp only
    cases s.stores.routes.lookup location.store with
    | some bucket =>
      simp only [Option.bind_some, outcome_get_bind]
      cases s.stores.object? bucket location.key <;> simp
    | none =>
      simp only [Option.bind_none, Option.map_none, reduceCtorEq, iff_false]
      -- a store that is opened by the call has no objects yet
      split
      · rename_i h
        split at h
        · cases h
          simp [Stores.openStore, Stores.object?]
        · cases h
      · simp

theorem getLocal_eq_ok : (outcome (getLocal uri) s).1 = .ok content ↔
    ∃ p, Uri.toLocalPath uri = .ok p ∧ s.files.read p = .ok content := by
  unfold getLocal localPath
  cases Uri.toLocalPath uri with
  | error e => simp
  | ok p =>
    simp only [outcome_pure_bind, outcome_get_bind, Except.ok.injEq, exists_eq_left']
    split
    · rename_i h
      simp [h]
    · rename_i h
      simp [h]
    · rename_i h
      simp [h]

/-- **A URI is read** when there is content at its site. -/
theorem getBytes_eq_ok : (outcome (getBytes uri) s).1 = .ok content ↔
    ∃ site, s.siteOf? uri = some site ∧ s.contentAt? site = some content := by
  unfold getBytes siteOf?
  split
  · rw [getRemote_eq_ok]
    simp only [Option.map_eq_some_iff]
    constructor
    · rintro ⟨location, hlocation, hcontent⟩
      exact ⟨_, ⟨location, hlocation, rfl⟩, hcontent⟩
    · rintro ⟨_, ⟨location, hlocation, rfl⟩, hcontent⟩
      exact ⟨location, hlocation, hcontent⟩
  · rw [getLocal_eq_ok]
    cases Uri.toLocalPath uri with
    | error e => simp
    | ok p =>
      simp only [Except.ok.injEq, exists_eq_left', Option.map_eq_some_iff, read_eq_ok]
      constructor
      · rintro ⟨place, hplace, hcontent⟩
        exact ⟨_, ⟨place, hplace, rfl⟩, hcontent⟩
      · rintro ⟨_, ⟨place, hplace, rfl⟩, hcontent⟩
        exact ⟨place, hplace, hcontent⟩

/-! ## What a call keeps -/

section

variable {R : Storage → Storage → Prop} (hrefl : ∀ s, R s s)

include hrefl

theorem localPath_within_of (uri : String) : Within R (localPath uri) := by
  unfold localPath
  split
  · exact .pure hrefl _
  · exact .throw hrefl _

/-- What follows a location is done at the one that the URI names. -/
theorem locate_bind_within_of {α : Type} {f : RemoteLocation → Action α}
    (h : ∀ l, RemoteLocation.parse? uri = some l → Within R (f l)) :
    Within R (locate uri >>= f) := by
  unfold locate
  split
  · rename_i l hparse
    exact h l hparse
  · exact .throw_bind hrefl _

omit hrefl in
theorem onFiles_within_of (hfiles : ∀ (s : Storage) files, R s { s with files })
    (f : FileSystem → FileSystem × Except OsError Unit) : Within R (onFiles f) := by
  intro s
  unfold onFiles
  rw [outcome_get_bind]
  rcases f s.files with ⟨files, e | ⟨⟨⟩⟩⟩
  · exact hfiles s files
  · exact hfiles s files

theorem createParent_within_of (hfiles : ∀ (s : Storage) files, R s { s with files })
    (p : FilePath) : Within R (createParent p) := by
  unfold createParent
  split
  · exact onFiles_within_of hfiles _
  · exact .pure hrefl _

variable (htrans : ∀ {s t u}, R s t → R t u → R s u)

include htrans

theorem getLocal_within_of (uri : String) : Within R (getLocal uri) := by
  refine .bind htrans (localPath_within_of hrefl uri) fun p => .get_bind fun s => ?_
  split
  · exact hrefl s
  · exact hrefl s
  · exact hrefl s

/-- **Reading** keeps what is kept where a read is counted and a bucket is found. -/
theorem getBytes_within_of
    (hcount : ∀ s : Storage, R s { s with traffic := { s.traffic with gets := s.traffic.gets + 1 } })
    (hbucket : ∀ l, RemoteLocation.parse? uri = some l → Within R (bucketOf l)) :
    Within R (getBytes uri) := by
  unfold getBytes
  split
  · refine .bind htrans (.modify hcount) fun _ => ?_
    refine locate_bind_within_of hrefl fun l hparse => ?_
    refine .bind htrans (hbucket l hparse) fun bucket => .get_bind fun s => ?_
    split
    · exact hrefl s
    · exact hrefl s
  · exact getLocal_within_of hrefl htrans uri

/-- **An upload to a store** keeps what is kept where it is counted, a bucket is found and the
object is put. -/
theorem putRemote_within_of
    (hcount : ∀ s : Storage, R s { s with traffic := { s.traffic with puts := s.traffic.puts + 1 } })
    (hbucket : ∀ l, RemoteLocation.parse? uri = some l → Within R (bucketOf l))
    (hput : ∀ (s : Storage) bucket key object,
      R s { s with stores := s.stores.put bucket key object }) :
    Within R (putRemote uri content headers) := by
  refine .bind htrans (.modify hcount) fun _ => ?_
  refine locate_bind_within_of hrefl fun l hparse => ?_
  exact .bind htrans (hbucket l hparse) fun bucket => .modify fun s => hput s bucket _ _

theorem putLocal_within_of (hfiles : ∀ (s : Storage) files, R s { s with files }) :
    Within R (putLocal uri content) := by
  refine .bind htrans (localPath_within_of hrefl uri) fun p => ?_
  refine .bind htrans (createParent_within_of hrefl hfiles p) fun _ => ?_
  exact onFiles_within_of hfiles _

/-- An upload keeps what both kinds of it keep. -/
theorem putBytes_within_of (hremote : Within R (putRemote uri content headers))
    (hlocal : Within R (putLocal uri content)) : Within R (putBytes uri content headers) := by
  unfold putBytes
  split
  · exact .bind htrans hremote fun _ => .pure hrefl _
  · exact .bind htrans hlocal fun _ => .pure hrefl _

end

/-! ## Files apart from stores -/

/-- All but the stores and the count of traffic is the same, and no store has come to share a
bucket. -/
structure SameFiles (s s' : Storage) : Prop where
  config : s'.config = s.config
  files : s'.files = s.files
  supply : s'.supply = s.supply
  drawn : s'.drawn = s.drawn
  sound : s.stores.Sound → s'.stores.Sound

theorem SameFiles.refl (s : Storage) : s.SameFiles s := ⟨rfl, rfl, rfl, rfl, id⟩

theorem SameFiles.trans (h : s.SameFiles s') (h' : s'.SameFiles s'') : s.SameFiles s'' where
  config := h'.config.trans h.config
  files := h'.files.trans h.files
  supply := h'.supply.trans h.supply
  drawn := h'.drawn.trans h.drawn
  sound := fun hs => h'.sound (h.sound hs)

theorem locate_within (uri : String) : Within SameFiles (locate uri) := by
  unfold locate
  split
  · exact .pure .refl _
  · exact .throw .refl _

theorem bucketOf_within (location : RemoteLocation) : Within SameFiles (bucketOf location) := by
  intro s
  rw [outcome_bucketOf]
  split
  · exact .refl s
  · split
    · exact ⟨rfl, rfl, rfl, rfl, fun hs => hs.openStore _⟩
    · exact .refl s

/-- **Reading** leaves the files and the configuration. -/
theorem getBytes_within (uri : String) : Within SameFiles (getBytes uri) :=
  getBytes_within_of .refl .trans (fun _ => ⟨rfl, rfl, rfl, rfl, id⟩) fun l _ => bucketOf_within l

theorem putRemote_within (uri : String) (content : Bytes) (headers : UploadHeaders) :
    Within SameFiles (putRemote uri content headers) :=
  putRemote_within_of .refl .trans (fun _ => ⟨rfl, rfl, rfl, rfl, id⟩)
    (fun l _ => bucketOf_within l) fun _ _ _ _ => ⟨rfl, rfl, rfl, rfl, fun hs => hs.put _ _ _⟩

/-- **An upload to a store** leaves the files and the configuration. -/
theorem putBytes_within (hremote : Uri.isRemote uri = true) (content : Bytes)
    (headers : UploadHeaders) : Within SameFiles (putBytes uri content headers) := by
  unfold putBytes
  rw [if_pos hremote]
  exact .bind .trans (putRemote_within uri content headers) fun _ => .pure .refl uri

/-! ## Writing -/

/-- What is in storage once content was put at the site of a URI. -/
structure Stored (s s' : Storage) (uri : String) (site : Site) (content : Bytes) : Prop where
  config : s'.config = s.config
  supply : s'.supply = s.supply
  drawn : s'.drawn = s.drawn
  sound : s'.stores.Sound
  siteOf? : s'.siteOf? uri = some site
  contentAt? : ∀ other,
    s'.contentAt? other = if other = site then some content else s.contentAt? other

/-- Opening a bucket changes no object. -/
theorem bucketOf_stores (hs : s.stores.Sound) {location : RemoteLocation} {bucket : Nat}
    (h : outcome (bucketOf location) s = (.ok bucket, s')) :
    s'.stores.Sound ∧ s'.stores.routes.lookup location.store = some bucket ∧
      ∀ a k, s'.stores.objectOf? a k = s.stores.objectOf? a k := by
  rw [outcome_bucketOf] at h
  split at h
  · rename_i hroute
    cases h
    exact ⟨hs, hroute, fun _ _ => rfl⟩
  · rename_i hroute
    split at h
    · cases h
      refine ⟨hs.openStore _, ?_, fun a k => ?_⟩
      · rw [Stores.lookup_openStore, if_pos rfl]
        rfl
      · rw [Stores.objectOf?_openStore hs]
        split
        · rename_i ha
          rw [Stores.objectOf?, ha, hroute]
          rfl
        · rfl
    · cases h

theorem putRemote_stored (hs : s.stores.Sound) (hremote : Uri.isRemote uri = true)
    {headers : UploadHeaders} (h : outcome (putRemote uri content headers) s = (.ok (), s')) :
    ∃ site, s.Stored s' uri site content := by
  unfold putRemote at h
  rw [outcome_modify_bind, bind_eq_ok] at h
  obtain ⟨location, t, hlocation, h⟩ := h
  rw [outcome_locate] at hlocation
  split at hlocation
  · rename_i found hparse
    cases hlocation
    obtain ⟨bucket, t', hbucket, h⟩ := bind_eq_ok.1 h
    have hsame := bucketOf_within location
      { s with traffic := { s.traffic with puts := s.traffic.puts + 1 } }
    rw [hbucket] at hsame
    have hfiles : t'.files = s.files := hsame.files
    obtain ⟨hsound, hroute, hobjects⟩ := bucketOf_stores (by exact hs) hbucket
    rw [outcome_modify] at h
    cases h
    refine ⟨.object location.store location.key, hsame.config, hsame.supply, hsame.drawn,
      hsound.put _ _ _, ?_, ?_⟩
    · simp only [Storage.siteOf?, hremote, if_true, hparse, Option.map_some]
    · intro other
      cases other with
      | file place => simp only [Storage.contentAt?, hfiles, reduceCtorEq, if_false]
      | object store key =>
        simp only [Storage.contentAt?, Stores.objectOf?_put hsound hroute, hobjects,
          Site.object.injEq]
        split
        · rfl
        · rfl
  · cases hlocation

/-- Storage with other files. -/
def withFiles (s : Storage) (files : FileSystem) : Storage := { s with files }

@[simp] theorem withFiles_files (files : FileSystem) : (s.withFiles files).files = files := rfl

theorem outcome_onFiles (f : FileSystem → FileSystem × Except OsError Unit) :
    outcome (onFiles f) s =
      match f s.files with
      | (files, .ok ()) => (.ok (), s.withFiles files)
      | (files, .error e) => (.error (.io e), s.withFiles files) := by
  unfold onFiles
  rw [outcome_get_bind]
  rcases f s.files with ⟨files, ⟨⟩ | ⟨⟨⟩⟩⟩
  · rfl
  · rfl

theorem outcome_createParent (p : FilePath) : outcome (createParent p) s =
    match s.files.createParent p with
    | (files, .ok ()) => (.ok (), s.withFiles files)
    | (files, .error e) => (.error (.io e), s.withFiles files) := by
  unfold createParent FileSystem.createParent
  cases p.parent? with
  | some dir => exact outcome_onFiles _
  | none => rfl

theorem createParent_eq_ok {p : FilePath} : outcome (createParent p) s = (.ok (), s') ↔
    ∃ files, s.files.createParent p = (files, .ok ()) ∧ s' = s.withFiles files := by
  rw [outcome_createParent]
  rcases s.files.createParent p with ⟨files, e | ⟨⟨⟩⟩⟩
  · simp
  · simp [eq_comm]

theorem writeFile_eq_ok {p : FilePath} : outcome (writeFile p content) s = (.ok (), s') ↔
    ∃ files, s.files.write p content = .ok files ∧ s' = s.withFiles files := by
  unfold writeFile
  rw [outcome_onFiles]
  cases s.files.write p content with
  | error e => simp
  | ok files => simp [eq_comm]

theorem readFile_eq_ok {p : FilePath} : outcome (readFile p) s = (.ok content, s') ↔
    s.files.read p = .ok content ∧ s' = s := by
  unfold readFile
  rw [outcome_get_bind]
  cases s.files.read p with
  | error e => simp
  | ok found => simp [eq_comm]

/-- A file written to a path is the one file that changes, whatever directories were made for it. -/
theorem contentAt?_write {files files' : FileSystem} {p : FilePath} {place : Location}
    (hextends : s.files.Extends files) (hplace : files.fileAt? p = some place)
    (hset : files' = files.set place (.file content)) (other : Site) :
    (s.withFiles files').contentAt? other =
      if other = .file place then some content else s.contentAt? other := by
  have hne := FileSystem.resolve_ne_nil (FileSystem.fileAt?_eq_some.1 hplace).1
  cases other with
  | object store key =>
    rw [if_neg (by simp)]
    rfl
  | file m =>
    refine Option.ext fun c => ?_
    rw [contentAt?_file, withFiles_files, hset, FileSystem.entryAt?_set_of_ne hne]
    by_cases hm : m = place
    · simp [hm]
    · simp only [Site.file.injEq, if_neg hm, hextends.file_iff, contentAt?_file]

theorem putLocal_stored (hs : s.stores.Sound) (hlocal : Uri.isRemote uri = false)
    (h : outcome (putLocal uri content) s = (.ok (), s')) :
    ∃ site, s.Stored s' uri site content := by
  unfold putLocal at h
  obtain ⟨p, t, hpath, h⟩ := bind_eq_ok.1 h
  unfold localPath at hpath
  split at hpath
  · rename_i path hpath'
    cases hpath
    obtain ⟨⟨⟩, t, hparent, h⟩ := bind_eq_ok.1 h
    obtain ⟨files, hmade, rfl⟩ := createParent_eq_ok.1 hparent
    have hextends := FileSystem.createParent_extends s.files p
    rw [hmade] at hextends
    obtain ⟨files', hwrite, rfl⟩ := writeFile_eq_ok.1 h
    rw [withFiles_files] at hwrite
    obtain ⟨place, hplace, -, hset⟩ := FileSystem.write_eq_ok.1 hwrite
    refine ⟨.file place, rfl, rfl, rfl, hs, ?_, contentAt?_write hextends hplace hset⟩
    simp only [Storage.siteOf?, hlocal, Bool.false_eq_true, if_false, hpath', withFiles_files,
      FileSystem.fileAt?_write hwrite hplace, Option.map_some]
  · cases hpath

/-- **An upload** puts content at the site of its URI and nowhere else. -/
theorem putBytes_stored (hs : s.stores.Sound) {headers : UploadHeaders} {confirmed : String}
    (h : outcome (putBytes uri content headers) s = (.ok confirmed, s')) :
    confirmed = uri ∧ ∃ site, s.Stored s' uri site content := by
  unfold putBytes at h
  split at h
  · rename_i hremote
    obtain ⟨⟨⟩, t, hput, h⟩ := bind_eq_ok.1 h
    rw [outcome_pure] at h
    cases h
    exact ⟨rfl, putRemote_stored hs hremote hput⟩
  · rename_i hlocal
    obtain ⟨⟨⟩, t, hput, h⟩ := bind_eq_ok.1 h
    rw [outcome_pure] at h
    cases h
    exact ⟨rfl, putLocal_stored hs (by simpa using hlocal) hput⟩

/-- A file is uploaded by reading it and writing what was read. -/
theorem putData_eq_ok {p : FilePath} {headers : UploadHeaders} {confirmed : String}
    (h : outcome (putData p uri headers) s = (.ok confirmed, s')) :
    ∃ content, s.files.read p = .ok content ∧
      outcome (putBytes uri content headers) s = (.ok confirmed, s') := by
  unfold putData at h
  obtain ⟨content, t, hread, hput⟩ := bind_eq_ok.1 h
  obtain ⟨hfound, rfl⟩ := readFile_eq_ok.1 hread
  exact ⟨content, hfound, hput⟩

/-- An upload to a store is counted once, one to the file system is not. -/
theorem putBytes_traffic {headers : UploadHeaders} {confirmed : String}
    (h : outcome (putBytes uri content headers) s = (.ok confirmed, s')) :
    s'.traffic =
      if Uri.isRemote uri then { s.traffic with puts := s.traffic.puts + 1 } else s.traffic := by
  unfold putBytes at h
  split
  · rename_i hremote
    rw [if_pos hremote] at h
    obtain ⟨⟨⟩, t, hput, hend⟩ := bind_eq_ok.1 h
    cases hend
    unfold putRemote at hput
    rw [outcome_modify_bind, bind_eq_ok] at hput
    obtain ⟨location, t₁, hlocate, hput⟩ := hput
    rw [outcome_locate] at hlocate
    split at hlocate
    · cases hlocate
      obtain ⟨bucket, t₂, hbucket, hput⟩ := bind_eq_ok.1 hput
      rw [outcome_modify] at hput
      cases hput
      -- to find the bucket opens a store at most
      rw [outcome_bucketOf] at hbucket
      split at hbucket
      · cases hbucket
        rfl
      · split at hbucket
        · cases hbucket
          rfl
        · cases hbucket
    · cases hlocate
  · rename_i hlocal
    rw [if_neg hlocal] at h
    obtain ⟨⟨⟩, t, hput, hend⟩ := bind_eq_ok.1 h
    cases hend
    unfold putLocal at hput
    obtain ⟨p, t₁, hpath, hput⟩ := bind_eq_ok.1 hput
    obtain ⟨⟨⟩, t₂, hparent, hput⟩ := bind_eq_ok.1 hput
    obtain ⟨files, -, rfl⟩ := createParent_eq_ok.1 hparent
    obtain ⟨files', -, rfl⟩ := writeFile_eq_ok.1 hput
    unfold localPath at hpath
    split at hpath
    · cases hpath
      rfl
    · cases hpath

/-- After an upload content is where it was uploaded to, and where it had been before. -/
theorem Stored.contentAt?_eq_some {site other : Site} (h : s.Stored s' uri site content) :
    s'.contentAt? other = some content ↔
      s'.siteOf? uri = some other ∨ s.contentAt? other = some content := by
  rw [h.contentAt?, h.siteOf?]
  by_cases hother : other = site
  · simp [hother]
  · simp [hother, Ne.symm hother]

/-! ## Downloads -/

/-- **A download** brings the content at the site of the URI to a path, if a file can be written
there. -/
theorem getData_reads {target : FilePath} :
    (∃ s', outcome (getData uri target) s = (.ok (), s') ∧ s'.files.read target = .ok content) ↔
      (∃ site, s.siteOf? uri = some site ∧ s.contentAt? site = some content) ∧
        s.files.Admits target := by
  have hframe := getBytes_within uri s
  rw [← getBytes_eq_ok]
  unfold getData
  constructor
  · rintro ⟨s', hdone, hread⟩
    obtain ⟨found, t, hget, hdone⟩ := bind_eq_ok.1 hdone
    obtain ⟨⟨⟩, t', hparent, hwrite⟩ := bind_eq_ok.1 hdone
    obtain ⟨files, hmade, rfl⟩ := createParent_eq_ok.1 hparent
    obtain ⟨files', hwritten, rfl⟩ := writeFile_eq_ok.1 hwrite
    rw [hget] at hframe ⊢
    -- reading leaves the files, so the directory is made among the same ones
    rw [hframe.files] at hmade
    have hsame := FileSystem.read_write hwritten
    rw [withFiles_files] at hread
    rw [hread] at hsame
    cases hsame
    exact ⟨rfl, .of_write hmade hwritten⟩
  · rintro ⟨hget, hadmits⟩
    rcases hend : outcome (getBytes uri) s with ⟨r, t⟩
    rw [hend] at hframe hget
    obtain rfl : r = .ok content := hget
    obtain ⟨files, place, hmade, hplace, hentry⟩ := hadmits
    rw [← hframe.files] at hmade
    have hwrite : files.write target content = .ok _ :=
      FileSystem.write_eq_ok.2 ⟨place, hplace, hentry, rfl⟩
    refine ⟨_, bind_eq_ok.2 ⟨content, t, hend, bind_eq_ok.2 ⟨(), _,
      createParent_eq_ok.2 ⟨files, hmade, rfl⟩, writeFile_eq_ok.2 ⟨_, hwrite, rfl⟩⟩⟩, ?_⟩
    exact FileSystem.read_write hwrite

end Storage

end Workflow
