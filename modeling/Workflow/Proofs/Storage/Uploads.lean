import Mathlib.Data.List.Nodup
import Workflow.Proofs.Storage.Destinations

/-!
# Uploads that are kept

Files are uploaded one after another, each to a URI with a fresh id in it. What was uploaded stays
unless a later upload goes to the same place, and that depends on the prefix.

* `Storage.uploadAll`: the transcript of a list of uploads, and the storage they leave.
* `Step`, `step_upload`: what one upload does, successful or not.
* `contentAt?_uploadAll`: content stays where no upload with other content goes.
* `uploads_kept`: every upload is read back exactly if the prefix does not cut off or there is one
  content only.
-/

namespace Workflow

open Calls

/-- An upload of a file: the id that was drawn for it, what the file held, and how it ended. -/
structure Upload where
  id : FreshId
  content : Except OsError Bytes
  answer : Except StorageError String

namespace Storage

variable {s s' : Storage} {source : FilePath} {headers : UploadHeaders}
  {sources : List (FilePath × UploadHeaders)} {uri : String} {content : Bytes} {site : Site}

/-- Uploads a file to a fresh URI. -/
def upload (s : Storage) (source : FilePath) (headers : UploadHeaders) : Upload × Storage :=
  let (answer, s') := outcome (putRawData source headers) s
  (⟨s.supply s.drawn, s.files.read source, answer⟩, s')

/-- The transcript of a list of uploads, and the storage they leave. -/
def uploadAll (s : Storage) : List (FilePath × UploadHeaders) → List Upload × Storage
  | [] => ([], s)
  | (source, headers) :: sources =>
    let (u, s') := s.upload source headers
    let (uploads, s'') := s'.uploadAll sources
    (u :: uploads, s'')

/-! ## Configurations -/

/-- The configuration is the same. -/
def SameConfig (s s' : Storage) : Prop := s'.config = s.config

theorem SameConfig.refl (s : Storage) : SameConfig s s := rfl

theorem SameConfig.trans {s s' s'' : Storage} (h : SameConfig s s') (h' : SameConfig s' s'') :
    SameConfig s s'' := Eq.trans h' h

theorem putBytes_sameConfig (uri : String) (content : Bytes) (headers : UploadHeaders) :
    Within SameConfig (putBytes uri content headers) :=
  putBytes_within_of .refl .trans ((putRemote_within uri content headers).mono (·.config))
    (putLocal_within_of .refl .trans fun _ _ => rfl)

theorem perform_sameConfig (call : Call) : Within SameConfig call.perform := by
  cases call with
  | register base =>
    intro s
    rw [Call.perform, outcome_bind, outcome_registerStore]
    cases RemoteLocation.parse? base <;> exact rfl
  | put uri content headers =>
    exact .bind .trans (putBytes_sameConfig uri content headers) fun _ => .pure .refl _
  | get uri =>
    exact .bind .trans ((getBytes_within uri).mono (·.config)) fun _ => .pure .refl _

theorem config_run (s : Storage) (calls : List Call) : (s.run calls).2.config = s.config := by
  induction calls generalizing s with
  | nil => rfl
  | cons call calls ih => exact (ih _).trans (perform_sameConfig call s)

theorem config_ofConfig {config : StorageConfig} {files : FileSystem} {supply : Nat → FreshId}
    (h : ofConfig config files supply = .ok s) : s.config = config := by
  unfold ofConfig at h
  split at h
  · cases h
  · cases h
    rfl

/-! ## One upload -/

/-- What an upload does: content comes to the place of its URI, which has the id in it, or nowhere
if it fails. -/
structure UploadStep (s s' : Storage) (u : Upload) : Prop where
  config : s'.config = s.config
  sound : s'.stores.Sound
  grows : s.Grows s'
  failed : ∀ e, u.answer = .error e → ∀ site, s'.contentAt? site = s.contentAt? site
  stored : ∀ uri, u.answer = .ok uri → ∃ stem content site,
    uri = s.config.remotePath u.id stem none ∧ u.content = .ok content ∧
      s'.siteOf? uri = some site ∧
        ∀ other, s'.contentAt? other = if other = site then some content else s.contentAt? other

/-- Storage from which one more id is drawn. -/
def drawNext (s : Storage) : Storage := { s with drawn := s.drawn + 1 }

theorem drawNext_sameContent (s : Storage) : s.SameContent s.drawNext :=
  ⟨grows_of_files rfl fun _ h => h, id, fun _ _ => rfl⟩

/-- An upload draws an id, then reads the file, then writes what was read. -/
theorem outcome_putRawData (source : FilePath) (headers : UploadHeaders) :
    outcome (putRawData source headers) s = outcome (putData source (s.config.remotePath
      (s.supply s.drawn) (source.fileName?.bind Utf8.decode?) none) headers) s.drawNext := by
  have huri : outcome (remotePath (source.fileName?.bind Utf8.decode?) none) s =
      (.ok (s.config.remotePath (s.supply s.drawn) (source.fileName?.bind Utf8.decode?) none),
        s.drawNext) := rfl
  unfold putRawData
  rw [outcome_bind, huri]

theorem step_upload (hs : s.stores.Sound) (source : FilePath) (headers : UploadHeaders) :
    s.UploadStep (s.upload source headers).2 (s.upload source headers).1 := by
  unfold upload
  rw [outcome_putRawData]
  generalize hstem : source.fileName?.bind Utf8.decode? = stem
  generalize huri : s.config.remotePath (s.supply s.drawn) stem none = uri
  have hdrawn := drawNext_sameContent s
  unfold putData
  rw [outcome_bind]
  rcases hread : outcome (readFile source) s.drawNext with ⟨e | content, t⟩
  · have hsame : t = s.drawNext := by
      unfold readFile at hread
      rw [outcome_get_bind] at hread
      split at hread
      · cases hread
      · cases hread
        rfl
    subst hsame
    refine ⟨rfl, hs, hdrawn.grows, fun _ _ => hdrawn.contentAt? hs, fun uri h => ?_⟩
    cases h
  · obtain ⟨hfile, rfl⟩ := readFile_eq_ok.1 hread
    have hconfig := putBytes_sameConfig uri content headers s.drawNext
    have hgrows := putBytes_grows uri content headers s.drawNext
    simp only
    rcases hput : outcome (putBytes uri content headers) s.drawNext with ⟨e | confirmed, s'⟩
    · have hfailed := hdrawn.trans (putBytes_failed hput)
      rw [hput] at hconfig
      refine ⟨hconfig, hfailed.sound hs, hfailed.grows, fun _ _ => hfailed.contentAt? hs,
        fun uri h => ?_⟩
      cases h
    · rw [hput] at hconfig hgrows
      obtain ⟨rfl, site, hstored⟩ := putBytes_stored (s := s.drawNext) hs hput
      refine ⟨hconfig, hstored.sound, hdrawn.grows.trans hgrows, nofun, fun uri h => ?_⟩
      cases h
      refine ⟨stem, content, site, huri.symm, hfile, hstored.siteOf?, fun other => ?_⟩
      rw [hstored.contentAt?, hdrawn.contentAt? hs]

/-! ## All uploads -/

theorem uploadAll_cons (s : Storage) (source : FilePath) (headers : UploadHeaders)
    (sources : List (FilePath × UploadHeaders)) :
    s.uploadAll ((source, headers) :: sources) =
      ((s.upload source headers).1 :: ((s.upload source headers).2.uploadAll sources).1,
        ((s.upload source headers).2.uploadAll sources).2) := rfl

theorem uploadAll_grows (hs : s.stores.Sound) (sources : List (FilePath × UploadHeaders)) :
    s.Grows (s.uploadAll sources).2 := by
  induction sources generalizing s with
  | nil => exact .refl s
  | cons call sources ih =>
    have hstep := step_upload hs call.1 call.2
    exact hstep.grows.trans (ih hstep.sound)

/-- Every upload that succeeds has its id in its URI. -/
theorem uri_of_mem_uploadAll (hs : s.stores.Sound) {u : Upload} (hu : u ∈ (s.uploadAll sources).1)
    (hok : u.answer = .ok uri) : ∃ stem, uri = s.config.remotePath u.id stem none := by
  induction sources generalizing s with
  | nil => cases hu
  | cons call sources ih =>
    have hstep := step_upload hs call.1 call.2
    rcases List.mem_cons.1 hu with rfl | hu
    · obtain ⟨stem, _, _, huri, -⟩ := hstep.stored uri hok
      exact ⟨stem, huri⟩
    · rw [← hstep.config]
      exact ih hstep.sound hu

/-- **Content stays** where no upload with other content goes. -/
theorem contentAt?_uploadAll (hs : s.stores.Sound) (hcontent : s.contentAt? site = some content)
    (hother : ∀ u ∈ (s.uploadAll sources).1, ∀ uri, u.answer = .ok uri →
      (s.uploadAll sources).2.siteOf? uri = some site → u.content = .ok content) :
    (s.uploadAll sources).2.contentAt? site = some content := by
  -- over the uploads; a URI leads in the end where it led when it was written
  induction sources generalizing s with
  | nil => exact hcontent
  | cons call sources ih =>
    have hstep := step_upload hs call.1 call.2
    have hgrows := uploadAll_grows hstep.sound sources
    rw [uploadAll_cons] at hother ⊢
    rw [List.forall_mem_cons] at hother
    refine ih hstep.sound ?_ hother.2
    cases hanswer : (s.upload call.1 call.2).1.answer with
    | error e => rw [hstep.failed e hanswer, hcontent]
    | ok uri =>
      obtain ⟨stem, found, place, -, hfound, hplace, hwritten⟩ := hstep.stored uri hanswer
      rw [hwritten]
      split
      · rename_i hsite
        have hsame := hother.1 uri hanswer (hsite ▸ hgrows.siteOf? uri place hplace)
        rw [hfound] at hsame
        cases hsame
        rfl
      · exact hcontent

/-- Every upload is read back if no two with different contents go to one place. -/
theorem readBack_uploadAll (hs : s.stores.Sound)
    (hpairs : ∀ u ∈ (s.uploadAll sources).1, ∀ v ∈ (s.uploadAll sources).1, ∀ uri uri' site,
      u.answer = .ok uri → v.answer = .ok uri' → (s.uploadAll sources).2.siteOf? uri = some site →
      (s.uploadAll sources).2.siteOf? uri' = some site → u.content = v.content) :
    ∀ u ∈ (s.uploadAll sources).1, ∀ uri, u.answer = .ok uri → ∃ content site,
      u.content = .ok content ∧ (s.uploadAll sources).2.siteOf? uri = some site ∧
        (s.uploadAll sources).2.contentAt? site = some content := by
  induction sources generalizing s with
  | nil => exact nofun
  | cons call sources ih =>
    have hstep := step_upload hs call.1 call.2
    have hgrows := uploadAll_grows hstep.sound sources
    rw [uploadAll_cons] at hpairs ⊢
    rw [List.forall_mem_cons]
    constructor
    · intro uri hok
      obtain ⟨stem, content, site, -, hcontent, hsite, hwritten⟩ := hstep.stored uri hok
      have hfinal := hgrows.siteOf? uri site hsite
      refine ⟨content, site, hcontent, hfinal, contentAt?_uploadAll hstep.sound ?_ ?_⟩
      · rw [hwritten, if_pos rfl]
      · intro v hv uri' hok' hsite'
        rw [← hcontent]
        exact (hpairs _ List.mem_cons_self v (List.mem_cons_of_mem _ hv) uri uri' site hok hok' hfinal
          hsite').symm
    · exact ih hstep.sound fun u hu v hv =>
        hpairs u (List.mem_cons_of_mem _ hu) v (List.mem_cons_of_mem _ hv)

/-- **No upload is lost**, whatever the files and their names, exactly if the prefix does not cut off
what is put behind it or all uploads have the same content. Stores may have been registered and used
before. -/
theorem uploads_kept {config : StorageConfig} {files : FileSystem} {supply : Nat → FreshId}
    (hstart : ofConfig config files supply = .ok s) (calls : List Call)
    (sources : List (FilePath × UploadHeaders))
    (hids : (((s.run calls).2.uploadAll sources).1.map (·.id.text)).Nodup) :
    (∀ u ∈ ((s.run calls).2.uploadAll sources).1, ∀ uri, u.answer = .ok uri → ∃ content,
      u.content = .ok content ∧
        (outcome (getBytes uri) ((s.run calls).2.uploadAll sources).2).1 = .ok content) ↔
      ¬ config.CutsOff ∨ ∀ u ∈ ((s.run calls).2.uploadAll sources).1,
        ∀ v ∈ ((s.run calls).2.uploadAll sources).1, ∀ uri uri', u.answer = .ok uri →
          v.answer = .ok uri' → u.content = v.content := by
  have hs : (s.run calls).2.stores.Sound := run_sound (by
    rw [stores_ofConfig hstart]
    exact Stores.Sound.empty)
  have hconfig : (s.run calls).2.config = config :=
    (config_run s calls).trans (config_ofConfig hstart)
  generalize (s.run calls).2 = t at *
  subst hconfig
  constructor
  · intro hread
    rw [← imp_iff_not_or]
    intro hcut u hu v hv uri uri' hok hok'
    obtain ⟨content, hcontent, hget⟩ := hread u hu uri hok
    obtain ⟨content', hcontent', hget'⟩ := hread v hv uri' hok'
    obtain ⟨site, hsite, hat⟩ := getBytes_eq_ok.1 hget
    obtain ⟨site', hsite', hat'⟩ := getBytes_eq_ok.1 hget'
    obtain ⟨stem, rfl⟩ := uri_of_mem_uploadAll hs hu hok
    obtain ⟨stem', rfl⟩ := uri_of_mem_uploadAll hs hv hok'
    -- both URIs lead to the place of the prefix
    rw [siteOf?_cutsOff hcut] at hsite hsite'
    rw [hsite] at hsite'
    cases hsite'
    rw [hat] at hat'
    cases hat'
    rw [hcontent, hcontent']
  · intro h u hu uri hok
    have hpairs : ∀ u ∈ (t.uploadAll sources).1, ∀ v ∈ (t.uploadAll sources).1, ∀ uri uri' site,
        u.answer = .ok uri → v.answer = .ok uri' →
        (t.uploadAll sources).2.siteOf? uri = some site →
        (t.uploadAll sources).2.siteOf? uri' = some site → u.content = v.content := by
      intro u hu v hv uri uri' site hok hok' hsite hsite'
      rcases h with hkeeps | hsame
      · obtain ⟨stem, rfl⟩ := uri_of_mem_uploadAll hs hu hok
        obtain ⟨stem', rfl⟩ := uri_of_mem_uploadAll hs hv hok'
        rw [List.inj_on_of_nodup_map hids hu hv (siteOf?_remotePath_inj hkeeps hsite hsite')]
      · exact hsame u hu v hv uri uri' hok hok'
    obtain ⟨content, site, hcontent, hsite, hat⟩ := readBack_uploadAll hs hpairs u hu uri hok
    exact ⟨content, hcontent, getBytes_eq_ok.2 ⟨site, hsite, hat⟩⟩

/-- Two files with different contents, in the directory where relative paths start. -/
def twoFiles : FileSystem :=
  ((FileSystem.ofDirectories [] (.ofText "/in")).set
    [Utf8.encode "in", Utf8.encode "a.txt"] (.file [1])).set
      [Utf8.encode "in", Utf8.encode "b.txt"] (.file [2])

/-- The two files by their paths, with other headers. -/
def twoSources : List (FilePath × UploadHeaders) := [(.ofText "/in/a.txt", {}), (.ofText "b.txt", .gzip)]

/-- Storage with a prefix, before anything is done with it. -/
def fresh (config : StorageConfig) : Storage :=
  ⟨config, twoFiles, .empty, {}, FreshId.ofNumbers 0, 0⟩

theorem uploads_kept_bucket : ∃ s, ofConfig { rawOutputPrefix := some "s3://bucket/raw/" } twoFiles
      (FreshId.ofNumbers 0) = .ok s ∧
    (((s.run [.register "s3://bucket"]).2.uploadAll twoSources).1.map (·.id.text)).Nodup ∧
    ((s.run [.register "s3://bucket"]).2.uploadAll twoSources).1.map (·.answer.toOption.isSome) =
      [true, true] ∧
    ∀ u ∈ ((s.run [.register "s3://bucket"]).2.uploadAll twoSources).1, ∀ uri, u.answer = .ok uri →
      ∃ content, u.content = .ok content ∧ (outcome (getBytes uri)
        ((s.run [.register "s3://bucket"]).2.uploadAll twoSources).2).1 = .ok content := by
  have hstart : ofConfig { rawOutputPrefix := some "s3://bucket/raw/" } twoFiles
      (FreshId.ofNumbers 0) = .ok (fresh { rawOutputPrefix := some "s3://bucket/raw/" }) := rfl
  have hids : ((((fresh { rawOutputPrefix := some "s3://bucket/raw/" }).run
      [.register "s3://bucket"]).2.uploadAll twoSources).1.map (·.id.text)).Nodup := by
    decide +kernel
  have hkeeps : ¬ StorageConfig.CutsOff { rawOutputPrefix := some "s3://bucket/raw/" } := by
    decide +kernel
  exact ⟨_, hstart, hids, by decide +kernel, (uploads_kept hstart _ twoSources hids).2 (.inl hkeeps)⟩

/-- Behind a query every upload takes the place of the one before: the first content is lost. -/
theorem not_kept_behind_query : ∃ s u uri, ofConfig { rawOutputPrefix := some "s3://bucket/raw?part=1" }
      twoFiles (FreshId.ofNumbers 0) = .ok s ∧
    (((s.run [.register "s3://bucket"]).2.uploadAll twoSources).1.map (·.id.text)).Nodup ∧
    u ∈ ((s.run [.register "s3://bucket"]).2.uploadAll twoSources).1 ∧ u.answer = .ok uri ∧
    u.content = .ok [1] ∧
    (outcome (getBytes uri) ((s.run [.register "s3://bucket"]).2.uploadAll twoSources).2).1 =
      .ok [2] := by
  have hstart : ofConfig { rawOutputPrefix := some "s3://bucket/raw?part=1" } twoFiles
      (FreshId.ofNumbers 0) = .ok (fresh { rawOutputPrefix := some "s3://bucket/raw?part=1" }) := rfl
  let uri := "s3://bucket/raw?part=1/00000000000070000000000000000000/a.txt"
  have hfirst : (Except.ok [1], Except.ok uri) ∈
      (((fresh { rawOutputPrefix := some "s3://bucket/raw?part=1" }).run
        [.register "s3://bucket"]).2.uploadAll twoSources).1.map fun u => (u.content, u.answer) := by
    decide +kernel
  obtain ⟨u, hu, heq⟩ := List.mem_map.1 hfirst
  obtain ⟨hcontent, hanswer⟩ := Prod.mk.inj heq
  exact ⟨_, u, uri, hstart, by decide +kernel, hu, hanswer, hcontent, by decide +kernel⟩

end Storage

end Workflow
