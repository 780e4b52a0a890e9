import Workflow.Proofs.Storage.Content

/-!
# Storage as a map

Registrations, uploads and reads follow one another, some of which fail. What is read at the end
depends on the transcript of the calls alone.

* `Storage.run`: the transcript of a list of calls, and the storage they leave.
* `LatestPut`: the upload to a store and a key that nothing came after.
* `contentAt?_run`: a run leaves the objects of the latest uploads.
* `contentAt?_run_file`: a run leaves a file unless something is put in its place.
* `getBytes_run`: reading gives the latest upload.
-/

namespace Workflow.Storage

open Calls

variable {s s' s'' : Storage} {uri store key : String} {content : Bytes}

/-! ## Transcripts -/

/-- A call by URI. -/
inductive Call where
  | register (base : String)
  | put (uri : String) (content : Bytes) (headers : UploadHeaders)
  | get (uri : String)

/-- Performs a call. Only a read has content to give. -/
def Call.perform : Call → Action (Option Bytes)
  | .register base => do
    let _ ← registerStore base
    return none
  | .put uri content headers => do
    let _ ← putBytes uri content headers
    return none
  | .get uri => do
    return some (← getBytes uri)

/-- A call and how it ended. -/
structure Record where
  call : Call
  answer : Except StorageError (Option Bytes)

/-- The transcript of a list of calls, and the storage they leave. -/
def run (s : Storage) : List Call → List Record × Storage
  | [] => ([], s)
  | call :: calls =>
    let (answer, s') := outcome call.perform s
    let (records, s'') := run s' calls
    (⟨call, answer⟩ :: records, s'')

namespace Record

def Succeeded (r : Record) : Prop := ∃ result, r.answer = .ok result

/-- An upload that put content under a key of a store. -/
def Puts (r : Record) (store key : String) (content : Bytes) : Prop :=
  ∃ uri headers location, r.call = .put uri content headers ∧ r.Succeeded ∧
    RemoteLocation.parse? uri = some location ∧ location.store = store ∧ location.key = key

/-- A registration that opened a store. -/
def Registers (r : Record) (store : String) : Prop :=
  ∃ base location, r.call = .register base ∧ r.Succeeded ∧
    RemoteLocation.parse? base = some location ∧ location.store = store

/-- An upload to the place that a URI leads to. -/
def PutsTo (r : Record) (s : Storage) (uri : String) : Prop :=
  ∃ other content headers, r.call = .put other content headers ∧ r.Succeeded ∧
    s.siteOf? other = s.siteOf? uri

/-- Neither opens a store nor puts anything under a key of it. -/
def Spares (r : Record) (store key : String) : Prop :=
  ¬ r.Registers store ∧ ∀ content, ¬ r.Puts store key content

end Record

/-- The content of the latest upload under a key, since the store was opened. -/
def LatestPut (records : List Record) (store key : String) (content : Bytes) : Prop :=
  ∃ earlier r later, records = earlier ++ r :: later ∧ r.Puts store key content ∧
    ∀ r' ∈ later, r'.Spares store key

theorem latestPut_nil : ¬ LatestPut [] store key content := by
  rintro ⟨earlier, r, later, h, -⟩
  simp at h

/-- The first record is the latest upload if no later one matters. -/
theorem latestPut_cons {r : Record} {records : List Record} :
    LatestPut (r :: records) store key content ↔ LatestPut records store key content ∨
      r.Puts store key content ∧ ∀ r' ∈ records, r'.Spares store key := by
  constructor
  · rintro ⟨earlier, r', later, h, hput, hlater⟩
    cases earlier with
    | nil =>
      obtain ⟨rfl, rfl⟩ := List.cons.inj h
      exact .inr ⟨hput, hlater⟩
    | cons r'' earlier =>
      obtain ⟨rfl, rfl⟩ := List.cons.inj h
      exact .inl ⟨earlier, r', later, rfl, hput, hlater⟩
  · rintro (⟨earlier, r', later, rfl, hput, hlater⟩ | ⟨hput, hlater⟩)
    · exact ⟨r :: earlier, r', later, rfl, hput, hlater⟩
    · exact ⟨[], r, records, rfl, hput, hlater⟩

/-! ## What no call takes away -/

/-- Stores stay registered, and URIs that lead somewhere lead to the same place. -/
structure Grows (s s' : Storage) : Prop where
  routes : ∀ store, (s.stores.routes.lookup store).isSome → (s'.stores.routes.lookup store).isSome
  siteOf? : ∀ uri site, s.siteOf? uri = some site → s'.siteOf? uri = some site

theorem Grows.refl (s : Storage) : s.Grows s := ⟨fun _ h => h, fun _ _ h => h⟩

theorem Grows.trans (h : s.Grows s') (h' : s'.Grows s'') : s.Grows s'' :=
  ⟨fun store hs => h'.routes store (h.routes store hs),
    fun uri site hs => h'.siteOf? uri site (h.siteOf? uri site hs)⟩

/-- Where a URI leads depends on the files alone. -/
theorem grows_of_files (hfiles : s'.files = s.files)
    (hroutes : ∀ store, (s.stores.routes.lookup store).isSome →
      (s'.stores.routes.lookup store).isSome) : s.Grows s' := by
  refine ⟨hroutes, fun uri site h => ?_⟩
  unfold siteOf? at h ⊢
  rwa [hfiles]

theorem isSome_openStore (stores : Stores) (opened store : String)
    (h : (stores.routes.lookup store).isSome) :
    ((stores.openStore opened).1.routes.lookup store).isSome := by
  rw [Stores.lookup_openStore]
  split
  · rfl
  · exact h

theorem withFiles_grows {files : FileSystem}
    (h : ∀ p place, s.files.fileAt? p = some place → files.fileAt? p = some place) :
    s.Grows (s.withFiles files) := by
  refine ⟨fun _ h => h, fun uri site hsite => ?_⟩
  unfold siteOf? at hsite ⊢
  split
  · rwa [if_pos ‹_›] at hsite
  · rw [if_neg ‹_›] at hsite
    cases hpath : Uri.toLocalPath uri with
    | error e => rw [hpath] at hsite; cases hsite
    | ok p =>
      rw [hpath] at hsite
      obtain ⟨place, hplace, rfl⟩ := Option.map_eq_some_iff.1 hsite
      simp only [withFiles_files, h p place hplace, Option.map_some]

/-! ## Calls that change no content -/

/-- There is the same content everywhere, in stores that are still apart. -/
structure SameContent (s s' : Storage) : Prop where
  grows : s.Grows s'
  sound : s.stores.Sound → s'.stores.Sound
  contentAt? : s.stores.Sound → ∀ site, s'.contentAt? site = s.contentAt? site

theorem SameContent.refl (s : Storage) : s.SameContent s := ⟨.refl s, id, fun _ _ => rfl⟩

theorem SameContent.trans (h : s.SameContent s') (h' : s'.SameContent s'') : s.SameContent s'' where
  grows := h.grows.trans h'.grows
  sound := fun hs => h'.sound (h.sound hs)
  contentAt? := fun hs site => (h'.contentAt? (h.sound hs) site).trans (h.contentAt? hs site)

theorem countGet_sameContent (s : Storage) :
    s.SameContent { s with traffic := { s.traffic with gets := s.traffic.gets + 1 } } :=
  ⟨grows_of_files rfl fun _ h => h, id, fun _ _ => rfl⟩

theorem countPut_sameContent (s : Storage) :
    s.SameContent { s with traffic := { s.traffic with puts := s.traffic.puts + 1 } } :=
  ⟨grows_of_files rfl fun _ h => h, id, fun _ _ => rfl⟩

theorem locate_sameContent (uri : String) : Within SameContent (locate uri) := by
  unfold locate
  split
  · exact .pure .refl _
  · exact .throw .refl _

/-- A store that is opened on first use has no content, and had none. -/
theorem bucketOf_sameContent (location : RemoteLocation) :
    Within SameContent (bucketOf location) := by
  intro s
  rw [outcome_bucketOf]
  split
  · exact .refl s
  rename_i hroute
  split
  · refine ⟨grows_of_files rfl (isSome_openStore _ _), fun hs => hs.openStore _, fun hs site => ?_⟩
    cases site with
    | file place => rfl
    | object store key =>
      simp only [contentAt?, Stores.objectOf?_openStore hs]
      split
      · rename_i hstore
        rw [Stores.objectOf?, hstore, hroute]
        rfl
      · rfl
  · exact .refl s

theorem extends_sameContent {files : FileSystem} (h : s.files.Extends files) :
    s.SameContent (s.withFiles files) := by
  refine ⟨withFiles_grows fun p place => h.fileAt?, id, fun _ site => ?_⟩
  cases site with
  | object store key => rfl
  | file place =>
    refine Option.ext fun c => ?_
    rw [contentAt?_file, contentAt?_file, withFiles_files, h.file_iff]

theorem createParent_sameContent (p : FilePath) : Within SameContent (createParent p) := by
  intro s
  have hextends := FileSystem.createParent_extends s.files p
  rw [outcome_createParent]
  split
  · rename_i files hmade
    rw [hmade] at hextends
    exact extends_sameContent hextends
  · rename_i files e hmade
    rw [hmade] at hextends
    exact extends_sameContent hextends

theorem getBytes_sameContent (uri : String) : Within SameContent (getBytes uri) :=
  getBytes_within_of .refl .trans countGet_sameContent fun l _ => bucketOf_sameContent l

/-! ## Uploads and registrations -/

theorem outcome_writeFile (p : FilePath) (content : Bytes) : outcome (writeFile p content) s =
    match s.files.write p content with
    | .ok files => (.ok (), s.withFiles files)
    | .error e => (.error (.io e), s) := by
  unfold writeFile
  rw [outcome_onFiles]
  cases s.files.write p content <;> rfl

theorem putBytes_grows (uri : String) (content : Bytes) (headers : UploadHeaders) :
    Within Grows (putBytes uri content headers) := by
  have hremote : Within Grows (putRemote uri content headers) :=
    putRemote_within_of .refl .trans (fun s => (countPut_sameContent s).grows)
      (fun l _ => (bucketOf_sameContent l).mono (·.grows))
      fun _ _ _ _ => grows_of_files rfl fun _ h => h
  have hlocal : Within Grows (putLocal uri content) := by
    refine .bind .trans (localPath_within_of .refl uri) fun p => ?_
    refine .bind .trans ((createParent_sameContent p).mono (·.grows)) fun _ s => ?_
    rw [outcome_writeFile]
    split
    · rename_i files hwrite
      exact withFiles_grows fun q place => FileSystem.fileAt?_write hwrite
    · exact .refl s
  exact putBytes_within_of .refl .trans hremote hlocal

/-- **A failed upload** changes no content: only its last step writes any. -/
theorem putBytes_failed {headers : UploadHeaders} {e : StorageError}
    (h : outcome (putBytes uri content headers) s = (.error e, s')) : s.SameContent s' := by
  have hremote : ∀ {s'}, outcome (putRemote uri content headers) s = (.error e, s') →
      s.SameContent s' := by
    intro s' h
    unfold putRemote at h
    rw [outcome_modify_bind] at h
    refine (countPut_sameContent s).trans ?_
    have hlocated := locate_sameContent uri
      { s with traffic := { s.traffic with puts := s.traffic.puts + 1 } }
    rcases bind_eq_error.1 h with h | ⟨location, t, hok, h⟩
    · rwa [h] at hlocated
    rw [hok] at hlocated
    have hbucket := bucketOf_sameContent location t
    rcases bind_eq_error.1 h with h | ⟨bucket, t', -, h⟩
    · rw [h] at hbucket
      exact hlocated.trans hbucket
    · cases h
  have hlocal : ∀ {s'}, outcome (putLocal uri content) s = (.error e, s') →
      s.SameContent s' := by
    intro s' h
    unfold putLocal at h
    have hpath : s.SameContent _ := localPath_within_of .refl uri s
    rcases bind_eq_error.1 h with h | ⟨p, t, hok, h⟩
    · rwa [h] at hpath
    rw [hok] at hpath
    have hparent := createParent_sameContent p t
    rcases bind_eq_error.1 h with h | ⟨⟨⟩, t', hok, h⟩
    · rw [h] at hparent
      exact hpath.trans hparent
    rw [hok] at hparent
    rw [outcome_writeFile] at h
    split at h
    · cases h
    · cases h
      exact hpath.trans hparent
  unfold putBytes at h
  split at h
  · rcases bind_eq_error.1 h with h | ⟨⟨⟩, t, -, h⟩
    · exact hremote h
    · cases h
  · rcases bind_eq_error.1 h with h | ⟨⟨⟩, t, -, h⟩
    · exact hlocal h
    · cases h

theorem outcome_registerStore (base : String) : outcome (registerStore base) s =
    match RemoteLocation.parse? base with
    | some location => (.ok (s.stores.openStore location.store).2,
        { s with stores := (s.stores.openStore location.store).1 })
    | none => (.error (.invalidUri base), s) := by
  unfold registerStore
  rw [outcome_bind, outcome_locate]
  cases RemoteLocation.parse? base <;> rfl

/-! ## One call -/

theorem Record.spares_of_failed {call : Call} {e : StorageError} :
    Record.Spares ⟨call, .error e⟩ store key := by
  have hfailed : ¬ Record.Succeeded ⟨call, .error e⟩ := by
    rintro ⟨result, h⟩
    cases h
  exact ⟨fun ⟨_, _, _, hok, _⟩ => hfailed hok, fun _ ⟨_, _, _, _, hok, _⟩ => hfailed hok⟩

/-- What a call with its record does to content. -/
structure Step (s s' : Storage) (r : Record) : Prop where
  grows : s.Grows s'
  sound : s'.stores.Sound
  object : ∀ store key content, s'.contentAt? (.object store key) = some content ↔
    r.Puts store key content ∨
      r.Spares store key ∧ s.contentAt? (.object store key) = some content
  file : ∀ uri place, s'.siteOf? uri = some (.file place) → ¬ r.PutsTo s' uri →
    s'.contentAt? (.file place) = s.contentAt? (.file place)

/-- A call that changes no content spares every key. -/
theorem SameContent.step {r : Record} (h : s.SameContent s') (hs : s.stores.Sound)
    (hr : ∀ store key, r.Spares store key) : s.Step s' r where
  grows := h.grows
  sound := h.sound hs
  object := by
    intro store key content
    rw [h.contentAt? hs]
    have hspares := hr store key
    exact ⟨fun hc => .inr ⟨hspares, hc⟩, fun hc => hc.elim (fun hp => absurd hp (hspares.2 _)) And.right⟩
  file := fun _ place _ _ => h.contentAt? hs (.file place)

theorem step_register (hs : s.stores.Sound) (base : String) :
    s.Step (outcome (Call.perform (.register base)) s).2
      ⟨.register base, (outcome (Call.perform (.register base)) s).1⟩ := by
  rw [Call.perform, outcome_bind, outcome_registerStore]
  cases hparse : RemoteLocation.parse? base with
  | none => exact (SameContent.refl s).step hs fun _ _ => Record.spares_of_failed
  | some location =>
    have hputs : ∀ store key content,
        ¬ Record.Puts ⟨.register base, .ok none⟩ store key content := by
      rintro store key content ⟨_, _, _, hcall, -⟩
      cases hcall
    refine ⟨grows_of_files rfl (isSome_openStore _ _), hs.openStore _, ?_, fun _ _ _ _ => rfl⟩
    intro store key content
    have hregisters : Record.Registers ⟨.register base, .ok none⟩ store ↔
        store = location.store := by
      constructor
      · rintro ⟨_, _, hcall, -, hparse', rfl⟩
        cases hcall
        rw [hparse] at hparse'
        cases hparse'
        rfl
      · rintro rfl
        exact ⟨base, location, rfl, ⟨none, rfl⟩, hparse, rfl⟩
    simp only [Record.Spares, hregisters, hputs, outcome_pure, contentAt?,
      Stores.objectOf?_openStore hs, false_or, not_false_eq_true, implies_true, and_true]
    by_cases hstore : store = location.store
    · simp [hstore]
    · simp [hstore]

theorem step_get (hs : s.stores.Sound) (uri : String) :
    s.Step (outcome (Call.perform (.get uri)) s).2
      ⟨.get uri, (outcome (Call.perform (.get uri)) s).1⟩ := by
  have hsame : s.SameContent (outcome (Call.perform (.get uri)) s).2 :=
    Within.bind .trans (getBytes_sameContent uri) (fun _ => .pure .refl _) s
  refine hsame.step hs fun store key => ⟨?_, ?_⟩
  · rintro ⟨_, _, hcall, -⟩
    cases hcall
  · rintro content ⟨_, _, _, hcall, -⟩
    cases hcall

theorem isRemote_of_parse? {location : RemoteLocation}
    (h : RemoteLocation.parse? uri = some location) : Uri.isRemote uri = true := by
  unfold RemoteLocation.parse? at h
  obtain ⟨url, -, h⟩ := Option.bind_eq_some_iff.1 h
  split at h
  · assumption
  · cases h

theorem siteOf?_eq_object : s.siteOf? uri = some (.object store key) ↔
    ∃ location, RemoteLocation.parse? uri = some location ∧ location.store = store ∧
      location.key = key := by
  unfold siteOf?
  split
  · simp [Option.map_eq_some_iff]
  · rename_i hlocal
    have hparse : RemoteLocation.parse? uri = none :=
      Option.eq_none_iff_forall_ne_some.2 fun location h => hlocal (isRemote_of_parse? h)
    rw [hparse]
    cases Uri.toLocalPath uri <;> simp

theorem step_put (hs : s.stores.Sound) (uri : String) (content : Bytes) (headers : UploadHeaders) :
    s.Step (outcome (Call.perform (.put uri content headers)) s).2
      ⟨.put uri content headers, (outcome (Call.perform (.put uri content headers)) s).1⟩ := by
  have hgrows := putBytes_grows uri content headers s
  rw [Call.perform, outcome_bind]
  rcases hput : outcome (putBytes uri content headers) s with ⟨e | confirmed, s'⟩
  · exact (putBytes_failed hput).step hs fun _ _ => Record.spares_of_failed
  · rw [hput] at hgrows
    obtain ⟨-, site, hstored⟩ := putBytes_stored hs hput
    simp only [outcome_pure]
    have hregisters : ∀ store, ¬ Record.Registers ⟨.put uri content headers, .ok none⟩ store := by
      rintro store ⟨_, _, hcall, -⟩
      cases hcall
    refine ⟨hgrows, hstored.sound, ?_, ?_⟩
    · intro store key c
      have hputs : ∀ c, Record.Puts ⟨.put uri content headers, .ok none⟩ store key c ↔
          c = content ∧ site = .object store key := by
        intro c
        rw [← Option.some.injEq site, ← hstored.siteOf?, siteOf?_eq_object]
        constructor
        · rintro ⟨_, _, location, hcall, -, hlocation⟩
          cases hcall
          exact ⟨rfl, location, hlocation⟩
        · rintro ⟨rfl, location, hlocation⟩
          exact ⟨uri, headers, location, rfl, ⟨none, rfl⟩, hlocation⟩
      rw [hstored.contentAt?, hputs, Record.Spares]
      simp only [hputs]
      by_cases hsite : Site.object store key = site
      · subst hsite
        simp [eq_comm]
      · simp [hsite, Ne.symm hsite, hregisters]
    · intro other place hplace hspared
      rw [hstored.contentAt?, if_neg]
      rintro rfl
      exact hspared ⟨uri, content, headers, rfl, ⟨none, rfl⟩, hstored.siteOf?.trans hplace.symm⟩

/-- **A call** changes content as its record says. -/
theorem step_perform (hs : s.stores.Sound) (call : Call) :
    s.Step (outcome call.perform s).2 ⟨call, (outcome call.perform s).1⟩ := by
  cases call with
  | register base => exact step_register hs base
  | put uri content headers => exact step_put hs uri content headers
  | get uri => exact step_get hs uri

/-! ## Runs -/

theorem run_cons (s : Storage) (call : Call) (calls : List Call) : s.run (call :: calls) =
    (⟨call, (outcome call.perform s).1⟩ :: ((outcome call.perform s).2.run calls).1,
      ((outcome call.perform s).2.run calls).2) := rfl

theorem run_sound {calls : List Call} (hs : s.stores.Sound) : (s.run calls).2.stores.Sound := by
  induction calls generalizing s with
  | nil => exact hs
  | cons call calls ih => exact ih (step_perform hs call).sound

theorem run_grows {calls : List Call} (hs : s.stores.Sound) : s.Grows (s.run calls).2 := by
  induction calls generalizing s with
  | nil => exact .refl s
  | cons call calls ih =>
    have hstep := step_perform hs call
    exact hstep.grows.trans (ih hstep.sound)

/-- **A run leaves the latest uploads**, and what was there before where it spares it. -/
theorem contentAt?_run {calls : List Call} (hs : s.stores.Sound) :
    (s.run calls).2.contentAt? (.object store key) = some content ↔
      LatestPut (s.run calls).1 store key content ∨
        (∀ r ∈ (s.run calls).1, r.Spares store key) ∧
          s.contentAt? (.object store key) = some content := by
  induction calls generalizing s with
  | nil => simp [run, latestPut_nil]
  | cons call calls ih =>
    have hstep := step_perform hs call
    rw [run_cons, ih hstep.sound, hstep.object, latestPut_cons, List.forall_mem_cons, or_assoc,
      and_or_left, and_comm (a := ∀ r ∈ _, Record.Spares r store key), and_left_comm, and_assoc]

/-- **A run leaves a file** unless it puts something in its place. -/
theorem contentAt?_run_file {calls : List Call} {place : Location} (hs : s.stores.Sound)
    (hplace : s.siteOf? uri = some (.file place))
    (hspared : ∀ r ∈ (s.run calls).1, ¬ r.PutsTo (s.run calls).2 uri) :
    (s.run calls).2.contentAt? (.file place) = s.contentAt? (.file place) := by
  induction calls generalizing s with
  | nil => rfl
  | cons call calls ih =>
    have hstep := step_perform hs call
    rw [run_cons] at hspared ⊢
    rw [List.forall_mem_cons] at hspared
    have hgrows := @run_grows _ calls hstep.sound
    have hplace' := hstep.grows.siteOf? uri _ hplace
    rw [ih hstep.sound hplace' hspared.2]
    refine hstep.file uri place hplace' fun hputs => hspared.1 ?_
    -- a place that an upload was to is still the place of both URIs
    obtain ⟨other, c, headers, hcall, hok, hsame⟩ := hputs
    have hother := hgrows.siteOf? other _ (hsame.trans hplace')
    exact ⟨other, c, headers, hcall, hok, hother.trans (hgrows.siteOf? uri _ hplace').symm⟩

theorem registered_run {calls : List Call} (hs : s.stores.Sound)
    (h : ∃ r ∈ (s.run calls).1, r.Registers store) :
    ((s.run calls).2.stores.routes.lookup store).isSome := by
  induction calls generalizing s with
  | nil =>
    obtain ⟨r, hr, -⟩ := h
    cases hr
  | cons call calls ih =>
    have hstep := step_perform hs call
    rw [run_cons] at h ⊢
    obtain ⟨r, hr, hregisters⟩ := h
    rcases List.mem_cons.1 hr with rfl | hr
    · obtain ⟨base, location, rfl, -, hparse, rfl⟩ := hregisters
      refine (run_grows hstep.sound).routes _ ?_
      rw [Call.perform, outcome_bind, outcome_registerStore, hparse]
      simp only [outcome_pure, Stores.lookup_openStore, if_true, Option.isSome_some]
    · exact ih hstep.sound ⟨r, hr, hregisters⟩

/-- A store that is registered and has nothing under a key says so. -/
theorem getBytes_notFound {location : RemoteLocation}
    (hparse : RemoteLocation.parse? uri = some location)
    (hroute : (s.stores.routes.lookup location.store).isSome)
    (hnone : s.contentAt? (.object location.store location.key) = none) :
    (outcome (getBytes uri) s).1 = .error (.notFound location.key) := by
  obtain ⟨bucket, hbucket⟩ := Option.isSome_iff_exists.1 hroute
  have hobject : s.stores.object? bucket location.key = none := by
    simpa [contentAt?, Stores.objectOf?, hbucket] using hnone
  rw [getBytes, if_pos (isRemote_of_parse? hparse), getRemote, outcome_modify_bind, outcome_bind,
    outcome_locate, hparse]
  simp only
  rw [outcome_bind, outcome_bucketOf]
  simp only [hbucket, outcome_get_bind, hobject, outcome_throw]

/-- What is not remote leads to a file. -/
theorem exists_file_of_siteOf? {site : Site} (hlocal : Uri.isRemote uri = false)
    (hsite : s.siteOf? uri = some site) : ∃ place, site = .file place := by
  unfold siteOf? at hsite
  rw [hlocal] at hsite
  cases hpath : Uri.toLocalPath uri with
  | error e => simp [hpath] at hsite
  | ok p =>
    simp only [hpath, Bool.false_eq_true, if_false, Option.map_eq_some_iff] at hsite
    obtain ⟨place, -, rfl⟩ := hsite
    exact ⟨place, rfl⟩

/-- Nothing is stored in the beginning. -/
theorem stores_ofConfig {config : StorageConfig} {files : FileSystem} {supply : Nat → FreshId}
    (hstart : ofConfig config files supply = .ok s) : s.stores = .empty := by
  unfold ofConfig at hstart
  split at hstart
  · cases hstart
  · cases hstart
    rfl

/-- **Storage is a map.** After any calls a URI of an object gives the content of the latest upload
to its store and key since the store was registered, and a registered store without such an upload
reports that nothing is found. A file that was written is read as it was written, as long as nothing
else is put in its place. -/
theorem getBytes_run {config : StorageConfig} {files : FileSystem} {supply : Nat → FreshId}
    (hstart : ofConfig config files supply = .ok s) (calls : List Call) :
    (∀ uri location, RemoteLocation.parse? uri = some location →
      (∀ content, (outcome (getBytes uri) (s.run calls).2).1 = .ok content ↔
        LatestPut (s.run calls).1 location.store location.key content) ∧
      ((∃ r ∈ (s.run calls).1, r.Registers location.store) →
        (∀ content, ¬ LatestPut (s.run calls).1 location.store location.key content) →
        (outcome (getBytes uri) (s.run calls).2).1 = .error (.notFound location.key))) ∧
    ∀ uri content headers s', Uri.isRemote uri = false →
      outcome (putBytes uri content headers) (s.run calls).2 = (.ok uri, s') →
      ∀ between, (∀ r ∈ (s'.run between).1, ¬ r.PutsTo (s'.run between).2 uri) →
        (outcome (getBytes uri) (s'.run between).2).1 = .ok content := by
  have hstores := stores_ofConfig hstart
  have hs : s.stores.Sound := by
    rw [hstores]
    exact Stores.Sound.empty
  have hempty : ∀ store key, s.contentAt? (.object store key) = none := by
    intro store key
    rw [contentAt?, hstores]
    rfl
  refine ⟨fun uri location hparse => ?_, fun uri content headers s' hlocal hput between hspared => ?_⟩
  · have hcontent : ∀ content, (s.run calls).2.contentAt? (.object location.store location.key) =
        some content ↔ LatestPut (s.run calls).1 location.store location.key content := by
      intro content
      rw [contentAt?_run hs, hempty]
      simp
    have hsite : (s.run calls).2.siteOf? uri = some (.object location.store location.key) :=
      siteOf?_eq_object.2 ⟨location, hparse, rfl, rfl⟩
    constructor
    · intro content
      rw [getBytes_eq_ok, hsite, ← hcontent]
      simp
    · intro hregistered hnone
      refine getBytes_notFound hparse (registered_run hs hregistered) ?_
      refine Option.eq_none_iff_forall_ne_some.2 fun content h => ?_
      exact hnone content ((hcontent content).1 h)
  · obtain ⟨-, site, hstored⟩ := putBytes_stored (run_sound hs) hput
    obtain ⟨place, rfl⟩ := exists_file_of_siteOf? hlocal hstored.siteOf?
    have hkept := contentAt?_run_file hstored.sound hstored.siteOf? hspared
    refine getBytes_eq_ok.2 ⟨.file place, (run_grows hstored.sound).siteOf? _ _ hstored.siteOf?, ?_⟩
    rw [hkept, hstored.contentAt?, if_pos rfl]

/-- Uploads under one key in two spellings, with other calls around them. -/
def twoSpellings : List Call :=
  [.put "s3://bucket/a%20b" [0] {}, .register "s3://bucket", .put "s3://bucket/a%20b" [1] {},
    .put "s3://bucket/x/../a b?part=1" [2] .gzip, .put "s3://bucket/c" [3] {},
    .get "s3://bucket/d", .register "s3://other"]

theorem getBytes_run_spellings : ∃ s location,
    ofConfig {} (.ofDirectories [] (.ofText "/in")) (FreshId.ofNumbers 0) = .ok s ∧
      RemoteLocation.parse? "s3://bucket/./a%20b#end" = some location ∧
      (outcome (getBytes "s3://bucket/./a%20b#end") (s.run twoSpellings).2).1 = .ok [2] ∧
      LatestPut (s.run twoSpellings).1 location.store location.key [2] := by
  obtain ⟨location, hparse⟩ :
      ∃ location, RemoteLocation.parse? "s3://bucket/./a%20b#end" = some location :=
    Option.isSome_iff_exists.1 (by decide +kernel)
  have hstart : ofConfig {} (.ofDirectories [] (.ofText "/in")) (FreshId.ofNumbers 0) =
      .ok ⟨{}, .ofDirectories [] (.ofText "/in"), .empty, {}, FreshId.ofNumbers 0, 0⟩ := rfl
  have hread : (outcome (getBytes "s3://bucket/./a%20b#end") ((Storage.mk {}
      (.ofDirectories [] (.ofText "/in")) .empty {} (FreshId.ofNumbers 0) 0).run twoSpellings).2).1 =
        .ok [2] := by decide +kernel
  have hlatest := (((getBytes_run hstart twoSpellings).1 _ location hparse).1 [2]).1 hread
  exact ⟨_, location, hstart, hparse, hread, hlatest⟩

end Workflow.Storage
