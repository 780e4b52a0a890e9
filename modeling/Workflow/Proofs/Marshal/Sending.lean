import Workflow.Proofs.Marshal.RoundTrip

/-!
# When a literal uploads a file

A value that stands for a file is turned into a literal that names it. Whether the file is uploaded
before is decided by the declared type, by what the value says of its file, and by the mode. What
is known of extensions, and what a sniffer tells, is up to the context.

* `Passes`: the content of a file is what its extension says, as `checkContent_eq_ok_iff` finds out.
* `Asks`: a value asks to be uploaded. `Settles`: a step finds out whether it does, and touches no
  storage.
* `Delivered`: one file was uploaded, and nothing else was written.
* `toLiteral_decided`: a literal is written with an upload if the value asks for it and its type is
  a file type, and without any change of storage in every other case.
-/

namespace Workflow

namespace HostValue

/-- The text of the path that a value gives. -/
def pathText? : HostValue → Option String
  | .file f => some f.path
  | .str text => some text
  | .path p => some p.text
  | _ => Option.none

/-- The text that names the file of a value where it is: its remote source if it has one. -/
def ownUri? : HostValue → Option String
  | .file f => some (f.remoteSource.getD f.path)
  | value => value.pathText?

/-- The destination that a value gives. -/
def destination? : HostValue → Option String
  | .file f => f.destination.explicit?
  | _ => Option.none

/-- The annotations that a value brings. -/
def metadata? : HostValue → Option Dict
  | .file f => f.metadata
  | _ => Option.none

end HostValue

namespace Files

open Calls

variable {ctx : Context} {value : HostValue} {t : HostType} {declared : Declared}
  {path uri confirmed : String} {destination : Option String} {metadata : Option Dict}
  {p : FilePath} {content : Bytes} {s s' : Session} {r : Except Failure Literal}

/-! ## Content that passes -/

/-- The content of a file passes: it is not to be checked, or the sniffer cannot tell its media type,
or tells one of those that the extension is known for. -/
def Passes (ctx : Context) (extension path : String) : Prop :=
  extension = "" ∨ Uri.isRemote path = true ∨ ctx.sniffer = none ∨
    ∃ sniff expected p told, ctx.sniffer = some sniff ∧
      MediaType.expected? ctx.mediaTypes extension = some expected ∧
      Uri.toLocalPath path = .ok p ∧ sniff p = .ok told ∧
      ∀ actual ∈ told, MediaType.isOneOf expected actual = true

/-- **The check of a content** succeeds exactly if the content passes, whatever the sniffer and the
media types are. -/
theorem checkContent_eq_ok_iff {extension : String} :
    checkContent ctx extension path = .ok () ↔ Passes ctx extension path := by
  unfold checkContent Passes
  by_cases hskip : (extension.isEmpty || Uri.isRemote path) = true
  · rw [if_pos hskip]
    rw [Bool.or_eq_true, String.isEmpty_iff] at hskip
    rcases hskip with hextension | hremote
    · simp [hextension]
    · simp [hremote]
  rw [if_neg hskip]
  rw [Bool.or_eq_true, not_or, String.isEmpty_iff] at hskip
  obtain ⟨hextension, hlocal⟩ := hskip
  cases hsniffer : ctx.sniffer with
  | none => simp
  | some sniff =>
    -- an extension that nothing is known of fails before the sniffer is asked
    cases hexpected : MediaType.expected? ctx.mediaTypes extension with
    | none => simp [hextension, hlocal]
    | some expected =>
      simp only [Outcome.bind_eq_ok, Outcome.mapError_eq_ok]
      constructor
      · rintro ⟨p, hp, told, htold, hend⟩
        refine .inr (.inr (.inr ⟨sniff, expected, p, told, rfl, rfl, hp, htold, ?_⟩))
        rintro actual rfl
        by_contra hone
        simp [hone] at hend
      · rintro (h | h | h | ⟨_, _, p, told, ⟨⟩, ⟨⟩, hp, htold, hone⟩)
        · exact absurd h hextension
        · exact absurd h hlocal
        · cases h
        · refine ⟨p, hp, told, htold, ?_⟩
          cases told with
          | none => rfl
          | some actual => exact if_pos (hone actual rfl)

/-! ## Uploads that are asked for -/

/-- A text asks for the upload of the file it names, in remote mode. -/
def AsksByText (ctx : Context) (files : FileSystem) (path : String) : Prop :=
  Uri.isRemote path = false ∧ (∃ p, Uri.toLocalPath path = .ok p ∧ files.isFile p = true) ∧
    ctx.mode = .remote

/-- A value asks for an upload. A file value does in remote mode or with a destination. -/
def Asks (ctx : Context) (files : FileSystem) : HostValue → Prop
  | .file f => f.remoteSource = none ∧ f.destination ≠ .disabled ∧ Uri.isRemote f.path = false ∧
      (ctx.mode = .remote ∨ f.destination.explicit?.isSome = true)
  | .str text => AsksByText ctx files text
  | .path p => AsksByText ctx files p.text
  | _ => False

/-- A step that touches no storage finds out whether something is asked for. If it is, what had to
be checked is, and nothing has changed at all. -/
structure Settles (s : Session) (asked checked : Prop) (step : Marshal Bool) : Prop where
  storage : (outcome step s).2.storage = s.storage
  answer : ∀ {uploads s'}, outcome step s = (.ok uploads, s') → (uploads = true ↔ asked)
  checked : ∀ {s'}, outcome step s = (.ok true, s') → checked ∧ s' = s

/-- Storage is the same. -/
def SameStorage (s s' : Session) : Prop := s'.storage = s.storage

theorem SameStorage.refl (s : Session) : SameStorage s s := rfl

theorem SameStorage.trans {s s' s'' : Session} (h : SameStorage s s') (h' : SameStorage s' s'') :
    SameStorage s s'' := Eq.trans h' h

theorem ofExcept_within {α : Type} (e : Except Failure α) :
    Within SameStorage (Marshal.ofExcept e) := by
  cases e with
  | ok x => exact .pure .refl x
  | error f => exact .throw .refl f

theorem uploadsPlain_within (ctx : Context) (declared : Declared) (path : String)
    (mismatch : FailureKind) : Within SameStorage (uploadsPlain ctx declared path mismatch) := by
  unfold uploadsPlain
  split
  · exact .pure .refl _
  refine .bind .trans (ofExcept_within _) fun _ => ?_
  split
  · exact .pure .refl _
  refine .bind .trans (ofExcept_within _) fun p => ?_
  refine .bind .trans (fun s => .refl s) fun isFile => ?_
  split
  · exact .pure .refl _
  · exact .throw .refl _

/-- A text that stands for a file is checked before it is looked for. -/
theorem uploadsPlain_eq_ok {extension : String} {mismatch : FailureKind} {uploads : Bool}
    (h : outcome (uploadsPlain ctx (.file extension) path mismatch) s = (.ok uploads, s')) :
    checkContent ctx extension path = .ok () ∧ s' = s ∧
      (uploads = true ↔ AsksByText ctx s.storage.files path) := by
  unfold uploadsPlain at h
  simp only at h
  obtain ⟨⟨⟩, s₁, hcall, hrest⟩ := bind_eq_ok.1 h
  obtain ⟨hcheck, rfl⟩ := Marshal.ofExcept_eq_ok.1 hcall
  unfold AsksByText
  by_cases hremote : Uri.isRemote path = true
  · rw [if_pos hremote] at hrest
    cases hrest
    exact ⟨hcheck, rfl, by simp [hremote]⟩
  · rw [if_neg hremote] at hrest
    obtain ⟨p, s₂, hfound, hanswer⟩ := bind_eq_ok.1 hrest
    obtain ⟨hp, rfl⟩ := Marshal.localPath_eq_ok.1 hfound
    rw [outcome_bind, Marshal.outcome_isFile] at hanswer
    simp only at hanswer
    split at hanswer
    · rename_i hfile
      cases hanswer
      exact ⟨hcheck, rfl, by simp [hremote, hp, hfile]⟩
    · cases hanswer

theorem uploadsPlain_settles (s : Session) (declared : Declared) (path : String)
    (mismatch : FailureKind) :
    Settles s (declared ≠ .pathLike ∧ AsksByText ctx s.storage.files path)
      (checkContent ctx declared.format path = .ok ())
      (uploadsPlain ctx declared path mismatch) := by
  refine ⟨uploadsPlain_within ctx declared path mismatch s, fun h => ?_, fun h => ?_⟩
  · cases declared with
    | pathLike =>
      cases h
      simp
    | file extension => simpa using (uploadsPlain_eq_ok h).2.2
  · cases declared with
    | pathLike => cases h
    | file extension =>
      obtain ⟨hcheck, hsame, -⟩ := uploadsPlain_eq_ok h
      exact ⟨hcheck, hsame⟩

theorem uploadsFile_within (ctx : Context) (declared : Declared) (t : HostType) (f : FileValue) :
    Within SameStorage (uploadsFile ctx declared t f) := by
  refine .bind .trans (ofExcept_within _) fun _ => ?_
  split
  · exact .pure .refl _
  split
  · exact .bind .trans (.modify fun _ => rfl) fun _ => .pure .refl _
  · exact .pure .refl _

/-- A file value that comes from no remote source is checked whether it asks for an upload or
not. -/
theorem uploadsFile_eq_ok {f : FileValue} {uploads : Bool} (hsource : f.remoteSource = none)
    (h : outcome (uploadsFile ctx declared t f) s = (.ok uploads, s')) :
    checkContent ctx declared.format f.path = .ok () ∧
      (uploads = true ↔ declared ≠ .pathLike ∧ Asks ctx s.storage.files (.file f)) ∧
      (uploads = true → s' = s) := by
  unfold uploadsFile at h
  obtain ⟨⟨⟩, s₁, hcall, hrest⟩ := bind_eq_ok.1 h
  obtain ⟨hcheck, rfl⟩ := Marshal.ofExcept_eq_ok.1 hcall
  refine ⟨hcheck, ?_⟩
  unfold Asks
  split at hrest
  · rename_i hstays
    cases hrest
    rw [Bool.or_eq_true, beq_iff_eq] at hstays
    rcases hstays with hdisabled | hremote
    · simp [hdisabled]
    · simp [hremote]
  · rename_i hgoes
    rw [Bool.or_eq_true, beq_iff_eq, not_or] at hgoes
    obtain ⟨hdestination, hlocal⟩ := hgoes
    split at hrest
    · -- the user is told that only a path is declared
      rename_i hpath
      cases hrest
      simp [beq_iff_eq.1 hpath]
    · rename_i hpath
      cases hrest
      have hfile : declared ≠ .pathLike := by simpa using hpath
      refine ⟨?_, fun _ => rfl⟩
      cases hmode : ctx.mode with
      | onMachine => simp [hfile, hsource, hdestination, hlocal, Option.isSome_iff_ne_none]
      | remote => simp [hfile, hsource, hdestination, hlocal]

theorem uploadsFile_settles (s : Session) (declared : Declared) (t : HostType) {f : FileValue}
    (hsource : f.remoteSource = none) :
    Settles s (declared ≠ .pathLike ∧ Asks ctx s.storage.files (.file f))
      (checkContent ctx declared.format f.path = .ok ()) (uploadsFile ctx declared t f) where
  storage := uploadsFile_within ctx declared t f s
  answer h := (uploadsFile_eq_ok hsource h).2.1
  checked h := by
    obtain ⟨hcheck, -, hsame⟩ := uploadsFile_eq_ok hsource h
    exact ⟨hcheck, hsame rfl⟩

/-! ## Uploads that are made -/

/-- How many fresh ids an upload draws: one for a place of its own. -/
def idsFor (destination : Option String) : Nat := if destination.isSome then 0 else 1

/-- A place of its own has a fresh id under the output prefix. -/
theorem uploadUri_fresh (s : Storage) (p : FilePath) : ∃ name,
    uploadUri s p none = s.config.outputPrefix ++ "/" ++ (s.supply s.drawn).text ++ name := by
  unfold uploadUri StorageConfig.remotePath
  rw [Option.getD_none]
  cases (p.fileName?.bind Utf8.decode?).bind Uri.fileName? with
  | none => exact ⟨"", by simp only [String.append_empty]⟩
  | some name =>
    exact ⟨"/" ++ Percent.encodeComponent name, by simp only [String.append_assoc]⟩

/-- A local file went to a destination, or to a place of its own. Its content is at the site of the
upload URI, all other content is as it was, and there was one write. -/
structure Delivered (s s' : Session) (p : FilePath) (destination : Option String)
    (content : Bytes) : Prop where
  session : s' = s.withStorage s'.storage
  read : s.storage.files.read p = .ok content
  place : uploadUri s.storage p destination = destination.getD (uploadUri s.storage p none) ∧
    ∃ name, uploadUri s.storage p none = s.storage.config.outputPrefix ++ "/" ++
      (s.storage.supply s.storage.drawn).text ++ name
  stored : ∃ site, Storage.Stored { s.storage with drawn := s.storage.drawn + idsFor destination }
    s'.storage (uploadUri s.storage p destination) site content
  traffic : s'.storage.traffic =
    if Uri.isRemote (uploadUri s.storage p destination) then
      { s.storage.traffic with puts := s.storage.traffic.puts + 1 }
    else s.storage.traffic

/-- **An upload that succeeds** delivers the file of its path, and gives the decoded URI. -/
theorem upload_delivered {text : String} (hs : s.Sound)
    (h : outcome (upload path destination) s = (.ok text, s')) :
    ∃ p content, Uri.toLocalPath path = .ok p ∧ Delivered s s' p destination content ∧
      text = literalUri (uploadUri s.storage p destination) := by
  unfold upload at h
  obtain ⟨p, s₁, hlocal, hput⟩ := bind_eq_ok.1 h
  obtain ⟨hpath, rfl⟩ := Marshal.localPath_eq_ok.1 hlocal
  cases destination with
  | some uri =>
    obtain ⟨confirmed, s₂, hcall, hend⟩ := bind_eq_ok.1 hput
    obtain ⟨storage, hdata, rfl⟩ := Marshal.ofStorage_eq_ok.1 hcall
    obtain ⟨content, hread, hbytes⟩ := Storage.putData_eq_ok hdata
    obtain ⟨rfl, site, hstored⟩ := Storage.putBytes_stored hs.stores hbytes
    cases hend
    exact ⟨p, content, hpath, ⟨rfl, hread, ⟨rfl, uploadUri_fresh _ p⟩, ⟨site, hstored⟩,
      Storage.putBytes_traffic hbytes⟩, rfl⟩
  | none =>
    obtain ⟨confirmed, s₂, hcall, hend⟩ := bind_eq_ok.1 hput
    obtain ⟨storage, hdata, rfl⟩ := Marshal.ofStorage_eq_ok.1 hcall
    -- the fresh id is drawn before the file is read
    obtain ⟨content, hread, hbytes⟩ := Storage.putData_eq_ok (putRawData_eq_ok hdata)
    obtain ⟨rfl, site, hstored⟩ := Storage.putBytes_stored (by exact hs.stores) hbytes
    have htraffic := Storage.putBytes_traffic hbytes
    cases hend
    exact ⟨p, content, hpath, ⟨rfl, hread, ⟨rfl, uploadUri_fresh _ p⟩, ⟨site, hstored⟩, htraffic⟩,
      rfl⟩

/-- **What was settled decides**: a literal is written with an upload if that was asked for, and
names the path if it was not. -/
theorem outgoing_decided {asked checked : Prop} {step : Marshal Bool} (hs : s.Sound)
    (hstep : Settles s asked checked step)
    (h : outcome (do
      let uploads ← step
      Outgoing.toLiteral ⟨path, destination, metadata, uploads⟩ declared) s = (r, s')) :
    (s'.storage ≠ s.storage → asked ∧ checked) ∧
      ∀ literal, r = .ok literal → ∃ uri,
        literal = (Literal.ofBlob (.single declared.format) uri).withMetadata metadata ∧
        ((asked ∧ ∃ p content, Uri.toLocalPath path = .ok p ∧ Delivered s s' p destination content ∧
            uri = literalUri (uploadUri s.storage p destination)) ∨
          ¬ asked ∧ s'.storage = s.storage ∧ uri = path) := by
  have hstorage := hstep.storage
  rw [outcome_bind] at h
  rcases hend : outcome step s with ⟨e | uploads, s₁⟩ <;> rw [hend] at h hstorage
  · cases h
    exact ⟨fun hne => absurd hstorage hne, fun _ hok => by cases hok⟩
  · have hanswer := hstep.answer hend
    unfold Outgoing.toLiteral at h
    cases uploads with
    | false =>
      cases h
      refine ⟨fun hne => absurd hstorage hne, fun literal hok => ?_⟩
      cases hok
      exact ⟨path, rfl, .inr ⟨by simpa using hanswer, hstorage, rfl⟩⟩
    | true =>
      -- an upload that fails may have made directories or opened a store
      obtain ⟨hchecked, rfl⟩ := hstep.checked hend
      refine ⟨fun _ => ⟨hanswer.1 rfl, hchecked⟩, fun literal hok => ?_⟩
      subst hok
      obtain ⟨text, s₂, hupload, hliteral⟩ := bind_eq_ok.1 h
      cases hliteral
      obtain ⟨p, content, hpath, hdelivered, rfl⟩ := upload_delivered hs hupload
      exact ⟨_, rfl, .inl ⟨hanswer.1 rfl, p, content, hpath, hdelivered, rfl⟩⟩

/-- The extension that a file type fixes; empty for any other type. -/
def formatOf (t : HostType) : String := if t.isFile then t.fileExtension else ""

theorem ofHostType_eq_ok (h : Declared.ofHostType t = .ok declared) :
    declared.format = formatOf t ∧ (declared ≠ .pathLike ↔ t.isFile = true) := by
  unfold Declared.ofHostType at h
  unfold formatOf
  split at h
  · rename_i hfile
    cases h
    simp [hfile, Declared.format]
  · rename_i hfile
    split at h
    · cases h
      simp [hfile, Declared.format]
    · cases h

/-- What comes of a call on a value of a type: when storage may change, and what a call that
succeeds has done. -/
structure Decided (ctx : Context) (value : HostValue) (t : HostType) (s s' : Session)
    (r : Except Failure Literal) : Prop where
  /-- Storage changes only for a file type and a value that asks for it, once the content of the
  file was checked and passed. -/
  storage : s'.storage ≠ s.storage → t.isFile = true ∧ Asks ctx s.storage.files value ∧
    ∃ path, value.pathText? = some path ∧ Passes ctx t.fileExtension path
  /-- The literal is a blob of one object with the extension of the type. It names the upload, or
  else the file where it is. -/
  literal : ∀ literal, r = .ok literal → ∃ uri,
    literal = (Literal.ofBlob (.single (formatOf t)) uri).withMetadata value.metadata? ∧
      ((t.isFile = true ∧ Asks ctx s.storage.files value ∧ ∃ path p content,
          value.pathText? = some path ∧ Uri.toLocalPath path = .ok p ∧
          Delivered s s' p value.destination? content ∧
          uri = literalUri (uploadUri s.storage p value.destination?)) ∨
        ¬ (t.isFile = true ∧ Asks ctx s.storage.files value) ∧ s'.storage = s.storage ∧
          value.ownUri? = some uri)

theorem Decided.of_refused {e : Failure} (h : s'.storage = s.storage) :
    Decided ctx value t s s' (.error e) where
  storage hne := absurd h hne
  literal _ hok := nomatch hok

/-- A value that is named by its path, whatever its kind. -/
theorem Decided.of_settled {step : Marshal Bool} (hs : s.Sound)
    (hdeclared : Declared.ofHostType t = .ok declared) (hpath : value.pathText? = some path)
    (hown : value.ownUri? = some path)
    (hstep : Settles s (declared ≠ .pathLike ∧ Asks ctx s.storage.files value)
      (checkContent ctx declared.format path = .ok ()) step)
    (h : outcome (do
      let uploads ← step
      Outgoing.toLiteral ⟨path, value.destination?, value.metadata?, uploads⟩ declared) s =
        (r, s')) : Decided ctx value t s s' r := by
  obtain ⟨hformat, hfile⟩ := ofHostType_eq_ok hdeclared
  rw [hfile, hformat] at hstep
  obtain ⟨hstorage, hliteral⟩ := outgoing_decided hs hstep h
  refine ⟨fun hne => ?_, fun literal hok => ?_⟩
  · obtain ⟨⟨ht, hasks⟩, hchecked⟩ := hstorage hne
    rw [formatOf, if_pos ht] at hchecked
    exact ⟨ht, hasks, path, hpath, checkContent_eq_ok_iff.1 hchecked⟩
  · obtain ⟨uri, hblob, hcase⟩ := hliteral literal hok
    rw [hformat] at hblob
    refine ⟨uri, hblob, ?_⟩
    rcases hcase with ⟨⟨ht, hasks⟩, p, content, hp, hdelivered, huri⟩ | ⟨hnot, hsame, rfl⟩
    · exact .inl ⟨ht, hasks, path, p, content, hpath, hp, hdelivered, huri⟩
    · exact .inr ⟨hnot, hsame, hown⟩

/-- **When a literal uploads a file.** Storage changes only if the type is a file type and the value
asks for an upload, and only after the content of its file was checked. A call that succeeds then
has delivered the file; any other that succeeds leaves storage alone and names the file where it is.
Either way the literal is a blob of one object with the extension of the type. -/
theorem toLiteral_decided (hs : s.Sound) (h : outcome (toLiteral ctx value t) s = (r, s')) :
    Decided ctx value t s s' r := by
  unfold toLiteral at h
  by_cases hnone : value.isNone = true
  · rw [if_pos hnone] at h
    cases h
    exact .of_refused rfl
  rw [if_neg hnone] at h
  cases hdeclared : Declared.ofHostType t with
  | error e =>
    rw [hdeclared] at h
    cases h
    exact .of_refused rfl
  | ok declared =>
    rw [hdeclared] at h
    simp only [Marshal.ofExcept, outcome_pure_bind] at h
    cases value with
    | file f =>
      simp only at h
      cases hsource : f.remoteSource with
      | some uri =>
        rw [hsource] at h
        cases h
        obtain ⟨hformat, -⟩ := ofHostType_eq_ok hdeclared
        refine ⟨fun hne => absurd rfl hne, fun literal hok => ?_⟩
        cases hok
        refine ⟨uri, by rw [hformat]; rfl, .inr ⟨fun hasks => ?_, rfl, ?_⟩⟩
        · exact nomatch hsource.symm.trans hasks.2.1
        · simp only [HostValue.ownUri?, hsource, Option.getD_some]
      | none =>
        rw [hsource] at h
        have hown : HostValue.ownUri? (.file f) = some f.path := by
          simp only [HostValue.ownUri?, hsource, Option.getD_none]
        exact .of_settled hs hdeclared rfl hown (uploadsFile_settles s declared t hsource) h
    | str text =>
      exact .of_settled hs hdeclared rfl rfl (uploadsPlain_settles s declared text _) h
    | path p =>
      exact .of_settled hs hdeclared rfl rfl (uploadsPlain_settles s declared p.text _) h
    | _ =>
      cases h
      exact .of_refused rfl

/-- The context of a machine that knows the extension of WebP images, and such an image when it sees
one. -/
def imaging : Context where
  sniffer := some fun _ => .ok (some "image/webp")
  mediaTypes extension := if extension = "webp" then ["image/webp"] else []

/-- What comes of sending an image. -/
def sentImage : Except Failure Literal × Session :=
  outcome (toLiteral imaging (.path (.ofText "/in/a.webp")) (.fileOf "webp")) (oneFile "a.webp")

theorem toLiteral_decided_image : ∃ literal s', sentImage = (.ok literal, s') ∧
    s'.storage ≠ (oneFile "a.webp").storage ∧ Passes imaging "webp" "/in/a.webp" ∧
    Delivered (oneFile "a.webp") s' (.ofText "/in/a.webp") none [98, 111, 100, 121] := by
  obtain ⟨literal, h⟩ : ∃ literal, sentImage = (.ok literal, sentImage.2) :=
    exists_eq_ok (by decide +kernel)
  have hdecided := toLiteral_decided (oneFile_sound _) h
  have hpath : Uri.toLocalPath (FilePath.ofText "/in/a.webp").text =
      .ok (.ofText "/in/a.webp") := by decide +kernel
  have hread : (oneFile "a.webp").storage.files.read (.ofText "/in/a.webp") =
      .ok [98, 111, 100, 121] := by decide +kernel
  have hasks : Asks imaging (oneFile "a.webp").storage.files (.path (.ofText "/in/a.webp")) :=
    ⟨by decide +kernel, ⟨_, hpath, by decide +kernel⟩, rfl⟩
  have hchanged : sentImage.2.storage ≠ (oneFile "a.webp").storage := by
    intro hsame
    -- the one write was counted
    have htraffic : sentImage.2.storage.traffic.puts = 1 := by decide +kernel
    rw [hsame] at htraffic
    cases htraffic
  have htext : (FilePath.ofText "/in/a.webp").text = "/in/a.webp" := by decide +kernel
  obtain ⟨-, -, _, ⟨⟩, hpasses⟩ := hdecided.storage hchanged
  rw [htext] at hpasses
  obtain ⟨uri, -, hcase⟩ := hdecided.literal literal rfl
  rcases hcase with ⟨-, -, _, p, content, ⟨⟩, hp, hdelivered, -⟩ | ⟨hnot, -⟩
  · cases hpath.symm.trans hp
    cases hread.symm.trans hdelivered.read
    exact ⟨literal, _, h, hchanged, hpasses, hdelivered⟩
  · exact absurd ⟨rfl, hasks⟩ hnot

end Files

end Workflow
