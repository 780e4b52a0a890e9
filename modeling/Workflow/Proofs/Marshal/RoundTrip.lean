import Workflow.Marshal.Files
import Workflow.Proofs.Marshal.Session
import Workflow.Proofs.Text.Percent

/-!
# Files that go out and come back

A file that is uploaded is named in its literal by the decoded URI, and the literal is read back by
that text. Whether the content is found again depends on where the decoded text leads.

* `toLiteral_sends`: what a literal of a local file says, and what is in storage then.
* `readsBack_remote`, `readsBack_local`: what is read back from the literal of a text.
* `readsBack_iff`: the content comes back exactly if the decoded text leads to the place of the
  upload, or to a place that held the same content before.
-/

namespace Workflow.Files

open Calls

variable {ctx : Context} {value : HostValue} {t : HostType} {path : String}
  {destination : Option String} {p : FilePath} {content : Bytes} {s s' : Session}
  {literal : Literal}

theorem ofHostType_isFile (ht : t.isFile = true) :
    Declared.ofHostType t = .ok (.file t.fileExtension) := by
  unfold Declared.ofHostType
  rw [if_pos ht]

/-! ## Going out -/

/-- A value that stands for a local file, with the destination it asks for. -/
inductive Sends : HostValue → String → Option String → Prop where
  | file {f : FileValue} (hsource : f.remoteSource = none) (hdestination : f.destination ≠ .disabled) :
      Sends (.file f) f.path f.destination.explicit?
  | str (path : String) : Sends (.str path) path none
  | path (p : FilePath) : Sends (.path p) p.text none

/-- The URI that a file is uploaded to. -/
def uploadUri (s : Storage) (p : FilePath) (destination : Option String) : String :=
  destination.getD (s.config.remotePath (s.supply s.drawn) (p.fileName?.bind Utf8.decode?) none)

/-- The text by which a literal names what was uploaded to a URI. -/
def literalUri (uri : String) : String := (Percent.decodeText? uri).getD uri

/-- Nothing but storage has changed, and there only the content at the site of a URI and the supply
of fresh ids. -/
def Uploaded (s s' : Session) (uri : String) (content : Bytes) : Prop :=
  s' = s.withStorage s'.storage ∧ ∃ site drawn,
    Storage.Stored { s.storage with drawn } s'.storage uri site content

theorem putData_stored {s s' : Storage} {uri confirmed : String} {headers : UploadHeaders}
    (hs : s.stores.Sound) (hread : s.files.read p = .ok content)
    (h : outcome (Storage.putData p uri headers) s = (.ok confirmed, s')) :
    confirmed = uri ∧ ∃ site, s.Stored s' uri site content := by
  obtain ⟨found, hfound, hput⟩ := Storage.putData_eq_ok h
  obtain rfl : content = found := Except.ok.inj (hread.symm.trans hfound)
  exact Storage.putBytes_stored hs hput

/-- A file without a destination is uploaded to a place of its own, which takes a fresh id. -/
theorem putRawData_eq_ok {s s' : Storage} {confirmed : String} {headers : UploadHeaders}
    (h : outcome (Storage.putRawData p headers) s = (.ok confirmed, s')) :
    outcome (Storage.putData p (uploadUri s p none) headers) { s with drawn := s.drawn + 1 } =
      (.ok confirmed, s') := by
  unfold Storage.putRawData at h
  obtain ⟨uri, s₁, huri, hput⟩ := bind_eq_ok.1 h
  have hpath : outcome (Storage.remotePath (p.fileName?.bind Utf8.decode?) none) s =
      (.ok (uploadUri s p none), { s with drawn := s.drawn + 1 }) := rfl
  rw [hpath] at huri
  cases huri
  exact hput

theorem putRawData_stored {s s' : Storage} {confirmed : String} {headers : UploadHeaders}
    (hs : s.stores.Sound) (hread : s.files.read p = .ok content)
    (h : outcome (Storage.putRawData p headers) s = (.ok confirmed, s')) :
    confirmed = uploadUri s p none ∧ ∃ site,
      Storage.Stored { s with drawn := s.drawn + 1 } s' (uploadUri s p none) site content :=
  putData_stored (by exact hs) (by exact hread) (putRawData_eq_ok h)

theorem upload_uploaded {text : String} (hs : s.Sound) (hpath : Uri.toLocalPath path = .ok p)
    (hread : s.storage.files.read p = .ok content)
    (h : outcome (upload path destination) s = (.ok text, s')) :
    text = literalUri (uploadUri s.storage p destination) ∧
      Uploaded s s' (uploadUri s.storage p destination) content := by
  unfold upload at h
  rw [bind_eq_ok] at h
  obtain ⟨source, s₁, hlocal, h⟩ := h
  obtain ⟨hsource, rfl⟩ := Marshal.localPath_eq_ok.1 hlocal
  obtain rfl : p = source := Except.ok.inj (hpath.symm.trans hsource)
  cases destination with
  | some uri =>
    obtain ⟨confirmed, s₂, hcall, hend⟩ := bind_eq_ok.1 h
    obtain ⟨storage, hput, rfl⟩ := Marshal.ofStorage_eq_ok.1 hcall
    obtain ⟨rfl, site, hstored⟩ := putData_stored hs.stores hread hput
    cases hend
    exact ⟨rfl, rfl, site, _, hstored⟩
  | none =>
    obtain ⟨confirmed, s₂, hcall, hend⟩ := bind_eq_ok.1 h
    obtain ⟨storage, hput, rfl⟩ := Marshal.ofStorage_eq_ok.1 hcall
    obtain ⟨rfl, site, hstored⟩ := putRawData_stored hs.stores hread hput
    cases hend
    exact ⟨rfl, rfl, site, _, hstored⟩

/-- In remote mode a text or a path of a local file is uploaded. -/
theorem uploadsPlain_remote {extension : String} {mismatch : FailureKind} {uploads : Bool}
    (hmode : ctx.mode = .remote) (hlocal : Uri.isRemote path = false)
    (hpath : Uri.toLocalPath path = .ok p) (hread : s.storage.files.read p = .ok content)
    (h : outcome (uploadsPlain ctx (.file extension) path mismatch) s = (.ok uploads, s')) :
    uploads = true ∧ s' = s := by
  unfold uploadsPlain at h
  simp only at h
  obtain ⟨⟨⟩, s₁, hcheck, hrest⟩ := bind_eq_ok.1 h
  obtain ⟨-, rfl⟩ := Marshal.ofExcept_eq_ok.1 hcheck
  rw [if_neg (by simp [hlocal])] at hrest
  obtain ⟨q, s₂, hfound, hend⟩ := bind_eq_ok.1 hrest
  obtain ⟨hq, rfl⟩ := Marshal.localPath_eq_ok.1 hfound
  obtain rfl : p = q := Except.ok.inj (hpath.symm.trans hq)
  rw [outcome_bind, Marshal.outcome_isFile, FileSystem.isFile_of_read hread] at hend
  cases hend
  exact ⟨by simp [hmode], rfl⟩

/-- In remote mode a file value is uploaded, unless that is disabled. -/
theorem uploadsFile_remote {extension : String} {f : FileValue} {uploads : Bool}
    (hmode : ctx.mode = .remote) (hlocal : Uri.isRemote f.path = false)
    (hdestination : f.destination ≠ .disabled)
    (h : outcome (uploadsFile ctx (.file extension) t f) s = (.ok uploads, s')) :
    uploads = true ∧ s' = s := by
  unfold uploadsFile at h
  obtain ⟨⟨⟩, s₁, hcheck, hrest⟩ := bind_eq_ok.1 h
  obtain ⟨-, rfl⟩ := Marshal.ofExcept_eq_ok.1 hcheck
  rw [if_neg (by simp [hlocal, hdestination])] at hrest
  rw [if_neg (by simp)] at hrest
  cases hrest
  exact ⟨by simp [hmode], rfl⟩

/-- **A local file goes out** as a blob that names the decoded URI of the upload. -/
theorem toLiteral_sends (hs : s.Sound) (hmode : ctx.mode = .remote) (ht : t.isFile = true)
    (hvalue : Sends value path destination) (hlocal : Uri.isRemote path = false)
    (hpath : Uri.toLocalPath path = .ok p) (hread : s.storage.files.read p = .ok content)
    (h : outcome (toLiteral ctx value t) s = (.ok literal, s')) :
    (∃ metadata, literal = (Literal.ofBlob (.single t.fileExtension)
      (literalUri (uploadUri s.storage p destination))).withMetadata metadata) ∧
      Uploaded s s' (uploadUri s.storage p destination) content := by
  -- values of all three kinds end in the same upload
  have hsend : ∀ {metadata : Option Dict} {s₁ : Session}, s₁ = s →
      outcome (Outgoing.toLiteral ⟨path, destination, metadata, true⟩ (.file t.fileExtension)) s₁ =
        (.ok literal, s') →
      (∃ metadata, literal = (Literal.ofBlob (.single t.fileExtension)
        (literalUri (uploadUri s.storage p destination))).withMetadata metadata) ∧
        Uploaded s s' (uploadUri s.storage p destination) content := by
    rintro metadata _ rfl h
    unfold Outgoing.toLiteral at h
    simp only [if_true] at h
    obtain ⟨text, s₂, hupload, hend⟩ := bind_eq_ok.1 h
    obtain ⟨rfl, huploaded⟩ := upload_uploaded hs hpath hread hupload
    cases hend
    exact ⟨⟨metadata, rfl⟩, huploaded⟩
  have hsome : ¬ value.isNone = true := by
    cases hvalue <;> simp [HostValue.isNone]
  unfold toLiteral at h
  rw [if_neg hsome] at h
  obtain ⟨declared, s₁, hcall, h⟩ := bind_eq_ok.1 h
  obtain ⟨hfound, rfl⟩ := Marshal.ofExcept_eq_ok.1 hcall
  obtain rfl := Except.ok.inj ((ofHostType_isFile ht).symm.trans hfound)
  cases hvalue with
  | file hsource hdestination =>
    simp only [hsource] at h
    obtain ⟨uploads, s₂, hdecide, hend⟩ := bind_eq_ok.1 h
    obtain ⟨rfl, hsame⟩ := uploadsFile_remote hmode hlocal hdestination hdecide
    exact hsend hsame hend
  | str =>
    obtain ⟨uploads, s₂, hdecide, hend⟩ := bind_eq_ok.1 h
    obtain ⟨rfl, hsame⟩ := uploadsPlain_remote hmode hlocal hpath hread hdecide
    exact hsend hsame hend
  | path q =>
    obtain ⟨uploads, s₂, hdecide, hend⟩ := bind_eq_ok.1 h
    obtain ⟨rfl, hsame⟩ := uploadsPlain_remote hmode hlocal hpath hread hdecide
    exact hsend hsame hend

/-! ## Coming back -/

/-- A literal is read back as content: it gives a file value, and that is read. -/
def ReadsBack (s : Session) (literal : Literal) (t : HostType) (content : Bytes) : Prop :=
  ∃ f s', outcome (toHostValue literal t) s = (.ok (.file f), s') ∧ f.Reads s' content

variable {uri format : String} {metadata : Option Dict}

/-- A blob is read back by the text that names it. -/
theorem readsBack_blob : ReadsBack s ((Literal.ofBlob (.single format) uri).withMetadata metadata) t
    content ↔ ∃ f s', outcome (ofUri uri metadata t) s = (.ok f, s') ∧ f.Reads s' content := by
  have hblob : toHostValue ((Literal.ofBlob (.single format) uri).withMetadata metadata) t =
      (do return .file (← ofUri uri metadata t)) := rfl
  unfold ReadsBack
  rw [hblob]
  constructor
  · rintro ⟨f, s', h, hreads⟩
    obtain ⟨f', s₁, hf, hend⟩ := bind_eq_ok.1 h
    cases hend
    exact ⟨f, s', hf, hreads⟩
  · rintro ⟨f, s', hf, hreads⟩
    exact ⟨f, s', bind_eq_ok.2 ⟨f, s', hf, rfl⟩, hreads⟩

/-- The scratch path that the next remote file is downloaded to. -/
def nextScratch (s : Storage) (uri : String) : FilePath :=
  s.config.scratchPath (s.supply s.drawn) (some uri)

/-- The file value of a remote text. -/
def fetched (s : Session) (uri : String) (metadata : Option Dict) (t : HostType) : FileValue :=
  { FileValue.ofTransfer ⟨uri, nextScratch s.storage uri, s.issued⟩ with
    extension := t.fileExtension, metadata }

/-- The file value of any other text. -/
def present (uri : String) (metadata : Option Dict) (t : HostType) : FileValue :=
  { FileValue.ofPath (.ofText uri) with extension := t.fileExtension, metadata }

/-- The session once a download was handed out. -/
def handedOut (s : Session) : Session :=
  { s.withStorage { s.storage with drawn := s.storage.drawn + 1 } with issued := s.issued + 1 }

theorem handedOut_files : (handedOut s).storage.files = s.storage.files := rfl

theorem handedOut_siteOf? : (handedOut s).storage.siteOf? uri = s.storage.siteOf? uri := by
  unfold Storage.siteOf?
  rfl

theorem handedOut_contentAt? (site : Site) :
    (handedOut s).storage.contentAt? site = s.storage.contentAt? site := by
  cases site <;> rfl

/-- A remote text gives a file that is still to be fetched. -/
theorem outcome_ofUri_remote (ht : t.isFile = true) (hremote : Uri.isRemote uri = true) :
    outcome (ofUri uri metadata t) s = (.ok (fetched s uri metadata t), handedOut s) := by
  unfold ofUri
  rw [ofHostType_isFile ht]
  simp only [hremote, Bool.not_true, Bool.false_eq_true, if_false]
  rfl

/-- Any other text gives a file that is there, if it names one. -/
theorem ofUri_local_eq_ok {f : FileValue} (ht : t.isFile = true)
    (hlocal : Uri.isRemote uri = false) : outcome (ofUri uri metadata t) s = (.ok f, s') ↔
      (∃ p, Uri.toLocalPath uri = .ok p ∧ s.storage.files.isFile p = true) ∧
        f = present uri metadata t ∧ s' = s := by
  unfold ofUri isLocalFile
  rw [ofHostType_isFile ht]
  simp only [hlocal, Bool.not_false, if_true]
  cases Uri.toLocalPath uri with
  | error e => simp
  | ok p =>
    rw [outcome_bind, Marshal.outcome_isFile]
    simp only [Except.ok.injEq, exists_eq_left']
    cases s.storage.files.isFile p with
    | false => simp
    | true =>
      simp only [Bool.not_true, Bool.false_eq_true, if_false, true_and]
      show (Except.ok (present uri metadata t), s) = (Except.ok f, s') ↔ _
      rw [Prod.mk.injEq, Except.ok.injEq, eq_comm, @eq_comm _ s s']

theorem path_present : (present uri metadata t).path = uri := Utf8.decodeLossy_encode uri

/-- **What is named by a remote text** is read back if there is content at its site and a scratch
file can be written. -/
theorem readsBack_remote (hs : s.Sound) (ht : t.isFile = true) (hremote : Uri.isRemote uri = true) :
    ReadsBack s ((Literal.ofBlob (.single format) uri).withMetadata metadata) t content ↔
      (∃ site, s.storage.siteOf? uri = some site ∧ s.storage.contentAt? site = some content) ∧
        s.storage.files.Admits (nextScratch s.storage uri) := by
  have hsource : (fetched s uri metadata t).source =
      .remote ⟨uri, nextScratch s.storage uri, s.issued⟩ := rfl
  have hfresh : s.issued ∉ (handedOut s).done :=
    fun hmem => absurd (hs.done _ hmem) (Nat.lt_irrefl _)
  have hreads : (fetched s uri metadata t).Reads (handedOut s) content ↔ _ :=
    FileValue.reads_remote hsource hfresh
  rw [handedOut_siteOf?, handedOut_files] at hreads
  simp only [handedOut_contentAt?] at hreads
  rw [readsBack_blob, outcome_ofUri_remote ht hremote, ← hreads]
  constructor
  · rintro ⟨f, s', hend, h⟩
    obtain ⟨hvalue, rfl⟩ := Prod.mk.inj hend
    obtain rfl := Except.ok.inj hvalue
    exact h
  · intro h
    exact ⟨_, _, rfl, h⟩

/-- **What is named by any other text** is read back if the text names a file, and is itself a path
at which the content is. -/
theorem readsBack_local (ht : t.isFile = true) (hlocal : Uri.isRemote uri = false) :
    ReadsBack s ((Literal.ofBlob (.single format) uri).withMetadata metadata) t content ↔
      (∃ p, Uri.toLocalPath uri = .ok p ∧ s.storage.files.isFile p = true) ∧
        s.storage.files.read (.ofText uri) = .ok content := by
  have hsource : (present uri metadata t).source = .present := rfl
  have hreads : (present uri metadata t).Reads s content ↔ _ := FileValue.reads_present hsource
  rw [path_present] at hreads
  rw [readsBack_blob]
  simp only [ofUri_local_eq_ok ht hlocal]
  constructor
  · rintro ⟨_, _, ⟨hfound, rfl, rfl⟩, h⟩
    exact ⟨hfound, hreads.1 h⟩
  · rintro ⟨hfound, h⟩
    exact ⟨_, _, ⟨hfound, rfl, rfl⟩, hreads.2 h⟩

/-! ## Going out and coming back -/

/-- A URI was uploaded to, and the text that names it in a literal leads back to the content: to the
place of the upload, or to another that held the same content before. A remote text needs a scratch
file besides; any other has to be a path itself. -/
def Recovers (s s' : Session) (uri : String) (content : Bytes) : Prop :=
  if Uri.isRemote (literalUri uri) then
    (∃ site, s'.storage.siteOf? (literalUri uri) = some site ∧
      (s'.storage.siteOf? uri = some site ∨ s.storage.contentAt? site = some content)) ∧
      s'.storage.files.Admits (nextScratch s'.storage (literalUri uri))
  else
    (∃ q, Uri.toLocalPath (literalUri uri) = .ok q ∧ s'.storage.files.isFile q = true) ∧
      ∃ place, s'.storage.files.fileAt? (.ofText (literalUri uri)) = some place ∧
        (s'.storage.siteOf? uri = some (.file place) ∨
          s.storage.contentAt? (.file place) = some content)

theorem readsBack_uploaded (hs : s'.Sound) (ht : t.isFile = true)
    (h : Uploaded s s' uri content) :
    ReadsBack s' ((Literal.ofBlob (.single format) (literalUri uri)).withMetadata metadata) t
      content ↔ Recovers s s' uri content := by
  obtain ⟨-, site, drawn, hstored⟩ := h
  have hcontent : ∀ other, s'.storage.contentAt? other = some content ↔
      s'.storage.siteOf? uri = some other ∨ s.storage.contentAt? other = some content := by
    intro other
    rw [hstored.contentAt?_eq_some]
    cases other <;> rfl
  unfold Recovers
  split
  · rename_i hremote
    simp only [readsBack_remote hs ht hremote, hcontent]
  · rename_i hremote
    rw [readsBack_local ht (by simpa using hremote), Storage.read_eq_ok]
    simp only [hcontent]

theorem Uploaded.sound (hs : s.Sound) (h : Uploaded s s' uri content) : s'.Sound := by
  obtain ⟨hsame, site, drawn, hstored⟩ := h
  rw [hsame]
  exact ⟨hstored.sound, hs.done⟩

/-- **A file that was uploaded comes back** exactly if the text of its literal, the decoded URI,
leads to where it was uploaded, or to where the same content was before. -/
theorem readsBack_iff (hs : s.Sound) (hmode : ctx.mode = .remote) (ht : t.isFile = true)
    (hvalue : Sends value path destination) (hlocal : Uri.isRemote path = false)
    (hpath : Uri.toLocalPath path = .ok p) (hread : s.storage.files.read p = .ok content)
    (h : outcome (toLiteral ctx value t) s = (.ok literal, s')) :
    ReadsBack s' literal t content ↔
      Recovers s s' (uploadUri s.storage p destination) content := by
  obtain ⟨⟨metadata, rfl⟩, huploaded⟩ :=
    toLiteral_sends hs hmode ht hvalue hlocal hpath hread h
  exact readsBack_uploaded (huploaded.sound hs) ht huploaded

/-- A session over an object store, with one local file of a given name. -/
def oneFile (name : String) : Session := .ofStorage {
  config := { rawOutputPrefix := some "s3://bucket/raw", sandboxDir := some "/sandbox" }
  files := (FileSystem.ofDirectories [] (.ofText "/in")).set
    [Utf8.encode "in", Utf8.encode name] (.file [98, 111, 100, 121])
  stores := (Stores.empty.openStore "s3://bucket").1
  traffic := {}
  supply := FreshId.ofNumbers 0
  drawn := 0 }

theorem oneFile_sound (name : String) : (oneFile name).Sound :=
  ⟨Stores.Sound.empty.openStore _, fun _ h => by cases h⟩

/-- What comes of sending that file. -/
def sent (name : String) : Except Failure Literal × Session :=
  outcome (toLiteral {} (.path (.ofText ("/in/" ++ name))) .file) (oneFile name)

theorem exists_of_sent (name : String) (h : (sent name).1.toOption.isSome = true) :
    ∃ literal, sent name = (.ok literal, (sent name).2) :=
  exists_eq_ok h

theorem readsBack_iff_plain : ∃ literal s', sent "a.txt" = (.ok literal, s') ∧
    (ReadsBack s' literal .file [98, 111, 100, 121] ↔ Recovers (oneFile "a.txt") s'
      (uploadUri (oneFile "a.txt").storage (.ofText "/in/a.txt") none) [98, 111, 100, 121]) := by
  obtain ⟨literal, h⟩ := exists_of_sent "a.txt" (by decide +kernel)
  exact ⟨literal, _, h, readsBack_iff (oneFile_sound _) rfl rfl (.path _) (by decide +kernel)
    (by decide +kernel) (by decide +kernel) h⟩

/-- The name `a%20b.txt` is escaped on the way out, and on the way back one escape more is read than
was written. -/
theorem not_readsBack_escape : ∃ literal s', sent "a%20b.txt" = (.ok literal, s') ∧
    (oneFile "a%20b.txt").storage.config.issue? = none ∧
      (oneFile "a%20b.txt").storage.files.read (.ofText "/in/a%20b.txt") =
        .ok [98, 111, 100, 121] ∧
      ¬ ReadsBack s' literal .file [98, 111, 100, 121] := by
  have hread : (oneFile "a%20b.txt").storage.files.read (.ofText "/in/a%20b.txt") =
      .ok [98, 111, 100, 121] := by decide +kernel
  have hlost : ((sent "a%20b.txt").2.storage.siteOf? (literalUri (uploadUri
      (oneFile "a%20b.txt").storage (.ofText "/in/a%20b.txt") none))).bind
        (sent "a%20b.txt").2.storage.contentAt? = none := by decide +kernel
  obtain ⟨literal, h⟩ := exists_of_sent "a%20b.txt" (by decide +kernel)
  refine ⟨literal, _, h, by decide +kernel, hread, ?_⟩
  obtain ⟨⟨metadata, hliteral⟩, huploaded⟩ := toLiteral_sends (oneFile_sound _) rfl rfl (.path _)
    (by decide +kernel) (by decide +kernel) hread h
  rw [hliteral, readsBack_remote (huploaded.sound (oneFile_sound _)) rfl (by decide +kernel)]
  -- the text of the literal leads to a key that nothing was put under
  rintro ⟨⟨site, hsite, hcontent⟩, -⟩
  rw [hsite, Option.bind_some, hcontent] at hlost
  cases hlost

/-- Where the text of the literal is the URI itself, the content comes back. -/
theorem recovers_of_literalUri_eq (h : Uploaded s s' uri content) (htext : literalUri uri = uri)
    (hscratch : Uri.isRemote uri = true → s'.storage.files.Admits (nextScratch s'.storage uri))
    (hplain : Uri.isRemote uri = false → Uri.toLocalPath uri = .ok (.ofText uri)) :
    Recovers s s' uri content := by
  obtain ⟨-, site, drawn, hstored⟩ := h
  unfold Recovers
  rw [htext]
  split
  · rename_i hremote
    exact ⟨⟨site, hstored.siteOf?, .inl hstored.siteOf?⟩, hscratch hremote⟩
  · rename_i hremote
    have hlocal : Uri.isRemote uri = false := by simpa using hremote
    have hsite := hstored.siteOf?
    unfold Storage.siteOf? at hsite
    rw [if_neg hremote, hplain hlocal] at hsite
    obtain ⟨place, hplace, rfl⟩ := Option.map_eq_some_iff.1 hsite
    have hread : s'.storage.files.read (.ofText uri) = .ok content := by
      refine (Storage.read_eq_ok _).2 ⟨place, hplace, ?_⟩
      rw [hstored.contentAt?, if_pos rfl]
    exact ⟨⟨_, hplain hlocal, FileSystem.isFile_of_read hread⟩, place, hplace,
      .inl hstored.siteOf?⟩

/-- A text without a percent sign names itself in a literal. -/
theorem literalUri_of_not_mem (h : '%' ∉ uri.toList) : literalUri uri = uri := by
  rw [literalUri, Percent.decodeText?_of_not_mem h, Option.getD_some]

/-- A fresh URI has a percent sign only if the prefix has one or the name needs one. -/
theorem not_mem_uploadUri {s : Storage} (hbase : '%' ∉ s.config.outputPrefix.toList)
    (hname : ∀ name, (p.fileName?.bind Utf8.decode?).bind Uri.fileName? = some name →
      ∀ c ∈ name.toList, Percent.isUnreserved c = true) :
    '%' ∉ (uploadUri s p none).toList := by
  have hid : '%' ∉ (s.supply s.drawn).text.toList := by
    intro hmem
    rw [FreshId.text, String.toList_ofList] at hmem
    exact absurd ((s.supply s.drawn).isDigit _ hmem) (by decide)
  have hslash : '%' ∉ "/".toList := by decide
  unfold uploadUri StorageConfig.remotePath
  rw [Option.getD_none]
  cases hstem : (p.fileName?.bind Utf8.decode?).bind Uri.fileName? with
  | none =>
    simp only [String.toList_append, List.mem_append, not_or]
    exact ⟨⟨hbase, hslash⟩, hid⟩
  | some name =>
    simp only [String.toList_append, List.mem_append, not_or]
    exact ⟨⟨⟨⟨hbase, hslash⟩, hid⟩, hslash⟩, Percent.not_mem_encodeComponent (hname name hstem)⟩

/-- **A file with a plain name comes back**: one of unreserved characters, under a prefix without a
percent sign. -/
theorem readsBack_of_plain (hs : s.Sound) (hmode : ctx.mode = .remote) (ht : t.isFile = true)
    (hvalue : Sends value path none) (hlocal : Uri.isRemote path = false)
    (hpath : Uri.toLocalPath path = .ok p) (hread : s.storage.files.read p = .ok content)
    (h : outcome (toLiteral ctx value t) s = (.ok literal, s'))
    (hbase : '%' ∉ s.storage.config.outputPrefix.toList)
    (hname : ∀ name, (p.fileName?.bind Utf8.decode?).bind Uri.fileName? = some name →
      ∀ c ∈ name.toList, Percent.isUnreserved c = true)
    (huri : uri = uploadUri s.storage p none)
    (hscratch : Uri.isRemote uri = true → s'.storage.files.Admits (nextScratch s'.storage uri))
    (hplain : Uri.isRemote uri = false → Uri.toLocalPath uri = .ok (.ofText uri)) :
    ReadsBack s' literal t content := by
  subst huri
  obtain ⟨⟨metadata, rfl⟩, huploaded⟩ :=
    toLiteral_sends hs hmode ht hvalue hlocal hpath hread h
  have htext := literalUri_of_not_mem (not_mem_uploadUri hbase hname)
  exact (readsBack_uploaded (huploaded.sound hs) ht huploaded).2
    (recovers_of_literalUri_eq huploaded htext hscratch hplain)

end Workflow.Files
