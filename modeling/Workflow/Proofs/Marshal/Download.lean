import Workflow.Proofs.Marshal.RoundTrip
import Workflow.Proofs.Storage.Transcript

/-!
# Whether content is where a download says

A literal names a file by a URI. The file value that is read from it has a path that its download
gives, and at that path the content of the URI should be.

* `Storage.Holds`: at a path there is the content that a URI names.
* `Literal.fileUri?`: the URI of a blob or of a record. `toHostValue_eq_ok` says that a literal is
  read by it alone.
* `download_holds_iff`: a download of a remote URI always holds its content. Any other URI is taken
  for a path as it stands, which a `file` URL is not.
-/

namespace Workflow

open Calls

/-! ## Content at a path -/

/-- A regular file is read, unless its name is too long. -/
theorem FileSystem.read_of_isFile {fs : FileSystem} {p : FilePath} (h : fs.isFile p = true)
    (hname : fs.read p ≠ .error .nameTooLong) : ∃ content, fs.read p = .ok content := by
  unfold isFile at h
  split at h
  · rename_i l slashed hplace
    split at h
    · rename_i content hentry
      obtain rfl : slashed = false := by simpa using h
      have hread : fs.read p = if hasLongName l then .error .nameTooLong else .ok content := by
        unfold read
        rw [hplace]
        simp only [bind, Except.bind, hentry]
        rfl
      by_cases hlong : hasLongName l = true
      · exact absurd (by rw [hread, if_pos hlong]) hname
      · exact ⟨content, by rw [hread, if_neg hlong]⟩
    · cases h
  · cases h

namespace Storage

variable {s s' : Storage} {uri : String} {p : FilePath}

/-- At a path there is the content that a URI names. -/
def Holds (s : Storage) (p : FilePath) (uri : String) : Prop :=
  ∃ content, s.files.read p = .ok content ∧ (outcome (getBytes uri) s).1 = .ok content

/-- **What was fetched** from a store is at its path, and still in the store. -/
theorem getData_holds (hs : s.stores.Sound) (hremote : Uri.isRemote uri = true)
    (h : outcome (getData uri p) s = (.ok (), s')) : s'.Holds p uri := by
  unfold getData at h
  obtain ⟨content, t, hget, h⟩ := bind_eq_ok.1 h
  obtain ⟨⟨⟩, t', hparent, hwrite⟩ := bind_eq_ok.1 h
  obtain ⟨files, hwritten, rfl⟩ := writeFile_eq_ok.1 hwrite
  have hgot := getBytes_sameContent uri s
  rw [hget] at hgot
  have hmade := createParent_sameContent p t
  rw [hparent] at hmade
  have hsame := hgot.trans hmade
  refine ⟨content, FileSystem.read_write hwritten, getBytes_eq_ok.2 ?_⟩
  have hread : (outcome (getBytes uri) s).1 = .ok content := by rw [hget]
  obtain ⟨site, hsite, hcontent⟩ := getBytes_eq_ok.1 hread
  refine ⟨site, ?_, ?_⟩
  · unfold siteOf? at hsite ⊢
    rwa [if_pos hremote] at hsite ⊢
  · -- a file was written, and the site is an object
    unfold siteOf? at hsite
    rw [if_pos hremote] at hsite
    obtain ⟨location, -, rfl⟩ := Option.map_eq_some_iff.1 hsite
    exact (hsame.contentAt? hs _).trans hcontent

/-- What a URI of a file names is what is at its path. -/
theorem holds_local (hlocal : Uri.isRemote uri = false) : s.Holds p uri ↔
    ∃ q content, Uri.toLocalPath uri = .ok q ∧ s.files.read q = .ok content ∧
      s.files.read p = .ok content := by
  unfold Holds getBytes
  rw [if_neg (by simp [hlocal])]
  simp only [getLocal_eq_ok]
  constructor
  · rintro ⟨content, hread, q, hq, hcontent⟩
    exact ⟨q, content, hq, hcontent, hread⟩
  · rintro ⟨q, content, hq, hcontent, hread⟩
    exact ⟨content, hread, q, hq, hcontent⟩

end Storage

/-! ## Literals that name a file -/

/-- The URI that a literal gives for a file: that of a blob, or the path of a record. -/
def Literal.fileUri? (literal : Literal) : Option String :=
  match literal.asScalar? with
  | some (.blob b) => some b.uri
  | some (.binary b) => (FileRecord.ofBinary b).toOption.bind (·.path)
  | some (.generic g) => (FileRecord.ofGeneric g).toOption.bind (·.path)
  | _ => Option.none

namespace Files

variable {literal : Literal} {t : HostType} {value : HostValue} {f : FileValue} {p : FilePath}
  {s s₁ s₂ : Session}

theorem ofBlob_eq_ok (h : outcome (ofBlob literal t) s = (.ok value, s₁)) :
    ∃ blob metadata f, literal.asScalar? = some (.blob blob) ∧ value = .file f ∧
      outcome (ofUri blob.uri metadata t) s = (.ok f, s₁) := by
  unfold ofBlob at h
  split at h
  · cases h
  · rename_i blob hblob
    split at h
    · obtain ⟨f, s', hfile, hend⟩ := bind_eq_ok.1 h
      cases hend
      refine ⟨blob, literal.metadata, f, ?_, rfl, hfile⟩
      unfold Literal.asBlob? at hblob
      split at hblob
      · cases hblob
        rfl
      · cases hblob
    · cases h

theorem ofRecord_eq_ok {record : Except Failure FileRecord}
    (h : outcome (do ofRecord (← Marshal.ofExcept record) t) s = (.ok value, s₁)) :
    ∃ uri metadata f, record.toOption.bind (·.path) = some uri ∧ value = .file f ∧
      outcome (ofUri uri metadata t) s = (.ok f, s₁) := by
  obtain ⟨r, s', hcall, hrecord⟩ := bind_eq_ok.1 h
  obtain ⟨rfl, rfl⟩ := Marshal.ofExcept_eq_ok.1 hcall
  obtain ⟨literal, s'', hcall, hblob⟩ := bind_eq_ok.1 hrecord
  obtain ⟨hliteral, rfl⟩ := Marshal.ofExcept_eq_ok.1 hcall
  unfold FileRecord.toBlob at hliteral
  split at hliteral
  · rename_i uri hpath
    cases hliteral
    obtain ⟨f, s'', hfile, hend⟩ := bind_eq_ok.1 hblob
    cases hend
    exact ⟨uri, r.metadata, f, hpath, rfl, hfile⟩
  · cases hliteral

/-- **A literal is read** by the URI that it gives, whatever its form. -/
theorem toHostValue_eq_ok (h : outcome (toHostValue literal t) s = (.ok value, s₁)) :
    ∃ uri metadata f, literal.fileUri? = some uri ∧ value = .file f ∧
      outcome (ofUri uri metadata t) s = (.ok f, s₁) := by
  unfold toHostValue at h
  unfold Literal.fileUri?
  split at h
  · rename_i b hscalar
    rw [hscalar]
    exact ofRecord_eq_ok h
  · rename_i g hscalar
    rw [hscalar]
    exact ofRecord_eq_ok h
  · obtain ⟨blob, metadata, f, hscalar, rfl, hfile⟩ := ofBlob_eq_ok h
    rw [hscalar]
    exact ⟨blob.uri, metadata, f, rfl, rfl, hfile⟩

/-! ## Downloads -/

/-- What is handed out for a remote URI is fetched from it, and ends up at the path that is
given. -/
theorem download_fetched {uri : String} {metadata : Option Dict} (hs : s.Sound)
    (hremote : Uri.isRemote uri = true)
    (h : outcome (fetched s uri metadata t).download (handedOut s) = (.ok p, s₂)) :
    s₂.storage.Holds p uri := by
  have hfresh : s.issued ∉ (handedOut s).done :=
    fun hmem => absurd (hs.done _ hmem) (Nat.lt_irrefl _)
  have hsource : (fetched s uri metadata t).source =
      .remote ⟨uri, nextScratch s.storage uri, s.issued⟩ := rfl
  unfold FileValue.download at h
  rw [hsource] at h
  obtain ⟨⟨⟩, s', hrun, hend⟩ := bind_eq_ok.1 h
  cases hend
  unfold Transfer.run at hrun
  rw [outcome_get_bind, if_neg (by simpa using hfresh)] at hrun
  obtain ⟨⟨⟩, s'', hcall, hdone⟩ := bind_eq_ok.1 hrun
  obtain ⟨storage, hget, rfl⟩ := Marshal.ofStorage_eq_ok.1 hcall
  cases hdone
  exact Storage.getData_holds (by exact hs.stores) hremote hget

/-- **Whether a download holds what its literal names.** A remote URI is fetched, and the path that
is given holds its content. Any other URI is given as the path, so it must lead to the same content
when it is read as a path as it stands. -/
theorem download_holds_iff (hs : s.Sound) (ht : t.isFile = true)
    (hvalue : outcome (toHostValue literal t) s = (.ok (.file f), s₁))
    (hdownload : outcome f.download s₁ = (.ok p, s₂)) :
    ∃ uri, literal.fileUri? = some uri ∧ (s₂.storage.Holds p uri ↔ Uri.isRemote uri = true ∨
      ∃ q content, Uri.toLocalPath uri = .ok q ∧ s.storage.files.read q = .ok content ∧
        s.storage.files.read (.ofText uri) = .ok content) := by
  obtain ⟨uri, metadata, f', huri, hsame, hfile⟩ := toHostValue_eq_ok hvalue
  cases hsame
  refine ⟨uri, huri, ?_⟩
  by_cases hremote : Uri.isRemote uri = true
  · rw [outcome_ofUri_remote ht hremote] at hfile
    cases hfile
    exact iff_of_true (download_fetched hs hremote hdownload) (.inl hremote)
  · have hlocal : Uri.isRemote uri = false := by simpa using hremote
    obtain ⟨-, rfl, rfl⟩ := (ofUri_local_eq_ok ht hlocal).1 hfile
    -- nothing is fetched, and the path is the text of the URI
    have hpath : p = .ofText uri ∧ s₂ = s₁ := by
      unfold FileValue.download at hdownload
      rw [show (present uri metadata t).source = .present from rfl, path_present] at hdownload
      cases hdownload
      exact ⟨rfl, rfl⟩
    obtain ⟨rfl, rfl⟩ := hpath
    rw [Storage.holds_local hlocal, hlocal]
    simp

/-- **A plain path is held**: one that is a path as it stands. -/
theorem download_holds_plain (hs : s.Sound) (ht : t.isFile = true) {uri : String}
    (huri : literal.fileUri? = some uri) (hlocal : Uri.isRemote uri = false)
    (hplain : Uri.toLocalPath uri = .ok (.ofText uri))
    (hname : s.storage.files.read (.ofText uri) ≠ .error .nameTooLong)
    (hvalue : outcome (toHostValue literal t) s = (.ok (.file f), s₁))
    (hdownload : outcome f.download s₁ = (.ok p, s₂)) : s₂.storage.Holds p uri := by
  obtain ⟨uri₁, huri₁, hiff⟩ := download_holds_iff hs ht hvalue hdownload
  obtain ⟨uri₂, metadata, f', huri₂, -, hfile⟩ := toHostValue_eq_ok hvalue
  obtain rfl : uri₁ = uri := Option.some.inj (huri₁.symm.trans huri)
  obtain rfl : uri₂ = uri₁ := Option.some.inj (huri₂.symm.trans huri)
  obtain ⟨⟨q, hq, hisFile⟩, -⟩ := (ofUri_local_eq_ok ht hlocal).1 hfile
  obtain rfl : q = .ofText uri₂ := Except.ok.inj (hq.symm.trans hplain)
  obtain ⟨content, hread⟩ := FileSystem.read_of_isFile hisFile hname
  exact hiff.2 (.inr ⟨_, content, hq, hread, hread⟩)

/-- A blob that names the file of `oneFile` is read as a file that is there, whose download gives
the URI as a path. -/
theorem downloads_oneFile (uri : String) (hlocal : Uri.isRemote uri = false)
    (hpath : Uri.toLocalPath uri = .ok (.ofText "/in/a.txt")) :
    outcome (toHostValue (.ofBlob (.single "") uri) .file) (oneFile "a.txt") =
        (.ok (.file (present uri none .file)), oneFile "a.txt") ∧
      outcome (present uri none .file).download (oneFile "a.txt") =
        (.ok (.ofText uri), oneFile "a.txt") := by
  have hisFile : (oneFile "a.txt").storage.files.isFile (.ofText "/in/a.txt") = true := by
    decide +kernel
  have hfile : outcome (ofUri uri none .file) (oneFile "a.txt") =
      (.ok (present uri none .file), oneFile "a.txt") :=
    (ofUri_local_eq_ok rfl hlocal).2 ⟨⟨_, hpath, hisFile⟩, rfl, rfl⟩
  refine ⟨bind_eq_ok.2 ⟨_, _, hfile, rfl⟩, ?_⟩
  unfold FileValue.download
  rw [show (present uri none .file).source = .present from rfl, path_present]
  rfl

theorem download_holds_iff_path : ∃ f s₁ p s₂,
    outcome (toHostValue (.ofBlob (.single "") "/in/a.txt") .file) (oneFile "a.txt") =
        (.ok (.file f), s₁) ∧
      outcome f.download s₁ = (.ok p, s₂) ∧ s₂.storage.Holds p "/in/a.txt" := by
  have hpath : Uri.toLocalPath "/in/a.txt" = .ok (.ofText "/in/a.txt") := by decide +kernel
  have hread : (oneFile "a.txt").storage.files.read (.ofText "/in/a.txt") =
      .ok [98, 111, 100, 121] := by decide +kernel
  obtain ⟨hvalue, hdownload⟩ := downloads_oneFile "/in/a.txt" (by decide +kernel) hpath
  obtain ⟨uri, huri, hiff⟩ := download_holds_iff (oneFile_sound _) rfl hvalue hdownload
  cases huri
  exact ⟨_, _, _, _, hvalue, hdownload, hiff.2 (.inr ⟨_, _, hpath, hread, hread⟩)⟩

/-- A `file` URL is no path as it stands: the download gives one that leads nowhere. -/
theorem not_holds_fileUrl : ∃ f s₁ p s₂,
    outcome (toHostValue (.ofBlob (.single "") "file:///in/a.txt") .file) (oneFile "a.txt") =
        (.ok (.file f), s₁) ∧
      outcome f.download s₁ = (.ok p, s₂) ∧
      (outcome (Storage.getBytes "file:///in/a.txt") s₂.storage).1 = .ok [98, 111, 100, 121] ∧
      ¬ s₂.storage.Holds p "file:///in/a.txt" := by
  have hpath : Uri.toLocalPath "file:///in/a.txt" = .ok (.ofText "/in/a.txt") := by decide +kernel
  have hread : (oneFile "a.txt").storage.files.read (.ofText "file:///in/a.txt") =
      .error .notFound := by decide +kernel
  obtain ⟨hvalue, hdownload⟩ := downloads_oneFile "file:///in/a.txt" (by decide +kernel) hpath
  refine ⟨_, _, _, _, hvalue, hdownload, by decide +kernel, ?_⟩
  rintro ⟨content, hcontent, -⟩
  cases hread.symm.trans hcontent

end Files

end Workflow
