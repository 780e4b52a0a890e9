import Workflow.Proofs.Marshal.FileRecord
import Workflow.Proofs.Marshal.Materialization
import Workflow.Proofs.Marshal.Sending

/-!
# Files that go out as they came in

A file value that was read from a blob can be written as a blob again. It goes out under the URI
that it came in by, unless it is a local file that is uploaded.

* `Keeps`: what a file value keeps of the blob it was read from (`ofUri_keeps`).
* `Emits`: a value is written as one and the same literal from any session at all, which changes in
  its notices alone. So nothing is read on the way, and neither downloads nor changes of storage in
  between matter.
* `emits_remoteSource`, `emits_path_iff`: file values that are so written.
* `reemission_faithful`: when a value that was read from a blob is.
-/

namespace Workflow

/-- There is nothing to be read where there are no entries. -/
theorem FileSystem.read_noEntries {working : Location} {p : FilePath} {content : Bytes} :
    (FileSystem.mk [] working).read p ≠ .ok content := by
  intro h
  obtain ⟨l, -, hentry⟩ := FileSystem.read_eq_ok.1 h
  cases l <;> cases hentry

namespace Files

open Calls

variable {ctx : Context} {t : HostType} {declared : Declared} {f : FileValue} {value : HostValue}
  {uri format : String} {metadata : Option Dict} {s s' : Session}

/-- The blob that names a file of a declared type. -/
def blobOf (declared : Declared) (uri : String) (metadata : Option Dict) : Literal :=
  (Literal.ofBlob (.single declared.format) uri).withMetadata metadata

/-! ## What a value keeps of its literal -/

/-- A file value keeps the URI and the annotations of a blob. The URI is its source if it is remote
and a file is declared, and else its path as it stands. -/
structure Keeps (f : FileValue) (declared : Declared) (uri : String) (metadata : Option Dict) :
    Prop where
  metadata : f.metadata = metadata
  destination : f.destination = .auto
  remoteSource : f.remoteSource =
    if Uri.isRemote uri = true ∧ declared ≠ .pathLike then some uri else none
  path : f.remoteSource = none → f.path = uri

/-- Where no file is declared, the value is the URI and nothing fetches it. -/
theorem ofUri_pathLike (ht : t.isFile = false)
    (h : outcome (ofUri uri metadata t) s = (.ok f, s')) :
    Declared.ofHostType t = .ok .pathLike ∧ f = { FileValue.unmanaged uri with metadata } := by
  unfold ofUri at h
  cases hdeclared : Declared.ofHostType t with
  | error e =>
    rw [hdeclared] at h
    by_cases hremote : Uri.isRemote uri = true
    · rw [if_neg (by simp [hremote])] at h
      cases h
    · rw [if_pos (by simpa using hremote), outcome_bind, outcome_isLocalFile] at h
      cases hfound : (Uri.toLocalPath uri).toOption.any s.storage.files.isFile <;>
        simp only [hfound] at h <;> cases h
  | ok declared =>
    have hpath : declared = .pathLike := by
      by_contra hne
      exact nomatch ht.symm.trans ((ofHostType_eq_ok hdeclared).2.1 hne)
    rw [hdeclared, hpath] at h
    refine ⟨by rw [hpath], ?_⟩
    by_cases hremote : Uri.isRemote uri = true
    · rw [if_neg (by simp [hremote])] at h
      cases h
      rfl
    · rw [if_pos (by simpa using hremote), outcome_bind, outcome_isLocalFile] at h
      cases hfound : (Uri.toLocalPath uri).toOption.any s.storage.files.isFile with
      | false =>
        simp only [hfound] at h
        cases h
      | true =>
        simp only [hfound] at h
        cases h
        rfl

/-- **Every file value** keeps what it was read from. -/
theorem ofUri_keeps (h : outcome (ofUri uri metadata t) s = (.ok f, s')) :
    ∃ declared, Declared.ofHostType t = .ok declared ∧ Keeps f declared uri metadata := by
  by_cases ht : t.isFile = true
  · refine ⟨_, ofHostType_isFile ht, ?_⟩
    by_cases hremote : Uri.isRemote uri = true
    · rw [outcome_ofUri_remote ht hremote] at h
      cases h
      exact ⟨rfl, rfl, by rw [if_pos ⟨hremote, nofun⟩]; rfl, nofun⟩
    · obtain ⟨-, rfl, -⟩ := (ofUri_local_eq_ok ht (by simpa using hremote)).1 h
      refine ⟨rfl, rfl, ?_, fun _ => path_present⟩
      rw [if_neg fun hboth => hremote hboth.1]
      rfl
  · obtain ⟨hdeclared, rfl⟩ := ofUri_pathLike (by simpa using ht) h
    exact ⟨_, hdeclared, rfl, rfl, (if_neg fun hboth => hboth.2 rfl).symm, fun _ => rfl⟩

/-! ## Values that are written as they are -/

/-- From any session a value is written as one literal, and nothing changes but the notices. -/
def Emits (ctx : Context) (value : HostValue) (t : HostType) (literal : Literal) : Prop :=
  ∀ s, ∃ notices, outcome (toLiteral ctx value t) s = (.ok literal, { s with notices })

/-- **A file that has a source** goes out under it, in any context and whatever its destination. -/
theorem emits_remoteSource (hdeclared : Declared.ofHostType t = .ok declared)
    (hsource : f.remoteSource = some uri) :
    Emits ctx (.file f) t (blobOf declared uri f.metadata) := by
  intro s
  refine ⟨s.notices, ?_⟩
  unfold toLiteral
  rw [hdeclared]
  simp only [hsource]
  rfl

/-- A file that has no source is uploaded or not. -/
theorem outcome_toLiteral_path (hdeclared : Declared.ofHostType t = .ok declared)
    (hsource : f.remoteSource = none) (s : Session) :
    outcome (toLiteral ctx (.file f) t) s = outcome (do
      let uploads ← uploadsFile ctx declared t f
      Outgoing.toLiteral ⟨f.path, f.destination.explicit?, f.metadata, uploads⟩ declared) s := by
  unfold toLiteral
  rw [hdeclared]
  simp only [hsource]
  rfl

/-- Content is not checked where there is no sniffer. -/
theorem checkContent_unsniffed (hsniffer : ctx.sniffer = none) (extension path : String) :
    checkContent ctx extension path = .ok () :=
  checkContent_eq_ok_iff.2 (.inr (.inr (.inl hsniffer)))

/-- Once its content is checked, nothing stands in the way of the decision on a file. -/
theorem uploadsFile_answers (hcheck : checkContent ctx declared.format f.path = .ok ())
    (s : Session) : ∃ uploads notices,
      outcome (uploadsFile ctx declared t f) s = (.ok uploads, { s with notices }) := by
  unfold uploadsFile
  rw [hcheck]
  simp only [Marshal.ofExcept, outcome_pure_bind]
  split
  · exact ⟨_, s.notices, rfl⟩
  · split
    · exact ⟨_, _, rfl⟩
    · exact ⟨_, s.notices, rfl⟩

/-- A session without files, so that no upload succeeds. -/
def bare (s : Session) : Session :=
  .ofStorage { s.storage with files := ⟨[], []⟩, stores := .empty }

theorem bare_sound (s : Session) : (bare s).Sound := ⟨.empty, fun _ hn => by cases hn⟩

/-- **A file without a source and a destination** goes out under its path exactly if that is remote,
only a path is declared or the run stays on the machine. -/
theorem emits_path_iff (hsniffer : ctx.sniffer = none)
    (hdeclared : Declared.ofHostType t = .ok declared) (hsource : f.remoteSource = none)
    (hdestination : f.destination = .auto) :
    Emits ctx (.file f) t (blobOf declared f.path f.metadata) ↔
      Uri.isRemote f.path = true ∨ declared = .pathLike ∨ ctx.mode = .onMachine := by
  -- a file like this is uploaded in just the other cases
  have hasks : ∀ {s : Session} {uploads : Bool} {s' : Session},
      outcome (uploadsFile ctx declared t f) s = (.ok uploads, s') → (uploads = false ↔
        Uri.isRemote f.path = true ∨ declared = .pathLike ∨ ctx.mode = .onMachine) := by
    intro s uploads s' h
    obtain ⟨-, hanswer, -⟩ := uploadsFile_eq_ok hsource h
    have hasked : Asks ctx s.storage.files (.file f) ↔
        ¬ (Uri.isRemote f.path = true ∨ ctx.mode = .onMachine) := by
      unfold Asks
      cases ctx.mode <;> simp [hsource, hdestination, Destination.explicit?]
    rw [hasked] at hanswer
    rw [← Bool.not_eq_true, hanswer]
    by_cases hpath : declared = .pathLike <;> simp [hpath, or_iff_not_imp_left]
  constructor
  · intro hemits
    obtain ⟨notices, h⟩ := hemits (bare (.ofStorage ⟨{}, ⟨[], []⟩, .empty, {}, .ofNumbers 0, 0⟩))
    rw [outcome_toLiteral_path hdeclared hsource] at h
    obtain ⟨uploads, s₁, hdecide, hend⟩ := bind_eq_ok.1 h
    cases uploads with
    | false => exact (hasks hdecide).1 rfl
    | true =>
      obtain ⟨-, -, hsame⟩ := uploadsFile_eq_ok hsource hdecide
      obtain rfl := hsame rfl
      obtain ⟨text, s₂, hupload, -⟩ := bind_eq_ok.1 hend
      obtain ⟨p, content, -, hdelivered, -⟩ := upload_delivered (bare_sound _) hupload
      exact absurd hdelivered.read FileSystem.read_noEntries
  · intro hstays s
    obtain ⟨uploads, notices, hdecide⟩ :=
      uploadsFile_answers (t := t) (checkContent_unsniffed hsniffer declared.format f.path) s
    obtain rfl := (hasks hdecide).2 hstays
    refine ⟨notices, ?_⟩
    rw [outcome_toLiteral_path hdeclared hsource]
    exact bind_eq_ok.2 ⟨false, _, hdecide, rfl⟩

/-! ## Values that were read -/

/-- **A file goes out as it came in.** A value that was read from a blob is written, without a
sniffer, as the blob with the same URI, the same annotations and the declared format, from any
session and without a change of storage, exactly if the URI is remote, only a path is declared or
the run stays on the machine. A remote file does so in every context, with any destination too. -/
theorem reemission_faithful (ctx : Context) (hsniffer : ctx.sniffer = none)
    (h : outcome (toHostValue ((Literal.ofBlob (.single format) uri).withMetadata metadata) t) s =
      (.ok value, s')) :
    ∃ f declared, value = .file f ∧ Declared.ofHostType t = .ok declared ∧
      (Emits ctx value t (blobOf declared uri metadata) ↔
        Uri.isRemote uri = true ∨ declared = .pathLike ∨ ctx.mode = .onMachine) ∧
      (Uri.isRemote uri = true → t.isFile = true → ∀ (other : Context) (d : Destination),
        Emits other (.file (f.set (.destination d))) t (blobOf declared uri metadata)) := by
  obtain ⟨f, s₁, hfile, hend⟩ := bind_eq_ok.1 h
  cases hend
  obtain ⟨declared, hdeclared, hkeeps⟩ := ofUri_keeps hfile
  refine ⟨f, declared, rfl, hdeclared, ?_, fun hremote ht other d => ?_⟩
  · by_cases hboth : Uri.isRemote uri = true ∧ declared ≠ .pathLike
    · have hsource : f.remoteSource = some uri := by rw [hkeeps.remoteSource, if_pos hboth]
      have hemits : Emits ctx (.file f) t (blobOf declared uri f.metadata) :=
        emits_remoteSource hdeclared hsource
      rw [hkeeps.metadata] at hemits
      exact iff_of_true hemits (.inl hboth.1)
    · have hsource : f.remoteSource = none := by rw [hkeeps.remoteSource, if_neg hboth]
      have hemits := emits_path_iff hsniffer hdeclared hsource hkeeps.destination
      rwa [hkeeps.metadata, hkeeps.path hsource] at hemits
  · have hsource : f.remoteSource = some uri := by
      rw [hkeeps.remoteSource, if_pos ⟨hremote, (ofHostType_eq_ok hdeclared).2.2 ht⟩]
    have hmetadata : f.metadata = metadata := hkeeps.metadata
    rw [← hmetadata]
    exact emits_remoteSource hdeclared hsource

/-- An annotated remote file goes out as it came in even if it was told not to be uploaded, and so
does a local file in a run that stays on the machine, but not in any other. -/
theorem reemission_faithful_mixed :
    let annotated : Option Dict := some (.ofList [("rows", "3")])
    (∃ f s', outcome (toHostValue ((Literal.ofBlob (.single "parquet")
          "s3://bucket/a.csv").withMetadata annotated) (.fileOf "csv")) (oneFile "a.txt") =
        (.ok (.file f), s') ∧
      Emits {} (.file (f.set (.destination .disabled))) (.fileOf "csv")
        (blobOf (.file "csv") "s3://bucket/a.csv" annotated)) ∧
    ∃ f s', outcome (toHostValue ((Literal.ofBlob (.single "") "/in/a.txt").withMetadata annotated)
          .file) (oneFile "a.txt") = (.ok (.file f), s') ∧
      Emits { mode := .onMachine } (.file f) .file (blobOf (.file "") "/in/a.txt" annotated) ∧
      ¬ Emits {} (.file f) .file (blobOf (.file "") "/in/a.txt" annotated) := by
  intro annotated
  have hremote : Uri.isRemote "s3://bucket/a.csv" = true := by decide +kernel
  have hlocal : Uri.isRemote "/in/a.txt" = false := by decide +kernel
  have hpath : Uri.toLocalPath "/in/a.txt" = .ok (.ofText "/in/a.txt") := by decide +kernel
  have hisFile : (oneFile "a.txt").storage.files.isFile (.ofText "/in/a.txt") = true := by
    decide +kernel
  constructor
  · have hread : outcome (toHostValue ((Literal.ofBlob (.single "parquet")
        "s3://bucket/a.csv").withMetadata annotated) (.fileOf "csv")) (oneFile "a.txt") =
          (.ok (.file (fetched (oneFile "a.txt") _ annotated _)), handedOut (oneFile "a.txt")) :=
      bind_eq_ok.2 ⟨_, _, outcome_ofUri_remote rfl hremote, rfl⟩
    obtain ⟨f, declared, ⟨⟩, ⟨⟩, -, hanywhere⟩ := reemission_faithful {} rfl hread
    exact ⟨_, _, hread, hanywhere hremote rfl {} .disabled⟩
  · have hread : outcome (toHostValue ((Literal.ofBlob (.single "")
        "/in/a.txt").withMetadata annotated) .file) (oneFile "a.txt") =
          (.ok (.file (present "/in/a.txt" annotated .file)), oneFile "a.txt") :=
      bind_eq_ok.2 ⟨_, _, (ofUri_local_eq_ok rfl hlocal).2 ⟨⟨_, hpath, hisFile⟩, rfl, rfl⟩, rfl⟩
    obtain ⟨f, declared, ⟨⟩, ⟨⟩, hstays, -⟩ :=
      reemission_faithful { mode := .onMachine } rfl hread
    obtain ⟨g, declared, ⟨⟩, ⟨⟩, hgoes, -⟩ := reemission_faithful {} rfl hread
    refine ⟨_, _, hread, hstays.2 (.inr (.inr rfl)), fun hemits => ?_⟩
    rcases hgoes.1 hemits with h | h | h
    · exact nomatch hlocal.symm.trans h
    · cases h
    · cases h

end Files

end Workflow
