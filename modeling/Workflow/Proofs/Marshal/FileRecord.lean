import Workflow.Proofs.Codec.MessagePack
import Workflow.Proofs.Json.Fields
import Workflow.Proofs.Marshal.RoundTrip

/-!
# The wire forms of a file

A file travels as a blob, as a record in MessagePack or as a record in JSON. All three say the same.

* `ofBinary_toBinary`, `ofGeneric_toGeneric`: a record is read back from either encoding.
* `Files.WireForm`: the literals that stand for a path with its annotations. `toHostValue_wireForm`
  says that each is read by way of the same call.
* `Files.Agrees`: two readings give the same error, or file values that differ by the fresh name in
  their scratch paths alone.
* `Files.wireForms_agree` joins them.
-/

namespace Workflow

open Calls

namespace FileRecord

variable {r : FileRecord}

/-- All lengths of a record fit into four bytes: those of its texts, and the count of its
annotations. -/
structure Fits (r : FileRecord) : Prop where
  path : ∀ path ∈ r.path, (Utf8.encode path).length < UInt32.size
  count : ∀ d ∈ r.metadata, d.entries.length < UInt32.size
  keys : ∀ d ∈ r.metadata, ∀ entry ∈ d.entries, (Utf8.encode entry.1).length < UInt32.size
  values : ∀ d ∈ r.metadata, ∀ entry ∈ d.entries, (Utf8.encode entry.2).length < UInt32.size

/-! ## MessagePack -/

/-- What stands for the path in MessagePack. -/
theorem fits_pathValue (h : r.Fits) {depth : Nat} :
    MessagePack.Fits depth ((r.path.map packText).getD .nil) := by
  have hpath := h.path
  cases hcase : r.path with
  | none => exact .nil
  | some path => exact .str (hpath path hcase)

/-- What stands for the annotations in MessagePack. -/
theorem fits_dictValue (h : r.Fits) {d : Dict} (hd : d ∈ r.metadata) {depth : Nat} :
    MessagePack.Fits (depth + 1)
      (.map (d.entries.map fun (key, value) => (packText key, packText value))) := by
  refine .map ?_ ?_ ?_
  · rw [List.length_map]
    exact h.count d hd
  · rw [List.forall_mem_map]
    exact fun entry hentry => .str (h.keys d hd entry hentry)
  · rw [List.forall_mem_map]
    exact fun entry hentry => .str (h.values d hd entry hentry)

/-- **A record fits** where there may be two maps around a value. -/
theorem fits_toMessagePack (h : r.Fits) (depth : Nat) :
    MessagePack.Fits (depth + 2) r.toMessagePack := by
  have hname : ∀ name ∈ ["path", "metadata"], MessagePack.Fits (depth + 1) (packText name) := by
    intro name hname
    refine .str ?_
    revert name
    decide
  unfold toMessagePack
  cases hmetadata : r.metadata with
  | none =>
    refine .map (by simp [UInt32.size]) ?_ ?_
    · simpa using hname "path" (by decide)
    · simpa using fits_pathValue h
  | some d =>
    refine .map (by simp [UInt32.size]) ?_ ?_
    · simpa using ⟨hname "path" (by decide), hname "metadata" (by decide)⟩
    · simpa using ⟨fits_pathValue h, fits_dictValue h hmetadata⟩

theorem unpackDict?_map (d : Dict) :
    unpackDict? (.map (d.entries.map fun (key, value) => (packText key, packText value))) =
      some d := by
  rw [unpackDict?, Json.mapM_map_eq_some, Option.bind_eq_bind, Option.bind_some,
    Dict.ofList_entries, Option.pure_def]
  intro entry _
  simp only [packText, unpackText?, Utf8.decode?_encode, Option.bind_eq_bind, Option.bind_some,
    Option.pure_def]

theorem unpackOptional_path (path : Option String) :
    unpackOptional unpackText? (some ((path.map packText).getD .nil)) = some path := by
  cases path with
  | none => rfl
  | some path =>
    show (Utf8.decode? (Utf8.encode path)).map some = _
    rw [Utf8.decode?_encode, Option.map_some]

/-- **A record is read back** from its MessagePack value. -/
theorem ofMessagePack?_toMessagePack (r : FileRecord) : ofMessagePack? r.toMessagePack = some r := by
  obtain ⟨path, metadata⟩ := r
  have hpath : field? (packText "path") = some .path := by decide
  have hmetadata : field? (packText "metadata") = some .metadata := by decide
  cases metadata with
  | none =>
    have hslots : ofMessagePack? (toMessagePack ⟨path, none⟩) =
        ofSlots? (some ((path.map packText).getD .nil)) none := by
      simp only [toMessagePack, ofMessagePack?, List.mapM_cons, List.mapM_nil, hpath]
      rfl
    rw [hslots, ofSlots?, unpackOptional_path]
    rfl
  | some d =>
    have hslots : ofMessagePack? (toMessagePack ⟨path, some d⟩) =
        ofSlots? (some ((path.map packText).getD .nil))
          (some (.map (d.entries.map fun (key, value) => (packText key, packText value)))) := by
      simp only [toMessagePack, ofMessagePack?, List.mapM_cons, List.mapM_nil, hpath, hmetadata]
      rfl
    rw [hslots, ofSlots?, unpackOptional_path, unpackOptional, unpackDict?_map]
    · rfl
    · exact MessagePack.noConfusion

/-- **A record is read back** from its binary literal. -/
theorem ofBinary_toBinary (h : r.Fits) :
    ofBinary ⟨r.toMessagePack.write, messagePackTag⟩ = .ok r := by
  have hread := MessagePack.read?_write (fits_toMessagePack h 1021) []
  rw [List.append_nil] at hread
  rw [ofBinary, if_pos rfl, hread, Option.bind_some, ofMessagePack?_toMessagePack]

/-! ## JSON -/

/-- The members of a record in canonical form: the annotations come first. -/
theorem members_ofMembers (r : FileRecord) : (JsonObject.ofMembers r.toMembers).members =
    Json.field? "metadata" Json.ofDict r.metadata ++ [("path", Json.ofOptional .str r.path)] := by
  obtain ⟨path, metadata⟩ := r
  have hpath : (Json.ofOptional .str path).canonical = Json.ofOptional .str path := by
    cases path <;> rfl
  have horder : ("metadata" < "path") := by decide
  cases metadata with
  | none =>
    simp [JsonObject.ofMembers, toMembers, Json.field?, Json.canonicalMembers, hpath, sortKeys,
      insertKey]
  | some d =>
    simp [JsonObject.ofMembers, toMembers, Json.field?, Json.canonicalMembers, hpath,
      Json.canonical_ofDict, sortKeys, insertKey, horder]

/-- **A record is read back** from its generic literal. -/
theorem ofGeneric_toGeneric (r : FileRecord) : ofGeneric (.ofMembers r.toMembers) = .ok r := by
  have hmembers := members_ofMembers r
  obtain ⟨path, metadata⟩ := r
  have hpath : Json.optional Json.asString? (some (Json.ofOptional .str path)) = some path := by
    cases path <;> rfl
  have hslots : (JsonObject.ofMembers (toMembers ⟨path, metadata⟩)).toJson.fields?
      ["path", "metadata"] = some [some (Json.ofOptional .str path), metadata.map Json.ofDict] := by
    rw [JsonObject.toJson, hmembers]
    cases metadata <;> rfl
  have hmetadata : Json.optional Json.asDict? (metadata.map Json.ofDict) = some metadata :=
    Json.optional_map (fun _ => Json.noConfusion) fun d _ => Json.asDict?_ofDict d
  have hread : ofJson? (JsonObject.ofMembers (toMembers ⟨path, metadata⟩)).toJson =
      some ⟨path, metadata⟩ := by
    rw [ofJson?, hslots, Option.bind_eq_bind, Option.bind_some, Json.slot_zero, Json.slot_succ,
      Json.slot_zero, hpath, hmetadata]
    rfl
  rw [ofGeneric, hread]

end FileRecord

/-- Two file values differ by the fresh name in the paths they are downloaded to, or not at all. -/
structure FileValue.SameButScratch (config : StorageConfig) (f g : FileValue) : Prop where
  path : f.path = g.path ∨ ∃ uri id id', f.remoteSource = some uri ∧
    f.path = (config.scratchPath id (some uri)).text ∧
      g.path = (config.scratchPath id' (some uri)).text
  extension : f.extension = g.extension
  destination : f.destination = g.destination
  remoteSource : f.remoteSource = g.remoteSource
  metadata : f.metadata = g.metadata
  isLazy : f.isLazy = g.isLazy

theorem FileValue.SameButScratch.refl {config : StorageConfig} (f : FileValue) :
    f.SameButScratch config f :=
  ⟨.inl rfl, rfl, rfl, rfl, rfl, rfl⟩

namespace Files

/-! ## Readings of one file -/

/-- The literals that stand for a path with its annotations: a blob of any format, and the record in
either encoding. -/
inductive WireForm (path : String) (metadata : Option Dict) : Literal → Prop where
  | blob (format : String) :
      WireForm path metadata ((Literal.ofBlob (.single format) path).withMetadata metadata)
  | binary (h : FileRecord.Fits ⟨some path, metadata⟩) :
      WireForm path metadata (FileRecord.toBinary ⟨some path, metadata⟩)
  | generic : WireForm path metadata (FileRecord.toGeneric ⟨some path, metadata⟩)

/-- Two readings end alike: with the same error, or with files that differ by a fresh name. -/
inductive Agrees (config : StorageConfig) :
    Except Failure HostValue → Except Failure HostValue → Prop where
  | error (e : Failure) : Agrees config (.error e) (.error e)
  | file {f g : FileValue} (h : f.SameButScratch config g) :
      Agrees config (.ok (.file f)) (.ok (.file g))

variable {path uri : String} {metadata : Option Dict} {literal : Literal} {t : HostType}
  {s s' : Session}

/-- **Every form of a file** is read by its path and its annotations alone. -/
theorem toHostValue_wireForm (h : WireForm path metadata literal) :
    toHostValue literal t = do return .file (← ofUri path metadata t) := by
  cases h with
  | blob format => rfl
  | binary hfits =>
    show (do ofRecord (← Marshal.ofExcept (FileRecord.ofBinary _)) t) = _
    rw [FileRecord.ofBinary_toBinary hfits]
    rfl
  | generic =>
    show (do ofRecord (← Marshal.ofExcept (FileRecord.ofGeneric _)) t) = _
    rw [FileRecord.ofGeneric_toGeneric]
    rfl

theorem outcome_isLocalFile : outcome (isLocalFile uri) s =
    (.ok ((Uri.toLocalPath uri).toOption.any s.storage.files.isFile), s) := by
  unfold isLocalFile
  cases Uri.toLocalPath uri <;> rfl

/-- What is read from a path depends on the files of the session, and on its next fresh name. -/
theorem ofUri_agrees (hconfig : s.storage.config = s'.storage.config)
    (hfiles : s.storage.files = s'.storage.files) :
    Agrees s.storage.config
      (outcome (do return HostValue.file (← ofUri uri metadata t)) s).1
      (outcome (do return HostValue.file (← ofUri uri metadata t)) s').1 := by
  unfold ofUri
  by_cases hremote : Uri.isRemote uri = true
  · simp only [hremote, Bool.not_true, Bool.false_eq_true, if_false]
    cases Declared.ofHostType t with
    | error e => exact .error e
    | ok declared =>
      cases declared with
      | pathLike => exact .file (.refl _)
      | file extension =>
        -- either session puts a fresh name of its own into the scratch path
        refine .file ⟨.inr ⟨uri, s.storage.supply s.storage.drawn,
          s'.storage.supply s'.storage.drawn, rfl, rfl, ?_⟩, rfl, rfl, rfl, rfl, rfl⟩
        rw [hconfig]
        rfl
  · simp only [hremote, Bool.not_false, if_true, outcome_bind, outcome_isLocalFile, hfiles]
    cases (Uri.toLocalPath uri).toOption.any s'.storage.files.isFile with
    | false => exact .error _
    | true =>
      cases Declared.ofHostType t with
      | error e => exact .error e
      | ok declared => cases declared <;> exact .file (.refl _)

/-- **The wire forms of a file agree.** A record is read back from either encoding. A path with its
annotations is read alike in every form: from one session with the same outcome, and from sessions
over the same files with outcomes that differ by a fresh name. -/
theorem wireForms_agree :
    (∀ r : FileRecord, r.Fits → ∃ b, r.toBinary.asBinary? = some b ∧ FileRecord.ofBinary b = .ok r) ∧
    (∀ r : FileRecord, ∃ g, r.toGeneric.asGeneric? = some g ∧ FileRecord.ofGeneric g = .ok r) ∧
    ∀ (path : String) (metadata : Option Dict) (literal literal' : Literal),
      WireForm path metadata literal → WireForm path metadata literal' →
      ∀ (ctx : Context) (t : HostType),
        (∀ s, outcome (transformer.toHostValue ctx literal t) s =
          outcome (transformer.toHostValue ctx literal' t) s) ∧
        ∀ s s' : Session, s.storage.config = s'.storage.config →
          s.storage.files = s'.storage.files →
          Agrees s.storage.config (outcome (transformer.toHostValue ctx literal t) s).1
            (outcome (transformer.toHostValue ctx literal' t) s').1 := by
  refine ⟨fun r hr => ⟨_, rfl, FileRecord.ofBinary_toBinary hr⟩,
    fun r => ⟨_, rfl, FileRecord.ofGeneric_toGeneric r⟩, ?_⟩
  intro path metadata literal literal' hliteral hliteral' ctx t
  have hread : transformer.toHostValue ctx literal t = do
      return .file (← ofUri path metadata t) := toHostValue_wireForm hliteral
  have hread' : transformer.toHostValue ctx literal' t = do
      return .file (← ofUri path metadata t) := toHostValue_wireForm hliteral'
  rw [hread, hread']
  exact ⟨fun s => rfl, fun s s' hconfig hfiles => ofUri_agrees hconfig hfiles⟩

/-- A remote file with an annotation, read from its blob and, one fresh name later, from its binary
literal. -/
theorem wireForms_agree_remote :
    let record : FileRecord := ⟨some "s3://bucket/a.csv", some (.ofList [("rows", "3")])⟩
    let later : Session := handedOut (oneFile "a.txt")
    ∃ b f g, record.toBinary.asBinary? = some b ∧ FileRecord.ofBinary b = .ok record ∧
      (outcome (transformer.toHostValue {} ((Literal.ofBlob (.single "csv")
        "s3://bucket/a.csv").withMetadata record.metadata) .file) (oneFile "a.txt")).1 =
          .ok (.file f) ∧
      (outcome (transformer.toHostValue {} record.toBinary .file) later).1 = .ok (.file g) ∧
      f.path ≠ g.path ∧ f.SameButScratch (oneFile "a.txt").storage.config g := by
  intro record later
  have hfits : record.Fits := ⟨by decide +kernel, by decide +kernel, by decide +kernel,
    by decide +kernel⟩
  obtain ⟨hbinary, -, hforms⟩ := wireForms_agree
  obtain ⟨b, hb, hrecord⟩ := hbinary record hfits
  obtain ⟨hsame, hagrees⟩ := hforms _ _ _ _ (.blob "csv") (.binary hfits) {} .file
  have hremote : Uri.isRemote "s3://bucket/a.csv" = true := by decide +kernel
  have hblob : ∀ s, outcome (transformer.toHostValue {} ((Literal.ofBlob (.single "csv")
      "s3://bucket/a.csv").withMetadata record.metadata) .file) s =
        (.ok (.file (fetched s "s3://bucket/a.csv" record.metadata .file)), handedOut s) :=
    fun s => bind_eq_ok.2 ⟨_, _, outcome_ofUri_remote rfl hremote, rfl⟩
  have hbin := hsame later
  rw [hblob] at hbin
  have h := hagrees (oneFile "a.txt") later rfl rfl
  rw [hblob, ← hbin] at h
  cases h with
  | file h =>
    refine ⟨b, _, _, hb, hrecord, congrArg Prod.fst (hblob _), (congrArg Prod.fst hbin).symm, ?_, h⟩
    decide +kernel

end Files

end Workflow
