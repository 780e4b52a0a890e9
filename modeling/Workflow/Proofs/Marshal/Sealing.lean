import Workflow.Proofs.Codec.Cbor
import Workflow.Proofs.Marshal.Sending
import Workflow.Proofs.Storage.Scratch
import Workflow.Proofs.Text.Hex

/-!
# What is sealed can be opened

A value of a type that no transformer serves is written as CBOR into a scratch file, uploaded under
the digest of its bytes, and read back from there: through another scratch file if it went to a store,
from its own place if not.

* `Storable`: values whose CBOR is read back from its bytes. `plain_of_storable` says so.
* `store_keeps`: what is in storage once a value was stored.
* `fetch_reads`: where the content at a URI is found.
* `sealed_roundTrip`: what comes back is the CBOR that the value was written as.
-/

namespace Workflow

open Calls

/-! ## Integers -/

/-- Every integer of 64 bits and a sign has a value, which stands for it. -/
theorem Cbor.ofInt?_range {n : Int} (hlow : -(UInt64.size : Int) ≤ n) (hhigh : n < UInt64.size) :
    ∃ content, ofInt? n = some content ∧ content.toInt? = some n ∧ ∀ depth, Plain depth content := by
  by_cases hn : 0 ≤ n
  · have hsize : n.toNat < UInt64.size := by omega
    refine ⟨.unsigned (UInt64.ofNat n.toNat), ?_, ?_, fun _ => .unsigned _⟩
    · rw [ofInt?, if_pos hn, if_pos hsize]
    · rw [toInt?, UInt64.toNat_ofNat_of_lt' hsize, Int.toNat_of_nonneg hn]
  · have hsize : (-1 - n).toNat < UInt64.size := by omega
    refine ⟨.negative (UInt64.ofNat (-1 - n).toNat), ?_, ?_, fun _ => .negative _⟩
    · rw [ofInt?, if_neg hn, if_pos hsize]
    · rw [toInt?, UInt64.toNat_ofNat_of_lt' hsize, Int.toNat_of_nonneg (by omega)]
      congr 1
      omega

/-! ## The digest -/

namespace Sealing

/-- The digest of any bytes is a plain name. -/
theorem isName_digest (content : Bytes) : Hex.IsName (digest content) := by
  have hlength : (digest content).toList.length = 64 := by
    rw [digest, String.toList_ofList, Sha256.length_hexDigest]
  refine ⟨?_, ?_, ?_⟩
  · intro hnil
    rw [hnil] at hlength
    cases hlength
  · rw [digest, String.toList_ofList]
    exact fun c hc => Hex.isDigit_of_mem_encodeChars hc
  · rw [hlength]
    decide

/-! ## Values -/

/-- What is read back from its CBOR: a sealed value without tags, nested no deeper than the reader
goes, and any other value unless its text is too long for a machine. -/
def Storable : HostValue → Prop
  | .sealed value => value.content.Plain Cbor.maxDepth
  | value => ∀ text, encode? value = some (.text text) → (Utf8.encode text).length < UInt64.size

/-- An integer is written as itself. -/
theorem encode?_int (n : Int64) : ∃ content, encode? (.int n) = some content ∧
    content.toInt? = some n.toInt ∧ ∀ depth, content.Plain depth := by
  have hlow : -(UInt64.size : Int) ≤ n.toInt := by
    have hmin := n.minValue_le_toInt
    have : Int64.minValue.toInt = -9223372036854775808 := rfl
    have : UInt64.size = 18446744073709551616 := rfl
    omega
  have hhigh : n.toInt < UInt64.size := by
    have hmax := n.toInt_lt
    have : UInt64.size = 18446744073709551616 := rfl
    omega
  obtain ⟨content, hcontent, hint, hplain⟩ := Cbor.ofInt?_range hlow hhigh
  have hcbor : Sealable.toCbor n = content := by
    show (Cbor.ofInt? n.toInt).getD .null = content
    rw [hcontent, Option.getD_some]
  exact ⟨content, congrArg some hcbor, hint, hplain⟩

theorem plain_of_storable {value : HostValue} {content : Cbor} (h : Storable value)
    (hencode : encode? value = some content) : content.Plain Cbor.maxDepth := by
  cases value with
  | none => cases hencode
  | int n =>
    obtain ⟨content', hencode', -, hplain⟩ := encode?_int n
    cases hencode.symm.trans hencode'
    exact hplain _
  | float x =>
    cases hencode
    exact .float x
  | bool b =>
    cases hencode
    exact .bool b
  | sealed value =>
    cases hencode
    exact h
  | str _ | datetime _ | duration _ | path _ | file _ =>
    cases hencode
    exact .text (h _ rfl)

end Sealing

/-! ## Storing -/

namespace Storage

/-- The next fresh id is new: nothing in the file system is below a directory of its name, or has it
itself. -/
def NextFresh (s : Storage) : Prop :=
  ∀ entry ∈ s.files.entries, Utf8.encode (s.supply s.drawn).text ∉ entry.1

variable {s : Storage}

theorem NextFresh.not_mem (h : s.NextFresh) {l : Location} (hl : s.files.entryAt? l ≠ none) :
    Utf8.encode (s.supply s.drawn).text ∉ l := by
  cases l with
  | nil => exact List.not_mem_nil
  | cons n l =>
    obtain ⟨entry, hentry⟩ := Option.ne_none_iff_exists'.1 hl
    obtain ⟨before, after, hentries, -⟩ := List.lookup_eq_some_iff.1 hentry
    exact h (n :: l, entry) (by rw [hentries]; simp)

/-- A scratch path takes the next fresh id. -/
theorem outcome_scratchPath (hint : Option String) : outcome (scratchPath hint) s =
    (.ok (s.config.scratchPath (s.supply s.drawn) hint), { s with drawn := s.drawn + 1 }) := rfl

end Storage

namespace Sealing

variable {s s' : Session} {content : Bytes} {uri : String}

/-- A value is stored by writing a scratch file and uploading it. -/
theorem store_eq_ok (h : outcome (store content) s = (.ok uri, s')) :
    ∃ scratch files files' storage,
      scratch = s.storage.config.scratchPath (s.storage.supply s.storage.drawn)
        (some (digest content)) ∧
      s.storage.files.createParent scratch = (files, .ok ()) ∧
      files.write scratch content = .ok files' ∧
      outcome (Storage.putRawData scratch {})
        { s.storage with files := files', drawn := s.storage.drawn + 1 } = (.ok uri, storage) ∧
      s' = s.withStorage storage := by
  unfold store at h
  obtain ⟨scratch, s₁, hcall, h⟩ := bind_eq_ok.1 h
  obtain ⟨storage₁, hscratch, rfl⟩ := Marshal.ofStorage_eq_ok.1 hcall
  rw [Storage.outcome_scratchPath] at hscratch
  obtain ⟨hpath, rfl⟩ := Prod.mk.inj hscratch
  obtain ⟨⟨⟩, s₂, hcall, h⟩ := bind_eq_ok.1 h
  obtain ⟨storage₂, hparent, rfl⟩ := Marshal.ofDisk_eq_ok.1 hcall
  obtain ⟨files, hmade, rfl⟩ := Storage.createParent_eq_ok.1 hparent
  obtain ⟨⟨⟩, s₃, hcall, h⟩ := bind_eq_ok.1 h
  obtain ⟨storage₃, hwrite, rfl⟩ := Marshal.ofDisk_eq_ok.1 hcall
  obtain ⟨files', hwritten, rfl⟩ := Storage.writeFile_eq_ok.1 hwrite
  obtain ⟨storage, hput, rfl⟩ := Marshal.ofStorage_eq_ok.1 h
  exact ⟨scratch, files, files', storage, (Except.ok.inj hpath).symm, hmade, hwritten, hput, rfl⟩

/-- An upload of a scratch file goes to a URI that ends in its name. One to a store leaves the
files. -/
theorem putRawData_scratch {t t' : Storage} {scratch : FilePath} {name : String}
    (ht : t.stores.Sound)
    (hscratch : scratch.fileName? = some (Utf8.encode name))
    (hread : t.files.read scratch = .ok content)
    (h : outcome (Storage.putRawData scratch {}) t = (.ok uri, t')) :
    uri = t.config.remotePath (t.supply t.drawn) (some name) none ∧
      (∃ site, Storage.Stored { t with drawn := t.drawn + 1 } t' uri site content) ∧
      (Uri.isRemote uri = true → t'.files = t.files) := by
  have hplace : Files.uploadUri t scratch none =
      t.config.remotePath (t.supply t.drawn) (some name) none := by
    rw [Files.uploadUri, Option.getD_none, hscratch, Option.bind_some, Utf8.decode?_encode]
  have hdata := Files.putRawData_eq_ok h
  rw [hplace] at hdata
  obtain ⟨found, hfound, hbytes⟩ := Storage.putData_eq_ok hdata
  obtain rfl : content = found := Except.ok.inj (hread.symm.trans hfound)
  obtain ⟨rfl, hstored⟩ := Storage.putBytes_stored (by exact ht) hbytes
  refine ⟨rfl, hstored, fun hremote => ?_⟩
  have hsame := Storage.putBytes_within hremote content {} { t with drawn := t.drawn + 1 }
  rw [hbytes] at hsame
  exact hsame.files

/-- Content is at a URI that ends in a name, and a scratch file of this name can be written under the
next fresh id. -/
structure Keeps (s : Session) (uri name : String) (content : Bytes) : Prop where
  sound : s.Sound
  fileName? : Uri.fileName? uri = some name
  site : ∃ site, s.storage.siteOf? uri = some site ∧ s.storage.contentAt? site = some content
  admits : Uri.isRemote uri = true → s.storage.NextFresh →
    s.storage.files.Admits (Files.nextScratch s.storage uri)

/-- **A value is stored** under the digest of its bytes. -/
theorem store_keeps (hs : s.Sound) (h : outcome (store content) s = (.ok uri, s')) :
    Keeps s' uri (digest content) content := by
  obtain ⟨scratch, files, files', storage, hscratch, hmade, hwritten, hput, rfl⟩ := store_eq_ok h
  have hname := isName_digest content
  have hself := Uri.fileName?_self hname
  have hlast : scratch.fileName? = some (Utf8.encode (digest content)) := by
    rw [hscratch, StorageConfig.fileName?_scratchPath hself hname]
  obtain ⟨huri, ⟨site, hstored⟩, hfiles⟩ :=
    putRawData_scratch (by exact hs.stores) hlast (FileSystem.read_write hwritten) hput
  have hend : Uri.fileName? uri = some (digest content) := by
    rw [huri, StorageConfig.fileName?_remotePath hname]
  refine ⟨⟨hstored.sound, hs.done⟩, hend,
    ⟨site, hstored.siteOf?, (hstored.contentAt? site).trans (if_pos rfl)⟩, fun hremote hfresh => ?_⟩
  -- the files are those that the scratch file was written into
  have hsame : storage.files = files' := hfiles hremote
  have hconfig : storage.config = s.storage.config := hstored.config
  show storage.files.Admits (storage.config.scratchPath (storage.supply storage.drawn) (some uri))
  rw [hconfig, hsame]
  rw [hscratch] at hmade hwritten
  exact StorageConfig.admits_scratchPath hself hend hname hmade hwritten
    fun l hl => hfresh.not_mem (by rw [← hsame] at hl; exact hl)

/-! ## Opening -/

/-- **A file with the content at a URI** is found where it is, or downloaded. -/
theorem fetch_reads
    (hsite : ∃ site, s.storage.siteOf? uri = some site ∧ s.storage.contentAt? site = some content)
    (hadmits : Uri.isRemote uri = true → s.storage.files.Admits (Files.nextScratch s.storage uri)) :
    ∃ p s', outcome (fetch uri) s = (.ok p, s') ∧ s'.storage.files.read p = .ok content := by
  obtain ⟨site, hsite, hcontent⟩ := hsite
  unfold fetch
  by_cases hremote : Uri.isRemote uri = true
  · rw [if_pos hremote]
    -- the site and its content are the same once the id of the scratch path was drawn
    have hdownload : ∃ storage,
        outcome (Storage.getData uri (Files.nextScratch s.storage uri)) (Files.handedOut s).storage =
          (.ok (), storage) ∧
        storage.files.read (Files.nextScratch s.storage uri) = .ok content := by
      refine Storage.getData_reads.2 ⟨⟨site, ?_, ?_⟩, hadmits hremote⟩
      · rw [Files.handedOut_siteOf?, hsite]
      · rw [Files.handedOut_contentAt?, hcontent]
    obtain ⟨storage, hget, hread⟩ := hdownload
    have hscratch := @Storage.outcome_scratchPath s.storage (some uri)
    exact ⟨Files.nextScratch s.storage uri, s.withStorage storage,
      bind_eq_ok.2 ⟨_, _, Marshal.ofStorage_eq_ok.2 ⟨_, hscratch, rfl⟩,
        bind_eq_ok.2 ⟨(), _, Marshal.ofStorage_eq_ok.2 ⟨storage, hget, rfl⟩, rfl⟩⟩, hread⟩
  · rw [if_neg hremote]
    unfold Storage.siteOf? at hsite
    rw [if_neg hremote] at hsite
    cases hpath : Uri.toLocalPath uri with
    | error e =>
      rw [hpath] at hsite
      cases hsite
    | ok p =>
      rw [hpath] at hsite
      obtain ⟨place, hplace, rfl⟩ := Option.map_eq_some_iff.1 hsite
      exact ⟨p, s, Marshal.localPath_eq_ok.2 ⟨hpath, rfl⟩,
        (Storage.read_eq_ok p).2 ⟨place, hplace, hcontent⟩⟩

variable {ctx : Context} {value : HostValue} {t : HostType} {type : LiteralType} {literal : Literal}

/-- A value that is sealed has CBOR, whose bytes were stored. -/
theorem toLiteral_eq_ok (h : outcome (transformer.toLiteral ctx value t type) s = (.ok literal, s')) :
    ∃ content uri, encode? value = some content ∧ literal = .ofBlob (.single format) uri ∧
      outcome (store content.write) s = (.ok uri, s') := by
  replace h : outcome (toLiteral value) s = (.ok literal, s') := h
  unfold toLiteral at h
  cases hencode : encode? value with
  | none =>
    rw [hencode] at h
    cases h
  | some content =>
    rw [hencode] at h
    obtain ⟨uri, s₁, hstore, hend⟩ := bind_eq_ok.1 h
    cases hend
    exact ⟨content, uri, rfl, rfl, hstore⟩

/-- A blob whose bytes start with the CBOR of a plain value is opened. -/
theorem toHostValue_opens {content : Cbor} (hplain : content.Plain Cbor.maxDepth)
    (hfetch : ∃ p s', outcome (fetch uri) s = (.ok p, s') ∧
      s'.storage.files.read p = .ok content.write) :
    ∃ s', outcome (transformer.toHostValue ctx (.ofBlob (.single format) uri) t) s =
      (.ok (.sealed ⟨t.name, content⟩), s') := by
  obtain ⟨p, s₁, hfetch, hread⟩ := hfetch
  have hsame := Cbor.read?_write hplain []
  rw [List.append_nil] at hsame
  have hfile : outcome (Marshal.ofDisk (Storage.readFile p)) s₁ = (.ok content.write, s₁) := by
    exact Marshal.ofDisk_eq_ok.2 ⟨s₁.storage, Storage.readFile_eq_ok.2 ⟨hread, rfl⟩, rfl⟩
  refine ⟨s₁, bind_eq_ok.2 ⟨p, s₁, hfetch, bind_eq_ok.2 ⟨content.write, s₁, hfile, ?_⟩⟩⟩
  rw [hsame]
  rfl

/-- **What is sealed is opened.** The absent value is refused, and nothing was done. An integer is
written as itself. Any other value, once it was sealed, has a place whose name is the digest of its
bytes, and is opened there, for any host type, as what it was written as; if the place is in a store,
this takes a fresh id that is new. -/
theorem sealed_roundTrip :
    (∀ (ctx : Context) (t : HostType) (type : LiteralType) (s : Session),
      outcome (transformer.toLiteral ctx .none t type) s =
        (.error (.because .assertion "cannot serialize a none value"), s)) ∧
    (∀ n : Int64, ∃ content, encode? (.int n) = some content ∧ content.toInt? = some n.toInt) ∧
    ∀ (ctx : Context) (value : HostValue) (t : HostType) (type : LiteralType) (s s' : Session)
      (literal : Literal), s.Sound → Storable value →
      outcome (transformer.toLiteral ctx value t type) s = (.ok literal, s') →
      ∃ content uri, encode? value = some content ∧ literal = .ofBlob (.single format) uri ∧
        Uri.fileName? uri = some (digest content.write) ∧
        ((Uri.isRemote uri = true → s'.storage.NextFresh) →
          ∀ (ctx' : Context) (expected : HostType), ∃ s'',
            outcome (transformer.toHostValue ctx' literal expected) s' =
              (.ok (.sealed ⟨expected.name, content⟩), s'')) := by
  refine ⟨fun _ _ _ _ => rfl, fun n => ?_, fun ctx value t type s s' literal hs hvalue h => ?_⟩
  · obtain ⟨content, hencode, hint, -⟩ := encode?_int n
    exact ⟨content, hencode, hint⟩
  · obtain ⟨content, uri, hencode, rfl, hstore⟩ := toLiteral_eq_ok h
    have hkeeps := store_keeps hs hstore
    refine ⟨content, uri, hencode, rfl, hkeeps.fileName?, fun hfresh ctx' expected => ?_⟩
    exact toHostValue_opens (plain_of_storable hvalue hencode)
      (fetch_reads hkeeps.site fun hremote => hkeeps.admits hremote (hfresh hremote))

/-- A map that has one key twice, with floats, a NaN and the least integer under it. -/
def model : Cbor := .map [
  (.text "weights", .array [.float ⟨0x3ff8000000000000⟩, .float .nan, .negative 0xffffffffffffffff]),
  (.text "weights", .bytes [0, 255]), (.unsigned 23, .null)]

theorem plain_model : model.Plain Cbor.maxDepth := by
  refine .map (by decide) (fun entry hentry => ?_) fun entry hentry => ?_
  all_goals
    simp only [List.mem_cons, List.not_mem_nil, or_false] at hentry
    rcases hentry with rfl | rfl | rfl
  · exact .text (by decide +kernel)
  · exact .text (by decide +kernel)
  · exact .unsigned _
  · refine .array (by decide) fun item hitem => ?_
    simp only [List.mem_cons, List.not_mem_nil, or_false] at hitem
    rcases hitem with rfl | rfl | rfl
    · exact .float _
    · exact .float _
    · exact .negative _
  · exact .bytes (by decide)
  · exact .null

/-- What comes of sealing it. -/
def sealedModel : Except Failure Literal × Session :=
  outcome (transformer.toLiteral {} (.sealed ⟨"Model", model⟩) (.ofName "Model")
    (literalType (.ofName "Model"))) (Files.oneFile "a.txt")

theorem sealed_roundTrip_model : ∃ literal s' s'', sealedModel = (.ok literal, s') ∧
    outcome (transformer.toHostValue {} literal (.ofName "Model")) s' =
      (.ok (.sealed ⟨"Model", model⟩), s'') := by
  have hsealed : sealedModel.1.toOption.isSome = true ∧ sealedModel.2.storage.NextFresh := by
    unfold Storage.NextFresh
    decide +kernel
  obtain ⟨hsome, hfresh⟩ := hsealed
  obtain ⟨literal, h⟩ := exists_eq_ok hsome
  have hstorable : Storable (.sealed ⟨"Model", model⟩) := plain_model
  obtain ⟨content, uri, hencode, -, -, hopens⟩ :=
    sealed_roundTrip.2.2 _ _ _ _ _ _ _ (Files.oneFile_sound _) hstorable h
  obtain rfl : model = content := Option.some.inj hencode
  obtain ⟨s'', hopened⟩ := hopens (fun _ => hfresh) {} (.ofName "Model")
  exact ⟨literal, _, s'', h, hopened⟩

end Sealing

end Workflow
