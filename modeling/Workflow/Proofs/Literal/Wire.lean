import Workflow.Literal.Wire
import Workflow.Proofs.Json.Fields
import Workflow.Proofs.Time.DurationText
import Workflow.Proofs.Time.InstantText

/-!
# Literals are read back

The wire form of a literal type leads back to the type. The wire form of a literal leads back to the
literal exactly when all its floating numbers are finite: one that is not is written as null, and then
nothing is read.

* `Literal.floats`: the floating numbers of a literal, at any depth.
* `Literal.KeysSorted`: the entries of its maps are sorted by key.
* `Literal.ofPlain?_toJson`: reading what was written, by induction on the literal.
-/

namespace Workflow

/-! ## Leaves -/

@[simp] theorem Bytes.ofJson?_toJson (bytes : Bytes) :
    Bytes.ofJson? (Bytes.toJson bytes) = some bytes := by
  have hread : ∀ b ∈ bytes, ((Json.int b.toNat).asNat? UInt8.size).map UInt8.ofNat = some b := by
    intro b _
    rw [Json.asNat?_natCast b.toNat_lt_size, Option.map_some, UInt8.ofNat_toNat]
  exact Json.mapM_map_eq_some hread

@[simp] theorem Instant.ofJson?_toJson (t : Instant) : Instant.ofJson? t.toJson = some t := by
  rw [Instant.ofJson?, Instant.toJson, Json.asString?, Option.bind_some, t.read?_render]

@[simp] theorem Duration.ofJson?_toJson (d : Duration) : Duration.ofJson? d.toJson = some d := by
  rw [Duration.ofJson?, Duration.toJson, Json.asString?, Option.bind_some, d.read?_render]

@[simp] theorem Dimensionality.ofJson?_toJson (blank : Json → Bool) (d : Dimensionality) :
    Dimensionality.ofJson? blank d.toJson = some d := by
  refine Json.readNamed?_str ?_
  cases d <;> rfl

@[simp] theorem SimpleType.ofJson?_toJson (blank : Json → Bool) (t : SimpleType) :
    SimpleType.ofJson? blank t.toJson = some t := by
  refine Json.readNamed?_str ?_
  cases t <;> rfl

theorem BlobType.toJson_eq (t : BlobType) : t.toJson = Json.record
    [("format", some (.str t.format)), ("dimensionality", some t.dimensionality.toJson)] := rfl

@[simp] theorem BlobType.ofJson?_toJson (blank : Json → Bool) (t : BlobType) :
    BlobType.ofJson? blank t.toJson = some t := by
  rw [BlobType.toJson_eq, BlobType.ofJson?, Json.fields?_record]
  case hnames => rfl
  case hnodup => decide
  simp

theorem Blob.toJson_eq (blob : Blob) : blob.toJson = Json.record
    [("metadata", some (.record [("type", some blob.blobType.toJson)])),
      ("uri", some (.str blob.uri))] := rfl

@[simp] theorem Blob.readType?_record (blank : Json → Bool) (t : BlobType) :
    Blob.readType? blank (.record [("type", some t.toJson)]) = some t := by
  rw [Blob.readType?, Json.fields?_record]
  case hnames => rfl
  case hnodup => decide
  simp

@[simp] theorem Blob.ofJson?_toJson (blank : Json → Bool) (blob : Blob) :
    Blob.ofJson? blank blob.toJson = some blob := by
  rw [Blob.toJson_eq, Blob.ofJson?, Json.fields?_record]
  case hnames => rfl
  case hnodup => decide
  simp

theorem Blob.isPlain_toJson (blob : Blob) : blob.toJson.isPlain = true := rfl

theorem Binary.toJson_eq (binary : Binary) : binary.toJson = Json.record
    [("value", some (Bytes.toJson binary.value)), ("tag", some (.str binary.tag))] := rfl

@[simp] theorem Binary.ofJson?_toJson (binary : Binary) :
    Binary.ofJson? binary.toJson = some binary := by
  rw [Binary.toJson_eq, Binary.ofJson?, Json.fields?_record]
  case hnames => rfl
  case hnodup => decide
  simp

theorem Binary.isPlain_toJson (binary : Binary) : binary.toJson.isPlain = true := by
  have hvalue : (Bytes.toJson binary.value).isPlain = true := by
    rw [Bytes.toJson, Json.isPlain_arr, List.all_map]
    exact List.all_eq_true.2 fun _ _ => rfl
  rw [toJson, Json.isPlain_obj, List.all_cons, hvalue]
  rfl

namespace JsonObject

theorem ofMembers_members (object : JsonObject) : ofMembers object.members = object := by
  obtain ⟨members, hcanonical⟩ := object
  have hmembers : sortKeys (Json.canonicalMembers members) = members := Json.obj.inj hcanonical
  simp only [ofMembers, hmembers]

theorem isPlain_toJson (object : JsonObject) : object.toJson.isPlain = true := by
  rw [toJson, ← object.canonical]
  exact Json.isPlain_canonical _

end JsonObject

/-! ## Scalars -/

namespace Primitive

/-- The floating number of a primitive that is one. -/
def floats : Primitive → List Binary64
  | .float value => [value]
  | _ => []

theorem isPlain_toJson (p : Primitive) : p.toJson.isPlain = true := by
  cases p with
  | float value => rw [toJson, Json.isPlain_single, Json.isPlain_ofBinary64]
  | _ => rfl

theorem ofJson?_toJson (p : Primitive) :
    ofJson? p.toJson = if p.floats.all Binary64.isFinite then some p else none := by
  cases p with
  | float value =>
    -- the one primitive that may be written as what is not read
    cases hfinite : value.isFinite <;>
      simp [toJson, ofJson?, Json.variant?, Json.ofBinary64, Json.asBinary64?, floats, hfinite]
  | _ => simp [toJson, ofJson?, Json.variant?, floats]

end Primitive

namespace Scalar

/-- The floating number of a scalar that is one. -/
def floats : Scalar → List Binary64
  | .primitive value => value.floats
  | _ => []

theorem ofJson?_toJson (blank : Json → Bool) (s : Scalar) :
    ofJson? blank s.toJson = if s.floats.all Binary64.isFinite then some s else Option.none := by
  cases s with
  | primitive value =>
    rw [floats]
    simp only [toJson, ofJson?, Json.variant?, Option.bind_eq_bind, Option.bind_some,
      Primitive.ofJson?_toJson, Option.map_if]
  | blob value => simp [toJson, ofJson?, Json.variant?, floats]
  | binary value => simp [toJson, ofJson?, Json.variant?, floats]
  | generic value =>
    have hplain : value.toJson.asPlain? = some value.toJson := if_pos value.isPlain_toJson
    have hmembers : value.toJson.asMembers? = some value.members := rfl
    simp [toJson, ofJson?, Json.variant?, hplain, hmembers, JsonObject.ofMembers_members, floats]
  | none => simp [toJson, ofJson?, Json.variant?, isVoid, Json.passesOver, floats]

theorem isPlain_toJson (s : Scalar) : s.toJson.isPlain = true := by
  cases s with
  | primitive value => rw [toJson, Json.isPlain_single, value.isPlain_toJson]
  | blob value => rw [toJson, Json.isPlain_single, value.isPlain_toJson]
  | binary value => rw [toJson, Json.isPlain_single, value.isPlain_toJson]
  | generic value => rw [toJson, Json.isPlain_single, value.isPlain_toJson]
  | none => rfl

end Scalar

/-! ## Literals -/

theorem bind_if {α β : Type} {c : Prop} [Decidable c] {a : α} {f : α → Option β} :
    (if c then some a else none).bind f = if c then f a else none := by
  split_ifs <;> rfl

theorem readMetadata?_metadataMember {tag : String} (htag : tag ≠ "metadata") (value : Json)
    (metadata : Option Dict) :
    readMetadata? ((tag, value) :: metadataMember metadata) = some metadata := by
  have hunique : Json.uniqueKeys ["metadata"] ((tag, value) :: metadataMember metadata) = true := by
    cases metadata <;> simp [Json.uniqueKeys, metadataMember, Json.field?, htag]
  have hlookup : ((tag, value) :: metadataMember metadata).lookup "metadata" =
      metadata.map Json.ofDict := by
    rw [List.lookup_cons, beq_eq_false_iff_ne.2 htag.symm, metadataMember, Json.lookup_field?,
      if_pos rfl]
  rw [readMetadata?, if_pos hunique, hlookup]
  exact Json.optional_map (fun _ => Json.noConfusion) fun d _ => Json.asDict?_ofDict d

theorem isPlain_metadataMember (metadata : Option Dict) :
    ((metadataMember metadata).all fun member => member.2.isPlain) = true := by
  cases metadata with
  | none => rfl
  | some d =>
    rw [metadataMember, Json.field?, List.all_cons, Json.isPlain_ofDict]
    rfl

namespace Literal

mutual

/-- The floating numbers of a literal, at any depth. -/
def floats : Literal → List Binary64
  | .scalar value _ => value.floats
  | .collection items _ => floatsOfItems items
  | .map entries _ => floatsOfEntries entries

/-- The floating numbers of the items of a list. -/
def floatsOfItems : List Literal → List Binary64
  | [] => []
  | item :: items => floats item ++ floatsOfItems items

/-- The floating numbers of the entries of a map. -/
def floatsOfEntries : List (String × Literal) → List Binary64
  | [] => []
  | (_, value) :: entries => floats value ++ floatsOfEntries entries

end

/-- Whether all floating numbers of a literal are finite. -/
def isFinite (l : Literal) : Bool := l.floats.all Binary64.isFinite

mutual

/-- The entries of every map in a literal are sorted by key. -/
def KeysSorted : Literal → Prop
  | .scalar _ _ => True
  | .collection items _ => KeysSortedItems items
  | .map entries _ => SortedKeys entries ∧ KeysSortedEntries entries

/-- The entries of every map in the items of a list are sorted by key. -/
def KeysSortedItems : List Literal → Prop
  | [] => True
  | item :: items => KeysSorted item ∧ KeysSortedItems items

/-- The entries of every map in the entries of a map are sorted by key. -/
def KeysSortedEntries : List (String × Literal) → Prop
  | [] => True
  | (_, value) :: entries => KeysSorted value ∧ KeysSortedEntries entries

end

theorem readCollection?_record (items : List Json) :
    readCollection? (.obj [("literals", .arr items)]) = readAll? items := by
  simp [readCollection?, Json.uniqueKeys, readListField?, readItems?]

theorem readMap?_record (members : List (String × Json)) :
    readMap? (.obj [("literals", .obj members)]) = (readEach? members).map sortKeys := by
  simp [readMap?, Json.uniqueKeys, readMapField?, readEntries?]

-- Items and entries go along: each list is read member by member, and is read when all members are.
mutual

/-- **What was written is read**, if the floating numbers are finite. -/
theorem ofPlain?_toJson : ∀ {l : Literal}, l.KeysSorted →
    ofPlain? l.toJson = if l.floats.all Binary64.isFinite then some l else Option.none
  | .scalar value metadata, _ => by
    rw [floats]
    simp only [toJson, ofPlain?, readMetadata?_metadataMember, ne_eq, String.reduceEq,
      not_false_eq_true, readPayload?, if_true, Scalar.ofJson?_toJson, Option.map_if,
      Option.bind_eq_bind, Option.bind_some, bind_if, Option.pure_def, withMetadata]
  | .collection items metadata, hsorted => by
    have hitems := readAll?_itemsToJson hsorted
    rw [floats]
    simp only [toJson, ofPlain?, readMetadata?_metadataMember, ne_eq, String.reduceEq,
      not_false_eq_true, readPayload?, if_true, if_false, readCollection?_record, hitems,
      Option.map_if, Option.bind_eq_bind, Option.bind_some, bind_if, Option.pure_def, withMetadata]
  | .map entries metadata, hsorted => by
    obtain ⟨hkeys, hsorted⟩ := hsorted
    have hentries := readEach?_entriesToJson hsorted
    rw [floats]
    simp only [toJson, ofPlain?, readMetadata?_metadataMember, ne_eq, String.reduceEq,
      not_false_eq_true, readPayload?, if_true, if_false, readMap?_record, hentries, Option.map_if,
      sortKeys_of_sortedKeys hkeys, Option.bind_eq_bind, Option.bind_some, bind_if, Option.pure_def,
      withMetadata]

theorem readAll?_itemsToJson : ∀ {items : List Literal}, KeysSortedItems items →
    readAll? (itemsToJson items) =
      if (floatsOfItems items).all Binary64.isFinite then some items else Option.none
  | [], _ => rfl
  | item :: items, hsorted => by
    obtain ⟨hitem, hitems⟩ := hsorted
    simp only [itemsToJson, readAll?, ofPlain?_toJson hitem, readAll?_itemsToJson hitems,
      Option.bind_eq_bind, bind_if, Option.pure_def, floatsOfItems, List.all_append,
      Bool.and_eq_true, ite_and]

theorem readEach?_entriesToJson : ∀ {entries : List (String × Literal)}, KeysSortedEntries entries →
    readEach? (entriesToJson entries) =
      if (floatsOfEntries entries).all Binary64.isFinite then some entries else Option.none
  | [], _ => rfl
  | (key, value) :: entries, hsorted => by
    obtain ⟨hvalue, hentries⟩ := hsorted
    simp only [entriesToJson, readEach?, ofPlain?_toJson hvalue, readEach?_entriesToJson hentries,
      Option.bind_eq_bind, bind_if, Option.pure_def, floatsOfEntries, List.all_append,
      Bool.and_eq_true, ite_and]

end

mutual

theorem isPlain_toJson : ∀ l : Literal, l.toJson.isPlain = true
  | .scalar value metadata => by
    rw [toJson, Json.isPlain_obj, List.all_cons, value.isPlain_toJson, isPlain_metadataMember]
    rfl
  | .collection items metadata => by
    rw [toJson, Json.isPlain_obj, List.all_cons, isPlain_metadataMember, Bool.and_true,
      Json.isPlain_single, Json.isPlain_arr, isPlain_itemsToJson items]
  | .map entries metadata => by
    rw [toJson, Json.isPlain_obj, List.all_cons, isPlain_metadataMember, Bool.and_true,
      Json.isPlain_single, Json.isPlain_obj, isPlain_entriesToJson entries]

theorem isPlain_itemsToJson : ∀ items : List Literal, (itemsToJson items).all Json.isPlain = true
  | [] => rfl
  | item :: items => by
    rw [itemsToJson, List.all_cons, isPlain_toJson item, isPlain_itemsToJson items]
    rfl

theorem isPlain_entriesToJson : ∀ entries : List (String × Literal),
    ((entriesToJson entries).all fun member => member.2.isPlain) = true
  | [] => rfl
  | (key, value) :: entries => by
    rw [entriesToJson, List.all_cons, isPlain_toJson value, isPlain_entriesToJson entries]
    rfl

end

/-- **The wire form of a literal** is read back exactly when the floating numbers are finite. -/
theorem ofJson?_toJson {l : Literal} (hsorted : l.KeysSorted) :
    ofJson? l.toJson = if l.isFinite then some l else Option.none := by
  rw [isFinite, ofJson?, Json.asPlain?, if_pos l.isPlain_toJson, Option.bind_some,
    ofPlain?_toJson hsorted]

end Literal

/-! ## Types of literals -/

namespace LiteralType

theorem isPlain_toJson (t : LiteralType) : t.toJson.isPlain = true := by
  induction t with
  | simple type metadata =>
    rw [toJson, Json.isPlain_obj, List.all_cons, isPlain_metadataMember]
    rfl
  | blob type metadata =>
    rw [toJson, Json.isPlain_obj, List.all_cons, isPlain_metadataMember]
    rfl
  | collection item metadata ih =>
    rw [toJson, Json.isPlain_obj, List.all_cons, isPlain_metadataMember, ih]
    rfl
  | map value metadata ih =>
    rw [toJson, Json.isPlain_obj, List.all_cons, isPlain_metadataMember, ih]
    rfl

theorem ofPlain?_toJson (t : LiteralType) : ofPlain? t.toJson = some t := by
  induction t with
  | simple type metadata =>
    simp [toJson, ofPlain?, readMetadata?_metadataMember, readKind?, setMetadata]
  | blob type metadata =>
    simp [toJson, ofPlain?, readMetadata?_metadataMember, readKind?, setMetadata]
  | collection item metadata ih =>
    simp [toJson, ofPlain?, readMetadata?_metadataMember, readKind?, ih, setMetadata]
  | map value metadata ih =>
    simp [toJson, ofPlain?, readMetadata?_metadataMember, readKind?, ih, setMetadata]

/-- **The wire form of a type** is read back. -/
theorem ofJson?_toJson (t : LiteralType) : ofJson? t.toJson = some t := by
  rw [ofJson?, Json.asPlain?, if_pos t.isPlain_toJson, Option.bind_some, ofPlain?_toJson]

end LiteralType

/-! ## Both -/

/-- **The wire form** of every literal type leads back to it, and that of a literal does when all its
floating numbers are finite; otherwise nothing is read, never another literal. -/
theorem Literal.ofJson?_toJson_eq_ite :
    (∀ t : LiteralType, LiteralType.ofJson? t.toJson = some t) ∧
      ∀ l : Literal, l.KeysSorted →
        Literal.ofJson? l.toJson =
          if ∀ x ∈ l.floats, x.isFinite = true then some l else Option.none := by
  refine ⟨LiteralType.ofJson?_toJson, fun l hsorted => ?_⟩
  simp only [Literal.ofJson?_toJson hsorted, Literal.isFinite, List.all_eq_true]

/-- A map with a floating number two levels down, beside annotations without entries. -/
def Literal.nested (x : Binary64) : Literal :=
  .map [("a", .collection [.ofPrimitive (.float x), .none] (some .empty)),
    ("b", .map [] Option.none)] (some (Dict.empty.insert "owner" "team-a"))

theorem Literal.ofJson?_toJson_eq_ite_nested :
    (Literal.nested ⟨0x3ff8000000000000⟩).KeysSorted ∧ (Literal.nested Binary64.nan).KeysSorted ∧
      Literal.ofJson? (Literal.nested ⟨0x3ff8000000000000⟩).toJson =
        some (Literal.nested ⟨0x3ff8000000000000⟩) ∧
      Literal.ofJson? (Literal.nested Binary64.nan).toJson = Option.none := by
  have hkeys : ["a", "b"].Pairwise (· < ·) := List.pairwise_pair.2 (by decide)
  have hsorted : ∀ x, (Literal.nested x).KeysSorted := fun x =>
    ⟨hkeys, ⟨trivial, trivial, trivial⟩, ⟨List.Pairwise.nil, trivial⟩, trivial⟩
  refine ⟨hsorted _, hsorted _, ?_, ?_⟩
  · rw [Literal.ofJson?_toJson_eq_ite.2 _ (hsorted _), if_pos (by decide)]
  · rw [Literal.ofJson?_toJson_eq_ite.2 _ (hsorted _), if_neg (by decide)]

end Workflow
