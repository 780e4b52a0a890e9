import Mathlib.Logic.Relation
import Workflow.Literal.Kind

/-!
# Acceptance is monotone

A type looks at the kinds of scalars and at the formats of blobs, and at nothing else in a literal. A
format that is left open, on either side, agrees with every other.

* `accepts_collection_iff`, `accepts_map_iff`: collections and maps are accepted by their members.
* `LiteralType.Loosens`: one change by which a type asks for no more than before, at any depth.
* `Literal.Varies`: one change of a literal, at any depth, that no type objects to.
* `Loosens.accepts`, `Varies.accepts`: a literal that was accepted still is, after one change.
* `accepts_monotone`: and after any changes of both.
-/

namespace Workflow

/-! ## Changes of blob types and primitives -/

namespace BlobType

variable {expected actual : BlobType}

/-- The type with its format left open. -/
def opened (t : BlobType) : BlobType := ⟨"", t.dimensionality⟩

theorem accepts_iff : expected.accepts actual = true ↔
    expected.dimensionality = actual.dimensionality ∧
      (expected.format = "" ∨ actual.format = "" ∨ expected.format = actual.format) := by
  simp [accepts, isUntyped, or_assoc]

theorem opened_accepts (h : expected.accepts actual = true) :
    expected.opened.accepts actual = true :=
  accepts_iff.2 ⟨(accepts_iff.1 h).1, .inl rfl⟩

theorem accepts_opened (h : expected.accepts actual = true) :
    expected.accepts actual.opened = true :=
  accepts_iff.2 ⟨(accepts_iff.1 h).1, .inr (.inl rfl)⟩

end BlobType

/-- Two primitives of one kind. -/
inductive Primitive.SameKind : Primitive → Primitive → Prop where
  | integer (v v' : Int64) : SameKind (.integer v) (.integer v')
  | float (v v' : Binary64) : SameKind (.float v) (.float v')
  | text (v v' : String) : SameKind (.text v) (.text v')
  | boolean (v v' : Bool) : SameKind (.boolean v) (.boolean v')
  | datetime (v v' : Instant) : SameKind (.datetime v) (.datetime v')
  | duration (v v' : Duration) : SameKind (.duration v) (.duration v')

/-! ## Types -/

namespace LiteralType

variable {t t' : LiteralType} {l : Literal}

/-- **A collection is accepted by its items**, and nothing else is by the type of a collection. -/
theorem accepts_collection_iff {m : Option Dict} : (collection t m).accepts l = true ↔
    ∃ items m', l = .collection items m' ∧ ∀ x ∈ items, t.accepts x = true := by
  cases l with
  | collection items m' => simp [accepts]
  | scalar value m' => simp [accepts]
  | map entries m' => simp [accepts]

/-- **A map is accepted by its values**, and nothing else is by the type of a map. -/
theorem accepts_map_iff {m : Option Dict} : (map t m).accepts l = true ↔
    ∃ entries m', l = .map entries m' ∧ ∀ e ∈ entries, t.accepts e.2 = true := by
  cases l with
  | map entries m' => simp [accepts]
  | scalar value m' => simp [accepts]
  | collection items m' => simp [accepts]

theorem accepts_blob_iff {type : BlobType} {m : Option Dict} : (blob type m).accepts l = true ↔
    ∃ b m', l = .scalar (.blob b) m' ∧ type.accepts b.blobType = true := by
  cases l with
  | scalar value m' => cases value <;> simp [accepts]
  | collection items m' => simp [accepts]
  | map entries m' => simp [accepts]

/-- Annotations of a type do not matter. -/
theorem accepts_setMetadata (t : LiteralType) (m : Option Dict) (l : Literal) :
    (t.setMetadata m).accepts l = t.accepts l := by
  cases t with
  | blob type m' =>
    cases l with
    | scalar value _ => cases value <;> rfl
    | collection items _ => rfl
    | map entries _ => rfl
  | _ => cases l <;> rfl

/-- One change of a type, at any depth: a blob format is left open, or annotations are written or
taken away. -/
inductive Loosens : LiteralType → LiteralType → Prop where
  | openFormat (type : BlobType) (m : Option Dict) : Loosens (.blob type m) (.blob type.opened m)
  | annotate (t : LiteralType) (m : Option Dict) : Loosens t (t.setMetadata m)
  | item {t t' : LiteralType} (m : Option Dict) (h : Loosens t t') :
      Loosens (.collection t m) (.collection t' m)
  | value {t t' : LiteralType} (m : Option Dict) (h : Loosens t t') :
      Loosens (.map t m) (.map t' m)

/-- **A loosened type** accepts what it accepted. -/
theorem Loosens.accepts (h : t.Loosens t') : ∀ {l : Literal}, t.accepts l = true →
    t'.accepts l = true := by
  induction h with
  | openFormat type m =>
    intro l hl
    obtain ⟨b, m', rfl, hb⟩ := accepts_blob_iff.1 hl
    exact accepts_blob_iff.2 ⟨b, m', rfl, BlobType.opened_accepts hb⟩
  | annotate t m =>
    intro l hl
    rwa [accepts_setMetadata]
  | item m _ ih =>
    intro l hl
    obtain ⟨items, m', rfl, hitems⟩ := accepts_collection_iff.1 hl
    exact accepts_collection_iff.2 ⟨items, m', rfl, fun x hx => ih (hitems x hx)⟩
  | value m _ ih =>
    intro l hl
    obtain ⟨entries, m', rfl, hentries⟩ := accepts_map_iff.1 hl
    exact accepts_map_iff.2 ⟨entries, m', rfl, fun e he => ih (hentries e he)⟩

end LiteralType

/-! ## Literals -/

namespace Literal

variable {l l' : Literal}

/-- One change of a literal, at any depth. -/
inductive Varies : Literal → Literal → Prop where
  /-- Annotations are written or taken away. -/
  | annotate (l : Literal) (m : Option Dict) : Varies l (l.withMetadata m)
  /-- The format of a blob is left open. -/
  | openFormat (b : Blob) (m : Option Dict) :
      Varies (.scalar (.blob b) m) (.scalar (.blob ⟨b.blobType.opened, b.uri⟩) m)
  /-- Content of the same type is found elsewhere. -/
  | move (b : Blob) (uri : String) (m : Option Dict) :
      Varies (.scalar (.blob b) m) (.scalar (.blob ⟨b.blobType, uri⟩) m)
  | primitive {v v' : Primitive} (m : Option Dict) (h : v.SameKind v') :
      Varies (.scalar (.primitive v) m) (.scalar (.primitive v') m)
  | binary (v v' : Binary) (m : Option Dict) :
      Varies (.scalar (.binary v) m) (.scalar (.binary v') m)
  | generic (v v' : JsonObject) (m : Option Dict) :
      Varies (.scalar (.generic v) m) (.scalar (.generic v') m)
  /-- Items are left out, repeated or moved. -/
  | items {items items' : List Literal} (m : Option Dict) (h : items' ⊆ items) :
      Varies (.collection items m) (.collection items' m)
  /-- Values are left out, repeated or moved, under any keys. -/
  | entries {entries entries' : List (String × Literal)} (m : Option Dict)
      (h : entries'.map (·.2) ⊆ entries.map (·.2)) : Varies (.map entries m) (.map entries' m)
  /-- One item changes. -/
  | item (before after : List Literal) {x x' : Literal} (m : Option Dict) (h : Varies x x') :
      Varies (.collection (before ++ x :: after) m) (.collection (before ++ x' :: after) m)
  /-- One value changes. -/
  | value (before after : List (String × Literal)) (key : String) {x x' : Literal}
      (m : Option Dict) (h : Varies x x') :
      Varies (.map (before ++ (key, x) :: after) m) (.map (before ++ (key, x') :: after) m)

variable {t : LiteralType} {m m' : Option Dict}

/-- Annotations of a literal do not matter. -/
theorem accepts_withMetadata (t : LiteralType) (l : Literal) (m : Option Dict) :
    t.accepts (l.withMetadata m) = t.accepts l := by
  cases l with
  | scalar value _ => cases t <;> cases value <;> rfl
  | collection items _ => cases t <;> rfl
  | map entries _ => cases t <;> rfl

/-- A collection stays accepted when its items do, for each type of items. -/
theorem accepts_collection_of {items items' : List Literal}
    (h : ∀ item : LiteralType, (∀ x ∈ items, item.accepts x = true) →
      ∀ x ∈ items', item.accepts x = true)
    (ht : t.accepts (.collection items m) = true) : t.accepts (.collection items' m') = true := by
  cases t with
  | collection item _ =>
    obtain ⟨_, _, ⟨⟩, hitems⟩ := LiteralType.accepts_collection_iff.1 ht
    exact LiteralType.accepts_collection_iff.2 ⟨items', m', rfl, h item hitems⟩
  | simple type _ => cases ht
  | blob type _ => cases ht
  | map value _ => cases ht

/-- A map stays accepted when its values do, for each type of values. -/
theorem accepts_map_of {entries entries' : List (String × Literal)}
    (h : ∀ value : LiteralType, (∀ e ∈ entries, value.accepts e.2 = true) →
      ∀ e ∈ entries', value.accepts e.2 = true)
    (ht : t.accepts (.map entries m) = true) : t.accepts (.map entries' m') = true := by
  cases t with
  | map value _ =>
    obtain ⟨_, _, ⟨⟩, hentries⟩ := LiteralType.accepts_map_iff.1 ht
    exact LiteralType.accepts_map_iff.2 ⟨entries', m', rfl, h value hentries⟩
  | simple type _ => cases ht
  | blob type _ => cases ht
  | collection item _ => cases ht

/-- **A literal that varies** is accepted as before. -/
theorem Varies.accepts (h : l.Varies l') : ∀ {t : LiteralType}, t.accepts l = true →
    t.accepts l' = true := by
  -- a changed member is accepted by whichever type its siblings are accepted by
  induction h with
  | annotate l m =>
    intro t ht
    rwa [accepts_withMetadata]
  | openFormat b m =>
    intro t ht
    cases t with
    | blob type _ => exact BlobType.accepts_opened ht
    | simple type _ => cases ht
    | collection item _ => cases ht
    | map value _ => cases ht
  | move b uri m =>
    intro t ht
    cases t <;> exact ht
  | primitive m h =>
    intro t ht
    cases h <;> cases t <;> exact ht
  | binary v v' m =>
    intro t ht
    cases t <;> exact ht
  | generic v v' m =>
    intro t ht
    cases t <;> exact ht
  | items m h => exact accepts_collection_of fun item hitems x hx => hitems x (h hx)
  | entries m h =>
    refine accepts_map_of fun value hentries e he => ?_
    obtain ⟨e', he', hvalue⟩ := List.mem_map.1 (h (List.mem_map_of_mem he))
    rw [← hvalue]
    exact hentries e' he'
  | item before after m _ ih =>
    refine accepts_collection_of fun item hitems => ?_
    simp only [List.forall_mem_append, List.forall_mem_cons] at hitems ⊢
    exact ⟨hitems.1, ih hitems.2.1, hitems.2.2⟩
  | value before after key m _ ih =>
    refine accepts_map_of fun value hentries => ?_
    simp only [List.forall_mem_append, List.forall_mem_cons] at hentries ⊢
    exact ⟨hentries.1, ih hentries.2.1, hentries.2.2⟩

end Literal

/-! ## Any changes -/

namespace LiteralType

open Relation (ReflTransGen)

variable {t t' : LiteralType} {l l' : Literal}

theorem accepts_of_loosens (ht : ReflTransGen Loosens t t') (h : t.accepts l = true) :
    t'.accepts l = true := by
  induction ht with
  | refl => exact h
  | tail _ hstep ih => exact hstep.accepts ih

theorem accepts_of_varies (hl : ReflTransGen Literal.Varies l l') (h : t.accepts l = true) :
    t.accepts l' = true := by
  induction hl with
  | refl => exact h
  | tail _ hstep ih => exact hstep.accepts ih

/-- **Acceptance is monotone and blind to content.** A literal that a type accepts is still accepted
after any changes at any depth: formats are left open in the type or in the literal, annotations,
places and payloads are replaced, members of collections and maps are left out, moved or repeated. And
types of collections and of maps accept just the collections and maps whose members they accept. -/
theorem accepts_monotone :
    (∀ {t t' : LiteralType} {l l' : Literal}, ReflTransGen Loosens t t' →
      ReflTransGen Literal.Varies l l' → t.accepts l = true → t'.accepts l' = true) ∧
    ∀ (t : LiteralType) (m : Option Dict) (l : Literal),
      ((collection t m).accepts l = true ↔
        ∃ items m', l = .collection items m' ∧ ∀ x ∈ items, t.accepts x = true) ∧
      ((map t m).accepts l = true ↔
        ∃ entries m', l = .map entries m' ∧ ∀ e ∈ entries, t.accepts e.2 = true) :=
  ⟨fun ht hl h => accepts_of_loosens ht (accepts_of_varies hl h),
    fun _ _ _ => ⟨accepts_collection_iff, accepts_map_iff⟩⟩

/-- A list of maps of tables, and one that was made from it: the format of the first table is left
open, the second table is left out, the first stands twice, and so does the map. -/
theorem accepts_monotone_tables :
    let csv (key : String) : String × Literal := (key, .ofBlob (.single "csv") "s3://b/a.csv")
    let untyped (key : String) : String × Literal := (key, .ofBlob (.single "") "s3://b/a.csv")
    let t := collection (map (ofFormat "csv") none) none
    let t' := collection (map (ofFormat "") none) none
    let l := Literal.collection [.map [csv "x", csv "y"] none, .map [] none] none
    let l' := Literal.collection
      [.map [untyped "y", untyped "z"] none, .map [untyped "y", untyped "z"] none] none
    ReflTransGen Loosens t t' ∧ ReflTransGen Literal.Varies l l' ∧ t.accepts l = true ∧
      t'.accepts l' = true := by
  intro csv untyped t t' l l'
  have ht : ReflTransGen Loosens t t' := .single (.item none (.value none (.openFormat _ none)))
  have hopened : Literal.Varies l (.collection [.map [untyped "x", csv "y"] none, .map [] none] none) :=
    .item [] [.map [] none] none (.value [] [csv "y"] "x" none (.openFormat _ none))
  have hentries : Literal.Varies (.collection [.map [untyped "x", csv "y"] none, .map [] none] none)
      (.collection [.map [untyped "y", untyped "z"] none, .map [] none] none) :=
    .item [] [.map [] none] none (.entries none (by simp [untyped]))
  have hitems : Literal.Varies (.collection [.map [untyped "y", untyped "z"] none, .map [] none] none)
      l' := .items none (by simp)
  have hl : ReflTransGen Literal.Varies l l' := .tail (.tail (.single hopened) hentries) hitems
  have haccepts : t.accepts l = true := by decide +kernel
  exact ⟨ht, hl, haccepts, accepts_monotone.1 ht hl haccepts⟩

end LiteralType

end Workflow
