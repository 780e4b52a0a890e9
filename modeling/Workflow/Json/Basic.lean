import Workflow.Keyed
import Workflow.Number.Decimal

/-!
# JSON documents

A document keeps the members of an object in the order they were written, repeated keys included.
Integers and floating numbers stay apart: `1` and `1.0` are different documents.

A text may also obey the grammar and hold what no value stands for, a `Misfit`. It is kept, because
much of it is harmless where the text is passed over.

* `Json.canonical` sorts all objects by key; of equal keys the last one stays.
* `Json.isPlain` holds of documents without misfits, `Json.isSkippable` of those that may be passed
  over.
-/

namespace Workflow

/-- What obeys the grammar of JSON and is no value. -/
inductive Misfit where
  /-- A numeral out of range. -/
  | number
  /-- An array or object nested too deep, or an object with a key that is no text. -/
  | nested
  /-- A text with halves of surrogate pairs, or `bare` with control characters that are not escaped.
  It is kept as code points. -/
  | text (codes : List Nat) (bare : Bool)
deriving DecidableEq

/-- A JSON document. -/
inductive Json where
  | null
  | bool (value : Bool)
  | int (value : Int)
  | float (value : Binary64)
  | str (value : String)
  | arr (items : List Json)
  | obj (members : List (String × Json))
  | misfit (kind : Misfit)

instance : Inhabited Json := ⟨.null⟩

namespace Json

mutual

/-- The document with every object sorted by key, and with null for misfits. -/
def canonical : Json → Json
  | .arr items => .arr (canonicalItems items)
  | .obj members => .obj (sortKeys (canonicalMembers members))
  | .misfit _ => .null
  | other => other

/-- Every item in canonical form. -/
def canonicalItems : List Json → List Json
  | [] => []
  | item :: items => canonical item :: canonicalItems items

/-- Every member in canonical form. -/
def canonicalMembers : List (String × Json) → List (String × Json)
  | [] => []
  | (key, value) :: members => (key, canonical value) :: canonicalMembers members

end

theorem canonicalItems_eq_map (items : List Json) : canonicalItems items = items.map canonical := by
  induction items with
  | nil => rfl
  | cons item items ih => simp [canonicalItems, ih]

theorem canonicalMembers_eq_map (members : List (String × Json)) :
    canonicalMembers members = members.map fun p => (p.1, p.2.canonical) := by
  induction members with
  | nil => rfl
  | cons member members ih => simp [canonicalMembers, ih]

/-- Sorting an object twice is sorting it once. -/
theorem canonical_canonical : ∀ document : Json, document.canonical.canonical = document.canonical
  | .null | .bool _ | .int _ | .float _ | .str _ | .misfit _ => rfl
  | .arr items => by
    simp only [canonical, canonicalItems_eq_map, List.map_map]
    congr 1
    exact List.map_congr_left fun item _ => canonical_canonical item
  | .obj members => by
    have fixed : ∀ p ∈ sortKeys (canonicalMembers members), p.2.canonical = p.2 := fun p hp => by
      have := mem_of_mem_sortKeys hp
      rw [canonicalMembers_eq_map, List.mem_map] at this
      obtain ⟨q, hq, rfl⟩ := this
      have := List.sizeOf_lt_of_mem hq
      have : sizeOf q.2 < sizeOf q := by cases q; simp only [Prod.mk.sizeOf_spec]; omega
      exact canonical_canonical q.2
    have same : canonicalMembers (sortKeys (canonicalMembers members)) =
        sortKeys (canonicalMembers members) := by
      rw [canonicalMembers_eq_map]
      calc _ = (sortKeys (canonicalMembers members)).map id :=
            List.map_congr_left fun p hp => by rw [fixed p hp]; rfl
        _ = _ := List.map_id _
    simp only [canonical]
    rw [same, sortKeys_of_sortedKeys (sortedKeys_sortKeys _)]

mutual

/-- Whether `p` holds of every misfit in a document. -/
def allMisfits (p : Misfit → Bool) : Json → Bool
  | .arr items => allMisfitsOfItems p items
  | .obj members => allMisfitsOfMembers p members
  | .misfit kind => p kind
  | _ => true

/-- Whether `p` holds of every misfit in a list of documents. -/
def allMisfitsOfItems (p : Misfit → Bool) : List Json → Bool
  | [] => true
  | item :: items => allMisfits p item && allMisfitsOfItems p items

/-- Whether `p` holds of every misfit in the members of an object. -/
def allMisfitsOfMembers (p : Misfit → Bool) : List (String × Json) → Bool
  | [] => true
  | (_, value) :: members => allMisfits p value && allMisfitsOfMembers p members

end

/-- Whether a document is a value throughout. -/
def isPlain (document : Json) : Bool := document.allMisfits fun _ => false

/-- Whether a document may be passed over: control characters are escaped even there. -/
def isSkippable (document : Json) : Bool :=
  document.allMisfits fun kind =>
    match kind with
    | .text _ bare => !bare
    | _ => true

theorem allMisfitsOfItems_eq_all (p : Misfit → Bool) (items : List Json) :
    allMisfitsOfItems p items = items.all (allMisfits p) := by
  induction items with
  | nil => rfl
  | cons item items ih => simp [allMisfitsOfItems, ih]

theorem allMisfitsOfMembers_eq_all (p : Misfit → Bool) (members : List (String × Json)) :
    allMisfitsOfMembers p members = members.all fun m => allMisfits p m.2 := by
  induction members with
  | nil => rfl
  | cons member members ih => simp [allMisfitsOfMembers, ih]

/-- A document in canonical form is a value throughout. -/
theorem isPlain_canonical : ∀ document : Json, document.canonical.isPlain = true
  | .null | .bool _ | .int _ | .float _ | .str _ | .misfit _ => rfl
  | .arr items => by
    simp only [canonical, isPlain, allMisfits, allMisfitsOfItems_eq_all, canonicalItems_eq_map,
      List.all_map, List.all_eq_true]
    exact fun item _ => isPlain_canonical item
  | .obj members => by
    simp only [canonical, isPlain, allMisfits, allMisfitsOfMembers_eq_all, List.all_eq_true]
    intro p hp
    have := mem_of_mem_sortKeys hp
    rw [canonicalMembers_eq_map, List.mem_map] at this
    obtain ⟨q, hq, rfl⟩ := this
    have := List.sizeOf_lt_of_mem hq
    have : sizeOf q.2 < sizeOf q := by cases q; simp only [Prod.mk.sizeOf_spec]; omega
    exact isPlain_canonical q.2

/-- A document that is a value throughout. -/
def asPlain? (document : Json) : Option Json := if document.isPlain then some document else none

/-- A member of an object by key. -/
def get? (key : String) : Json → Option Json
  | .obj members => members.lookup key
  | _ => none

/-- A floating number as a document: infinities and NaNs have no numeral and become null. -/
def ofBinary64 (x : Binary64) : Json := if x.isFinite then .float x else .null

end Json

/-- A document in canonical form: every object is sorted and has each key once. -/
structure Document where
  value : Json
  canonical : value.canonical = value

namespace Document

/-- A document brought into canonical form. -/
def ofJson (value : Json) : Document := ⟨value.canonical, value.canonical_canonical⟩

instance : Inhabited Document := ⟨ofJson .null⟩

end Document

/-- An object in canonical form, by its members. -/
structure JsonObject where
  members : List (String × Json)
  canonical : (Json.obj members).canonical = .obj members

namespace JsonObject

/-- Members brought into canonical form; of equal keys the last one stays. -/
def ofMembers (members : List (String × Json)) : JsonObject :=
  ⟨sortKeys (Json.canonicalMembers members), (Json.obj members).canonical_canonical⟩

/-- The object as a document. -/
def toJson (object : JsonObject) : Json := .obj object.members

end JsonObject

end Workflow
