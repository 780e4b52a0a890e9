import Workflow.Number.Binary64
import Workflow.Text.Utf8

/-!
# CBOR values

The data model of the Concise Binary Object Representation. A map is the list of its entries: order
and repeated keys stay.

* `Cbor.same` compares values, floating numbers by what they stand for.
* `Cbor.ofInt?` and `Cbor.toInt?` see both kinds of integers as one.
-/

namespace Workflow

/-- A CBOR value. -/
inductive Cbor where
  | unsigned (n : UInt64)
  /-- The integer `-1 - n`. -/
  | negative (n : UInt64)
  | bytes (content : Bytes)
  | text (content : String)
  | array (items : List Cbor)
  | map (entries : List (Cbor × Cbor))
  | tag (number : UInt64) (item : Cbor)
  | bool (value : Bool)
  | null
  | float (value : Binary64)

instance : Inhabited Cbor := ⟨.null⟩

namespace Cbor

/-- An integer as a value; none outside of 64 bits and a sign. -/
def ofInt? (n : Int) : Option Cbor :=
  if 0 ≤ n then
    if n.toNat < UInt64.size then some (.unsigned (UInt64.ofNat n.toNat)) else none
  else if (-1 - n).toNat < UInt64.size then some (.negative (UInt64.ofNat (-1 - n).toNat))
  else none

/-- The integer of a value. -/
def toInt? : Cbor → Option Int
  | .unsigned n => some n.toNat
  | .negative n => some (-1 - n.toNat)
  | _ => none

mutual

/-- Equality of values. A NaN equals nothing, 0 equals -0. -/
def same : Cbor → Cbor → Bool
  | .unsigned m, .unsigned n => m == n
  | .negative m, .negative n => m == n
  | .bytes a, .bytes b => a == b
  | .text a, .text b => a == b
  | .array a, .array b => sameItems a b
  | .map a, .map b => sameEntries a b
  | .tag m a, .tag n b => m == n && same a b
  | .bool a, .bool b => a == b
  | .null, .null => true
  | .float x, .float y => x.sameValue y
  | _, _ => false

/-- Equality of arrays, item by item. -/
def sameItems : List Cbor → List Cbor → Bool
  | [], [] => true
  | a :: as, b :: bs => same a b && sameItems as bs
  | _, _ => false

/-- Equality of maps, entry by entry. -/
def sameEntries : List (Cbor × Cbor) → List (Cbor × Cbor) → Bool
  | [], [] => true
  | (k, v) :: as, (l, w) :: bs => same k l && same v w && sameEntries as bs
  | _, _ => false

end

end Cbor

end Workflow
