import Workflow.Marshal.Transformer

/-!
# Scalars

Each of seven host types has a simple literal type: nothing, numbers, texts, truth values and times.

* `write` and `read` are the two ways; all failures are mismatches.
* `defaults` lists the seven pairs.
-/

namespace Workflow

/-- A simple literal type with the host type it belongs to. -/
structure PrimitiveRule where
  simple : SimpleType
  hostType : HostType
deriving DecidableEq, Inhabited

namespace PrimitiveRule

/-- The rules of a fresh registry. -/
def defaults : List PrimitiveRule :=
  [⟨.none, .ofName "()"⟩,
   ⟨.integer, .ofName "i64"⟩,
   ⟨.float, .ofName "f64"⟩,
   ⟨.string, .ofName "alloc::string::String"⟩,
   ⟨.boolean, .ofName "bool"⟩,
   ⟨.datetime, .ofName "jiff::timestamp::Timestamp"⟩,
   ⟨.duration, .ofName "jiff::signed_duration::SignedDuration"⟩]

/-- The failure of a rule on something else. -/
def mismatch (r : PrimitiveRule) (found : String) : Failure :=
  .because .typeMismatch
    ("expected a " ++ r.simple.name ++ " value for " ++ r.hostType.name ++ ", found " ++ found)

/-- The literal of a value. -/
def write (r : PrimitiveRule) (value : HostValue) : Except Failure Literal :=
  match r.simple, value with
  | .none, .none => .ok .none
  | .integer, .int v => .ok (.ofPrimitive (.integer v))
  | .float, .float v => .ok (.ofPrimitive (.float v))
  | .string, .str v => .ok (.ofPrimitive (.text v))
  | .boolean, .bool v => .ok (.ofPrimitive (.boolean v))
  | .datetime, .datetime v => .ok (.ofPrimitive (.datetime v))
  | .duration, .duration v => .ok (.ofPrimitive (.duration v))
  | _, other => .error (r.mismatch other.kind)

/-- The value of a literal. -/
def read (r : PrimitiveRule) (literal : Literal) : Except Failure HostValue :=
  match r.simple, literal.asScalar? with
  | .none, some .none => .ok .none
  | .integer, some (.primitive (.integer v)) => .ok (.int v)
  | .float, some (.primitive (.float v)) => .ok (.float v)
  | .string, some (.primitive (.text v)) => .ok (.str v)
  | .boolean, some (.primitive (.boolean v)) => .ok (.bool v)
  | .datetime, some (.primitive (.datetime v)) => .ok (.datetime v)
  | .duration, some (.primitive (.duration v)) => .ok (.duration v)
  | _, _ => .error (r.mismatch literal.tag)

/-- The host type of the literal type of a rule. -/
def hostTypeOf (r : PrimitiveRule) (type : LiteralType) : Except Failure HostType :=
  match type with
  | .simple simple _ =>
    if simple = r.simple then .ok r.hostType else .error (Transformer.unclaimed r.simple.name type)
  | _ => .error (Transformer.unclaimed r.simple.name type)

/-- The transformer of a rule. -/
def transformer (r : PrimitiveRule) : Transformer where
  name := r.simple.name
  literalType _ := .ok (.ofSimple r.simple)
  toLiteral _ value _ _ := Marshal.ofExcept (r.write value)
  toHostValue _ literal _ := Marshal.ofExcept (r.read literal)
  hostType := r.hostTypeOf

end PrimitiveRule

end Workflow
