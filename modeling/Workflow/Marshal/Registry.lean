import Workflow.Marshal.Files
import Workflow.Marshal.Primitives

/-!
# The registry of transformers

Host types lead to transformers by keys: the name of the type, its generic origin, then each of its
capabilities. Types that no key covers are sealed.

* `register` and `registerUnique` put a transformer, new or known, under keys.
* `resolve` finds the transformer of a host type.
* `hostTypeOf` looks a literal type up in reverse: exactly one transformer may claim it.
-/

namespace Workflow

/-- What a transformer is registered under. -/
inductive TypeKey where
  /-- The name of a type or of a generic origin. -/
  | type (name : String)
  | capability (c : Capability)
deriving DecidableEq, Inhabited

namespace TypeKey

/-- The key of a host type. -/
def ofHostType (t : HostType) : TypeKey := .type t.name

/-- The text of a key. -/
def render : TypeKey → String
  | .type name => name
  | .capability c => "<" ++ c.name ++ ">"

/-- The keys that a host type is looked up by, in order. -/
def candidates (t : HostType) : List TypeKey :=
  ofHostType t :: (t.origin.toList.map TypeKey.type ++ t.capabilities.map .capability)

end TypeKey

/-- What is registered: a transformer that is new to the registry, or one that it knows by its
number. -/
inductive Registrant where
  | new (t : Transformer)
  | known (number : Nat)

instance : Coe Transformer Registrant := ⟨.new⟩

/-- Transformers under keys. A transformer is known by its number, so that one under two keys counts
once: that of types without a key has 0, and the others count from 1 on as they come. -/
structure Registry where
  /-- All transformers that were ever registered, as they came. -/
  transformers : List Transformer
  /-- The number of the transformer of each key. -/
  entries : List (TypeKey × Nat)

namespace Registry

/-- The registry without keys. -/
def empty : Registry := ⟨[], []⟩

/-- The transformer of types that no key covers. -/
def fallback : Transformer := Sealing.transformer

/-- The transformer of a number. -/
def transformer? (r : Registry) : Nat → Option Transformer
  | 0 => some fallback
  | n + 1 => r.transformers[n]?

/-- The registry that knows what is registered, and its number. -/
def enlist (r : Registry) : Registrant → Registry × Nat
  | .new t => ({ r with transformers := r.transformers ++ [t] }, r.transformers.length + 1)
  | .known number => (r, number)

/-- Puts a number under a key, in place of the one before. -/
def bind (entries : List (TypeKey × Nat)) (key : TypeKey) (number : Nat) : List (TypeKey × Nat) :=
  (key, number) :: entries.filter (·.1 != key)

/-- Registers a transformer under every key of a list. -/
def register (r : Registry) (who : Registrant) (keys : List TypeKey) : Registry :=
  let (r, number) := r.enlist who
  { r with entries := keys.foldl (fun entries key => bind entries key number) r.entries }

/-- Registers a transformer unless one of the keys is taken. -/
def registerUnique (r : Registry) (who : Registrant) (keys : List TypeKey) :
    Except Failure Registry :=
  match keys.find? fun key => (r.entries.lookup key).isSome with
  | some key =>
    .error (.because .configuration
      ("a transformer for `" ++ key.render ++ "` is already registered"))
  | none => .ok (r.register who keys)

/-- The registry with the transformers of files and scalars. -/
def standard : Registry :=
  PrimitiveRule.defaults.foldl
    (fun r rule => r.register rule.transformer [.ofHostType rule.hostType])
    (empty.register Files.transformer
      [.ofHostType .file, .ofHostType .pathLike, .capability .pathLike])

/-- The transformer under a key. -/
def get? (r : Registry) (key : TypeKey) : Option Transformer :=
  (r.entries.lookup key).bind r.transformer?

/-- The transformer of a host type. -/
def resolve (r : Registry) (t : HostType) : Transformer :=
  ((TypeKey.candidates t).findSome? r.get?).getD fallback

/-- The literal type of a host type. -/
def literalType (r : Registry) (t : HostType) : Except Failure LiteralType :=
  (r.resolve t).literalType t

/-- The literal of a value, checked against the literal type of its host type. -/
def toLiteral (r : Registry) (ctx : Context) (value : HostValue) (t : HostType) :
    Marshal Literal := do
  let transformer := r.resolve t
  let expected ← Marshal.ofExcept (transformer.literalType t)
  let literal ← transformer.toLiteral ctx value t expected
  if expected.accepts literal then return literal
  else throw (.because .typeMismatch ("transformer `" ++ transformer.name ++ "` produced a " ++
    literal.tag ++ " literal that does not match " ++ expected.describe))

/-- The value of a literal. -/
def toHostValue (r : Registry) (ctx : Context) (literal : Literal) (expected : HostType) :
    Marshal HostValue :=
  (r.resolve expected).toHostValue ctx literal expected

/-- The transformers that some key leads to and the fallback, each once. -/
def reachable (r : Registry) : List Transformer :=
  (r.entries.map Prod.snd ++ [0]).eraseDups.filterMap r.transformer?

/-- The names of the transformers that claim a literal type, with the host types they give. -/
def claims (r : Registry) (type : LiteralType) : List (String × HostType) :=
  r.reachable.filterMap fun t =>
    match t.hostType type with
    | .ok host => some (t.name, host)
    | .error _ => none

/-- The host type of a literal type that exactly one transformer claims. -/
def hostTypeOf (r : Registry) (type : LiteralType) : Except Failure HostType :=
  match r.claims type with
  | [] => .error (.because .lookup ("no transformer can reverse " ++ type.describe))
  | [(_, host)] => .ok host
  | claims =>
    let names := (claims.map (·.1)).mergeSort fun a b => decide (a ≤ b)
    .error (.because .lookup ("ambiguous reverse lookup for " ++ type.describe ++
      ": claimed by " ++ String.intercalate ", " names))

end Registry

end Workflow
