import Workflow.Literal.Kind
import Workflow.Marshal.Session

/-!
# Transformers

A transformer serves a family of host types: it tells their literal type, turns their values into
literals and back, and claims literal types in reverse. Looking types up never touches the session.
-/

namespace Workflow

/-- The ways between a family of host types and literals. -/
structure Transformer where
  name : String
  /-- The literal type of a host type. -/
  literalType : HostType → Except Failure LiteralType
  /-- The literal of a value declared as a host type. -/
  toLiteral : Context → HostValue → HostType → LiteralType → Marshal Literal
  /-- The value of a literal for an expected host type. -/
  toHostValue : Context → Literal → HostType → Marshal HostValue
  /-- The host type of a literal type that the transformer claims. -/
  hostType : LiteralType → Except Failure HostType

namespace Transformer

/-- The failure of a transformer that does not claim a literal type. -/
def unclaimed (name : String) (type : LiteralType) : Failure :=
  .because .lookup ("transformer `" ++ name ++ "` cannot reverse " ++ type.describe)

end Transformer

end Workflow
