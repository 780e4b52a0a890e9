/-!
# Failures

What every part of the library reports at its border: a kind, a message and the text of the cause.
The parts have error types of their own, which turn into failures.
-/

namespace Workflow

/-- The kinds of failures. -/
inductive FailureKind where
  | configuration
  | typeMismatch
  | invalidValue
  | assertion
  | unsupportedFormat
  | lookup
  | storage
  | serialization
  | io
deriving DecidableEq, Inhabited

namespace FailureKind

/-- Every kind. -/
def all : List FailureKind :=
  [.configuration, .typeMismatch, .invalidValue, .assertion, .unsupportedFormat, .lookup, .storage,
   .serialization, .io]

/-- The name of a kind. -/
def name : FailureKind → String
  | .configuration => "configuration"
  | .typeMismatch => "type_mismatch"
  | .invalidValue => "invalid_value"
  | .assertion => "assertion"
  | .unsupportedFormat => "unsupported_format"
  | .lookup => "lookup"
  | .storage => "storage"
  | .serialization => "serialization"
  | .io => "io"

end FailureKind

/-- A failure of marshalling or authoring. -/
structure Failure where
  kind : FailureKind
  message : Option String
  cause : Option String
deriving DecidableEq, Inhabited

namespace Failure

/-- A failure with a message and no cause. -/
def because (kind : FailureKind) (message : String) : Failure := ⟨kind, some message, none⟩

/-- The kind, and the message behind a colon. -/
def render (f : Failure) : String :=
  f.kind.name ++ match f.message with
    | some message => ": " ++ message
    | none => ""

/-- The stand-in for the words of a foreign decoder. -/
def detail : String := "<detail>"

/-- Text that is no document of the expected type. -/
def undecodable : Failure := because .serialization detail

end Failure

end Workflow
