/-!
# Faults of expressions

What can be wrong with the text of an expression, or happen while it is evaluated. A fault has a
kind, and most have a detail.
-/

namespace RecordRecipe.Expr

/-- The kinds of faults. -/
inductive FaultKind where
  /-- The text is no expression or template. -/
  | malformed
  | badEscape
  | undefinedValue
  | invalidOperation
  | unknownFunction
  | unknownMethod
  | unknownFilter
  | unknownTest
  | unknownBlock
  | missingArgument
  | tooManyArguments
  | cannotUnpack
  /-- An included text went wrong. -/
  | badInclude
deriving DecidableEq, Repr

/-- The kind of a fault in words. -/
def FaultKind.words : FaultKind → String
  | .malformed => "syntax error"
  | .badEscape => "bad string escape"
  | .undefinedValue => "undefined value"
  | .invalidOperation => "invalid operation"
  | .unknownFunction => "unknown function"
  | .unknownMethod => "unknown method"
  | .unknownFilter => "unknown filter"
  | .unknownTest => "unknown test"
  | .unknownBlock => "unknown block"
  | .missingArgument => "missing argument"
  | .tooManyArguments => "too many arguments"
  | .cannotUnpack => "cannot unpack"
  | .badInclude => "could not render include"

/-- A fault. -/
structure Fault where
  kind : FaultKind
  detail : Option String := none
deriving DecidableEq, Repr

namespace Fault

/-- The kind and, behind a colon, the detail. -/
def text (fault : Fault) : String :=
  match fault.detail with
  | some detail => fault.kind.words ++ ": " ++ detail
  | none => fault.kind.words

/-- A text that is no expression. -/
def malformed (detail : String) : Fault := ⟨.malformed, some detail⟩

/-- An operation on values that do not allow it. -/
def invalid (detail : String) : Fault := ⟨.invalidOperation, some detail⟩

/-- The use of a value that is not there. -/
def undefinedValue : Fault := ⟨.undefinedValue, none⟩

end Fault

end RecordRecipe.Expr
