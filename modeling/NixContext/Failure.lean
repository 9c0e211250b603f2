import NixContext.Context.Fields
import NixContext.Engine
import NixContext.Program.Outcome
import NixContext.Settings
import NixContext.Text.Quoted
import NixContext.Validation.Issue

/-! # Failures of operations

The ways in which an operation of the library can fail, with the text of those that have one.
-/

namespace NixContext

/-- The records that are validated. -/
inductive RecordKind where
  | generalFlags
  | flakeFlags
  | evalFlags
  | options
  | overlay
  | installable
  | handle (variant : Variant)
  deriving DecidableEq, Repr

/-- Why an operation failed. -/
inductive Failure where
  | unknownObject
  | wrongKind
  | typeMismatch
  | missingSetting (s : Setting)
  | homeUnset
  | engineUnavailable
  | malformedInstallable (text : String)
  | unsetVariable (v : UnsetVariable)
  | rejected (r : RecordKind) (issues : List Issue)
  | frozenField (name : String)
  | unknownField (name : String)
  | indexOutOfRange
  | settings (f : Settings.Failure)
  | process (f : Program.Failure)
  deriving DecidableEq, Repr

/-- The text of a failure that has one. -/
def Failure.message? : Failure → Option String
  | missingSetting s => some ("missing required field '" ++ s.name ++ "'")
  | homeUnset => some "HOME is not set; nix cannot locate its user configuration"
  | engineUnavailable => some "backend unavailable"
  | malformedInstallable text => some ("Invalid installable: '" ++ text ++ "'")
  | unsetVariable v => some v.message
  | frozenField name =>
    some ("cannot assign to field " ++ String.ofList (Text.quoted name.toList))
  | unknownField name => some ("\"FloxSettings\" object has no field \"" ++ name ++ "\"")
  | settings f => f.message?
  | _ => none

end NixContext
