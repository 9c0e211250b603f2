import NixContext.Session.Object

/-! # Actions of a session

What can be asked of a session, and what it answers.
-/

namespace NixContext.Session

/-- What can be asked. Settings are applied as they are validated, or made first and applied
later. -/
inductive Action where
  | setVariable (name value : String)
  | unsetVariable (name : String)
  | changeDirectory (path : String)
  | newDraft (label : String) (engine : Engine)
  | loadDraft (label : String) (engine : Engine) (file : Settings.File) (context : Table Value)
  | applySettings (on : String) (entries : List (Value × Value))
  | newSettings (label : String) (entries : List (Value × Value))
  | apply (on source : String)
  | replace (on : String) (field : String) (value : Value) (appended : List Value)
  | build (on label : String)
  | inspect (on : String)
  | connect (on label : String)
  | newHandle (label : String) (entries : List (Value × Value))
  | command (on : String) (args : Value)
  | run (on : String) (args : Value)
  | package (on label installable : String)
  | buildPackage (on : String)
  | evaluatePackage (on : String) (json : Bool)
  | runPackage (on : String) (args : List String)
  | compare (a b : String)
  | assign (on : String) (path : List String) (target : Target) (value : Value)

/-- What is answered. -/
inductive Answer where
  | done
  | sameDraft
  | context (c : Context)
  | rawContext (c : RawContext)
  | connection (c : Connection)
  | argv (args : List String)
  | report (r : Report)
  | package (p : RawPackage)
  | comparison (equal same : Bool)
  deriving DecidableEq, Repr

/-- The answer that shows a context of any values. -/
def Answer.ofContext (c : RawContext) : Answer :=
  c.context?.elim (rawContext c) context

end NixContext.Session
