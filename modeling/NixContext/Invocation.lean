import NixContext.Table

/-! # Invocations

An invocation is an argument vector with the variables that the started program sees. A
completed one has a status and two texts.
-/

namespace NixContext

/-- What a program is started with. -/
structure Invocation where
  argv : List String
  environment : Table String
  deriving DecidableEq, Repr

/-- What is left of a program that was started and has ended. -/
structure Completed where
  args : List String
  status : Int
  stdout : String
  stderr : String
  deriving DecidableEq, Repr

end NixContext
