/-! # Engines

An engine is what a context hands out to talk to nix. The command line engine comes in two
variants that differ in the runner only. Two further engines never reach nix: one answers
by itself, one cannot be had.
-/

namespace NixContext

/-- The variants of the command line engine. -/
inductive Variant where
  | plain
  | recording
  deriving DecidableEq, Repr

/-- What talks to nix. -/
inductive Engine where
  | commandLine (variant : Variant)
  | stub
  | failing
  deriving DecidableEq, Repr

/-- The name of a variant of the command line engine. -/
def Variant.name : Variant → String
  | plain => "NixCommandLine"
  | recording => "RecordingNix"

/-- The name of an engine. -/
def Engine.name : Engine → String
  | commandLine v => v.name
  | stub => "StubBackend"
  | failing => "FailingBackend"

end NixContext
