import NixContext.Connection

/-! # Packages

A package is an installable together with the context that it is worked on in. Every
operation connects the context anew.
-/

namespace NixContext

/-- An installable in a context. -/
structure Package where
  context : Context
  installable : Installable
  deriving DecidableEq, Repr

namespace Package

/-- Reports an event, connects the context and runs a subcommand. -/
def operate (binary : String) (environment : Table String) (p : Package) (e : Event)
    (args : List String) (launch : Nix.Launch := Nix.Runner.start) : Activity Report := do
  Activity.note e
  let c ← p.context.connect binary environment
  c.run args launch

/-- The arguments that build an installable. -/
def buildArgs (i : Installable) : List String :=
  ["build", i.text]

/-- The arguments that evaluate an installable, as data if asked. -/
def evaluateArgs (i : Installable) (json : Bool) : List String :=
  ["eval", i.text] ++ if json then ["--json"] else []

/-- The arguments that run an installable; what the program receives follows a separator. -/
def runArgs (i : Installable) (args : List String) : List String :=
  ["run", i.text] ++ if args = [] then [] else Nix.separator :: args

/-- Builds the package. -/
def build (binary : String) (environment : Table String) (p : Package)
    (launch : Nix.Launch := Nix.Runner.start) : Activity Report :=
  p.operate binary environment (.building p.installable) (buildArgs p.installable) launch

/-- Evaluates the package. -/
def evaluate (binary : String) (environment : Table String) (p : Package) (json : Bool)
    (launch : Nix.Launch := Nix.Runner.start) : Activity Report :=
  p.operate binary environment (.evaluating p.installable) (evaluateArgs p.installable json)
    launch

/-- Runs the package with arguments for its program. -/
def run (binary : String) (environment : Table String) (p : Package) (args : List String)
    (launch : Nix.Launch := Nix.Runner.start) : Activity Report :=
  p.operate binary environment (.running p.installable) (runArgs p.installable args) launch

end Package

end NixContext
