import NixContext.Activity
import NixContext.Context.Raw
import NixContext.Nix.Handle
import NixContext.Nix.Environment
import NixContext.Program.Run

/-! # Connections

A connection is what a context's engine gives: a handle on nix, or the engine that answers
by itself. The variables of a handle are derived when it is made. What a context holds is looked
at only here: extra arguments must be texts, and the engine must be one.
-/

namespace NixContext

/-- What a context talks to nix through. A stub is muted if a value hides its method. -/
inductive Connection where
  | handle (h : Nix.Handle)
  | stub (context : Attribute RawContext) (muted : Bool := false)
  deriving DecidableEq, Repr

/-- What a runner received and what it gave back. -/
structure Report where
  received : Invocation
  completed : Completed
  deriving DecidableEq, Repr

namespace Nix

/-- What the runners give for an invocation. -/
abbrev Launch := Runner → Invocation → Except Failure Completed

/-- What a runner gives for an invocation: one starts the program, one records. -/
def Runner.start : Launch
  | recorder, i => .ok ⟨i.argv, 0, "ok", ""⟩
  | process, i => (Program.run i).mapError .process

/-- The runner of a variant. -/
def Runner.ofVariant : Variant → Runner
  | .plain => process
  | .recording => recorder

/-- The features of nix that are needed. -/
def experimentalFeatures : List String :=
  ["nix-command", "flakes"]

/-- Where built packages are fetched from. -/
def substituters : List String :=
  ["https://cache.floxdev.com?trusted=1"]

/-- The options of every handle that a context gives. -/
def Options.preset : Checked Options :=
  let texts (xs : List String) : Value := .tuple (xs.map .str)
  Options.ofEntries
    [(.str "accept_flake_config", .bool true), (.str "warn_dirty", .bool false),
      (.str "extra_experimental_features", texts experimentalFeatures),
      (.str "extra_substituters", texts substituters)]

namespace Handle

/-- The handle of a variant with given variables, options and extra arguments. -/
def configured (v : Variant) (binary : String) (environment : Table String) (o : Options)
    (extraArgs : List String) : Handle :=
  { variant := v, binary := binary, environment := environment, options := o,
    extraArgs := extraArgs, runner := .ofVariant v }

/-- A handle with extra arguments; `binary` is the program that is started. What is wrong with
the arguments is reported for the plain variant, which the others are made from. -/
def ofArguments (v : Variant) (binary : String) (environment : Table String)
    (extraArgs : Value) : Activity Handle := do
  let o ← Activity.ofResult (Options.preset.mapError (.rejected .options))
  match environmentFrom? environment with
  | none => Activity.fail .homeUnset
  | some vs =>
    Activity.note (.trusting (certificates environment))
    match (Check.texts .notTuple extraArgs).under (.field "extra_args") with
    | .error is => Activity.fail (.rejected (.handle .plain) is)
    | .ok xs => pure (configured v binary vs o xs)

/-- A handle for a context. -/
def ofContext (v : Variant) (binary : String) (environment : Table String) (c : Context) :
    Activity Handle :=
  ofArguments v binary environment (.tuple c.extraArgs)

/-- What a run of a subcommand hands to the runner. -/
def invocation (h : Handle) (args : List String) : Invocation :=
  ⟨h.command args, h.environment⟩

/-- Runs a subcommand; `launch` says what the runners do. -/
def run (h : Handle) (args : List String) (launch : Launch := Runner.start) :
    Activity Report := do
  let i := h.invocation args
  Activity.note (.invoking i.argv)
  Activity.note (.called i)
  let done ← Activity.ofResult (launch h.runner i)
  pure ⟨i, done⟩

end Handle

end Nix

/-- Connects a context of any values to its engine, if it has one. -/
def RawContext.connect (binary : String) (environment : Table String) (c : RawContext) :
    Activity Connection :=
  match c.backend with
  | .assigned _ => Activity.fail .wrongKind
  | .own e => do
    Activity.note (.instantiating e)
    match e with
    | .commandLine v => do
      pure (.handle (← Nix.Handle.ofArguments v binary environment c.fields.extraArgs))
    | .stub => pure (.stub (.own c))
    | .failing => Activity.fail .engineUnavailable

/-- Connects a context to its engine. -/
def Context.connect (binary : String) (environment : Table String) (c : Context) :
    Activity Connection :=
  c.raw.connect binary environment

/-- Runs a subcommand; `launch` says what the runners do. -/
def Connection.run (c : Connection) (args : List String)
    (launch : Nix.Launch := Nix.Runner.start) : Activity Report :=
  match c with
  | handle h => h.run args launch
  | stub _ true => Activity.fail .typeMismatch
  | stub _ false => pure ⟨⟨args, ∅⟩, ⟨args, 3, "", "stub"⟩⟩

end NixContext
