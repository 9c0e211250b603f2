import NixContext.Engine
import NixContext.Nix.Flags
import NixContext.Nix.Options

/-! # Handles on nix

A handle is a fully configured way to invoke nix. It assembles command lines: flags for
flake inputs and for evaluation stand behind the arguments of a subcommand but before the
separator, so that they reach nix and not the program that nix starts.
-/

namespace NixContext.Nix

/-- What starts the program of a command line. -/
inductive Runner where
  | process
  | recorder
  deriving DecidableEq, Repr

/-- A configured way to invoke nix. -/
structure Handle where
  variant : Variant := .plain
  binary : String
  environment : Table String := ∅
  general : GeneralFlags := {}
  flake : FlakeFlags := {}
  evaluation : EvalFlags := {}
  options : Options := {}
  extraArgs : List String := []
  runner : Runner := .process
  deriving DecidableEq, Repr

/-- What separates the arguments of nix from those of the program it starts. -/
def separator : String :=
  "--"

namespace Handle

/-- The flags in front of a subcommand. -/
def leadingArgs (h : Handle) : List String :=
  h.general.toArgs ++ h.options.toArgs ++ h.extraArgs

/-- The flags behind the arguments of a subcommand. -/
def trailingArgs (h : Handle) : List String :=
  h.flake.toArgs ++ h.evaluation.toArgs

/-- The command line for the arguments of a subcommand. -/
def command (h : Handle) (args : List String) : List String :=
  h.binary :: h.leadingArgs ++ args.takeWhile (· != separator) ++ h.trailingArgs ++
    args.dropWhile (· != separator)

/-- The runner cannot be given by value. -/
def givenRunner (es : List (Value × Value)) : Checked Runner :=
  Check.optional "runner" (fun _ => .fail .notCallable) .process es

/-- A handle from named values; other names are ignored. -/
def ofEntries (es : List (Value × Value)) : Checked Handle :=
  (Except.ok (Handle.mk .plain)
    |> (Checked.also · (Check.required "nix_bin" Check.text es))
    |> (Checked.also · (Check.optional "env" Check.textMap ∅ es))
    |> (Checked.also · (Check.optional "common_args" (Check.record GeneralFlags.ofEntries) {} es))
    |> (Checked.also · (Check.optional "flake_args" (Check.record FlakeFlags.ofEntries) {} es))
    |> (Checked.also · (Check.optional "eval_args" (Check.record EvalFlags.ofEntries) {} es))
    |> (Checked.also · (Check.optional "nix_config" (Check.record Options.ofEntries) {} es))
    |> (Checked.also · (Check.optional "extra_args" (Check.texts .notTuple) [] es))
    |> (Checked.also · (givenRunner es)))

/-- Equal handles; variables and replaced inputs are compared as mappings. -/
def same (a b : Handle) : Bool :=
  a.variant == b.variant && a.binary == b.binary && a.environment.same b.environment &&
    a.general == b.general && a.flake.same b.flake && a.evaluation == b.evaluation &&
    a.options == b.options && a.extraArgs == b.extraArgs && a.runner == b.runner

end Handle

end NixContext.Nix
