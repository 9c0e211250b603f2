import NixContext.Validation.Check

/-! # Groups of flags

Flags that all subcommands of nix understand, flags for flake inputs and lock files, and
flags for evaluation.
-/

namespace NixContext.Nix

/-- Flags of every subcommand. -/
structure GeneralFlags where
  store : Option String := none
  quiet : Bool := false
  printBuildLogs : Bool := false
  deriving DecidableEq, Repr

/-- Flags for flake inputs and lock files. -/
structure FlakeFlags where
  overrideInputs : Table String := ∅
  noWriteLockFile : Bool := false
  recreateLockFile : Bool := false
  deriving DecidableEq, Repr

/-- Flags for evaluation. -/
structure EvalFlags where
  impure : Bool := false
  evalStore : Option String := none
  deriving DecidableEq, Repr

/-- A flag that is present or not. -/
def switch (flag : String) (present : Bool) : List String :=
  if present then [flag] else []

/-- A flag with a value that may be left out. -/
def valued (flag : String) : Option String → List String
  | some v => [flag, v]
  | none => []

namespace GeneralFlags

/-- The names of the fields, in order. -/
def fieldNames : List String :=
  ["store", "quiet", "print_build_logs"]

/-- The flags that are set. -/
def toArgs (g : GeneralFlags) : List String :=
  valued "--store" g.store ++ switch "--quiet" g.quiet ++
    switch "--print-build-logs" g.printBuildLogs

/-- Flags from named values; every name must be one of the fields. -/
def ofEntries (es : List (Value × Value)) : Checked GeneralFlags :=
  (Except.ok GeneralFlags.mk
    |> (Checked.also · (Check.optional "store" (Check.orNull Check.text) none es))
    |> (Checked.also · (Check.optional "quiet" Check.truth false es))
    |> (Checked.also · (Check.optional "print_build_logs" Check.truth false es))
    |> (Checked.guarded · (Check.strayIssues fieldNames es)))

end GeneralFlags

namespace FlakeFlags

/-- The names of the fields, in order. -/
def fieldNames : List String :=
  ["override_inputs", "no_write_lock_file", "recreate_lock_file"]

/-- The flag that replaces an input. -/
def overrideArgs (e : String × String) : List String :=
  ["--override-input", e.1, e.2]

/-- The flags that are set. -/
def toArgs (f : FlakeFlags) : List String :=
  f.overrideInputs.entries.flatMap overrideArgs ++
    switch "--no-write-lock-file" f.noWriteLockFile ++
    switch "--recreate-lock-file" f.recreateLockFile

/-- Flags from named values; every name must be one of the fields. -/
def ofEntries (es : List (Value × Value)) : Checked FlakeFlags :=
  (Except.ok FlakeFlags.mk
    |> (Checked.also · (Check.optional "override_inputs" Check.textMap ∅ es))
    |> (Checked.also · (Check.optional "no_write_lock_file" Check.truth false es))
    |> (Checked.also · (Check.optional "recreate_lock_file" Check.truth false es))
    |> (Checked.guarded · (Check.strayIssues fieldNames es)))

/-- Equal flags, whatever the order of the replaced inputs. -/
def same (f g : FlakeFlags) : Bool :=
  f.overrideInputs.same g.overrideInputs && f.noWriteLockFile == g.noWriteLockFile &&
    f.recreateLockFile == g.recreateLockFile

end FlakeFlags

namespace EvalFlags

/-- The names of the fields, in order. -/
def fieldNames : List String :=
  ["impure", "eval_store"]

/-- The flags that are set. -/
def toArgs (e : EvalFlags) : List String :=
  switch "--impure" e.impure ++ valued "--eval-store" e.evalStore

/-- Flags from named values; every name must be one of the fields. -/
def ofEntries (es : List (Value × Value)) : Checked EvalFlags :=
  (Except.ok EvalFlags.mk
    |> (Checked.also · (Check.optional "impure" Check.truth false es))
    |> (Checked.also · (Check.optional "eval_store" (Check.orNull Check.text) none es))
    |> (Checked.guarded · (Check.strayIssues fieldNames es)))

end EvalFlags

end NixContext.Nix
