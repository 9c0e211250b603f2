import NixContext.Nix.EntrySet
import NixContext.Validation.Check

/-! # Options of nix

The options of nix.conf that are passed on the command line, each as a flag with the
option's name and its value. An option that is not set is not passed.
-/

namespace NixContext.Nix

/-- The options that can be set. -/
structure Options where
  acceptFlakeConfig : Option Bool := none
  warnDirty : Option Bool := none
  showTrace : Option Bool := none
  netrcFile : Option Path := none
  extraExperimentalFeatures : Option EntrySet := none
  extraSubstituters : Option EntrySet := none
  extraTrustedPublicKeys : Option EntrySet := none
  deriving DecidableEq, Repr

/-- The value of an option. -/
inductive OptionValue where
  | truth (b : Bool)
  | path (p : Path)
  | entries (s : EntrySet)
  deriving DecidableEq, Repr

/-- The text of an option's value: entries are separated by single blanks. -/
def OptionValue.text : OptionValue → String
  | truth b => if b then "true" else "false"
  | path p => p.text
  | entries s => " ".intercalate s.entries

/-- The field name of an option as the option's name. -/
def optionName (field : String) : String :=
  field.map fun c => if c = '_' then '-' else c

namespace Options

/-- The names of the fields, in order. -/
def fieldNames : List String :=
  ["accept_flake_config", "warn_dirty", "show_trace", "netrc_file",
    "extra_experimental_features", "extra_substituters", "extra_trusted_public_keys"]

/-- The kinds of values that options have. -/
inductive Kind where
  | truth
  | path
  | entries
  deriving DecidableEq, Repr

/-- The options in order, with their kinds. -/
def kinds : List (String × Kind) :=
  [("accept_flake_config", .truth), ("warn_dirty", .truth), ("show_trace", .truth),
    ("netrc_file", .path), ("extra_experimental_features", .entries),
    ("extra_substituters", .entries), ("extra_trusted_public_keys", .entries)]

/-- The fields in order, with their values where they are set. -/
def fields (o : Options) : List (String × Option OptionValue) :=
  [("accept_flake_config", o.acceptFlakeConfig.map .truth),
    ("warn_dirty", o.warnDirty.map .truth),
    ("show_trace", o.showTrace.map .truth),
    ("netrc_file", o.netrcFile.map .path),
    ("extra_experimental_features", o.extraExperimentalFeatures.map .entries),
    ("extra_substituters", o.extraSubstituters.map .entries),
    ("extra_trusted_public_keys", o.extraTrustedPublicKeys.map .entries)]

theorem fields_names (o : Options) : o.fields.map Prod.fst = fieldNames := rfl

/-- The flags of a field. -/
def fieldArgs : String × Option OptionValue → List String
  | (name, some v) => ["--option", optionName name, v.text]
  | (_, none) => []

/-- The flags of the options that are set, in order. -/
def toArgs (o : Options) : List String :=
  o.fields.flatMap fieldArgs

/-- A set of entries, null for none. -/
def entrySet (v : Value) : Checked (Option EntrySet) := do
  match ← Check.orNull (Check.texts .notTuple) v with
  | none => pure none
  | some es =>
    match EntrySetOf.ofList isEntry es with
    | .ok s => pure (some s)
    | .error e => .fail (.badEntry e)

/-- Options from named values; every name must be one of the fields. -/
def ofEntries (es : List (Value × Value)) : Checked Options :=
  let truth := Check.orNull Check.truth
  (Except.ok Options.mk
    |> (Checked.also · (Check.optional "accept_flake_config" truth none es))
    |> (Checked.also · (Check.optional "warn_dirty" truth none es))
    |> (Checked.also · (Check.optional "show_trace" truth none es))
    |> (Checked.also · (Check.optional "netrc_file" (Check.orNull Check.path) none es))
    |> (Checked.also · (Check.optional "extra_experimental_features" entrySet none es))
    |> (Checked.also · (Check.optional "extra_substituters" entrySet none es))
    |> (Checked.also · (Check.optional "extra_trusted_public_keys" entrySet none es))
    |> (Checked.guarded · (Check.strayIssues fieldNames es)))

/-- Why no options can be built. -/
inductive BuildFailure where
  | reservedName
  | unencodable
  | rejected (issues : List Issue)
  deriving DecidableEq, Repr

/-- The name that no option may have: it stands for the record itself. -/
def reservedName : String :=
  "cls"

/-- Options from named values, unless one of them has the reserved name. -/
def build (es : List (Value × Value)) : Except BuildFailure Options :=
  if es.any (fun e => e.1 = .str reservedName) then .error .reservedName
  else (ofEntries es).mapError .rejected

end Options

end NixContext.Nix
