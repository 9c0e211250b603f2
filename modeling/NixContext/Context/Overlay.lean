import NixContext.Context.Fields
import NixContext.Validation.Check

/-! # Overlays

An overlay holds validated values for some fields of a draft, as a settings file gives them. Its
values can be assigned to without any check once they are there (`Overlay.fields`).
-/

namespace NixContext

/-- Values for the fields of a draft; a field without one is left alone. -/
structure Overlay where
  configDir : Option Path := none
  cacheDir : Option Path := none
  dataDir : Option Path := none
  collectMetrics : Option Bool := none
  extraArgs : Option (List String) := none
  deriving DecidableEq, Repr

namespace Overlay

/-- An overlay from named values; every name must be a setting. -/
def ofEntries (es : List (Value × Value)) : Checked Overlay :=
  let path := Check.orNull Check.path
  let truth := Check.orNull Check.truth
  let texts := Check.orNull (Check.texts .notList)
  (Except.ok Overlay.mk
    |> (Checked.also · (Check.optional "config_dir" path none es))
    |> (Checked.also · (Check.optional "cache_dir" path none es))
    |> (Checked.also · (Check.optional "data_dir" path none es))
    |> (Checked.also · (Check.optional "collect_metrics" truth none es))
    |> (Checked.also · (Check.optional "extra_nix_args" texts none es))
    |> (Checked.guarded · (Check.strayIssues (Setting.all.map Setting.name) es)))

/-- The values that the overlay holds, as attributes that can be assigned to. -/
def fields (o : Overlay) : Fields where
  configDir := (o.configDir.map .path).getD .null
  cacheDir := (o.cacheDir.map .path).getD .null
  dataDir := (o.dataDir.map .path).getD .null
  collectMetrics := (o.collectMetrics.map .bool).getD .null
  extraArgs := (o.extraArgs.map fun xs => .list (xs.map .str)).getD .null

end Overlay

end NixContext
