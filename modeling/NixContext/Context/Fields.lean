import NixContext.Value

/-! # Settings and their values

The settings of a context, what a setter keeps of a value that it is called with, and values for
all settings.
-/

namespace NixContext

/-- The fields that a setter can replace. -/
inductive Setting where
  | configDir
  | cacheDir
  | dataDir
  | collectMetrics
  | extraArgs
  deriving DecidableEq, Repr

/-- The path that a text or a path denotes. -/
def Value.asPath? : Value → Option Path
  | str s => some (Path.ofText s)
  | path p => some p
  | _ => none

/-- The items that a value yields one by one: characters of a text, keys of a map. -/
def Value.asItems? : Value → Option (List Value)
  | str s => some (s.toList.map fun c => .str (String.singleton c))
  | list xs => some xs
  | tuple xs => some xs
  | map es => some (es.map Prod.fst)
  | _ => none

namespace Setting

/-- All settings in order. -/
def all : List Setting :=
  [configDir, cacheDir, dataDir, collectMetrics, extraArgs]

/-- The name of a setting. -/
def name : Setting → String
  | configDir => "config_dir"
  | cacheDir => "cache_dir"
  | dataDir => "data_dir"
  | collectMetrics => "collect_metrics"
  | extraArgs => "extra_nix_args"

/-- The setting of a name. -/
def ofName? (s : String) : Option Setting :=
  all.find? (·.name == s)

/-- What a setter keeps of a value, if it takes the value. -/
def kept? (v : Value) : Setting → Option Value
  | configDir | cacheDir | dataDir => v.asPath?.map .path
  | collectMetrics => some v
  | extraArgs => v.asItems?.map .tuple

end Setting

/-- A value for each setting, null where there is none. -/
structure Fields where
  configDir : Value := .null
  cacheDir : Value := .null
  dataDir : Value := .null
  collectMetrics : Value := .null
  extraArgs : Value := .null
  deriving DecidableEq, Repr

namespace Fields

/-- The value for a setting. -/
def get (x : Fields) : Setting → Value
  | .configDir => x.configDir
  | .cacheDir => x.cacheDir
  | .dataDir => x.dataDir
  | .collectMetrics => x.collectMetrics
  | .extraArgs => x.extraArgs

/-- Other values, one for a setting replaced. -/
def set (x : Fields) (v : Value) : Setting → Fields
  | .configDir => { x with configDir := v }
  | .cacheDir => { x with cacheDir := v }
  | .dataDir => { x with dataDir := v }
  | .collectMetrics => { x with collectMetrics := v }
  | .extraArgs => { x with extraArgs := v }

/-- Equal as data, setting by setting. -/
def same (x y : Fields) : Bool :=
  Setting.all.all fun f => (x.get f).same (y.get f)

@[simp] theorem get_set (x : Fields) (v : Value) (f g : Setting) :
    (x.set v f).get g = if g = f then v else x.get g := by
  cases f <;> cases g <;> rfl

@[ext] theorem ext_get {x y : Fields} (h : ∀ f, x.get f = y.get f) : x = y := by
  obtain ⟨config, cache, data, metrics, args⟩ := x
  obtain rfl : config = _ := h .configDir
  obtain rfl : cache = _ := h .cacheDir
  obtain rfl : data = _ := h .dataDir
  obtain rfl : metrics = _ := h .collectMetrics
  obtain rfl : args = _ := h .extraArgs
  rfl

end Fields

end NixContext
