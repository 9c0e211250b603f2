import NixContext.Context.Raw
import NixContext.InPlace

/-! # Drafts of contexts

A draft collects the fields of a context. Each setter replaces one field or rejects the
value and changes nothing. A context can be made once the three directories are set. The
attributes of a draft can be assigned by hand as well: a value in place of a field is not looked
at, and one under the name of a method hides the method.
-/

namespace NixContext

/-- The fields collected so far, and the methods that assigned values hide. -/
structure Draft where
  fields : Fields
  backend : Attribute Engine
  hidden : List String := []
  deriving DecidableEq, Repr

namespace Draft

/-- The draft that nothing has been written to. -/
def fresh (e : Engine) : Draft :=
  ⟨{ collectMetrics := .bool false, extraArgs := .tuple [] }, .own e, []⟩

/-- The methods of a draft. -/
def methods : List String :=
  "build" :: Setting.all.map Setting.name

/-- Looks up a method. -/
def method (d : Draft) (name : String) : Except Failure Unit :=
  if name ∈ d.hidden then .error .typeMismatch else .ok ()

/-- The setting that a setter of this name writes. -/
def setter (d : Draft) (name : String) : Except Failure Setting := do
  d.method name
  (Setting.ofName? name).elim (.error .wrongKind) .ok

/-- Calls a setter: the value is converted before the field is written. -/
def call (name : String) (v : Value) : InPlace Draft Unit := do
  let f ← InPlace.ask (·.setter name)
  let w ← InPlace.ask fun _ => (f.kept? v).elim (.error .typeMismatch) .ok
  InPlace.write fun d => { d with fields := d.fields.set w f }

/-- Calls the setters of settings, one after the other, with the values that are there. -/
def give (x : Fields) : List Setting → InPlace Draft Unit
  | [] => pure ()
  | f :: fs => do
    if x.get f ≠ .null then call f.name (x.get f)
    give x fs

/-- Applies values to a draft: each setter for which there is a value is called with it. -/
def apply (x : Fields) : InPlace Draft Unit :=
  give x Setting.all

/-- The context of the fields, or the first directory that is not set. -/
def build (d : Draft) : Except Setting RawContext :=
  if d.fields.configDir = .null then .error .configDir
  else if d.fields.cacheDir = .null then .error .cacheDir
  else if d.fields.dataDir = .null then .error .dataDir
  else .ok ⟨d.fields, d.backend⟩

/-- The setting of an attribute that holds a field. -/
def fieldOf? (name : String) : Option Setting :=
  Setting.all.find? fun f => "_" ++ f.name == name

/-- Assigns to an attribute. Names that no operation looks at are not kept. -/
def assign (name : String) (v : Value) (d : Draft) : Draft :=
  match fieldOf? name with
  | some f => { d with fields := d.fields.set v f }
  | none =>
    if name = "_nix_backend" then { d with backend := .assigned v }
    else if name ∈ methods then { d with hidden := name :: d.hidden }
    else d

end Draft

end NixContext
