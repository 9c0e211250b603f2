import NixContext.Package
import NixContext.Value.Print

/-! # Packages of any values

The attributes of a package can be assigned by hand. An operation looks at them one after the
other: its own name, the installable for what it reports, the context, and the installable again
for the command line.
-/

namespace NixContext

/-- A package of any values, and the methods that assigned values hide. -/
structure RawPackage where
  context : Attribute RawContext
  installable : Attribute Installable
  hidden : List String := []
  deriving DecidableEq, Repr

/-- A package by its values. -/
def Package.raw (p : Package) : RawPackage :=
  ⟨.own p.context.raw, .own p.installable, []⟩

namespace RawPackage

/-- The package of the values, if they are of the declared types. -/
def package? (p : RawPackage) : Option Package :=
  match p.context, p.installable, p.hidden with
  | .own c, .own i, [] => c.context?.map (⟨·, i⟩)
  | _, _, _ => none

/-- What is worked on: a value has the text that shows it. -/
def subject (p : RawPackage) : Installable :=
  match p.installable with
  | .own i => i
  | .assigned v => ⟨String.ofList v.text, ""⟩

/-- The text that shows a package. -/
def text (p : RawPackage) : String :=
  "Package(installable='" ++ p.subject.text ++ "')"

/-- The names of the methods. -/
def methods : List String :=
  ["build", "eval", "run"]

/-- Reports an event, connects the context and runs a subcommand. -/
def operate (binary : String) (environment : Table String) (p : RawPackage) (method : String)
    (e : Event) (args : List String) (launch : Nix.Launch) : Activity Report := do
  if method ∈ p.hidden then Activity.fail .typeMismatch
  else
    Activity.note e
    match p.context with
    | .assigned _ => Activity.fail .wrongKind
    | .own r => do
      let c ← r.connect binary environment
      c.run args launch

/-- Builds the package. -/
def build (binary : String) (environment : Table String) (p : RawPackage)
    (launch : Nix.Launch) : Activity Report :=
  p.operate binary environment "build" (.building p.subject) (Package.buildArgs p.subject) launch

/-- Evaluates the package. -/
def evaluate (binary : String) (environment : Table String) (p : RawPackage) (json : Bool)
    (launch : Nix.Launch) : Activity Report :=
  p.operate binary environment "eval" (.evaluating p.subject)
    (Package.evaluateArgs p.subject json) launch

/-- Runs the package with arguments for its program. -/
def run (binary : String) (environment : Table String) (p : RawPackage) (args : List String)
    (launch : Nix.Launch) : Activity Report :=
  p.operate binary environment "run" (.running p.subject) (Package.runArgs p.subject args) launch

/-- Assigns to an attribute. Names that no operation looks at are not kept. -/
def assign (name : String) (v : Value) (p : RawPackage) : RawPackage :=
  if name = "flox" then { p with context := .assigned v }
  else if name = "installable" then { p with installable := .assigned v }
  else if name ∈ methods then { p with hidden := name :: p.hidden }
  else p

theorem package?_eq_some_iff {r : RawPackage} {p : Package} :
    r.package? = some p ↔ r = p.raw := by
  constructor
  · intro h
    obtain ⟨context, installable, hidden⟩ := r
    rw [package?] at h
    split at h
    · next c i hc hi hh =>
      obtain ⟨d, hd, rfl⟩ := Option.map_eq_some_iff.mp h
      obtain rfl := RawContext.context?_eq_some_iff.mp hd
      cases hc
      cases hi
      cases hh
      rfl
    · cases h
  · rintro rfl
    rfl

end RawPackage

end NixContext
