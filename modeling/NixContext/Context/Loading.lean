import NixContext.Context.Draft
import NixContext.Context.Overlay
import NixContext.Settings

/-! # Drafts from settings files

The values of a settings file have their references expanded, in order, before they are
checked. What passes is applied to a fresh draft.
-/

namespace NixContext

/-- Expands the references in the values of entries, in order. -/
def expandEntries (s : Surroundings) :
    List (Value × Value) → Except UnsetVariable (List (Value × Value))
  | [] => .ok []
  | (k, v) :: es => do
    let w ← v.expandReferences s
    let fs ← expandEntries s es
    pure ((k, w) :: fs)

/-- The entries of a map; other values have none. -/
def Value.entries : Value → List (Value × Value)
  | map es => es
  | _ => []

namespace Draft

/-- The fresh draft of an engine with the given settings. -/
def ofSettings (e : Engine) (s : Surroundings) (es : List (Value × Value)) :
    Except Failure Draft := do
  let fs ← (expandEntries s es).mapError .unsetVariable
  let o ← (Overlay.ofEntries fs).mapError (.rejected .overlay)
  let r := (Draft.apply o.fields).run (.fresh e)
  r.1.result.map fun _ => r.2

/-- The draft of an engine with the settings of a file. -/
def ofFile (e : Engine) (s : Surroundings) (context : Table Value) (f : Settings.File) :
    Activity Draft := do
  Activity.note (.loading f.path)
  let v ← Activity.ofResult ((Settings.load f s.environment context).mapError .settings)
  Activity.ofResult (ofSettings e s v.entries)

end Draft

end NixContext
