import NixContext.Context
import NixContext.Context.Fields

/-! # Contexts of any values

A draft whose attributes are assigned by hand can hold any values, and builds a context of them
unchecked. A context as declared is one with paths for directories, a tuple of arguments and an
engine (`RawContext.context?_eq_some_iff`).
-/

namespace NixContext

/-- What an attribute holds: what was put there when its object was made, or a value that was
assigned to it. -/
inductive Attribute (α : Type) where
  | own (a : α)
  | assigned (v : Value)
  deriving DecidableEq, Repr

/-- A context of any values. -/
structure RawContext where
  fields : Fields
  backend : Attribute Engine
  deriving DecidableEq, Repr

/-- A context by its values. -/
def Context.raw (c : Context) : RawContext :=
  ⟨⟨.path c.configDir, .path c.cacheDir, .path c.dataDir, c.collectMetrics, .tuple c.extraArgs⟩,
    .own c.engine⟩

namespace RawContext

/-- The context of the values, if they are of the declared types. -/
def context? (c : RawContext) : Option Context :=
  match c.fields, c.backend with
  | ⟨.path config, .path cache, .path data, metrics, .tuple args⟩, .own e =>
    some ⟨config, cache, data, metrics, args, e⟩
  | _, _ => none

/-- Equal as data, field by field. -/
def same (a b : RawContext) : Bool :=
  a.fields.same b.fields &&
    match a.backend, b.backend with
    | .own d, .own e => d == e
    | .assigned v, .assigned w => v.same w
    | _, _ => false

theorem context?_eq_some_iff {r : RawContext} {c : Context} :
    r.context? = some c ↔ r = c.raw := by
  constructor
  · intro h
    obtain ⟨fields, backend⟩ := r
    rw [context?] at h
    split at h
    · next hf hb =>
      cases h
      cases hf
      cases hb
      rfl
    · cases h
  · rintro rfl
    rfl

end RawContext

end NixContext
