import NixContext.Text.Raw
import NixContext.Value

/-! # Raw values

Values whose texts come from outside as they are, with surrogates that stand alone.
-/

namespace NixContext

/-- A path whose text is raw. -/
abbrev RawPath : Type :=
  PathOf (RawChar.char '/') (RawChar.char '.')

/-- The path a raw text names. -/
def RawPath.ofText (s : RawText) : RawPath :=
  .ofChars (by decide) s

/-- A value of an option whose texts are raw. -/
inductive RawValue where
  | null
  | bool (b : Bool)
  | int (i : Int)
  | float (x : Double)
  | str (s : RawText)
  | list (items : List RawValue)
  | tuple (items : List RawValue)
  | map (entries : List (RawValue × RawValue))
  | path (p : RawPath)
  deriving Inhabited

end NixContext
