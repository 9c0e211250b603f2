import NixContext.Validation.Check

/-! # Installables

An installable is a reference to a flake and, behind a number sign, the path of an attribute
in it. The path may be left out.
-/

namespace NixContext

/-- A flake reference with the path of an attribute, empty for none. -/
structure Installable where
  flakeRef : String
  attrPath : String := ""
  deriving DecidableEq, Repr

namespace Installable

/-- The text of an installable. -/
def text (i : Installable) : String :=
  if i.attrPath = "" then i.flakeRef else i.flakeRef ++ "#" ++ i.attrPath

/-- The installable that a text denotes: the number sign that counts is the first. -/
def ofText? (s : String) : Option Installable :=
  let flakeRef := s.toList.takeWhile (· != '#')
  let attrPath := (s.toList.dropWhile (· != '#')).drop 1
  if flakeRef = [] then none else some ⟨String.ofList flakeRef, String.ofList attrPath⟩

/-- An installable from named values; other names are ignored. -/
def ofEntries (es : List (Value × Value)) : Checked Installable :=
  (Except.ok Installable.mk
    |> (Checked.also · (Check.required "flakeref" Check.text es))
    |> (Checked.also · (Check.optional "attr_path" Check.text "" es)))

end Installable

end NixContext
