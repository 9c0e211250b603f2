import NixContext.Value
import NixContext.Number.Notation
import NixContext.Text.Quoted

/-! # The text of a value

A value alone is written plainly; inside a collection, text is quoted and paths are named
as such.
-/

namespace NixContext.Value

/-- Pieces with a comma and a blank between them. -/
def commaSeparated (ps : List (List Char)) : List Char :=
  [',', ' '].intercalate ps

/-- Pieces in round brackets; a single piece is followed by a comma. -/
def tupleText : List (List Char) → List Char
  | [p] => '(' :: p ++ [',', ')']
  | ps => '(' :: commaSeparated ps ++ [')']

/-- A truth value, spelled with a capital. -/
def truthText (b : Bool) : List Char :=
  if b then "True".toList else "False".toList

mutual

/-- The text of a value inside a collection. -/
def innerText : Value → List Char
  | null => "None".toList
  | bool b => truthText b
  | int i => integerText i
  | float x => x.text
  | str s => Text.quoted s.toList
  | list xs => '[' :: commaSeparated (innerTexts xs) ++ [']']
  | tuple xs => tupleText (innerTexts xs)
  | map es => '\x7b' :: commaSeparated (entryTexts es) ++ ['\x7d']
  | path p => "PosixPath(".toList ++ Text.quoted p.chars ++ [')']

/-- The texts of items. -/
def innerTexts : List Value → List (List Char)
  | [] => []
  | x :: xs => innerText x :: innerTexts xs

/-- The texts of map entries. -/
def entryTexts : List (Value × Value) → List (List Char)
  | [] => []
  | (k, v) :: es => (innerText k ++ ':' :: ' ' :: innerText v) :: entryTexts es

end

/-- The text of a value by itself. -/
def text : Value → List Char
  | str s => s.toList
  | path p => p.chars
  | v => innerText v

end NixContext.Value
