import NixContext.Value
import NixContext.Number.Notation
import NixContext.Text.Quoted

/-! # JSON text

Values as JSON in ASCII, with a blank after commas and colons. Paths and keys that are
collections have no JSON form.
-/

namespace NixContext.Json

/-- Code units of UTF-16 as escapes. -/
def unitEscape (n : Nat) : List Char :=
  '\\' :: 'u' :: Text.hexDigits 4 n

/-- One character of a string. -/
def escapeChar (c : Char) : List Char :=
  if c == '"' || c == '\\' then ['\\', c]
  else if c == '\n' then ['\\', 'n']
  else if c == '\r' then ['\\', 'r']
  else if c == '\t' then ['\\', 't']
  else if c.toNat == 8 then ['\\', 'b']
  else if c.toNat == 12 then ['\\', 'f']
  else if 32 ≤ c.toNat && c.toNat < 127 then [c]
  else if c.toNat < 0x10000 then unitEscape c.toNat
  else
    let n := c.toNat - 0x10000
    unitEscape (0xD800 + n / 0x400) ++ unitEscape (0xDC00 + n % 0x400)

/-- A string. -/
def string (s : List Char) : List Char :=
  '"' :: s.flatMap escapeChar ++ ['"']

/-- Doubles are written in the standard way, with names of their own for the rest. -/
def doubleFormat : NumberFormat :=
  { NumberFormat.standard with infinity := "Infinity", nan := "NaN" }

/-- The text of a scalar; none for the other values. -/
def scalar? : Value → Option (List Char)
  | .null => some "null".toList
  | .bool b => some (if b then "true".toList else "false".toList)
  | .int i => some (integerText i)
  | .float x => some (doubleFormat.write x)
  | _ => none

/-- The text of a key: strings as they are, other scalars by their text. -/
def key? : Value → Option (List Char)
  | .str s => some s.toList
  | v => scalar? v

/-- Whether one key comes before another; none if they have no order. -/
def keyLess? : Value → Value → Option Bool
  | .str s, .str t => some (s < t)
  | a, b => match a.quantity?, b.quantity? with
    | some p, some q => some (p.less q)
    | _, _ => none

/-- Puts an item with its key in order behind the keys that are not larger. -/
def insertSorted {α : Type} (k : Value) (a : α) : List (Value × α) → Option (List (Value × α))
  | [] => some [(k, a)]
  | (l, b) :: rest => do
    if ← keyLess? k l then pure ((k, a) :: (l, b) :: rest)
    else pure ((l, b) :: (← insertSorted k a rest))

/-- Items in the order of their keys; none if two keys have no order. -/
def sortByKey {α : Type} : List (Value × α) → Option (List (Value × α))
  | [] => some []
  | (k, a) :: rest => do insertSorted k a (← sortByKey rest)

mutual

/-- The JSON text of a value; `sorted` puts the entries of maps in the order of their keys. -/
def encode? (sorted : Bool) : Value → Option (List Char)
  | .str s => some (string s.toList)
  | .list xs => (encodeItems? sorted xs).map fun ps =>
      '[' :: [',', ' '].intercalate ps ++ [']']
  | .tuple xs => (encodeItems? sorted xs).map fun ps =>
      '[' :: [',', ' '].intercalate ps ++ [']']
  | .map es => do
      let ps ← encodeEntries? sorted es
      let ps ← if sorted then sortByKey ps else some ps
      pure ('\x7b' :: [',', ' '].intercalate (ps.map Prod.snd) ++ ['\x7d'])
  | .path _ => none
  | v => scalar? v

/-- The texts of items. -/
def encodeItems? (sorted : Bool) : List Value → Option (List (List Char))
  | [] => some []
  | x :: xs => do pure ((← encode? sorted x) :: (← encodeItems? sorted xs))

/-- The texts of map entries, with their keys. -/
def encodeEntries? (sorted : Bool) : List (Value × Value) → Option (List (Value × List Char))
  | [] => some []
  | (k, v) :: es => do
    let p := string (← key? k) ++ ':' :: ' ' :: (← encode? sorted v)
    pure ((k, p) :: (← encodeEntries? sorted es))

end

end NixContext.Json
