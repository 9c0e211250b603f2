import NixContext.Text.Quoted

/-! # Escapes in string literals

A backslash begins an escape for a control character, a quote or a code point. An unknown
escape stands for itself and a truncated one is an error.
-/

namespace NixContext.Template

/-- The value of a hexadecimal digit. -/
def hexValue? (c : Char) : Option Nat :=
  if c.isDigit then some (c.toNat - '0'.toNat)
  else if 'a' ≤ c && c ≤ 'f' then some (c.toNat - 'a'.toNat + 10)
  else if 'A' ≤ c && c ≤ 'F' then some (c.toNat - 'A'.toNat + 10)
  else none

/-- Reads exactly `n` hexadecimal digits after the value read so far. -/
def hexNumber? : Nat → Nat → List Char → Option (Nat × List Char)
  | 0, acc, cs => some (acc, cs)
  | _ + 1, _, [] => none
  | n + 1, acc, c :: cs =>
    match hexValue? c with
    | some d => hexNumber? n (16 * acc + d) cs
    | none => none

/-- A digit below eight. -/
def isOctal (c : Char) : Bool :=
  '0' ≤ c && c ≤ '7'

/-- Reads at most `n` octal digits after the value read so far. -/
def octalNumber : Nat → Nat → List Char → Nat × List Char
  | 0, acc, cs => (acc, cs)
  | _ + 1, acc, [] => (acc, [])
  | n + 1, acc, c :: cs =>
    if isOctal c then octalNumber n (8 * acc + (c.toNat - '0'.toNat)) cs else (acc, c :: cs)

/-- The character of a code point. -/
def charOf? (n : Nat) : Option Char :=
  if h : n.isValidChar then some (Char.ofNatAux n h) else none

/-- The character that a one-letter escape stands for. -/
def letterEscape? (c : Char) : Option Char :=
  match c with
  | '\\' | '"' => some c
  | 'n' => some '\n'
  | 'r' => some '\r'
  | 't' => some '\t'
  | 'a' => some '\x07'
  | 'b' => some '\x08'
  | 'f' => some '\x0c'
  | 'v' => some '\x0b'
  | _ => if c.toNat = 39 then some c else none

/-- The number of hexadecimal digits after an escape's letter. -/
def hexWidth? (c : Char) : Option Nat :=
  match c with
  | 'x' => some 2
  | 'u' => some 4
  | 'U' => some 8
  | _ => none

/-- One escape after its backslash: the characters it stands for and the rest. -/
def escape? : List Char → Option (List Char × List Char)
  | [] => none
  | '\n' :: cs => some ([], cs)
  | c :: cs =>
    match letterEscape? c with
    | some d => some ([d], cs)
    | none =>
      match hexWidth? c with
      | some w => do
        let (n, rest) ← hexNumber? w 0 cs
        let d ← charOf? n
        pure ([d], rest)
      | none =>
        if c = 'N' then none
        else if isOctal c then do
          let (n, rest) := octalNumber 3 0 (c :: cs)
          let d ← charOf? n
          pure ([d], rest)
        else if c.toNat < 128 then some (['\\', c], cs)
        else some ('\\' :: (Text.codeEscape c.toNat).drop 1, cs)

/-- Resolves the escapes of a literal; the first argument bounds the number of steps. -/
def unescapeWithin : Nat → List Char → Option (List Char)
  | _, [] => some []
  | 0, _ :: _ => none
  | n + 1, '\\' :: cs => do
    let (out, rest) ← escape? cs
    pure (out ++ (← unescapeWithin n rest))
  | n + 1, c :: cs => (unescapeWithin n cs).map (c :: ·)

/-- The text a literal stands for. -/
def unescape? (s : List Char) : Option (List Char) :=
  unescapeWithin s.length s

end NixContext.Template
