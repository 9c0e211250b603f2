import NixContext.Text.Letters
import NixContext.Text.Digits
import NixContext.Text.Numerals
import NixContext.Text.Marks
import NixContext.Text.Symbols

/-! # Character classes

Words, names and printable characters. ASCII is decided directly and everything else by
the range tables.
-/

namespace NixContext.Text

/-- The code point lies in one of the ascending ranges. -/
def inRanges : List (Nat × Nat) → Nat → Bool
  | [], _ => false
  | (lo, hi) :: rest, n => if n < lo then false else if n ≤ hi then true else inRanges rest n

/-- A letter, digit or numeral of any script, or an underscore. -/
def isWord (c : Char) : Bool :=
  if c.toNat < 128 then c.isAlphanum || c == '_'
  else inRanges letterRanges c.toNat || inRanges digitRanges c.toNat ||
    inRanges numeralRanges c.toNat

/-- May begin a name: a letter or an underscore. -/
def isNameStart (c : Char) : Bool :=
  if c.toNat < 128 then c.isAlpha || c == '_' else inRanges letterRanges c.toNat

/-- May continue a name: a letter, a digit, a mark or an underscore. -/
def isNameRest (c : Char) : Bool :=
  if c.toNat < 128 then c.isAlphanum || c == '_'
  else inRanges letterRanges c.toNat || inRanges digitRanges c.toNat ||
    inRanges markRanges c.toNat

/-- A name: a start followed by characters that continue it. -/
def isName : List Char → Bool
  | [] => false
  | c :: rest => isNameStart c && rest.all isNameRest

/-- Shown as itself when text is quoted; controls, separators and unassigned points are not. -/
def isPrintable (c : Char) : Bool :=
  if c.toNat < 128 then 32 ≤ c.toNat && c.toNat < 127
  else inRanges letterRanges c.toNat || inRanges symbolRanges c.toNat ||
    inRanges markRanges c.toNat || inRanges digitRanges c.toNat || inRanges numeralRanges c.toNat

/-- The value of a decimal digit of any script. Such digits come in runs of ten, from zero to
nine; what a range holds beyond whole runs is no decimal digit. -/
def decimalValue? (c : Char) : Option Nat :=
  if c.isDigit then some (c.toNat - '0'.toNat)
  else
    match digitRanges.find? fun (lo, hi) => lo ≤ c.toNat && c.toNat ≤ hi with
    | some (lo, hi) =>
      let n := c.toNat - lo
      if n / 10 < (hi + 1 - lo) / 10 then some (n % 10) else none
    | none => none

/-- Decimal digits of every script in the spelling of ASCII, all else as it stands. -/
def plainDigits (s : List Char) : List Char :=
  s.map fun c =>
    match decimalValue? c with
    | some d => Nat.digitChar d
    | none => c

example : plainDigits "-٣𝟗꘨² ᧚".toList = "-398² ᧚".toList := by decide +kernel

end NixContext.Text
