import NixContext.Number.Shortest
import NixContext.Text.Blank

/-! # Writing and reading numbers

A format record lays out the shortest digits of a double. Reading takes an optional sign,
digits that underscores may group, a point and an exponent.
-/

namespace NixContext

/-- How a double is written: positionally between two decimal exponents, else with a mark
and a signed exponent of a least width. -/
structure NumberFormat where
  positionalFrom : Int
  positionalBelow : Int
  mark : Char
  exponentWidth : Nat
  infinity : String
  nan : String

/-- Positional from a ten-thousandth to below ten quadrillion, otherwise as in 1e+16. -/
def NumberFormat.standard : NumberFormat :=
  ⟨-4, 16, 'e', 2, "inf", "nan"⟩

/-- The decimal digits of a natural number. -/
def decimalDigits (n : Nat) : List Char :=
  Nat.toDigits 10 n

/-- An integer with a minus sign when negative. -/
def integerText (i : Int) : List Char :=
  if i < 0 then '-' :: decimalDigits i.natAbs else decimalDigits i.natAbs

/-- Drops the zeros at the end of the digits. -/
def dropTrailingZeros (ds : List Char) : List Char :=
  (ds.reverse.dropWhile (· == '0')).reverse

/-- The digits of a magnitude whose first digit stands for `10 ^ exponent`. -/
def NumberFormat.layOut (f : NumberFormat) (ds : List Char) (exponent : Int) : List Char :=
  if f.positionalFrom ≤ exponent && exponent < f.positionalBelow then
    if exponent < 0 then '0' :: '.' :: List.replicate (-exponent - 1).toNat '0' ++ ds
    else
      let n := exponent.toNat + 1
      let whole := ds.take n ++ List.replicate (n - ds.length) '0'
      let rest := ds.drop n
      whole ++ '.' :: (if rest.isEmpty then ['0'] else rest)
  else
    let e := decimalDigits exponent.natAbs
    let rest := ds.drop 1
    ds.take 1 ++ (if rest.isEmpty then [] else '.' :: rest) ++
      f.mark :: (if exponent < 0 then '-' else '+') ::
        (List.replicate (f.exponentWidth - e.length) '0' ++ e)

/-- The text of a double. -/
def NumberFormat.write (f : NumberFormat) (x : Double) : List Char :=
  let sign := if x.isNegative && !x.isNaN then ['-'] else []
  if x.isNaN then f.nan.toList
  else if x.isInfinite then sign ++ f.infinity.toList
  else if x.isZero then sign ++ f.layOut ['0'] 0
  else
    let (d, g) := x.shortest
    let ds := decimalDigits d
    sign ++ f.layOut (dropTrailingZeros ds) (g + ds.length - 1)

/-- The standard text of a double. -/
def Double.text (x : Double) : List Char :=
  NumberFormat.standard.write x

/-- The number that ASCII digits stand for. -/
def digitsValue (ds : List Char) : Nat :=
  ds.foldl (fun n c => 10 * n + (c.toNat - '0'.toNat)) 0

/-- Digits in which single underscores may stand between two digits; gives the digits
and the rest. -/
def takeDigits : Bool → List Char → List Char × List Char
  | _, [] => ([], [])
  | inside, c :: cs =>
    if c.isDigit then
      let (ds, rest) := takeDigits true cs
      (c :: ds, rest)
    else match c, cs with
      | '_', d :: _ =>
        if inside && d.isDigit then takeDigits false cs else ([], c :: cs)
      | _, _ => ([], c :: cs)

/-- An optional sign: whether it is a minus, and the rest. -/
def takeSign : List Char → Bool × List Char
  | '-' :: cs => (true, cs)
  | '+' :: cs => (false, cs)
  | cs => (false, cs)

/-- Reads an integer; blanks may surround it. -/
def readInt? (s : List Char) : Option Int :=
  let (negative, s) := takeSign (Text.trim s)
  match takeDigits false s with
  | ([], _) => none
  | (ds, []) => some (if negative then -(digitsValue ds : Int) else digitsValue ds)
  | _ => none

/-- Reads the exponent of a number, which may be absent. -/
def readExponent? : List Char → Option Int
  | [] => some 0
  | c :: cs =>
    if c == 'e' || c == 'E' then
      let (negative, cs) := takeSign cs
      match takeDigits false cs with
      | ([], _) => none
      | (ds, []) => some (if negative then -(digitsValue ds : Int) else digitsValue ds)
      | _ => none
    else none

/-- Reads a double without sign or surrounding blanks. -/
def readMagnitude? (negative : Bool) (s : List Char) : Option Double :=
  let word := s.map Char.toLower
  if word = "inf".toList || word = "infinity".toList then some (.infinity negative)
  else if word = "nan".toList then some .nan
  else
    let (whole, rest) := takeDigits false s
    let (fraction, rest) :=
      match rest with
      | '.' :: cs => takeDigits false cs
      | cs => ([], cs)
    if whole.isEmpty && fraction.isEmpty then none
    else (readExponent? rest).map fun e =>
      .ofDecimal negative (digitsValue (whole ++ fraction)) (e - fraction.length)

/-- Reads a double; blanks may surround it. -/
def readDouble? (s : List Char) : Option Double :=
  let (negative, s) := takeSign (Text.trim s)
  readMagnitude? negative s

example : (Double.ofRatio false 1 10).text = "0.1".toList := by decide +kernel
example : (Double.ofInt 1).text = "1.0".toList := by decide +kernel
example : (Double.ofDecimal true 1 16).text = "-1e+16".toList := by decide +kernel
example : (Double.ofDecimal false 1 (-5)).text = "1e-05".toList := by decide +kernel
example : (Double.ofDecimal false 5 (-324)).text = "5e-324".toList := by decide +kernel
example : readInt? " -1_000\n".toList = some (-1000) := by decide +kernel

end NixContext
