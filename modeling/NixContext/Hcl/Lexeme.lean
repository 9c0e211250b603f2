import NixContext.Number.Notation
import NixContext.Text.Replace

/-! # Lexemes of settings files

Blanks and tabs may stand between lexemes. A line break is a line feed or a comment; where
breaks may stand, any number of them may.
-/

namespace NixContext.Hcl

/-- A blank or a tab. -/
def isSpace (c : Char) : Bool :=
  c == ' ' || c == '\t'

/-- Drops blanks and tabs. -/
def skipSpaces (s : List Char) : List Char :=
  s.dropWhile isSpace

/-- What follows the next line feed. -/
def afterLine? : List Char → Option (List Char)
  | [] => none
  | c :: cs => if c = '\n' then some cs else afterLine? cs

/-- What follows the end of a block comment. -/
def afterBlock? : List Char → Option (List Char)
  | [] => none
  | '*' :: '/' :: cs => some cs
  | _ :: cs => afterBlock? cs

/-- What follows a line break. -/
def break? (s : List Char) : Option (List Char) :=
  match skipSpaces s with
  | '\n' :: cs => some cs
  | '#' :: cs => afterLine? cs
  | '/' :: '/' :: cs => afterLine? cs
  | '/' :: '*' :: cs => afterBlock? cs
  | _ => none

/-- Drops at most `n` line breaks. -/
def skipBreaksWithin : Nat → List Char → List Char
  | 0, s => s
  | n + 1, s =>
    match break? s with
    | some rest => skipBreaksWithin n rest
    | none => s

/-- Drops line breaks. -/
def skipBreaks (s : List Char) : List Char :=
  skipBreaksWithin s.length s

/-- Drops the line breaks before an expression. After a break a minus can only be an operator,
so no expression begins with one there. -/
def skipToExpr? (s : List Char) : Option (List Char) :=
  match break? s with
  | none => some s
  | some rest =>
    let rest := skipBreaks rest
    if (skipSpaces rest).head? = some '-' then none else some rest

/-- What follows a fixed lexeme. -/
def eat? (lexeme : List Char) (s : List Char) : Option (List Char) :=
  lexeme.isPrefixOf? (skipSpaces s)

/-- Whether a fixed lexeme comes next. -/
def sees (lexeme : List Char) (s : List Char) : Bool :=
  (eat? lexeme s).isSome

/-- May begin an identifier. -/
def isNameStart (c : Char) : Bool :=
  c.isAlpha || c == '_'

/-- May continue an identifier. -/
def isNameRest (c : Char) : Bool :=
  c.isAlphanum || c == '_' || c == '-'

/-- An identifier and what follows it. -/
def name? (s : List Char) : Option (List Char × List Char) :=
  match skipSpaces s with
  | c :: cs =>
    if isNameStart c then some (c :: cs.takeWhile isNameRest, cs.dropWhile isNameRest) else none
  | [] => none

/-- What follows a keyword. -/
def keyword? (word : List Char) (s : List Char) : Option (List Char) :=
  match name? s with
  | some (w, rest) => if w = word then some rest else none
  | none => none

/-- What follows an equals sign that is no part of another operator. -/
def equals? (s : List Char) : Option (List Char) :=
  match skipSpaces s with
  | '=' :: '=' :: _ => none
  | '=' :: '>' :: _ => none
  | '=' :: cs => some cs
  | _ => none

/-- What follows a single colon. -/
def colon? (s : List Char) : Option (List Char) :=
  match skipSpaces s with
  | ':' :: ':' :: _ => none
  | ':' :: cs => some cs
  | _ => none

/-- Decimal digits, between which there may be blanks. -/
def digits : List Char → List Char × List Char
  | [] => ([], [])
  | c :: cs =>
    if c.isDigit then
      let (ds, rest) := digits cs
      (c :: ds, rest)
    else if isSpace c then
      match digits cs with
      | ([], _) => ([], c :: cs)
      | found => found
    else ([], c :: cs)

/-- The mark, sign and digits of an exponent, and what follows. -/
def exponent? (s : List Char) : Option (Int × List Char) :=
  match skipSpaces s with
  | c :: cs =>
    if c = 'e' || c = 'E' then
      let (negative, cs) := takeSign cs
      let ds := cs.takeWhile Char.isDigit
      if ds.isEmpty then none
      else
        let n : Int := digitsValue ds
        some (if negative then -n else n, cs.dropWhile Char.isDigit)
    else none
  | [] => none

/-- The operators with two operands, the longer ones first. -/
def operators : List (List Char) :=
  [['=', '='], ['!', '='], ['<', '='], ['>', '='], ['&', '&'], ['|', '|'], ['<'], ['>'], ['-'],
    ['*'], ['/'], ['%'], ['+']]

/-- An operator with two operands, unless a comment begins here. -/
def operator? (s : List Char) : Option (List Char × List Char) :=
  if (break? s).isSome then none
  else operators.findSome? fun op => (eat? op s).map fun rest => (op, rest)

/-- The characters of a string up to its quote or an interpolation. -/
def stringChars : List Char → List Char × List Char
  | '\\' :: c :: cs =>
    if c = '\n' then ([], '\\' :: c :: cs)
    else
      let (t, rest) := stringChars cs
      ('\\' :: c :: t, rest)
  | c :: cs =>
    if c = '"' || c = '\\' || (c = '$' && cs.head? = some '\x7b') then ([], c :: cs)
    else
      let (t, rest) := stringChars cs
      (c :: t, rest)
  | [] => ([], [])

/-- The text up to the first occurrence of a mark, and what follows the mark. -/
def splitAtMark? (mark : List Char) : List Char → Option (List Char × List Char)
  | [] => none
  | c :: cs =>
    match mark.isPrefixOf? (c :: cs) with
    | some rest => some ([], rest)
    | none => (splitAtMark? mark cs).map fun (t, rest) => (c :: t, rest)

/-- May continue the mark of a heredoc. -/
def isMarkRest (c : Char) : Bool :=
  c.isAlphanum || c == '.' || c == '_' || c == '-'

/-- The text of a heredoc after its opening sign, and what follows its closing mark. -/
def heredocText? : List Char → Option (List Char × List Char)
  | c :: cs =>
    let mark := cs.takeWhile isMarkRest
    if c.isAlpha && !mark.isEmpty then
      match cs.dropWhile isMarkRest with
      | '\n' :: rest => splitAtMark? (c :: mark) rest
      | _ => none
    else none
  | [] => none

/-- Drops line feeds, tabs and blanks at the end. -/
def trimHeredoc (s : List Char) : List Char :=
  (s.reverse.dropWhile fun c => c == '\n' || isSpace c).reverse

end NixContext.Hcl
