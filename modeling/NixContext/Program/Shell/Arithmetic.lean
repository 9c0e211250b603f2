import NixContext.Program.Shell.Parser

/-! # Arithmetic of the shell

Expressions over integers of 64 bits, with variables by name. A name that has no number
counts as zero.
-/

namespace NixContext.Program.Shell

/-- Why an expression has no value. -/
inductive ArithmeticError where
  | noPrimary
  | noEnd
  | zeroDivision
  deriving DecidableEq, Repr

/-- The text of an arithmetic error. -/
def ArithmeticError.message : ArithmeticError → Octets
  | noPrimary => octets "arithmetic expression: expecting primary"
  | noEnd => octets "arithmetic expression: expecting EOF"
  | zeroDivision => octets "arithmetic expression: division by zero"

/-- An integer wrapped to 64 bits. -/
def wrap (i : Int) : Int :=
  i.bmod 0x10000000000000000

/-- Drops blanks and line breaks at the front. -/
def trimFront (s : Octets) : Octets :=
  s.dropWhile fun c => [' ', '\t', '\n'].contains c

/-- The number at the front: decimal, octal behind a zero, or hexadecimal behind a mark. -/
def takeNumber (s : Octets) : Int × Octets :=
  let inBase (base : Nat) (ds : Octets) : Int :=
    ds.foldl (fun v c => base * v +
      (if c.isDigit then c.toNat - '0'.toNat else c.toLower.toNat - 'a'.toNat + 10)) 0
  match s with
  | '0' :: x :: rest =>
    if x = 'x' || x = 'X' then
      let isHex (c : Char) : Bool := c.isDigit || ('a' ≤ c.toLower && c.toLower ≤ 'f')
      (inBase 16 (rest.takeWhile isHex), rest.dropWhile isHex)
    else (inBase 8 (s.takeWhile Char.isDigit), s.dropWhile Char.isDigit)
  | s => (inBase 10 (s.takeWhile Char.isDigit), s.dropWhile Char.isDigit)

/-- The number that the text of a variable denotes. -/
def numberOf (s : Octets) : Int :=
  match trimFront s with
  | '-' :: s => -(takeNumber s).1
  | s => (takeNumber s).1

/-- An operator with two operands at the front: how tightly it binds, and the rest. -/
def operator? : Octets → Option (String × Nat × Octets)
  | '|' :: '|' :: cs => some ("||", 1, cs)
  | '&' :: '&' :: cs => some ("&&", 2, cs)
  | '=' :: '=' :: cs => some ("==", 6, cs)
  | '!' :: '=' :: cs => some ("!=", 6, cs)
  | '<' :: '=' :: cs => some ("<=", 7, cs)
  | '>' :: '=' :: cs => some (">=", 7, cs)
  | '<' :: '<' :: cs => some ("<<", 8, cs)
  | '>' :: '>' :: cs => some (">>", 8, cs)
  | '|' :: cs => some ("|", 3, cs)
  | '^' :: cs => some ("^", 4, cs)
  | '&' :: cs => some ("&", 5, cs)
  | '<' :: cs => some ("<", 7, cs)
  | '>' :: cs => some (">", 7, cs)
  | '+' :: cs => some ("+", 9, cs)
  | '-' :: cs => some ("-", 9, cs)
  | '*' :: cs => some ("*", 10, cs)
  | '/' :: cs => some ("/", 10, cs)
  | '%' :: cs => some ("%", 10, cs)
  | _ => none

/-- An integer as the 64 bits of its two's complement. -/
def bits (i : Int) : Nat :=
  (i % 0x10000000000000000).toNat

/-- The value of a truth. -/
def truthValue (b : Bool) : Int :=
  if b then 1 else 0

/-- The value of an operator on two operands. -/
def operate (o : String) (a b : Int) : Except ArithmeticError Int :=
  match o with
  | "||" => .ok (truthValue (a != 0 || b != 0))
  | "&&" => .ok (truthValue (a != 0 && b != 0))
  | "==" => .ok (truthValue (a == b))
  | "!=" => .ok (truthValue (a != b))
  | "<=" => .ok (truthValue (a ≤ b))
  | ">=" => .ok (truthValue (a ≥ b))
  | "<" => .ok (truthValue (a < b))
  | ">" => .ok (truthValue (a > b))
  | "<<" => .ok (wrap (bits a <<< (bits b % 64) : Nat))
  | ">>" => .ok (a.shiftRight (bits b % 64))
  | "|" => .ok (wrap (bits a ||| bits b : Nat))
  | "^" => .ok (wrap (bits a ^^^ bits b : Nat))
  | "&" => .ok (wrap (bits a &&& bits b : Nat))
  | "+" => .ok (wrap (a + b))
  | "-" => .ok (wrap (a - b))
  | "*" => .ok (wrap (a * b))
  | "/" => if b = 0 then .error .zeroDivision else .ok (wrap (a.tdiv b))
  | _ => if b = 0 then .error .zeroDivision else .ok (a.tmod b)

mutual

/-- The value of an expression whose operators bind at least so tightly. -/
def binary (lookUp : Octets → Octets) : Nat → Nat → Octets →
    Except ArithmeticError (Int × Octets)
  | 0, _, _ => .error .noPrimary
  | n + 1, least, s => do
    let (a, rest) ← unary lookUp n s
    binaryRest lookUp n least a rest

/-- The value of an expression that goes on behind its first operand. -/
def binaryRest (lookUp : Octets → Octets) : Nat → Nat → Int → Octets →
    Except ArithmeticError (Int × Octets)
  | 0, _, _, _ => .error .noPrimary
  | n + 1, least, a, s =>
    match operator? (trimFront s) with
    | some (o, tightness, rest) =>
      if least ≤ tightness then do
        let (b, rest) ← binary lookUp n (tightness + 1) rest
        let v ← operate o a b
        binaryRest lookUp n least v rest
      else .ok (a, s)
    | none => .ok (a, s)

/-- The value of an operand with the signs in front of it. -/
def unary (lookUp : Octets → Octets) : Nat → Octets → Except ArithmeticError (Int × Octets)
  | 0, _ => .error .noPrimary
  | n + 1, s =>
    match trimFront s with
    | '-' :: cs => (unary lookUp n cs).map fun r => (wrap (-r.1), r.2)
    | '+' :: cs => unary lookUp n cs
    | '!' :: cs => (unary lookUp n cs).map fun r => (truthValue (r.1 == 0), r.2)
    | '~' :: cs => (unary lookUp n cs).map fun r => (-r.1 - 1, r.2)
    | '(' :: cs => do
      let (v, rest) ← choice lookUp n cs
      match trimFront rest with
      | ')' :: rest => pure (v, rest)
      | _ => .error .noPrimary
    | c :: cs =>
      if c.isDigit then .ok (takeNumber (c :: cs))
      else if isNameStart c then
        .ok (numberOf (lookUp ((c :: cs).takeWhile isNameChar)), (c :: cs).dropWhile isNameChar)
      else .error .noPrimary
    | [] => .error .noPrimary

/-- The value of an expression that may choose between two others. -/
def choice (lookUp : Octets → Octets) : Nat → Octets → Except ArithmeticError (Int × Octets)
  | 0, _ => .error .noPrimary
  | n + 1, s => do
    let (c, rest) ← binary lookUp n 1 s
    match trimFront rest with
    | '?' :: rest => do
      let (yes, rest) ← choice lookUp n rest
      match trimFront rest with
      | ':' :: rest => do
        let (no, rest) ← choice lookUp n rest
        pure (if c != 0 then yes else no, rest)
      | _ => .error .noPrimary
    | rest => pure (c, rest)

end

/-- The value of an expression; an empty one is zero. -/
def evaluate (lookUp : Octets → Octets) (s : Octets) : Except ArithmeticError Int :=
  if (trimFront s).isEmpty then .ok 0
  else do
    let (v, rest) ← choice lookUp (4 * s.length + 8) s
    if (trimFront rest).isEmpty then pure v else .error .noEnd

end NixContext.Program.Shell
