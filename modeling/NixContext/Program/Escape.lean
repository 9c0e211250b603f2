import NixContext.Program.Outcome
import NixContext.Number.Notation

/-! # Escapes and formats

The escapes that echo and printf understand, and the directives of printf.
-/

namespace NixContext.Program

/-- An octal digit. -/
def isOctal (c : Char) : Bool :=
  '0' ≤ c && c ≤ '7'

/-- The octet that at most `n` octal digits at the front stand for, and the rest. -/
def takeOctal (n : Nat) (s : Octets) : Char × Octets :=
  let ds := (s.take n).takeWhile isOctal
  let v := ds.foldl (fun v c => 8 * v + (c.toNat - '0'.toNat)) 0
  (Char.ofNat (v % 256), s.drop ds.length)

/-- The octet that a letter behind a backslash stands for. -/
def controlLetter? : Char → Option Char
  | 'a' => some '\x07'
  | 'b' => some '\x08'
  | 'f' => some '\x0c'
  | 'n' => some '\n'
  | 'r' => some '\r'
  | 't' => some '\t'
  | 'v' => some '\x0b'
  | '\\' => some '\\'
  | _ => none

/-- A hexadecimal digit. -/
def isHex (c : Char) : Bool :=
  c.isDigit || ('a' ≤ c.toLower && c.toLower ≤ 'f')

/-- The value of a hexadecimal digit. -/
def hexValue (c : Char) : Nat :=
  if c.isDigit then c.toNat - '0'.toNat else c.toLower.toNat - 'a'.toNat + 10

/-- The octet that hexadecimal digits or a letter stand for in the wider set of escapes. -/
def wideEscape? : Octets → Option (Char × Octets)
  | 'e' :: cs => some ('\x1b', cs)
  | 'x' :: cs =>
    match (cs.take 2).takeWhile isHex with
    | [] => none
    | ds => some (Char.ofNat (ds.foldl (fun v d => 16 * v + hexValue d) 0), cs.drop ds.length)
  | _ => none

/-- The text of an argument with its escapes, where octal digits follow a zero, in the narrow
or the wide set; also whether it asks to stop. -/
def unescape (wide : Bool) : Nat → Octets → Octets × Bool
  | 0, s => (s, false)
  | _, [] => ([], false)
  | n + 1, '\\' :: c :: cs =>
    if c = 'c' then ([], true)
    else if c = '0' then
      let (o, rest) := takeOctal 3 cs
      let (s, stop) := unescape wide n rest
      (o :: s, stop)
    else if let (true, some (o, rest)) := (wide, wideEscape? (c :: cs)) then
      let (s, stop) := unescape wide n rest
      (o :: s, stop)
    else
      match controlLetter? c with
      | some o =>
        let (s, stop) := unescape wide n cs
        (o :: s, stop)
      | none =>
        let (s, stop) := unescape wide n cs
        ('\\' :: c :: s, stop)
  | n + 1, c :: cs =>
    let (s, stop) := unescape wide n cs
    (c :: s, stop)

/-- The text that the built-in echo writes. -/
def echoText (args : List Octets) : Octets :=
  let (lineBreak, args) :=
    match args with
    | ['-', 'n'] :: rest => (([] : Octets), rest)
    | args => (['\n'], args)
  let s := [' '].intercalate args
  let (s, stop) := unescape false s.length s
  if stop then s else s ++ lineBreak

/-- The options at the front of the arguments of the echo program: no line break, escapes. -/
def echoOptions (lineBreak escapes : Bool) : List Octets → Bool × Bool × List Octets
  | ('-' :: o :: os) :: rest =>
    if (o :: os).all (fun c => c = 'n' || c = 'e' || c = 'E') then
      let escapes := (o :: os).foldl
        (fun e c => if c = 'e' then true else if c = 'E' then false else e) escapes
      echoOptions (lineBreak && !(o :: os).contains 'n') escapes rest
    else (lineBreak, escapes, ('-' :: o :: os) :: rest)
  | rest => (lineBreak, escapes, rest)

/-- The text that the echo program writes. -/
def echoProgramText (args : List Octets) : Octets :=
  let (lineBreak, escapes, args) := echoOptions true false args
  let s := [' '].intercalate args
  let (s, stop) := if escapes then unescape true s.length s else (s, false)
  if stop || !lineBreak then s else s ++ ['\n']

/-- A directive of a format: flags, least width, precision and kind. -/
structure Directive where
  left : Bool := false
  zeros : Bool := false
  plus : Bool := false
  width : Nat := 0
  precision : Option Nat := none
  kind : Char

/-- The flags of a directive. -/
def takeFlags : Octets → Directive → Directive × Octets
  | '-' :: cs, d => takeFlags cs { d with left := true }
  | '0' :: cs, d => takeFlags cs { d with zeros := true }
  | '+' :: cs, d => takeFlags cs { d with plus := true }
  | cs, d => (d, cs)

/-- A natural number at the front, zero for none. -/
def takeNatural (s : Octets) : Nat × Octets :=
  (digitsValue (s.takeWhile Char.isDigit), s.dropWhile Char.isDigit)

/-- A directive behind a percent sign. -/
def takeDirective? (s : Octets) : Option (Directive × Octets) :=
  let (d, s) := takeFlags s { kind := 's' }
  let (w, s) := takeNatural s
  let (p, s) :=
    match s with
    | '.' :: s => (some (takeNatural s).1, (takeNatural s).2)
    | s => (none, s)
  match s with
  | k :: s => some ({ d with width := w, precision := p, kind := k }, s)
  | [] => none

/-- Fills a text up to the width of a directive. -/
def Directive.fill (d : Directive) (s : Octets) : Octets :=
  let blanks := List.replicate (d.width - s.length) ' '
  if d.left then s ++ blanks else blanks ++ s

/-- The integer that an argument denotes; a quote in front gives the number of a character. -/
def argumentInt : Octets → Int
  | [] => 0
  | '\'' :: c :: _ => c.toNat
  | '"' :: c :: _ => c.toNat
  | s => (readInt? s).getD 0

/-- The digits of a number in a base. -/
def digitsIn (base : Nat) (upper : Bool) (n : Nat) : Octets :=
  let ds := Nat.toDigits base n
  if upper then ds.map Char.toUpper else ds

/-- A number with its sign, filled up to the width of a directive. -/
def Directive.number (d : Directive) (negative : Bool) (digits : Octets) : Octets :=
  let digits := List.replicate (d.precision.getD 0 - digits.length) '0' ++ digits
  let sign := if negative then ['-'] else if d.plus then ['+'] else []
  if d.zeros && !d.left && d.precision.isNone then
    sign ++ List.replicate (d.width - sign.length - digits.length) '0' ++ digits
  else d.fill (sign ++ digits)

/-- The text of an argument under a directive; also whether it asks to stop. -/
def Directive.write (d : Directive) (arg : Octets) : Octets × Bool :=
  let cut (s : Octets) : Octets := (d.precision.map fun p => s.take p).getD s
  let i := argumentInt arg
  let word := (i % 0x10000000000000000).toNat
  match d.kind with
  | 's' => (d.fill (cut arg), false)
  | 'b' =>
    let (s, stop) := unescape false arg.length arg
    (d.fill (cut s), stop)
  | 'c' => (d.fill (arg.take 1), false)
  | 'd' | 'i' => (d.number (i < 0) (digitsIn 10 false i.natAbs), false)
  | 'u' => (d.number false (digitsIn 10 false word), false)
  | 'o' => (d.number false (digitsIn 8 false word), false)
  | 'x' => (d.number false (digitsIn 16 false word), false)
  | 'X' => (d.number false (digitsIn 16 true word), false)
  | _ => ([], true)

/-- One pass over a format: the text, the arguments that are left, and whether to stop. -/
def formatOnce : Nat → Octets → List Octets → Octets × List Octets × Bool
  | 0, _, args => ([], args, true)
  | _, [], args => ([], args, false)
  | n + 1, '%' :: '%' :: cs, args =>
    let (s, rest, stop) := formatOnce n cs args
    ('%' :: s, rest, stop)
  | n + 1, '%' :: cs, args =>
    match takeDirective? cs with
    | none => ([], args, true)
    | some (d, cs) =>
      let (a, stop) := d.write (args.headD [])
      if stop then (a, args.tail, true)
      else
        let (s, rest, stop) := formatOnce n cs args.tail
        (a ++ s, rest, stop)
  | n + 1, '\\' :: c :: cs, args =>
    let (o, cs) : Octets × Octets :=
      if isOctal c then
        let (o, rest) := takeOctal 3 (c :: cs)
        ([o], rest)
      else
        match controlLetter? c with
        | some o => ([o], cs)
        | none => (['\\', c], cs)
    let (s, rest, stop) := formatOnce n cs args
    (o ++ s, rest, stop)
  | n + 1, c :: cs, args =>
    let (s, rest, stop) := formatOnce n cs args
    (c :: s, rest, stop)

/-- The text of a format, which is used again as long as it takes up arguments. -/
def formatText : Nat → Octets → List Octets → Octets
  | 0, _, _ => []
  | n + 1, f, args =>
    let (s, rest, stop) := formatOnce (f.length + 1) f args
    if stop || rest.isEmpty || rest.length = args.length then s else s ++ formatText n f rest

end NixContext.Program
