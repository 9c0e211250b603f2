import NixContext.Template.Escape
import NixContext.Number.Notation
import NixContext.Text.Blank
import NixContext.Text.Class
import NixContext.Text.Replace

/-! # Template tokens

A template is text with output tags, statement tags, comments and raw blocks. A minus at the
inner side of a delimiter strips the blanks on its outer side. Inside a tag, a closing
delimiter counts only where no bracket is open.
-/

namespace NixContext.Template

/-- Operators and punctuation inside tags. -/
inductive Symbol where
  | plus | minus | slash | floorSlash | star | power | percent | tilde
  | leftParen | rightParen | leftBracket | rightBracket | leftBrace | rightBrace
  | equal | notEqual | less | lessEqual | greater | greaterEqual
  | assign | dot | colon | comma | semicolon | pipe
  deriving DecidableEq, Repr

/-- A token of a template. -/
inductive Token where
  | text (s : List Char)
  | openOutput
  | closeOutput
  | openTag
  | closeTag
  | name (s : List Char)
  | string (s : List Char)
  | int (n : Nat)
  | float (x : Double)
  | symbol (s : Symbol)
  deriving DecidableEq, Repr

/-- A token with the line it begins on. -/
structure Located where
  token : Token
  line : Nat
  deriving DecidableEq, Repr

/-- What a delimiter opens. -/
inductive Opening where
  | output
  | tag
  | comment
  deriving DecidableEq, Repr

/-- The text up to the first opening delimiter, and what that opens. -/
def splitText : List Char → List Char × Option (Opening × List Char)
  | [] => ([], none)
  | '\x7b' :: '\x7b' :: cs => ([], some (.output, cs))
  | '\x7b' :: '%' :: cs => ([], some (.tag, cs))
  | '\x7b' :: '#' :: cs => ([], some (.comment, cs))
  | c :: cs =>
    let (t, found) := splitText cs
    (c :: t, found)

/-- A sign after an opening delimiter: whether it strips, and the rest. -/
def takeStrip : List Char → Bool × List Char
  | '-' :: cs => (true, cs)
  | '+' :: cs => (false, cs)
  | cs => (false, cs)

/-- What follows the end of a comment. -/
def afterComment? : List Char → Option (List Char)
  | [] => none
  | '+' :: '#' :: '\x7d' :: cs => some cs
  | '-' :: '#' :: '\x7d' :: cs => some (Text.trimStart cs)
  | '#' :: '\x7d' :: cs => some cs
  | _ :: cs => afterComment? cs

/-- What follows the end of a statement tag. -/
def tagEnd? : List Char → Option (List Char)
  | '+' :: '%' :: '\x7d' :: cs => some cs
  | '-' :: '%' :: '\x7d' :: cs => some (Text.trimStart cs)
  | '%' :: '\x7d' :: cs => some cs
  | _ => none

/-- What follows the end of an output tag. -/
def outputEnd? : List Char → Option (List Char)
  | '-' :: '\x7d' :: '\x7d' :: cs => some (Text.trimStart cs)
  | '\x7d' :: '\x7d' :: cs => some cs
  | _ => none

/-- What follows a tag that begins a raw block, after its sign. -/
def rawTag? (cs : List Char) : Option (List Char) := do
  let cs ← ['r', 'a', 'w'].isPrefixOf? (Text.trimStart cs)
  match Text.trimStart cs with
  | '-' :: '%' :: '\x7d' :: rest => some (Text.trimStart rest)
  | '%' :: '\x7d' :: rest => some rest
  | _ => none

/-- What follows a tag that ends a raw block, after its sign. -/
def endRawTag? (cs : List Char) : Option (List Char) := do
  let cs ← ['e', 'n', 'd', 'r', 'a', 'w'].isPrefixOf? (Text.trimStart cs)
  tagEnd? (Text.trimStart cs)

/-- Whether the tag that ends a raw block strips, and what follows it, if it stands here. -/
def rawEnd? : List Char → Option (Bool × List Char)
  | '\x7b' :: '%' :: cs =>
    let (strip, cs) := takeStrip cs
    (endRawTag? cs).map fun rest => (strip, rest)
  | _ => none

/-- The text of a raw block and what follows it. -/
def splitRaw? : List Char → Option (List Char × Bool × List Char)
  | [] => none
  | c :: cs =>
    match rawEnd? (c :: cs) with
    | some (strip, rest) => some ([], strip, rest)
    | none => (splitRaw? cs).map fun (t, strip, rest) => (c :: t, strip, rest)

/-- A character of a name, well formed or not. -/
def isNameChar (c : Char) : Bool :=
  Text.isWord c || Text.isNameRest c

/-- The symbol at the front of a text, the longest that fits. -/
def symbol? : List Char → Option (Symbol × List Char)
  | '*' :: '*' :: cs => some (.power, cs)
  | '/' :: '/' :: cs => some (.floorSlash, cs)
  | '=' :: '=' :: cs => some (.equal, cs)
  | '!' :: '=' :: cs => some (.notEqual, cs)
  | '>' :: '=' :: cs => some (.greaterEqual, cs)
  | '<' :: '=' :: cs => some (.lessEqual, cs)
  | '+' :: cs => some (.plus, cs)
  | '-' :: cs => some (.minus, cs)
  | '/' :: cs => some (.slash, cs)
  | '*' :: cs => some (.star, cs)
  | '%' :: cs => some (.percent, cs)
  | '~' :: cs => some (.tilde, cs)
  | '(' :: cs => some (.leftParen, cs)
  | ')' :: cs => some (.rightParen, cs)
  | '[' :: cs => some (.leftBracket, cs)
  | ']' :: cs => some (.rightBracket, cs)
  | '\x7b' :: cs => some (.leftBrace, cs)
  | '\x7d' :: cs => some (.rightBrace, cs)
  | '>' :: cs => some (.greater, cs)
  | '<' :: cs => some (.less, cs)
  | '=' :: cs => some (.assign, cs)
  | '.' :: cs => some (.dot, cs)
  | ':' :: cs => some (.colon, cs)
  | ',' :: cs => some (.comma, cs)
  | ';' :: cs => some (.semicolon, cs)
  | '|' :: cs => some (.pipe, cs)
  | _ => none

/-- The bracket that closes an opening one. -/
def Symbol.closer? : Symbol → Option Symbol
  | .leftParen => some .rightParen
  | .leftBracket => some .rightBracket
  | .leftBrace => some .rightBrace
  | _ => none

/-- A closing bracket. -/
def Symbol.isCloser (s : Symbol) : Bool :=
  s == .rightParen || s == .rightBracket || s == .rightBrace

/-- Open brackets after a symbol; none if it closes what is not open. -/
def Symbol.track (s : Symbol) (stack : List Symbol) : Option (List Symbol) :=
  match s.closer? with
  | some c => some (c :: stack)
  | none =>
    if s.isCloser then
      match stack with
      | t :: rest => if s = t then some rest else none
      | [] => none
    else some stack

/-- An exponent: its value and the rest. -/
def exponent? : List Char → Option (Int × List Char)
  | c :: cs =>
    if c = 'e' || c = 'E' then
      let (negative, cs) := takeSign cs
      match takeDigits false cs with
      | ([], _) => none
      | (ds, rest) => some (if negative then -(digitsValue ds : Int) else digitsValue ds, rest)
    else none
  | [] => none

/-- A number with a fraction or an exponent. -/
def float? (cs : List Char) : Option (Double × List Char) :=
  match takeDigits false cs with
  | ([], _) => none
  | (whole, rest) =>
    let fraction? :=
      match rest with
      | '.' :: r =>
        match takeDigits false r with
        | ([], _) => none
        | (fs, r) => some (fs, r)
      | _ => none
    match fraction? with
    | some (fs, r) =>
      let digits := digitsValue (whole ++ fs)
      match exponent? r with
      | some (e, r) => some (.ofDecimal false digits (e - fs.length), r)
      | none => some (.ofDecimal false digits (-(fs.length : Int)), r)
    | none => (exponent? rest).map fun (e, r) => (.ofDecimal false (digitsValue whole) e, r)

/-- Digits of a base, each of which an underscore may precede: the value read and the rest. -/
def basedDigits (base : Nat) : Option Nat → List Char → Option Nat × List Char
  | acc, [] => (acc, [])
  | acc, c :: cs =>
    let digit (c : Char) : Option Nat := (hexValue? c).filter (· < base)
    match digit c with
    | some d => basedDigits base (some (base * acc.getD 0 + d)) cs
    | none =>
      match c, cs with
      | '_', d :: _ => if (digit d).isSome then basedDigits base acc cs else (acc, c :: cs)
      | _, _ => (acc, c :: cs)

/-- Zeros, each of which an underscore may precede: the rest after them. -/
def dropZeros : List Char → List Char
  | '0' :: cs => dropZeros cs
  | '_' :: '0' :: cs => dropZeros cs
  | cs => cs

/-- The base that a letter after a zero announces. -/
def baseOf? (c : Char) : Option Nat :=
  match c.toLower with
  | 'b' => some 2
  | 'o' => some 8
  | 'x' => some 16
  | _ => none

/-- A whole number; one that begins with zero is zero or announces its base. -/
def int? : List Char → Option (Nat × List Char)
  | '0' :: cs =>
    let based :=
      match cs with
      | c :: r => (baseOf? c).bind fun base =>
          match basedDigits base none r with
          | (some n, r) => some (n, r)
          | (none, _) => none
      | [] => none
    some (based.getD (0, dropZeros cs))
  | c :: cs =>
    if c.isDigit then
      match takeDigits false (c :: cs) with
      | (ds, rest) => some (digitsValue ds, rest)
    else none
  | [] => none

/-- The inside of a string literal up to its quote, escapes not yet resolved. -/
def stringBody? (quote : Char) : List Char → Option (List Char × List Char)
  | [] => none
  | '\\' :: c :: cs => (stringBody? quote cs).map fun (s, r) => ('\\' :: c :: s, r)
  | c :: cs =>
    if c = quote then some ([], cs)
    else (stringBody? quote cs).map fun (s, r) => (c :: s, r)

/-- A quotation mark that delimits strings. -/
def isQuote (c : Char) : Bool :=
  c = '"' || c.toNat = 39

/-- The token at the front of the inside of a tag; `afterDot` says that a dot came directly
before. -/
def insideToken? (afterDot : Bool) (cs : List Char) : Option (Token × List Char) :=
  match cs with
  | [] => none
  | c :: rest =>
    match if afterDot then none else float? cs with
    | some (x, r) => some (.float x, r)
    | none =>
      match int? cs with
      | some (n, r) => some (.int n, r)
      | none =>
        if isNameChar c then
          let s := cs.takeWhile isNameChar
          if Text.isName s then some (.name s, cs.dropWhile isNameChar) else none
        else if isQuote c then do
          let (s, r) ← stringBody? c rest
          pure (.string (← unescape? s), r)
        else (symbol? cs).map fun (s, r) => (.symbol s, r)

/-- Where the lexer stands. -/
inductive Mode where
  | outside
  | inside (output : Bool) (stack : List Symbol) (afterDot : Bool)

/-- The text token of a non-empty text. -/
def textToken (line : Nat) (s : List Char) : List Located :=
  if s.isEmpty then [] else [⟨.text s, line⟩]

/-- The tokens from a place in the template whose line numbers are counted by `lineOf`; the
first argument bounds the number of steps. -/
def lexFrom (lineOf : List Char → Nat) : Nat → Mode → List Char → Option (List Located)
  | _, _, [] => some []
  | 0, _, _ :: _ => none
  | n + 1, .outside, c :: cs =>
    let src := c :: cs
    match splitText src with
    | (t, none) => some (textToken (lineOf src) t)
    | (t, some (opening, rest)) =>
      let (strip, inner) := takeStrip rest
      let before := textToken (lineOf src) (if strip then Text.trimEnd t else t)
      match opening with
      | .output =>
        (lexFrom lineOf n (.inside true [] false) inner).map fun ts =>
          before ++ ⟨.openOutput, lineOf rest⟩ :: ts
      | .comment =>
        if inner.isEmpty then some before
        else do
          let rest ← afterComment? inner
          pure (before ++ (← lexFrom lineOf n .outside rest))
      | .tag =>
        match rawTag? inner with
        | none =>
          (lexFrom lineOf n (.inside false [] false) inner).map fun ts =>
            before ++ ⟨.openTag, lineOf rest⟩ :: ts
        | some raw =>
          if raw.isEmpty then some before
          else do
            let (t, strip, rest) ← splitRaw? raw
            let t := textToken (lineOf raw) (if strip then Text.trimEnd t else t)
            pure (before ++ t ++ (← lexFrom lineOf n .outside rest))
  | n + 1, .inside output stack afterDot, c :: cs =>
    let src := c :: cs
    let closed? := if stack.isEmpty then (if output then outputEnd? src else tagEnd? src) else none
    match closed? with
    | some rest =>
      (lexFrom lineOf n .outside rest).map fun ts =>
        ⟨if output then .closeOutput else .closeTag, lineOf src⟩ :: ts
    | none =>
      if Text.isBlank c then lexFrom lineOf n (.inside output stack false) cs
      else do
        let (token, rest) ← insideToken? afterDot src
        let stack ←
          match token with
          | .symbol s => s.track stack
          | _ => some stack
        let ts ← lexFrom lineOf n (.inside output stack (token == .symbol .dot)) rest
        pure (⟨token, lineOf src⟩ :: ts)

/-- The line of the place in `src` where `rest` remains. -/
def lineAt (src rest : List Char) : Nat :=
  1 + src.count '\n' - rest.count '\n'

/-- The tokens of a template. -/
def lex (src : List Char) : Option (List Located) :=
  lexFrom (lineAt src) (src.length + 1) .outside src

end NixContext.Template
