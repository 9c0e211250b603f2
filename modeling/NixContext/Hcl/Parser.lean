import NixContext.Hcl.Lexeme
import NixContext.Hcl.Syntax

/-! # Parsing settings files

Recursive descent over characters. An operation takes as much on its right as it can, and
the line breaks after it belong to it, so that the next line may continue it. The first
argument of the mutually recursive parsers bounds their depth.
-/

namespace NixContext.Hcl

/-- A whole number or, with a fraction or an exponent, a double. -/
def number? (negative : Bool) (s : List Char) : Option (Expr × List Char) :=
  let (whole, s) := digits s
  if whole.isEmpty then none
  else
    let value (fraction : List Char) (s : List Char) : Expr × List Char :=
      let n := digitsValue (whole ++ fraction)
      match exponent? s with
      | some (e, rest) => (.float (.ofDecimal negative n (e - fraction.length)), rest)
      | none =>
        if fraction.isEmpty then (.int (if negative then -(n : Int) else n), s)
        else (.float (.ofDecimal negative n (-(fraction.length : Int))), s)
    if sees ['.', '*'] s || sees ['.', '.', '.'] s then some (value [] s)
    else
      match eat? ['.'] s with
      | none => some (value [] s)
      | some rest =>
        let (fraction, rest) := digits (skipSpaces rest)
        if fraction.isEmpty then none else some (value fraction rest)

/-- The smallest number of blanks at the front of a line. -/
def commonIndent (lines : List (List Char)) : Nat :=
  let indents := lines.map fun l => (l.takeWhile (· == ' ')).length
  match indents with
  | [] => 0
  | i :: is => is.foldl min i

/-- Cuts the common indent from every line. -/
def cutIndent (s : List Char) : List Char :=
  let lines := s.splitOn '\n'
  ['\n'].intercalate (lines.map (List.drop (commonIndent lines)))

/-- A heredoc and what follows it. -/
def heredoc? (s : List Char) : Option (Expr × List Char) :=
  match eat? ['<', '<', '-'] s with
  | some rest =>
    (heredocText? rest).map fun (t, rest) => (.heredoc (cutIndent (trimHeredoc t)), rest)
  | none => do
    let (t, rest) ← heredocText? (← eat? ['<', '<'] s)
    pure (.heredoc (trimHeredoc t), rest)

/-- The word that begins iterations. -/
def forWord : List Char :=
  ['f', 'o', 'r']

/-- What follows the word that begins an iteration. Directly after a bracket it begins one
only if a name or a line break comes next. -/
def iteration? (afterBreak : Bool) (s : List Char) : Option (List Char) :=
  match keyword? forWord s with
  | some rest =>
    if afterBreak || (break? rest).isSome || (name? rest).isSome then some rest else none
  | none => none

/-- The names that an iteration binds, and what follows the word after them. -/
def bindings? (s : List Char) : Option (List (List Char) × List Char) := do
  let (a, s) ← name? (skipBreaks s)
  let (names, s) ←
    match eat? [','] s with
    | some rest => (name? rest).map fun (b, rest) => ([a, b], rest)
    | none => some ([a], s)
  let s ← keyword? ['i', 'n'] (skipBreaks s)
  pure (names, s)

/-- What follows the word that begins a condition. Directly after dots no blank need follow
the word, since no name can stand there. -/
def condition? (afterDots : Bool) (s : List Char) : Option (List Char) :=
  if afterDots && (break? s).isNone then eat? ['i', 'f'] s
  else keyword? ['i', 'f'] (skipBreaks s)

/-- A key that is spelled as an identifier, if an equals sign or a colon follows. -/
def wordKey? (s : List Char) : Option (Expr × List Char) :=
  match name? s with
  | some (w, rest) =>
    if (equals? rest).isSome || (colon? rest).isSome then some (.word w, rest) else none
  | none => none

mutual

/-- Parses an expression. -/
def parseExpr : Nat → List Char → Option (Expr × List Char)
  | 0, _ => none
  | n + 1, s => do
    let (e, s) ← parseOperand n s
    parseRest n e s

/-- Parses what may follow a complete expression: an operator or a choice. -/
def parseRest : Nat → Expr → List Char → Option (Expr × List Char)
  | 0, _, _ => none
  | n + 1, e, s =>
    match operator? s with
    | some (op, s) => do
      let (b, s) ← parseExpr n (← skipToExpr? s)
      parseRest n (.binary e op b) (skipBreaks s)
    | none =>
      match eat? ['?'] s with
      | some s => do
        let (a, s) ← parseExpr n (← skipToExpr? s)
        let (b, s) ← parseExpr n (← skipToExpr? (← colon? (skipBreaks s)))
        pure (.conditional e a b, s)
      | none => some (e, s)

/-- Parses a term, perhaps with a sign. -/
def parseOperand : Nat → List Char → Option (Expr × List Char)
  | 0, _ => none
  | n + 1, s =>
    match skipSpaces s with
    | '-' :: c :: cs =>
      if c.isDigit then do
        let (e, s) ← number? true (c :: cs)
        parsePostfix n true e s
      else do
        let (e, s) ← parseTerm n (c :: cs)
        pure (.unary '-' e, s)
    | '!' :: cs => do
      let (e, s) ← parseTerm n cs
      pure (.unary '!' e, s)
    | s => parseTerm n s

/-- Parses a term with what is attached to it. -/
def parseTerm : Nat → List Char → Option (Expr × List Char)
  | 0, _ => none
  | n + 1, s => do
    let (e, s) ←
      match skipSpaces s with
      | '(' :: cs => do
        let (e, s) ← parseExpr n (← skipToExpr? cs)
        pure (e, ← eat? [')'] (skipBreaks s))
      | '"' :: cs => parseString n cs
      | '[' :: cs => parseBrackets n cs
      | '\x7b' :: cs => parseBraces n cs
      | '<' :: cs => heredoc? ('<' :: cs)
      | '-' :: c :: cs => if c.isDigit then number? true (c :: cs) else none
      | c :: cs => if c.isDigit then number? false (c :: cs) else parseNamed n (c :: cs)
      | [] => none
    parsePostfix n true e s

/-- Parses a name or a call. -/
def parseNamed : Nat → List Char → Option (Expr × List Char)
  | 0, _ => none
  | n + 1, s => do
    let (a, s) ← name? s
    match eat? [':', ':'] s with
    | some s => do
      let (b, s) ← name? s
      let (c, s) ← name? (← eat? [':', ':'] s)
      let (args, s) ← parseArguments n (← eat? ['('] s)
      pure (.call ([':', ':'].intercalate [a, b, c]) args, s)
    | none =>
      match eat? ['('] s with
      | some s => do
        let (args, s) ← parseArguments n s
        pure (.call a args, s)
      | none => pure (.name a, s)

/-- Parses what is attached to a term. After a splat of attributes a dot takes a name only. -/
def parsePostfix : Nat → Bool → Expr → List Char → Option (Expr × List Char)
  | 0, _, _, _ => none
  | n + 1, positions, e, s =>
    match skipSpaces s with
    | '[' :: '*' :: ']' :: cs => parsePostfix n true (.fullSplat e) cs
    | '[' :: cs => do
      let (k, s) ← parseExpr n (← skipToExpr? cs)
      parsePostfix n true (.index e k) (← eat? [']'] (skipBreaks s))
    | '.' :: '*' :: cs => parsePostfix n false (.splat e) cs
    | '.' :: '.' :: '.' :: _ => some (e, s)
    | '.' :: cs =>
      match name? cs with
      | some (w, rest) => parsePostfix n positions (.member e w) rest
      | none =>
        match digits (skipSpaces cs) with
        | (d :: _, rest) =>
          if positions && (exponent? rest).isNone then parsePostfix n true (.position e d) rest
          else none
        | ([], _) => none
    | _ => some (e, s)

/-- Parses a string after its opening quote. -/
def parseString : Nat → List Char → Option (Expr × List Char)
  | 0, _ => none
  | n + 1, s =>
    let (t, rest) := stringChars s
    match rest with
    | '"' :: cs => some (.literal t, cs)
    | _ => do
      let (parts, s) ← parseParts n rest
      pure (.template t parts, s)

/-- Parses interpolations and the texts after them, up to the closing quote. -/
def parseParts : Nat → List Char → Option (List (Expr × List Char) × List Char)
  | 0, _ => none
  | n + 1, s =>
    match s with
    | '"' :: cs => some ([], cs)
    | '$' :: '\x7b' :: cs => do
      let (e, s) ← parseExpr n cs
      let (t, s) := stringChars (← eat? ['\x7d'] s)
      let (parts, s) ← parseParts n s
      pure ((e, t) :: parts, s)
    | _ => none

/-- Parses a tuple or an iteration after its bracket. -/
def parseBrackets : Nat → List Char → Option (Expr × List Char)
  | 0, _ => none
  | n + 1, s =>
    match iteration? (break? s).isSome (skipBreaks s) with
    | some s => do
      let (names, s) ← bindings? s
      let (items, s) ← parseExpr n (← skipToExpr? s)
      let (body, s) ← parseExpr n (← skipToExpr? (← colon? (skipBreaks s)))
      let (condition, s) ← parseCondition n false s
      pure (.forTuple names items body condition, ← eat? [']'] (skipBreaks s))
    | none => do
      let (es, s) ← parseItems n s
      pure (.tuple es, s)

/-- Parses the condition of an iteration, which may be absent. -/
def parseCondition : Nat → Bool → List Char → Option (Option Expr × List Char)
  | 0, _, _ => none
  | n + 1, afterDots, s =>
    match condition? afterDots s with
    | some s => do
      let (e, s) ← parseExpr n (← skipToExpr? s)
      pure (some e, s)
    | none => some (none, skipBreaks s)

/-- Parses the items of a tuple up to its bracket. -/
def parseItems : Nat → List Char → Option (List Expr × List Char)
  | 0, _ => none
  | n + 1, s =>
    match eat? [']'] (skipBreaks s) with
    | some s => some ([], s)
    | none => do
      let (e, s) ← parseExpr n (← skipToExpr? s)
      let s := skipBreaks s
      match eat? [','] s with
      | some s => do
        let (es, s) ← parseItems n s
        pure (e :: es, s)
      | none => pure ([e], ← eat? [']'] s)

/-- Parses an object or an iteration after its brace. -/
def parseBraces : Nat → List Char → Option (Expr × List Char)
  | 0, _ => none
  | n + 1, s =>
    match iteration? false (skipBreaks s) with
    | some s => do
      let (names, s) ← bindings? s
      let (items, s) ← parseExpr n (← skipToExpr? s)
      let (key, s) ← parseExpr n (← skipToExpr? (← colon? (skipBreaks s)))
      let (value, s) ← parseExpr n (← skipToExpr? (← eat? ['=', '>'] s))
      let (grouped, s) :=
        match eat? ['.', '.', '.'] s with
        | some s => (true, s)
        | none => (false, s)
      let (condition, s) ← parseCondition n grouped s
      pure (.forObject names items key value grouped condition, ← eat? ['\x7d'] (skipBreaks s))
    | none => do
      let (es, s) ← parseEntries n s
      pure (.object es, s)

/-- Parses the entries of an object up to its brace. A comma or line breaks separate them. -/
def parseEntries : Nat → List Char → Option (List (Expr × Expr) × List Char)
  | 0, _ => none
  | n + 1, s =>
    match eat? ['\x7d'] (skipBreaks s) with
    | some s => some ([], s)
    | none => do
      let (k, s) ←
        match wordKey? (skipBreaks s) with
        | some found => some found
        | none => do parseExpr n (← skipToExpr? s)
      let (v, s) ← parseExpr n (← (equals? s).or (colon? s))
      match eat? [','] s with
      | some s => do
        let (es, s) ← parseEntries n s
        pure ((k, v) :: es, s)
      | none =>
        if (break? s).isSome then do
          let (es, s) ← parseEntries n s
          pure ((k, v) :: es, s)
        else pure ([(k, v)], ← eat? ['\x7d'] s)

/-- Parses arguments up to their bracket. A comma or dots may follow the last one directly. -/
def parseArguments : Nat → List Char → Option (List Expr × List Char)
  | 0, _ => none
  | n + 1, s =>
    match eat? [')'] (skipBreaks s) with
    | some s => some ([], s)
    | none => do
      let (e, s) ← parseExpr n (← skipToExpr? s)
      match eat? [','] s with
      | some s => do
        let (es, s) ← parseArguments n s
        pure (e :: es, s)
      | none =>
        match eat? ['.', '.', '.'] s with
        | some s => pure ([e], ← eat? [')'] (skipBreaks s))
        | none =>
          let s := skipBreaks s
          match eat? [','] s with
          | some s => do
            if sees [')'] (skipBreaks s) then none
            else do
              let (es, s) ← parseArguments n s
              pure (e :: es, s)
          | none => pure ([e], ← eat? [')'] s)

end

/-- Parses the labels of a block, identifiers or strings. -/
def parseLabels : Nat → List Char → Option (List Expr × List Char)
  | 0, _ => none
  | n + 1, s =>
    match name? s with
    | some (w, s) => do
      let (ls, s) ← parseLabels n s
      pure (.word w :: ls, s)
    | none =>
      match eat? ['"'] s with
      | some s => do
        let (e, s) ← parseString n s
        let (ls, s) ← parseLabels n s
        pure (e :: ls, s)
      | none => some ([], s)

/-- Parses a body up to its brace, or to the end of the text at the outermost level. -/
def parseBody : Nat → Bool → List Char → Option (List Item × List Char)
  | 0, _, _ => none
  | n + 1, nested, s => do
    let s := skipBreaks s
    if nested && sees ['\x7d'] s then pure ([], ← eat? ['\x7d'] s)
    else if !nested && (skipSpaces s).isEmpty then pure ([], [])
    else do
      let (w, s) ← name? s
      match equals? s with
      | some s => do
        let (e, s) ← parseExpr n s
        let (items, s) ← parseBody n nested s
        pure (.attr w e :: items, s)
      | none => do
        let (labels, s) ← parseLabels n s
        let (body, s) ← parseBody n true (← eat? ['\x7b'] (skipBreaks s))
        let (items, s) ← parseBody n nested s
        pure (.block w labels body :: items, s)

/-- Parses a settings file. -/
def parse? (s : List Char) : Option (List Item) := do
  let (items, _) ← parseBody (8 * s.length + 32) false s
  pure items

end NixContext.Hcl
