import NixContext.Template.Token
import NixContext.Template.Syntax

/-! # Parsing templates

Recursive descent over tokens. Operators have ranks; each rank is parsed from operands of
the next. The first argument of the mutually recursive parsers bounds their depth.
-/

namespace NixContext.Template

/-- Expects a token. -/
def expect (t : Token) : List Located → Option (List Located)
  | u :: ts => if u.token = t then some ts else none
  | [] => none

/-- The next token is this one. -/
def nextIs (t : Token) : List Located → Bool
  | u :: _ => u.token == t
  | [] => false

/-- Drops the next token if it is this one. -/
def skip (t : Token) (ts : List Located) : List Located :=
  if nextIs t ts then ts.drop 1 else ts

/-- A word as a token. -/
def word (s : String) : Token :=
  .name s.toList

/-- The line of the next token. -/
def nextLine : List Located → Nat
  | u :: _ => u.line
  | [] => 0

/-- Names joined by dots. -/
def takeDotted : List Located → Option (List Char × List Located)
  | ⟨.name s, _⟩ :: ⟨.symbol .dot, _⟩ :: ts =>
    (takeDotted ts).map fun (r, ts) => (s ++ '.' :: r, ts)
  | ⟨.name s, _⟩ :: ts => some (s, ts)
  | _ => none

/-- String literals that stand next to each other are one. -/
def takeStrings : List Located → List Char × List Located
  | ⟨.string s, _⟩ :: ts =>
    let (r, ts) := takeStrings ts
    (s ++ r, ts)
  | ts => ([], ts)

/-- Ranks of expressions, from the loosest; an operand may or may not take filters. -/
inductive Rank where
  | choice | either | both | negation | comparison | sum | concat | product | power
  | operand (filters : Bool)
  | primary
  deriving DecidableEq, Repr

/-- The rank of the operands of a left-associative rank. -/
def Rank.tighter : Rank → Rank
  | .choice => .either
  | .either => .both
  | .both => .negation
  | .negation => .comparison
  | .comparison => .sum
  | .sum => .concat
  | .concat => .product
  | .product => .power
  | _ => .operand true

/-- What an operator token of a left-associative rank makes of its operands. -/
def Rank.combine? : Rank → Token → Option (Expr → Expr → Expr)
  | .either, t => if t = word "or" then some .either else none
  | .both, t => if t = word "and" then some .both else none
  | .sum, .symbol .plus => some (.arithmetic .add)
  | .sum, .symbol .minus => some (.arithmetic .subtract)
  | .product, .symbol .star => some (.arithmetic .multiply)
  | .product, .symbol .slash => some (.arithmetic .divide)
  | .product, .symbol .floorSlash => some (.arithmetic .floorDivide)
  | .product, .symbol .percent => some (.arithmetic .remainder)
  | .power, .symbol .power => some (.arithmetic .power)
  | _, _ => none

/-- The comparison that a token or two begin, and the rest. -/
def takeComparison? : List Located → Option (Comparison × List Located)
  | ⟨.symbol .equal, _⟩ :: ts => some (.equal, ts)
  | ⟨.symbol .notEqual, _⟩ :: ts => some (.notEqual, ts)
  | ⟨.symbol .less, _⟩ :: ts => some (.less, ts)
  | ⟨.symbol .lessEqual, _⟩ :: ts => some (.lessEqual, ts)
  | ⟨.symbol .greater, _⟩ :: ts => some (.greater, ts)
  | ⟨.symbol .greaterEqual, _⟩ :: ts => some (.greaterEqual, ts)
  | ts =>
    if nextIs (word "in") ts then some (.isIn, ts.drop 1)
    else if nextIs (word "not") ts && nextIs (word "in") (ts.drop 1) then
      some (.isNotIn, ts.drop 2)
    else none

/-- A constant that a name spells. -/
def constant? (s : List Char) : Option Expr :=
  if s = "true".toList || s = "True".toList then some (.bool true)
  else if s = "false".toList || s = "False".toList then some (.bool false)
  else if s = "none".toList || s = "None".toList then some .null
  else none

/-- A tuple ends here: at the end of its tag, at a closing bracket or at one of the words. -/
def atTupleEnd (stops : List String) : List Located → Bool
  | t :: _ => t.token = .closeOutput || t.token = .closeTag || t.token = .symbol .rightParen ||
      stops.any (fun s => t.token = word s)
  | [] => false

/-- What stands between the brackets of a subscript. -/
inductive Subscript where
  | key (e : Expr)
  | slice (start stop step : Option Expr)

/-- The key, unless the subscript is a slice. -/
def Subscript.key? : Subscript → Option Expr
  | .key e => some e
  | .slice .. => none

/-- The expression that one or more subscripts make of their base. -/
def applySubscripts? (e : Expr) : List Subscript → Option Expr
  | [.key k] => some (.item e k)
  | [.slice a b c] => some (.slice e a b c)
  | ss => (ss.mapM Subscript.key?).map fun ks => .item e (.tuple ks)

/-- A test takes a bare argument if an operand begins here. -/
def beginsBareArgument : List Located → Bool
  | t :: _ =>
    match t.token with
    | .name s => !([word "else", word "or", word "and"].contains (.name s))
    | .string _ | .int _ | .float _ | .symbol .leftParen | .symbol .leftBracket
    | .symbol .leftBrace => true
    | _ => false
  | [] => false

mutual

/-- Parses an expression of a rank. -/
def parseRank : Nat → Rank → List Located → Option (Expr × List Located)
  | 0, _, _ => none
  | n + 1, .choice, ts => do
    let (e, rest) ← parseRank n .either ts
    parseChoices n (nextLine ts) e rest
  | n + 1, .negation, ts =>
    if nextIs (word "not") ts then do
      let (e, ts) ← parseRank n .negation (ts.drop 1)
      pure (.signed .no e, ts)
    else parseRank n .comparison ts
  | n + 1, .comparison, ts => do
    let (e, ts) ← parseRank n .sum ts
    let (chain, ts) ← parseComparisons n ts
    pure (if chain.isEmpty then e else .compare e chain, ts)
  | n + 1, .concat, ts => do
    let (e, ts) ← parseRank n .product ts
    let (es, ts) ← parseConcats n ts
    pure (if es.isEmpty then e else .concat (e :: es), ts)
  | n + 1, .operand filters, ts => do
    let (e, ts) ←
      match ts with
      | ⟨.symbol .minus, _⟩ :: ts => do
        let (e, ts) ← parseRank n (.operand false) ts
        pure (.signed .minus e, ts)
      | ⟨.symbol .plus, _⟩ :: ts => do
        let (e, ts) ← parseRank n (.operand false) ts
        pure (.signed .plus e, ts)
      | ts => parsePrimary n ts
    let (e, ts) ← parsePostfix n e ts
    if filters then parseFilters n e ts else pure (e, ts)
  | n + 1, .primary, ts => parsePrimary n ts
  | n + 1, rank, ts => do
    let (e, ts) ← parseRank n rank.tighter ts
    parseChain n rank e ts

/-- Parses the operators of a left-associative rank after a first operand. -/
def parseChain : Nat → Rank → Expr → List Located → Option (Expr × List Located)
  | 0, _, _, _ => none
  | _ + 1, _, e, [] => some (e, [])
  | n + 1, rank, e, t :: ts =>
    match rank.combine? t.token with
    | none => some (e, t :: ts)
    | some f => do
      let (b, ts) ← parseRank n rank.tighter ts
      parseChain n rank (f e b) ts

/-- Parses the conditions that choose between an expression and its alternatives. -/
def parseChoices : Nat → Nat → Expr → List Located → Option (Expr × List Located)
  | 0, _, _, _ => none
  | n + 1, line, e, ts =>
    if nextIs (word "if") ts then do
      let (c, ts) ← parseRank n .either (ts.drop 1)
      if nextIs (word "else") ts then do
        let (no, ts) ← parseRank n .choice (ts.drop 1)
        parseChoices n (nextLine ts) (.choose line c e (some no)) ts
      else parseChoices n (nextLine ts) (.choose line c e none) ts
    else some (e, ts)

/-- Parses the comparisons after a first operand. -/
def parseComparisons : Nat → List Located → Option ((List (Comparison × Expr)) × List Located)
  | 0, _ => none
  | n + 1, ts =>
    match takeComparison? ts with
    | none => some ([], ts)
    | some (op, ts) => do
      let (e, ts) ← parseRank n .sum ts
      let (more, ts) ← parseComparisons n ts
      pure ((op, e) :: more, ts)

/-- Parses the operands after tildes. -/
def parseConcats : Nat → List Located → Option (List Expr × List Located)
  | 0, _ => none
  | n + 1, ts =>
    if nextIs (.symbol .tilde) ts then do
      let (e, ts) ← parseRank n .product (ts.drop 1)
      let (es, ts) ← parseConcats n ts
      pure (e :: es, ts)
    else some ([], ts)

/-- Parses a constant, a name or a bracketed expression. -/
def parsePrimary : Nat → List Located → Option (Expr × List Located)
  | 0, _ => none
  | n + 1, ts =>
    match ts with
    | ⟨.name s, _⟩ :: ts => some ((constant? s).getD (.name s), ts)
    | ⟨.string s, _⟩ :: ts =>
      let (r, ts) := takeStrings ts
      some (.str (s ++ r), ts)
    | ⟨.int i, _⟩ :: ts => some (.int i, ts)
    | ⟨.float x, _⟩ :: ts => some (.float x, ts)
    | ⟨.symbol .leftParen, _⟩ :: ts => do
      let (e, ts) ← parseTuple n .choice [] true ts
      pure (e, ← expect (.symbol .rightParen) ts)
    | ⟨.symbol .leftBracket, _⟩ :: ts => do
      let (es, ts) ← parseItems n ts
      pure (.list es, ts)
    | ⟨.symbol .leftBrace, _⟩ :: ts => do
      let (es, ts) ← parseEntries n ts
      pure (.map es, ts)
    | _ => none

/-- Parses an expression or a tuple without brackets. -/
def parseTuple : Nat → Rank → List String → Bool → List Located → Option (Expr × List Located)
  | 0, _, _, _, _ => none
  | n + 1, rank, stops, explicit, ts => do
    let ((es, isTuple), ts) ← parseTupleItems n rank stops ts
    if isTuple then pure (.tuple es, ts)
    else match es with
      | e :: _ => pure (e, ts)
      | [] => if explicit then pure (.tuple [], ts) else none

/-- Parses the items of a tuple; also tells whether there was a comma. -/
def parseTupleItems : Nat → Rank → List String → List Located →
    Option ((List Expr × Bool) × List Located)
  | 0, _, _, _ => none
  | n + 1, rank, stops, ts =>
    if atTupleEnd stops ts then some (([], false), ts)
    else do
      let (e, ts) ← parseRank n rank ts
      if nextIs (.symbol .comma) ts then do
        let ((es, _), ts) ← parseTupleItems n rank stops (ts.drop 1)
        pure ((e :: es, true), ts)
      else pure (([e], false), ts)

/-- Parses the items of a list up to its bracket. -/
def parseItems : Nat → List Located → Option (List Expr × List Located)
  | 0, _ => none
  | n + 1, ts =>
    if nextIs (.symbol .rightBracket) ts then some ([], ts.drop 1)
    else do
      let (e, ts) ← parseRank n .choice ts
      if nextIs (.symbol .rightBracket) ts then pure ([e], ts.drop 1)
      else do
        let (es, ts) ← parseItems n (← expect (.symbol .comma) ts)
        pure (e :: es, ts)

/-- Parses the entries of a map up to its brace. -/
def parseEntries : Nat → List Located → Option ((List (Expr × Expr)) × List Located)
  | 0, _ => none
  | n + 1, ts =>
    if nextIs (.symbol .rightBrace) ts then some ([], ts.drop 1)
    else do
      let (k, ts) ← parseRank n .choice ts
      let (v, ts) ← parseRank n .choice (← expect (.symbol .colon) ts)
      if nextIs (.symbol .rightBrace) ts then pure ([(k, v)], ts.drop 1)
      else do
        let (es, ts) ← parseEntries n (← expect (.symbol .comma) ts)
        pure ((k, v) :: es, ts)

/-- Parses arguments up to their bracket; none without a name may follow one with a name. -/
def parseArguments : Nat → Bool → List Located →
    Option ((List Expr × List (List Char × Expr)) × List Located)
  | 0, _, _ => none
  | n + 1, namedOnly, ts =>
    if nextIs (.symbol .rightParen) ts then some (([], []), ts.drop 1)
    else
      match ts with
      | ⟨.name k, _⟩ :: ⟨.symbol .assign, _⟩ :: ts => do
        let (e, ts) ← parseRank n .choice ts
        let ts ← if nextIs (.symbol .rightParen) ts then some ts else expect (.symbol .comma) ts
        let ((es, named), ts) ← parseArguments n true ts
        pure ((es, (k, e) :: named), ts)
      | ts =>
        if namedOnly then none
        else do
          let (e, ts) ← parseRank n .choice ts
          let ts ← if nextIs (.symbol .rightParen) ts then some ts else expect (.symbol .comma) ts
          let ((es, named), ts) ← parseArguments n false ts
          pure ((e :: es, named), ts)

/-- Parses an optional bound of a slice. -/
def parseBound : Nat → List Located → Option (Option Expr × List Located)
  | 0, _ => none
  | n + 1, ts =>
    if nextIs (.symbol .colon) ts || nextIs (.symbol .rightBracket) ts ||
        nextIs (.symbol .comma) ts then some (none, ts)
    else do
      let (e, ts) ← parseRank n .choice ts
      pure (some e, ts)

/-- Parses one subscript. -/
def parseSubscript : Nat → List Located → Option (Subscript × List Located)
  | 0, _ => none
  | n + 1, ts => do
    let (start, ts) ←
      if nextIs (.symbol .colon) ts then some (none, ts)
      else (parseRank n .choice ts).map fun (e, ts) => (some e, ts)
    if nextIs (.symbol .colon) ts then do
      let (stop, ts) ← parseBound n (ts.drop 1)
      if nextIs (.symbol .colon) ts then do
        let ts := ts.drop 1
        let (step, ts) ←
          if nextIs (.symbol .colon) ts then none else parseBound n ts
        pure (.slice start stop step, ts)
      else pure (.slice start stop none, ts)
    else
      match start with
      | some e => pure (.key e, ts)
      | none => none

/-- Parses subscripts up to their bracket. -/
def parseSubscripts : Nat → List Located → Option (List Subscript × List Located)
  | 0, _ => none
  | n + 1, ts => do
    let (s, ts) ← parseSubscript n ts
    if nextIs (.symbol .rightBracket) ts then pure ([s], ts.drop 1)
    else do
      let (ss, ts) ← parseSubscripts n (← expect (.symbol .comma) ts)
      pure (s :: ss, ts)

/-- Parses attributes, subscripts and calls after an expression. -/
def parsePostfix : Nat → Expr → List Located → Option (Expr × List Located)
  | 0, _, _ => none
  | n + 1, e, ts =>
    match ts with
    | ⟨.symbol .dot, _⟩ :: ⟨.name s, _⟩ :: ts => parsePostfix n (.member e s) ts
    | ⟨.symbol .dot, _⟩ :: ⟨.int i, _⟩ :: ts => parsePostfix n (.item e (.int i)) ts
    | ⟨.symbol .dot, _⟩ :: _ => none
    | ⟨.symbol .leftBracket, _⟩ :: ts => do
      let (ss, ts) ←
        if nextIs (.symbol .rightBracket) ts then some ([], ts.drop 1) else parseSubscripts n ts
      parsePostfix n (← applySubscripts? e ss) ts
    | ⟨.symbol .leftParen, _⟩ :: ts => do
      let ((es, named), ts) ← parseArguments n false ts
      parsePostfix n (.call e es named) ts
    | ts => some (e, ts)

/-- Parses filters, tests and calls after an operand. -/
def parseFilters : Nat → Expr → List Located → Option (Expr × List Located)
  | 0, _, _ => none
  | n + 1, e, ts =>
    match ts with
    | ⟨.symbol .pipe, _⟩ :: ts => do
      let (name, ts) ← takeDotted ts
      if nextIs (.symbol .leftParen) ts then do
        let ((es, named), ts) ← parseArguments n false (ts.drop 1)
        parseFilters n (.filter e name es named) ts
      else parseFilters n (.filter e name [] []) ts
    | ⟨.symbol .leftParen, _⟩ :: ts => do
      let ((es, named), ts) ← parseArguments n false ts
      parseFilters n (.call e es named) ts
    | ts =>
      if nextIs (word "is") ts then do
        let (e, ts) ← parseTest n e (ts.drop 1)
        parseFilters n e ts
      else some (e, ts)

/-- Parses a test after its keyword. -/
def parseTest : Nat → Expr → List Located → Option (Expr × List Located)
  | 0, _, _ => none
  | n + 1, e, ts => do
    let negated := nextIs (word "not") ts
    let (name, ts) ← takeDotted (if negated then ts.drop 1 else ts)
    let ((es, named), ts) ←
      if nextIs (.symbol .leftParen) ts then parseArguments n false (ts.drop 1)
      else if beginsBareArgument ts then
        if nextIs (word "is") ts then none
        else do
          let (a, ts) ← parsePrimary n ts
          let (a, ts) ← parsePostfix n a ts
          pure (([a], []), ts)
      else some (([], []), ts)
    let t := Expr.test e name es named
    pure (if negated then .signed .no t else t, ts)

end

mutual

/-- What an expression can be bound to, if it is made of names only. -/
def Target.ofExpr? : Expr → Option Target
  | .name s => some (.name s)
  | .tuple es => (Target.ofExprs? es).map .tuple
  | _ => none

/-- The targets of the items of a tuple. -/
def Target.ofExprs? : List Expr → Option (List Target)
  | [] => some []
  | e :: es => do pure ((← Target.ofExpr? e) :: (← Target.ofExprs? es))

end

/-- Parses the target of an assignment or a loop. -/
def parseTarget (n : Nat) (stops : List String) (ts : List Located) :
    Option (Target × List Located) := do
  let (e, ts) ← parseTuple n .primary stops false ts
  pure (← Target.ofExpr? e, ts)

/-- Enters the body of a statement: its tag ends, perhaps after a colon. -/
def enterBody (ts : List Located) : Option (List Located) :=
  expect .closeTag (skip (.symbol .colon) ts)

/-- The word of the statement tag that the tokens are in, if it is one of these. -/
def nextWord? (words : List String) : List Located → Option String
  | t :: _ => words.find? fun w => t.token = word w
  | [] => none

mutual

/-- Parses statements up to a tag with one of the words, whose tokens remain. Without words
they extend to the end of the template. -/
def parseBody : Nat → List String → List Located → Option (List Statement × List Located)
  | 0, _, _ => none
  | _ + 1, ends, [] => if ends.isEmpty then some ([], []) else none
  | n + 1, ends, t :: ts =>
    match t.token with
    | .text s => do
      let (rest, ts) ← parseBody n ends ts
      pure (.text s :: rest, ts)
    | .openOutput => do
      let (e, ts) ← parseTuple n .choice [] false ts
      let (rest, ts) ← parseBody n ends (← expect .closeOutput ts)
      pure (.output e :: rest, ts)
    | .openTag =>
      if (nextWord? ends ts).isSome then some ([], ts)
      else do
        let (s, ts) ← parseStatement n ts
        let (rest, ts) ← parseBody n ends (← expect .closeTag ts)
        pure (s :: rest, ts)
    | _ => none

/-- Parses a statement after the opening of its tag, up to the end of its last tag. -/
def parseStatement : Nat → List Located → Option (Statement × List Located)
  | 0, _ => none
  | n + 1, ts =>
    match nextWord? ["set", "if", "for"] ts with
    | some "set" => do
      let (target, ts) ← parseTarget n [] (ts.drop 1)
      if nextIs (.symbol .assign) ts then do
        let (e, ts) ← parseTuple n .choice [] false (ts.drop 1)
        pure (.assign target e, ts)
      else do
        let (body, ts) ← parseBody n ["endset"] (← enterBody ts)
        pure (.capture target body, ts.drop 1)
    | some "if" => parseBranch n (ts.drop 1)
    | some _ => do
      let (target, ts) ← parseTarget n ["in"] (ts.drop 1)
      let ts ← expect (word "in") ts
      let (items, ts) ← parseTuple n .either ["recursive"] false ts
      let (condition, ts) ←
        if nextIs (word "if") ts then
          (parseRank n .choice (ts.drop 1)).map fun (e, ts) => (some e, ts)
        else some (none, ts)
      let ts := skip (word "recursive") ts
      let (body, ts) ← parseBody n ["endfor", "else"] (← enterBody ts)
      if nextIs (word "endfor") ts then pure (.loop target items condition body [], ts.drop 1)
      else do
        let (otherwise, ts) ← parseBody n ["endfor"] (← enterBody (ts.drop 1))
        pure (.loop target items condition body otherwise, ts.drop 1)
    | none => none

/-- Parses a condition and its branches. -/
def parseBranch : Nat → List Located → Option (Statement × List Located)
  | 0, _ => none
  | n + 1, ts => do
    let (c, ts) ← parseTuple n .either [] false ts
    let (yes, ts) ← parseBody n ["elif", "else", "endif"] (← enterBody ts)
    if nextIs (word "elif") ts then do
      let (s, ts) ← parseBranch n (ts.drop 1)
      pure (.branch c yes [s], ts)
    else if nextIs (word "else") ts then do
      let (no, ts) ← parseBody n ["endif"] (← enterBody (ts.drop 1))
      pure (.branch c yes no, ts.drop 1)
    else pure (.branch c yes [], ts.drop 1)

end

/-- Parses a whole template. -/
def parse? (src : List Char) : Option (List Statement) := do
  let ts ← lex src
  let (body, _) ← parseBody (16 * ts.length + 32) [] ts
  pure body

end NixContext.Template
