import NixContext.Hcl.Parser
import NixContext.Value.Print
import NixContext.Value.Json

/-! # From settings to values

A literal becomes its text, with escapes resolved. An expression that would have to be
evaluated becomes text between a dollar brace and a brace. A body becomes a map, in which a
name is set only once and the blocks of a name are collected in a list.
-/

namespace NixContext.Hcl

/-- Why a parsed file has no value. -/
inductive Fault where
  | repeated (name : String)
  | misplaced
  deriving DecidableEq, Repr

/-- The text of the error, where it has one. -/
def Fault.message? : Fault → Option String
  | repeated name => some (name ++ " already defined")
  | misplaced => none

/-- Text as a value. -/
def textValue (s : List Char) : Value :=
  .str (String.ofList s)

/-- Resolves the escapes of a literal, each kind in the whole text before the next. -/
def unescape (s : List Char) : List Char :=
  let s := Text.replaceAll ['\\', 'n'] ['\n'] s
  let s := Text.replaceAll ['\\', 'r'] ['\r'] s
  let s := Text.replaceAll ['\\', 't'] ['\t'] s
  let s := Text.replaceAll ['\\', '"'] ['"'] s
  Text.replaceAll ['\\', '\\'] ['\\'] s

/-- The text between quotes, if it stands between quotes. -/
def unquote? : List Char → Option (List Char)
  | '"' :: s =>
    if s.isEmpty then some []
    else if s.getLast? = some '"' then some (unescape s.dropLast) else none
  | _ => none

/-- The text begins with a dollar brace and ends with a brace. -/
def isWrapped (s : List Char) : Bool :=
  match s with
  | '$' :: '\x7b' :: _ => s.getLast? == some '\x7d'
  | _ => false

/-- The words that stay as they are where a value is expected. -/
def typeWords : List (List Char) :=
  [['b', 'o', 'o', 'l'], ['n', 'u', 'm', 'b', 'e', 'r'], ['s', 't', 'r', 'i', 'n', 'g']]

/-- A text where a value is expected: literals lose their quotes, all else is wrapped. -/
def finishText (s : List Char) : List Char :=
  if isWrapped s then s
  else match unquote? s with
    | some t => t
    | none => if typeWords.contains s then s else '$' :: '\x7b' :: s ++ ['\x7d']

/-- A folded expression where a value is expected. -/
def finish : Value → Value
  | .str s => textValue (finishText s.toList)
  | v => v

/-- A folded expression where a key or a label is expected. -/
def finishKey : Value → Value
  | .str s =>
    match unquote? s.toList with
    | some t => textValue t
    | none => .str s
  | v => v

/-- The text up to the first dollar brace, and the text from there. -/
def splitAtDollar : List Char → List Char × List Char
  | [] => ([], [])
  | '$' :: '\x7b' :: cs => ([], '$' :: '\x7b' :: cs)
  | c :: cs =>
    let (a, b) := splitAtDollar cs
    (c :: a, b)

/-- Unescapes the quotes from the first dollar brace to the last brace. -/
def openQuotes (s : List Char) : List Char :=
  let (before, rest) := splitAtDollar s
  let after := (rest.reverse.takeWhile (· != '\x7d')).reverse
  let inside := rest.take (rest.length - after.length)
  before ++ Text.replaceAll ['\\', '"'] ['"'] inside ++ after

mutual

/-- A folded expression inside an operation, a call or an iteration. -/
def inlineText : Value → List Char
  | .bool b => if b then "true".toList else "false".toList
  | .list xs => '[' :: Value.commaSeparated (inlineTexts xs) ++ [']']
  | .map es => openQuotes ((Json.encode? false (.map es)).getD [])
  | v => v.text

/-- Folded expressions inside a list. -/
def inlineTexts : List Value → List (List Char)
  | [] => []
  | x :: xs => inlineText x :: inlineTexts xs

end

/-- Words with blanks between them. -/
def spaced (ws : List (List Char)) : List Char :=
  [' '].intercalate ws

/-- The text of an interpolation; only text can stand in one. -/
def interpolated : Value → Except Fault (List Char)
  | .str s => .ok ('$' :: '\x7b' :: s.toList ++ ['\x7d'])
  | _ => .error .misplaced

/-- The first words of an iteration. -/
def iterationWords (names : List (List Char)) (items : Value) : List (List Char) :=
  let bound :=
    match names with
    | [a, b] => [a, [','], b]
    | ns => ns
  forWord :: bound ++ [['i', 'n'], inlineText items, [':']]

/-- The last words of an iteration. -/
def conditionWords : Option Value → List (List Char)
  | some v => [['i', 'f'], inlineText v]
  | none => []

/-- The map of folded entries; lists and maps are no keys. -/
def objectOf (es : List (Value × Value)) : Except Fault Value :=
  if es.all (fun e => e.1.isKey) then .ok (.map (Value.mapOfEntries es)) else .error .misplaced

mutual

/-- Folds an expression; what cannot be evaluated becomes text. -/
def Expr.fold : Expr → Except Fault Value
  | .word s => .ok (textValue s)
  | .name s =>
    .ok (if s = "true".toList then .bool true
      else if s = "false".toList then .bool false
      else if s = "null".toList then .null
      else textValue s)
  | .int i => .ok (.int i)
  | .float x => .ok (.float x)
  | .literal s => .ok (textValue ('"' :: s ++ ['"']))
  | .template head parts => do
    let t ← foldParts parts
    pure (textValue ('"' :: head ++ t ++ ['"']))
  | .heredoc s => .ok (textValue ('"' :: s ++ ['"']))
  | .tuple es => do pure (.list ((← foldAll es).map finish))
  | .object es => do objectOf (← foldEntries es)
  | .call name args => do
    let vs ← foldAll args
    pure (textValue (name ++ '(' :: Value.commaSeparated (vs.map inlineText) ++ [')']))
  | .index e k => do
    let v ← e.fold
    let i ← k.fold
    pure (textValue (v.text ++ '[' :: i.text ++ [']']))
  | .position e d => do pure (textValue ((← e.fold).text ++ ['[', d, ']']))
  | .member e name => do pure (textValue ((← e.fold).text ++ '.' :: name))
  | .splat e => do pure (textValue ((← e.fold).text ++ ['.', '*']))
  | .fullSplat e => do pure (textValue ((← e.fold).text ++ ['[', '*', ']']))
  | .unary op e => do pure (textValue (op :: inlineText (← e.fold)))
  | .binary a op b => do
    let v ← a.fold
    let w ← b.fold
    pure (textValue (spaced [inlineText v, op, inlineText w]))
  | .conditional c a b => do
    let v ← c.fold
    let w ← a.fold
    let x ← b.fold
    pure (textValue (spaced [v.text, ['?'], w.text, [':'], x.text]))
  | .forTuple names items body condition => do
    let xs ← items.fold
    let v ← body.fold
    let c ← foldOption condition
    let words := iterationWords names xs ++ inlineText v :: conditionWords c
    pure (textValue ('[' :: spaced words ++ [']']))
  | .forObject names items key value grouped condition => do
    let xs ← items.fold
    let k ← key.fold
    let v ← value.fold
    let c ← foldOption condition
    let dots := if grouped then [['.', '.', '.']] else []
    let words := iterationWords names xs ++
      [inlineText k, ['=', '>'], inlineText v] ++ dots ++ conditionWords c
    pure (textValue ('\x7b' :: spaced words ++ ['\x7d']))

/-- Folds expressions from the left. -/
def foldAll : List Expr → Except Fault (List Value)
  | [] => .ok []
  | e :: es => do
    let v ← e.fold
    pure (v :: (← foldAll es))

/-- Folds the interpolations of a string and joins them with the texts between them. -/
def foldParts : List (Expr × List Char) → Except Fault (List Char)
  | [] => .ok []
  | (e, t) :: ps => do
    let s ← interpolated (← e.fold)
    pure (s ++ t ++ (← foldParts ps))

/-- Folds the entries of an object. -/
def foldEntries : List (Expr × Expr) → Except Fault (List (Value × Value))
  | [] => .ok []
  | (k, v) :: es => do
    let a ← k.fold
    let b ← v.fold
    pure ((finishKey a, finish b) :: (← foldEntries es))

/-- Folds an expression that may be absent. -/
def foldOption : Option Expr → Except Fault (Option Value)
  | none => .ok none
  | some e => do pure (some (← e.fold))

end

/-- A part of a body with its value. -/
inductive Entry where
  | attr (name : String) (v : Value)
  | block (name : String) (v : Value)

/-- The entries of a body in order: whether a name is an attribute, and its value so far. -/
abbrev Entries := List (String × Bool × Value)

/-- Adds an attribute; its name may not be taken. -/
def addAttribute (name : String) (v : Value) (es : Entries) : Except Fault Entries :=
  if (es.lookup name).isSome then .error (.repeated name) else .ok (es ++ [(name, true, v)])

/-- Appends to the list that the blocks of a name are collected in. -/
def appendBlock (name : String) (v : Value) : Entries → Entries
  | [] => []
  | (k, isAttribute, .list vs) :: es =>
    if k = name then (k, isAttribute, .list (vs ++ [v])) :: es
    else (k, isAttribute, .list vs) :: appendBlock name v es
  | e :: es => e :: appendBlock name v es

/-- Adds a block to the others of its name, which may not be an attribute. -/
def addBlock (name : String) (v : Value) (es : Entries) : Except Fault Entries :=
  match es.lookup name with
  | none => .ok (es ++ [(name, false, .list [v])])
  | some (true, _) => .error (.repeated name)
  | some (false, _) => .ok (appendBlock name v es)

/-- Adds a part of a body. -/
def Entry.addTo (es : Entries) : Entry → Except Fault Entries
  | attr name v => addAttribute name v es
  | block name v => addBlock name v es

/-- The map of the parts of a body. -/
def bodyOf (es : List Entry) : Except Fault Value := do
  let entries ← es.foldlM Entry.addTo []
  pure (.map (entries.map fun e => (.str e.1, e.2.2)))

/-- A value under labels, the last of them innermost. -/
def underLabels (labels : List Value) (v : Value) : Value :=
  labels.foldr (fun l v => .map [(finishKey l, v)]) v

mutual

/-- Folds a part of a body. -/
def Item.fold : Item → Except Fault Entry
  | .attr name e => do pure (.attr (String.ofList name) (finish (← e.fold)))
  | .block name labels body => do
    let ls ← foldAll labels
    let v ← bodyOf (← foldItems body)
    pure (.block (String.ofList name) (underLabels ls v))

/-- Folds the parts of a body. -/
def foldItems : List Item → Except Fault (List Entry)
  | [] => .ok []
  | i :: is => do
    let e ← i.fold
    pure (e :: (← foldItems is))

end

/-- Why a settings text cannot be read. -/
inductive Failure where
  | malformed
  | fault (f : Fault)
  deriving DecidableEq, Repr

/-- The value of a settings text. -/
def read (s : List Char) : Except Failure Value :=
  match parse? (s ++ ['\n']) with
  | none => .error .malformed
  | some items =>
    match foldItems items >>= bodyOf with
    | .ok v => .ok v
    | .error f => .error (.fault f)

end NixContext.Hcl
