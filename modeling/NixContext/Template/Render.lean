import NixContext.Template.Parser
import NixContext.Template.Check

/-! # Rendering templates

Expressions are evaluated in a scope of nested frames over the context. A loop opens a frame
for every item, so that nothing assigned in its body outlives it.
-/

namespace NixContext.Template

/-- The names that an expression can see: frames from the innermost, then the context. -/
structure Scope where
  frames : List (List (List Char × Datum))
  context : List (List Char × Datum)

namespace Scope

/-- The name of the function that makes ranges, unless the context takes it. -/
def rangeName : List Char :=
  ['r', 'a', 'n', 'g', 'e']

/-- The datum under a name; a failed look-up if there is none. -/
def find (sc : Scope) (name : List Char) : Datum :=
  match sc.frames.findSome? (·.lookup name) with
  | some d => d
  | none =>
    match sc.context.lookup name with
    | some d => d
    | none => if name = rangeName then .rangeFunction else .unknown name

/-- Binds a name in the innermost frame. -/
def assign (sc : Scope) (name : List Char) (d : Datum) : Scope :=
  match sc.frames with
  | [] => { sc with frames := [[(name, d)]] }
  | f :: fs => { sc with frames := ((name, d) :: f) :: fs }

/-- Opens a frame. -/
def push (sc : Scope) (frame : List (List Char × Datum)) : Scope :=
  { sc with frames := frame :: sc.frames }

end Scope

/-- The message of a choice that has no alternative. -/
def noAlternative (line : Nat) : List Char :=
  "the inline if-expression on line ".toList ++ decimalDigits line ++
    " evaluated to false and no else section was defined.".toList

/-- The map of pairs in order; a repeated key keeps its first place and last value. -/
def collectEntries (ds : List (Datum × Datum)) : Except Fault (List (Datum × Datum)) :=
  ds.foldlM (fun m e => do
    if ← e.1.hashable then Datum.insertEntry e.1 e.2 m else .error .typeMismatch) []

mutual

/-- The datum that an expression denotes. -/
def Expr.eval (sc : Scope) : Expr → Except Fault Datum
  | .null => .ok .null
  | .bool b => .ok (.bool b)
  | .int i => .ok (.int i)
  | .float x => .ok (.float x)
  | .str s => .ok (.str s)
  | .name s => .ok (sc.find s)
  | .list es => do pure (.list (← evalAll sc es))
  | .tuple es => do pure (.tuple (← evalAll sc es))
  | .map es => do pure (.map (← collectEntries (← evalPairs sc es)))
  | .member e name => do (← e.eval sc).memberOf name
  | .item e k => do
    let d ← e.eval sc
    d.item (← k.eval sc)
  | .slice e a b c => do
    let d ← e.eval sc
    let a ← evalOption sc a
    let b ← evalOption sc b
    d.slice a b (← evalOption sc c)
  | .call e args named => do
    let f ← e.eval sc
    let args ← evalAll sc args
    f.call args (← evalNamed sc named)
  | .filter e name args named => do
    let d ← e.eval sc
    let args ← evalAll sc args
    Filter.apply name d args (← evalNamed sc named)
  | .test e name args named => do
    let d ← e.eval sc
    let args ← evalAll sc args
    pure (.bool (← Test.apply name d args (← evalNamed sc named)))
  | .signed s e => do (← e.eval sc).signed s
  | .arithmetic op a b => do
    let x ← a.eval sc
    x.arithmetic op (← b.eval sc)
  | .concat es => do
    let ts ← (← evalAll sc es).mapM Datum.text
    pure (.str ts.flatten)
  | .both a b => do
    let x ← a.eval sc
    if ← x.truth then b.eval sc else pure x
  | .either a b => do
    let x ← a.eval sc
    if ← x.truth then pure x else b.eval sc
  | .compare e chain => do pure (.bool (← evalChain sc (← e.eval sc) chain))
  | .choose line c a b => do
    if ← (← c.eval sc).truth then a.eval sc
    else pure ((← evalOption sc b).getD (.absent (noAlternative line)))

/-- The data that expressions denote, from the left. -/
def evalAll (sc : Scope) : List Expr → Except Fault (List Datum)
  | [] => .ok []
  | e :: es => do
    let d ← e.eval sc
    pure (d :: (← evalAll sc es))

/-- The data that pairs of expressions denote, from the left. -/
def evalPairs (sc : Scope) : List (Expr × Expr) → Except Fault (List (Datum × Datum))
  | [] => .ok []
  | (k, v) :: es => do
    let a ← k.eval sc
    let b ← v.eval sc
    pure ((a, b) :: (← evalPairs sc es))

/-- The data of named arguments, from the left. -/
def evalNamed (sc : Scope) : List (List Char × Expr) → Except Fault (List (List Char × Datum))
  | [] => .ok []
  | (k, e) :: es => do
    let d ← e.eval sc
    pure ((k, d) :: (← evalNamed sc es))

/-- Compares a datum with the next of a chain for as long as the comparisons hold. -/
def evalChain (sc : Scope) (d : Datum) : List (Comparison × Expr) → Except Fault Bool
  | [] => .ok true
  | (op, e) :: es => do
    let x ← e.eval sc
    if ← Datum.compare op d x then evalChain sc x es else pure false

/-- The datum of an optional expression. -/
def evalOption (sc : Scope) : Option Expr → Except Fault (Option Datum)
  | none => .ok none
  | some e => do pure (some (← e.eval sc))

end

/-- The message when a target has the wrong number of names. -/
def unpackMessage (expected actual : Nat) : List Char :=
  if actual < expected then
    "not enough values to unpack (expected ".toList ++ decimalDigits expected ++
      ", got ".toList ++ decimalDigits actual ++ [')']
  else "too many values to unpack (expected ".toList ++ decimalDigits expected ++ [')']

mutual

/-- The names that a target binds to parts of a datum. -/
def Target.bindings (d : Datum) : Target → Except Fault (List (List Char × Datum))
  | .name s => .ok [(s, d)]
  | .tuple ts => do
    let ds ← d.items
    if ds.length = ts.length then bindingsAll ds ts
    else .error (.badValue (unpackMessage ts.length ds.length))

/-- The names that targets bind, in reverse. -/
def bindingsAll : List Datum → List Target → Except Fault (List (List Char × Datum))
  | d :: ds, t :: ts => do
    let b ← t.bindings d
    pure ((← bindingsAll ds ts) ++ b)
  | _, _ => .ok []

end

/-- Binds the names of a target in the innermost frame. -/
def Scope.assignTarget (sc : Scope) (t : Target) (d : Datum) : Except Fault Scope := do
  let bs ← t.bindings d
  pure (bs.foldr (fun b sc => sc.assign b.1 b.2) sc)

/-- The items that satisfy the condition of a loop. -/
def selectItems (sc : Scope) (t : Target) (condition : Option Expr) :
    List Datum → Except Fault (List Datum)
  | [] => .ok []
  | d :: ds =>
    match condition with
    | none => .ok (d :: ds)
    | some c => do
      let inner ← (sc.push []).assignTarget t d
      let keep ← (← c.eval inner).truth
      let rest ← selectItems sc t condition ds
      pure (if keep then d :: rest else rest)

mutual

/-- The text of a statement and the scope after it. -/
def Statement.render (sc : Scope) : Statement → Except Fault (List Char × Scope)
  | .text s => .ok (s, sc)
  | .output e => do pure (← (← e.eval sc).text, sc)
  | .assign t e => do
    let d ← e.eval sc
    pure ([], ← sc.assignTarget t d)
  | .capture t body => do
    let (s, _) ← renderBody (sc.push []) body
    pure ([], ← sc.assignTarget t (.str s))
  | .branch c yes no => do
    if ← (← c.eval sc).truth then renderBody sc yes else renderBody sc no
  | .loop t items c body otherwise => do
    let ds ← selectItems sc t c (← (← items.eval sc).items)
    if ds.isEmpty then do
      let (s, _) ← renderBody (sc.push []) otherwise
      pure (s, sc)
    else do
      let parts ← ds.zipIdx.mapM fun (d, i) => do
        let inner ← (sc.push [(loopName, .loop i ds.length)]).assignTarget t d
        let (s, _) ← renderBody inner body
        pure s
      pure (parts.flatten, sc)

/-- The text of statements and the scope after them. -/
def renderBody (sc : Scope) : List Statement → Except Fault (List Char × Scope)
  | [] => .ok ([], sc)
  | s :: ss => do
    let (a, sc) ← s.render sc
    let (b, sc) ← renderBody sc ss
    pure (a ++ b, sc)

end

/-- Why a template has no text. -/
inductive Failure where
  | malformed
  | unknownName
  | fault (f : Fault)
  deriving DecidableEq, Repr

/-- Drops one line break at the end. -/
def dropFinalBreak (s : List Char) : List Char :=
  if s.getLast? = some '\n' then s.dropLast else s

/-- The text of a template whose line breaks are line feeds, in a context. -/
def render (src : List Char) (context : List (List Char × Datum)) :
    Except Failure (List Char) :=
  match parse? (dropFinalBreak src) with
  | none => .error .malformed
  | some body =>
    if bodyKnown false false body then
      match renderBody ⟨[[]], context⟩ body with
      | .ok (s, _) => .ok s
      | .error f => .error (.fault f)
    else .error .unknownName

end NixContext.Template
