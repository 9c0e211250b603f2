import NixContext.Table
import NixContext.Value
import NixContext.Text.Class
import NixContext.Text.Replace

/-! # References in text

A text may refer to a process variable or to the working directory. It is cut once into
references and plain characters; expansion replaces the references and never looks at the
inserted text.
-/

namespace NixContext

/-- What a text may refer to. -/
inductive Reference where
  | named (name : List Char)
  | directory
  deriving DecidableEq, Repr

/-- Where references are looked up: the variables and the working directory. -/
structure Surroundings where
  environment : Table String
  directory : String

/-- A reference named a variable that is not set. -/
structure UnsetVariable where
  name : String
  deriving DecidableEq, Repr

/-- The text of the error. -/
def UnsetVariable.message (e : UnsetVariable) : String :=
  "environment variable '" ++ e.name ++ "' is not set"

namespace Reference

/-- The characters that every reference begins with. -/
def opening : List Char :=
  ['$', '\x7b']

/-- The text that refers to the working directory. -/
def directoryForm : List Char :=
  ['$', '\x7b', 'C', 'W', 'D', '\x7d']

/-- The text before the name of a variable. -/
def variableOpening : List Char :=
  ['$', '\x7b', 'e', 'n', 'v', '.']

/-- The written form of a reference. -/
def form : Reference → List Char
  | named name => variableOpening ++ name ++ ['\x7d']
  | directory => directoryForm

/-- The name and what follows it, if the text begins with a variable's name and a brace. -/
def closing? (s : List Char) : Option (Reference × List Char) :=
  match s.takeWhile Text.isWord, s.dropWhile Text.isWord with
  | c :: cs, '\x7d' :: rest => some (named (c :: cs), rest)
  | _, _ => none

/-- The reference at the front of a text, with what follows it. -/
def leading? (s : List Char) : Option (Reference × List Char) :=
  match directoryForm.isPrefixOf? s with
  | some rest => some (directory, rest)
  | none =>
    match variableOpening.isPrefixOf? s with
    | some rest => closing? rest
    | none => none

/-- What a reference stands for. -/
def resolve (s : Surroundings) : Reference → Except UnsetVariable String
  | directory => .ok s.directory
  | named name =>
    match s.environment.find? (String.ofList name) with
    | some v => .ok v
    | none => .error ⟨String.ofList name⟩

end Reference

/-- A part of a text: a character of its own or a reference. -/
inductive Piece where
  | char (c : Char)
  | reference (r : Reference)
  deriving DecidableEq, Repr

namespace Piece

/-- Cuts a text into pieces; `skip` characters still belong to the last reference. -/
def cut : Nat → List Char → List Piece
  | _, [] => []
  | skip + 1, _ :: cs => cut skip cs
  | 0, c :: cs =>
    match Reference.leading? (c :: cs) with
    | some (r, rest) => reference r :: cut (cs.length - rest.length) cs
    | none => char c :: cut 0 cs

/-- The pieces of a text, from the left. -/
def ofText (s : List Char) : List Piece :=
  cut 0 s

/-- The text that a piece stands for. -/
def expand (s : Surroundings) : Piece → Except UnsetVariable (List Char)
  | char c => .ok [c]
  | reference r => (r.resolve s).map String.toList

/-- The text of pieces, or the first variable that is not set. -/
def expandAll (s : Surroundings) : List Piece → Except UnsetVariable (List Char)
  | [] => .ok []
  | p :: ps => do
    let t ← p.expand s
    let ts ← expandAll s ps
    pure (t ++ ts)

end Piece

/-- Expands the references of a text. -/
def expandText (s : Surroundings) (t : String) : Except UnsetVariable String :=
  (Piece.expandAll s (Piece.ofText t.toList)).map String.ofList

namespace Value

mutual

/-- Expands the references of a text or of the texts in lists; nothing else is changed. A text
without an opening is not looked at. -/
def expandReferences (s : Surroundings) : Value → Except UnsetVariable Value
  | str t =>
    if Text.holds Reference.opening t.toList then (expandText s t).map str else .ok (str t)
  | list xs => (expandItems s xs).map list
  | v => .ok v

/-- Expands the items of a list from the left. -/
def expandItems (s : Surroundings) : List Value → Except UnsetVariable (List Value)
  | [] => .ok []
  | x :: xs => do
    let y ← expandReferences s x
    let ys ← expandItems s xs
    pure (y :: ys)

end

end Value

end NixContext
