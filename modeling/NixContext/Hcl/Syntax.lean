import NixContext.Number.Double

/-! # Settings syntax

Expressions and bodies of the settings language HCL. Literals are kept as they are written.
-/

namespace NixContext.Hcl

/-- An expression of the settings language. -/
inductive Expr where
  | word (s : List Char)
  | name (s : List Char)
  | int (i : Int)
  | float (x : Double)
  | literal (s : List Char)
  | template (head : List Char) (parts : List (Expr × List Char))
  | heredoc (s : List Char)
  | tuple (items : List Expr)
  | object (entries : List (Expr × Expr))
  | call (name : List Char) (args : List Expr)
  | index (e : Expr) (key : Expr)
  | position (e : Expr) (digit : Char)
  | member (e : Expr) (name : List Char)
  | splat (e : Expr)
  | fullSplat (e : Expr)
  | unary (op : Char) (e : Expr)
  | binary (a : Expr) (op : List Char) (b : Expr)
  | conditional (condition yes no : Expr)
  | forTuple (names : List (List Char)) (items body : Expr) (condition : Option Expr)
  | forObject (names : List (List Char)) (items key value : Expr) (grouped : Bool)
      (condition : Option Expr)
  deriving Repr, Inhabited

/-- A part of a body: an attribute, or a block with labels and a body of its own. -/
inductive Item where
  | attr (name : List Char) (e : Expr)
  | block (name : List Char) (labels : List Expr) (body : List Item)
  deriving Repr, Inhabited

end NixContext.Hcl
