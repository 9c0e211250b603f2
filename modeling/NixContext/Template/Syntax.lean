import NixContext.Number.Double

/-! # Template syntax

Expressions and statements of the template language.
-/

namespace NixContext.Template

/-- Arithmetic on two operands. -/
inductive Arithmetic where
  | add | subtract | multiply | divide | floorDivide | remainder | power
  deriving DecidableEq, Repr

/-- Comparison of two operands. -/
inductive Comparison where
  | equal | notEqual | less | lessEqual | greater | greaterEqual | isIn | isNotIn
  deriving DecidableEq, Repr

/-- A sign or a negation in front of an operand. -/
inductive Sign where
  | minus | plus | no
  deriving DecidableEq, Repr

/-- An expression of the template language. -/
inductive Expr where
  | null
  | bool (b : Bool)
  | int (n : Nat)
  | float (x : Double)
  | str (s : List Char)
  | name (s : List Char)
  | list (items : List Expr)
  | tuple (items : List Expr)
  | map (entries : List (Expr × Expr))
  | member (e : Expr) (name : List Char)
  | item (e : Expr) (key : Expr)
  | slice (e : Expr) (start stop step : Option Expr)
  | call (e : Expr) (args : List Expr) (named : List (List Char × Expr))
  | filter (e : Expr) (name : List Char) (args : List Expr) (named : List (List Char × Expr))
  | test (e : Expr) (name : List Char) (args : List Expr) (named : List (List Char × Expr))
  | signed (s : Sign) (e : Expr)
  | arithmetic (op : Arithmetic) (a b : Expr)
  | concat (parts : List Expr)
  | both (a b : Expr)
  | either (a b : Expr)
  | compare (e : Expr) (chain : List (Comparison × Expr))
  | choose (line : Nat) (condition yes : Expr) (no : Option Expr)
  deriving Repr, Inhabited

/-- What a value is bound to: a name, or names in parallel. -/
inductive Target where
  | name (s : List Char)
  | tuple (items : List Target)
  deriving Repr, Inhabited

/-- A statement of the template language. -/
inductive Statement where
  | text (s : List Char)
  | output (e : Expr)
  | assign (target : Target) (e : Expr)
  | capture (target : Target) (body : List Statement)
  | branch (condition : Expr) (yes : List Statement) (no : List Statement)
  | loop (target : Target) (items : Expr) (condition : Option Expr) (body : List Statement)
      (otherwise : List Statement)
  deriving Repr, Inhabited

end NixContext.Template
