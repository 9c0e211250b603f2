import NixContext.Template.Filter
import NixContext.Template.Syntax

/-! # Static checks of templates

Filters and tests must exist unless they stand under a condition, and inside a loop nothing
may be bound to the name of the loop record.
-/

namespace NixContext.Template

/-- The name under which a loop's body finds the loop record. -/
def loopName : List Char :=
  ['l', 'o', 'o', 'p']

mutual

/-- All filters and tests that do not stand under a condition exist. -/
def Expr.isKnown (guarded : Bool) : Expr → Bool
  | .list es | .tuple es | .concat es => allKnown guarded es
  | .map es => entriesKnown guarded es
  | .member e _ => e.isKnown guarded
  | .item e k => e.isKnown guarded && k.isKnown guarded
  | .slice e a b c =>
    e.isKnown guarded && optionKnown guarded a && optionKnown guarded b && optionKnown guarded c
  | .call e args named => e.isKnown guarded && allKnown guarded args && namedKnown guarded named
  | .filter e name args named =>
    (guarded || (Filter.ofName? name).isSome) && e.isKnown guarded && allKnown guarded args &&
      namedKnown guarded named
  | .test e name args named =>
    (guarded || (Test.ofName? name).isSome) && e.isKnown guarded && allKnown guarded args &&
      namedKnown guarded named
  | .signed _ e => e.isKnown guarded
  | .arithmetic _ a b | .both a b | .either a b => a.isKnown guarded && b.isKnown guarded
  | .compare e chain => e.isKnown guarded && chainKnown guarded chain
  | .choose _ c a b => c.isKnown true && a.isKnown true && optionKnown true b
  | _ => true

/-- The check of several expressions. -/
def allKnown (guarded : Bool) : List Expr → Bool
  | [] => true
  | e :: es => e.isKnown guarded && allKnown guarded es

/-- The check of map entries. -/
def entriesKnown (guarded : Bool) : List (Expr × Expr) → Bool
  | [] => true
  | (k, v) :: es => k.isKnown guarded && v.isKnown guarded && entriesKnown guarded es

/-- The check of named arguments. -/
def namedKnown (guarded : Bool) : List (List Char × Expr) → Bool
  | [] => true
  | (_, e) :: es => e.isKnown guarded && namedKnown guarded es

/-- The check of a chain of comparisons. -/
def chainKnown (guarded : Bool) : List (Comparison × Expr) → Bool
  | [] => true
  | (_, e) :: es => e.isKnown guarded && chainKnown guarded es

/-- The check of an optional expression. -/
def optionKnown (guarded : Bool) : Option Expr → Bool
  | none => true
  | some e => e.isKnown guarded

end

mutual

/-- The target binds the name of the loop record. -/
def Target.bindsLoop : Target → Bool
  | .name s => s == loopName
  | .tuple ts => anyBindsLoop ts

/-- One of the targets binds the name of the loop record. -/
def anyBindsLoop : List Target → Bool
  | [] => false
  | t :: ts => t.bindsLoop || anyBindsLoop ts

end

mutual

/-- The statement is well formed; `inLoop` says that it stands in a loop. -/
def Statement.isKnown (guarded inLoop : Bool) : Statement → Bool
  | .text _ => true
  | .output e => e.isKnown guarded
  | .assign t e => !(inLoop && t.bindsLoop) && e.isKnown guarded
  | .capture t body => !(inLoop && t.bindsLoop) && bodyKnown false inLoop body
  | .branch c yes no => c.isKnown true && bodyKnown true inLoop yes && bodyKnown true inLoop no
  | .loop t items c body otherwise =>
    !t.bindsLoop && items.isKnown guarded && optionKnown false c && bodyKnown false true body &&
      bodyKnown false true otherwise

/-- All statements of a body are well formed. -/
def bodyKnown (guarded inLoop : Bool) : List Statement → Bool
  | [] => true
  | s :: ss => s.isKnown guarded inLoop && bodyKnown guarded inLoop ss

end

end NixContext.Template
