import NixContext.Value

/-! # Validation issues

A check either gives a value or the list of everything that is wrong. Checks of several
fields are combined so that the issues of all of them are reported, in order.
-/

namespace NixContext

/-- Why an input is rejected. -/
inductive Cause where
  | missing
  | unexpected
  | unreadableTruth
  | notTruth
  | notText
  | illFormedText
  | notPath
  | notTuple
  | notList
  | notMap
  | notRecord
  | badKey
  | notCallable
  | badEntry (entry : String)
  | frozen
  deriving DecidableEq, Repr

/-- The text of a cause that has one of its own. -/
def Cause.message? : Cause → Option String
  | badEntry entry => some ("invalid entry: '" ++ entry ++ "'")
  | _ => none

/-- A step on the way to a part of an input. -/
inductive Step where
  | field (name : String)
  | index (i : Nat)
  | key (v : Value)
  | keyItself
  deriving DecidableEq, Repr

/-- Something wrong, and where. -/
structure Issue where
  cause : Cause
  location : List Step
  deriving DecidableEq, Repr

/-- The same issue in a part of a larger input. -/
def Issue.under (s : Step) (i : Issue) : Issue :=
  { i with location := s :: i.location }

/-- The result of a check: a value, or all issues in order. -/
abbrev Checked := Except (List Issue)

namespace Checked

variable {α β : Type}

/-- A check that fails with a single issue. -/
def fail (c : Cause) : Checked α :=
  .error [⟨c, []⟩]

/-- The issues of a check. -/
def issues : Checked α → List Issue
  | .ok _ => []
  | .error is => is

/-- The check of a part of a larger input. -/
def under (s : Step) (c : Checked α) : Checked α :=
  c.mapError (List.map (Issue.under s))

/-- Applies a checked function to a checked argument; the issues of both are kept. -/
def also (f : Checked (α → β)) (a : Checked α) : Checked β :=
  match f, a with
  | .ok f, .ok a => .ok (f a)
  | f, a => .error (f.issues ++ a.issues)

/-- The checked value, unless there are further issues. -/
def guarded (c : Checked α) (further : List Issue) : Checked α :=
  match c, further with
  | .ok a, [] => .ok a
  | c, further => .error (c.issues ++ further)

/-- Checks every item at its index. -/
def items (check : α → Checked β) : Nat → List α → Checked (List β)
  | _, [] => .ok []
  | i, a :: as =>
    also ((check a).under (.index i) |>.map List.cons) (items check (i + 1) as)

end Checked

end NixContext
