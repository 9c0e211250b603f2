import NixContext.Program.Outcome
import NixContext.Number.Notation

/-! # States of the shell

Variables, parameters, what has been written so far and where the descriptors lead.
-/

namespace NixContext.Program.Shell

/-- Where written octets end up. -/
inductive Channel where
  | out
  | err
  | captured
  | nowhere
  deriving DecidableEq, Repr

/-- The state of a shell; the streams hold their last octet first. -/
structure State where
  values : List (Octets × Octets)
  exported : List Octets
  name : Octets
  params : List Octets
  status : Nat := 0
  line : Nat := 1
  loops : Nat := 0
  out : Octets := []
  err : Octets := []
  captured : Octets := []
  one : Channel := .out
  two : Channel := .err

/-- Why commands stop before their end. -/
inductive Interrupt where
  | exited
  | killed (signal : Nat)
  | broken (levels : Nat)
  | continued (levels : Nat)
  deriving DecidableEq, Repr

/-- Runs that change the state and may be interrupted. -/
abbrev Run := EStateM Interrupt State

namespace State

/-- Writes octets to a channel. -/
def write (st : State) (c : Channel) (s : Octets) : State :=
  match c with
  | .out => { st with out := s.reverse ++ st.out }
  | .err => { st with err := s.reverse ++ st.err }
  | .captured => { st with captured := s.reverse ++ st.captured }
  | .nowhere => st

/-- Sets a variable. -/
def assign (st : State) (name value : Octets) : State :=
  { st with values := (name, value) :: st.values.filter fun e => e.1 != name }

/-- Passes a variable on to the programs that are started. -/
def share (st : State) (name : Octets) : State :=
  { st with exported := name :: st.exported.filter (· != name) }

/-- The variables that are passed on, in the order in which they were set. -/
def environment (st : State) : List (Octets × Octets) :=
  (st.values.filter fun e => st.exported.contains e.1).reverse

/-- The text that stands for the number of the process. -/
def processNumber : Octets :=
  ['1']

/-- The value of a parameter. -/
def find? (st : State) (name : Octets) : Option Octets :=
  match name with
  | ['#'] => some (decimalDigits st.params.length)
  | ['?'] => some (decimalDigits st.status)
  | ['$'] => some processNumber
  | ['-'] => some []
  | ['@'] => if st.params.isEmpty then none else some ([' '].intercalate st.params)
  | ['*'] => if st.params.isEmpty then none else some ([' '].intercalate st.params)
  | name =>
    if name.all Char.isDigit then
      match digitsValue name with
      | 0 => some st.name
      | n + 1 => st.params[n]?
    else st.values.lookup name

end State

/-- A piece of an expanded word: kept whole, split at blanks, or the end of a field. -/
inductive Piece where
  | whole (s : Octets)
  | splittable (s : Octets)
  | cut
  deriving DecidableEq, Repr

namespace Piece

/-- Adds octets to the field that is being collected. -/
def extend (s : Octets) : Option Octets → Option Octets
  | some t => some (t ++ s)
  | none => some s

/-- Splits octets at blanks, going on with the field that is being collected. -/
def splitInto (current : Option Octets) : Octets → List Octets × Option Octets
  | [] => ([], current)
  | c :: cs =>
    if [' ', '\t', '\n'].contains c then
      let (fs, last) := splitInto none cs
      (current.toList ++ fs, last)
    else splitInto (extend [c] current) cs

/-- The fields of pieces. -/
def fields (current : Option Octets) : List Piece → List Octets
  | [] => current.toList
  | .whole s :: ps => fields (extend s current) ps
  | .splittable s :: ps =>
    let (fs, last) := splitInto current s
    fs ++ fields last ps
  | .cut :: ps => current.toList ++ fields none ps

/-- The text of pieces that are not split. -/
def text : List Piece → Octets
  | [] => []
  | .whole s :: ps => s ++ text ps
  | .splittable s :: ps => s ++ text ps
  | .cut :: ps => ' ' :: text ps

end Piece

end NixContext.Program.Shell
