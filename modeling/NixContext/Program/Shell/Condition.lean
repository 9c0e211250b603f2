import NixContext.Program.File
import NixContext.Number.Notation

/-! # Conditions of the shell

What the arguments of the command for tests say about texts, numbers and paths.
-/

namespace NixContext.Program.Shell

/-- Why a condition has no answer. -/
inductive ConditionError where
  | illegalNumber (s : Octets)
  | unexpectedOperator (s : Octets)
  deriving DecidableEq, Repr

/-- The text of the error. -/
def ConditionError.message : ConditionError → Octets
  | illegalNumber s => octets "Illegal number: " ++ s
  | unexpectedOperator s => s ++ octets ": unexpected operator"

/-- The number that an operand denotes. -/
def operandInt (s : Octets) : Except ConditionError Int :=
  match readInt? s with
  | some i => .ok i
  | none => .error (.illegalNumber s)

/-- The comparison of numbers that an operator names. -/
def comparison? (o : Octets) : Option (Int → Int → Bool) :=
  if o = octets "-eq" then some fun a b => a == b
  else if o = octets "-ne" then some fun a b => a != b
  else if o = octets "-lt" then some fun a b => a < b
  else if o = octets "-le" then some fun a b => a ≤ b
  else if o = octets "-gt" then some fun a b => a > b
  else if o = octets "-ge" then some fun a b => a ≥ b
  else none

/-- The answer of an operator on one operand. -/
def testOne (o s : Octets) : Option Bool :=
  match o with
  | ['-', 'n'] => some (s != [])
  | ['-', 'z'] => some (s == [])
  | ['-', 'e'] => some (lookUp s).isSome
  | ['-', 'd'] => some (lookUp s == some .directory)
  | ['-', 'f'] =>
    some (match lookUp s with
      | some (.tool _) | some .file => true
      | _ => false)
  | ['-', 'x'] =>
    some (match lookUp s with
      | some (.tool _) | some .directory => true
      | _ => false)
  | _ => none

/-- The answer of an operator between two operands. -/
def testTwo (a o b : Octets) : Option (Except ConditionError Bool) :=
  if o = ['='] then some (.ok (a == b))
  else if o = ['!', '='] then some (.ok (a != b))
  else
    (comparison? o).map fun f => do
      let i ← operandInt a
      let j ← operandInt b
      pure (f i j)

/-- The answer to a condition. -/
def condition : Nat → List Octets → Except ConditionError Bool
  | 0, _ => .ok false
  | _, [] => .ok false
  | _, [s] => .ok (s != [])
  | n + 1, [o, s] =>
    match testOne o s with
    | some b => .ok b
    | none =>
      if o = ['!'] then (condition n [s]).map (!·) else .error (.unexpectedOperator o)
  | n + 1, a :: o :: b :: rest =>
    match testTwo a o b, rest with
    | some r, [] => r
    | some r, c :: rest => do
      let x ← r
      if c = octets "-a" then pure (x && (← condition n rest))
      else if c = octets "-o" then pure (x || (← condition n rest))
      else .error (.unexpectedOperator c)
    | none, rest =>
      if o = octets "-a" then (condition n (b :: rest)).map (a != [] && ·)
      else if o = octets "-o" then (condition n (b :: rest)).map (a != [] || ·)
      else if a = ['!'] then (condition n (o :: b :: rest)).map (!·)
      else
        match testOne a o with
        | some x =>
          if b = octets "-a" then (condition n rest).map (x && ·)
          else if b = octets "-o" then (condition n rest).map (x || ·)
          else .error (.unexpectedOperator o)
        | none => .error (.unexpectedOperator o)

end NixContext.Program.Shell
