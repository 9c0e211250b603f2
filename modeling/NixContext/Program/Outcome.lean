import NixContext.Invocation
import NixContext.Text.Lines

/-! # Outcomes of programs

A program that could be started leaves two streams of octets and a status; a signal that
ended it counts as a negative status. The streams are read as texts.
-/

namespace NixContext.Program

/-- Why there is no completed program. -/
inductive Failure where
  | notFound
  | notAllowed
  | notDirectory
  | notText
  deriving DecidableEq, Repr

/-- Octets, each as the character of its number. -/
abbrev Octets := List Char

/-- The octets of a text. -/
def octets (s : String) : Octets :=
  s.toUTF8.toList.map fun b => Char.ofNat b.toNat

/-- The text of octets, if they are one. -/
def octetsText? (s : Octets) : Option String :=
  (Text.ofBytes? ⟨(s.map fun c => UInt8.ofNat c.toNat).toArray⟩).map String.ofList

/-- What a program leaves. -/
structure Outcome where
  status : Int
  stdout : Octets
  stderr : Octets
  deriving DecidableEq, Repr

/-- A program that writes nothing. -/
def Outcome.silent (status : Int) : Outcome :=
  ⟨status, [], []⟩

/-- The completed program, if both streams are texts. -/
def Outcome.complete (o : Outcome) (args : List String) : Except Failure Completed :=
  match octetsText? o.stdout, octetsText? o.stderr with
  | some out, some err => .ok ⟨args, o.status, out, err⟩
  | _, _ => .error .notText

end NixContext.Program
