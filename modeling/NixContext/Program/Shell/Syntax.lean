import NixContext.Program.Outcome

/-! # Commands of the shell

Words are made of parts, some of which are quoted. Commands are words with assignments and
redirections, joined in lists and compound commands.
-/

namespace NixContext.Program.Shell

/-- Where a descriptor is redirected to. -/
inductive Destination where
  | descriptor (n : Nat)
  | nowhere
  deriving DecidableEq, Repr

/-- A descriptor and where it goes. -/
structure Redirection where
  descriptor : Nat
  destination : Destination
  deriving DecidableEq, Repr

mutual

/-- A part of a word. -/
inductive Part where
  | text (quoted : Bool) (s : Octets)
  | value (quoted : Bool) (name : Octets)
  | size (quoted : Bool) (name : Octets)
  | fallback (quoted : Bool) (name : Octets) (emptyCounts : Bool) (operator : Char)
      (word : List Part)
  | arithmetic (quoted : Bool) (word : List Part)
  | output (quoted : Bool) (c : Command)

/-- A command. -/
inductive Command where
  | nothing
  | simple (line : Nat) (assignments : List (Octets × List Part)) (words : List (List Part))
      (redirections : List Redirection)
  | sequence (a b : Command)
  | both (a b : Command)
  | either (a b : Command)
  | negated (c : Command)
  | branch (condition yes no : Command)
  | loop (goOn : Bool) (condition body : Command)
  | each (name : Octets) (words : Option (List (List Part))) (body : Command)
  | group (c : Command) (redirections : List Redirection)
  | subshell (c : Command) (redirections : List Redirection)

end

/-- A word. -/
abbrev Word := List Part

/-- Why a script cannot be read. -/
inductive SyntaxError where
  | unterminatedQuote
  | unterminatedCommand
  | missingBrace
  | missingBrackets
  | badLoopName
  | badSubstitution
  | unexpected (what : Octets) (expecting : Option Octets)
  deriving DecidableEq, Repr

/-- A token between double quotes. -/
def quotedToken (s : Octets) : Octets :=
  '"' :: s ++ ['"']

/-- The text of a syntax error. -/
def SyntaxError.message : SyntaxError → Octets
  | unterminatedQuote => octets "Syntax error: Unterminated quoted string"
  | unterminatedCommand => octets "Syntax error: EOF in backquote substitution"
  | missingBrace => octets "Syntax error: Missing '\x7d'"
  | missingBrackets => octets "Syntax error: Missing '))'"
  | badLoopName => octets "Syntax error: Bad for loop variable"
  | badSubstitution => octets "Bad substitution"
  | unexpected what none => octets "Syntax error: " ++ what ++ octets " unexpected"
  | unexpected what (some e) =>
    octets "Syntax error: " ++ what ++ octets " unexpected (expecting " ++ quotedToken e ++ [')']

end NixContext.Program.Shell
