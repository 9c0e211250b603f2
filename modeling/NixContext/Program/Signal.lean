import NixContext.Program.Outcome
import NixContext.Number.Notation

/-! # Signals

The names and numbers of signals, and which of them end a program that does not mind them.
-/

namespace NixContext.Program

/-- The names of the signals from one on. -/
def signalNames : List String :=
  ["HUP", "INT", "QUIT", "ILL", "TRAP", "ABRT", "BUS", "FPE", "KILL", "USR1", "SEGV", "USR2",
    "PIPE", "ALRM", "TERM", "STKFLT", "CHLD", "CONT", "STOP", "TSTP", "TTIN", "TTOU", "URG",
    "XCPU", "XFSZ", "VTALRM", "PROF", "WINCH", "IO", "PWR", "SYS"]

/-- The signal that a number or a name denotes. -/
def signal? (s : Octets) : Option Nat :=
  if !s.isEmpty && s.all Char.isDigit then
    let n := digitsValue s
    if n ≤ 64 then some n else none
  else
    (signalNames.findIdx? fun n => octets n = s.map Char.toUpper).map (· + 1)

/-- Whether a signal ends a program: four are passed over, four stop it, zero is none. -/
def isDeadly (n : Nat) : Bool :=
  n != 0 && !(17 ≤ n && n ≤ 23) && n != 28

end NixContext.Program
