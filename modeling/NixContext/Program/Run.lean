import NixContext.Program.Shell.Exec

/-! # Running programs

An invocation is run without a nix store: the programs that are there write their arguments,
show their variables, succeed, fail, or run a shell script.
-/

namespace NixContext.Program

/-- The variables of a program, by their octets. -/
abbrev Environment := List (Octets × Octets)

/-- The directories that are searched when no variable lists any. -/
def defaultSearch : String :=
  "/bin:/usr/bin"

/-- The directories that a shell searches when no variable lists any. -/
def shellSearch : String :=
  "/usr/local/sbin:/usr/local/bin:/usr/sbin:/usr/bin:/sbin:/bin"

/-- The lines that show variables. -/
def environmentText (vs : Environment) : Octets :=
  vs.flatMap fun e => e.1 ++ '=' :: e.2 ++ ['\n']

/-- Sets a variable, at its old place if it was there. -/
def setVariable (name value : Octets) : Environment → Environment
  | [] => [(name, value)]
  | e :: es => if e.1 = name then (name, value) :: es else e :: setVariable name value es

/-- The variables and the command that the arguments of the program for variables ask for. -/
def commandIn (vs : Environment) : List Octets → Environment × List Octets
  | ['-', 'i'] :: args => commandIn [] args
  | ['-'] :: args => commandIn [] args
  | ['-', 'u'] :: name :: args => commandIn (vs.filter fun e => e.1 != name) args
  | a :: args =>
    match Shell.assignmentOf a with
    | (name, some value) => commandIn (setVariable name value vs) args
    | (_, none) => (vs, a :: args)
  | [] => (vs, [])

namespace Shell

/-- How many commands may be nested or repeated. -/
def depth : Nat :=
  1000000

/-- Runs the commands of a script, one complete command after the other. -/
def runScript (start : Starter) (breaks : Nat) : Nat → Octets → Run Unit
  | 0, _ => pure ()
  | n + 1, s =>
    match nextCommand breaks s with
    | .error e => do
      modify fun st => { st with line := 1 + breaks }
      abort e.message
    | .ok none => pure ()
    | .ok (some (c, rest)) => do
      execute start depth c
      runScript start breaks n rest

/-- The state in which a shell begins. -/
def begin (name : Octets) (params : List Octets) (vs : Environment) : State :=
  let vs := vs.filter fun e => isNameStart (e.1.headD ' ') && e.1.all isNameChar
  { values := vs.reverse, exported := vs.map Prod.fst, name := name, params := params }

/-- What is left of a shell that has ended. -/
def outcomeOf (result : EStateM.Result Interrupt State Unit) : Outcome :=
  match result with
  | .error (.killed n) st => ⟨-n, st.out.reverse, st.err.reverse⟩
  | .ok _ st | .error _ st => ⟨st.status, st.out.reverse, st.err.reverse⟩

/-- Runs a script with a name and parameters. -/
def run (start : Starter) (script name : Octets) (params : List Octets) (vs : Environment) :
    Outcome :=
  outcomeOf (runScript start (script.count '\n') (script.length + 1) script (begin name params vs))

/-- Whether an argument of the shell asks for a script in the next argument. -/
def asksForScript (a : Octets) : Bool :=
  a.head? = some '-' && a.contains 'c'

end Shell

mutual

/-- Runs a tool under a name with arguments and variables. -/
def runTool : Nat → Tool → Octets → List Octets → Environment → Outcome
  | 0, _, _, _, _ => .silent 2
  | _, .echo, _, args, _ => ⟨0, echoProgramText args, []⟩
  | _, .succeed, _, _, _ => .silent 0
  | _, .fail, _, _, _ => .silent 1
  | n + 1, .env, name, args, vs =>
    match commandIn vs args with
    | (vs, []) => ⟨0, environmentText vs, []⟩
    | (vs, c :: cs) =>
      let complain (status : Int) (message : String) : Outcome :=
        ⟨status, [], name ++ octets ": '" ++ c ++ octets ("': " ++ message ++ "\n")⟩
      match runFound n defaultSearch c cs vs with
      | .ok o => o
      | .error .notAllowed => complain 126 "Permission denied"
      | .error _ => complain 127 "No such file or directory"
  | n + 1, .shell, name, args, vs =>
    match args with
    | o :: script :: rest =>
      if Shell.asksForScript o then
        Shell.run (runFound n shellSearch) script (rest.headD name) rest.tail vs
      else .silent 2
    | [o] =>
      if Shell.asksForScript o then
        ⟨2, [], name ++ octets ": 0: -c requires an argument\n"⟩
      else ⟨2, [], name ++ octets ": 0: cannot open " ++ o ++ octets ": No such file\n"⟩
    | [] => .silent 0

/-- Runs the tool that a command names. -/
def runFound : Nat → String → Octets → List Octets → Environment → Except Failure Outcome
  | 0, _, _, _, _ => .error .notFound
  | n + 1, search, command, args, vs => do
    let t ← toolOf (searchList vs search) command
    pure (runTool n t command args vs)

end

/-- How many programs may start one another. -/
def nesting : Nat :=
  1000

/-- Runs the program of an invocation to its end. -/
def run (i : Invocation) : Except Failure Completed :=
  match i.argv with
  | [] => .error .notFound
  | command :: args => do
    let vs := i.environment.entries.map fun e => (octets e.1, octets e.2)
    let o ← runFound nesting defaultSearch (octets command) (args.map octets) vs
    o.complete i.argv

end NixContext.Program
