import NixContext.Program.Escape
import NixContext.Program.Shell.Arithmetic
import NixContext.Program.Shell.Condition
import NixContext.Program.Shell.State
import NixContext.Program.Signal

/-! # Running commands of the shell

Commands are run on a state. Each nested command takes a unit of fuel; a script that runs
out of it is ended.
-/

namespace NixContext.Program.Shell

/-- Ends the shell with a status. -/
def leave {α : Type} (status : Nat) : Run α := do
  modify fun st => { st with status := status }
  throw .exited

/-- Sets the status. -/
def finish (status : Nat) : Run Unit :=
  modify fun st => { st with status := status }

/-- Writes to the first descriptor. -/
def say (s : Octets) : Run Unit :=
  modify fun st => st.write st.one s

/-- Writes octets to the second descriptor. -/
def complain (s : Octets) : Run Unit :=
  modify fun st => st.write st.two s

/-- Writes a message with the name of the script and the line. -/
def report (message : Octets) : Run Unit := do
  let st ← get
  complain (st.name ++ octets ": " ++ decimalDigits st.line ++ octets ": " ++ message ++ ['\n'])

/-- Reports a message and ends the shell. -/
def abort {α : Type} (message : Octets) : Run α := do
  report message
  leave 2

/-- The number that an argument of a built-in command denotes. -/
def countOf (command s : Octets) : Run Nat :=
  if !s.isEmpty && s.all Char.isDigit then pure (digitsValue s)
  else abort (command ++ octets ": Illegal number: " ++ s)

/-- Answers a condition. -/
def testCommand (command : Octets) (args : List Octets) : Run Unit :=
  match condition (args.length + 1) args with
  | .ok b => finish (if b then 0 else 1)
  | .error e => do
    report (command ++ octets ": " ++ e.message)
    finish 2

/-- Sends a signal to the shell itself; other processes are not there. -/
def sendSignal (signal : Nat) (targets : List Octets) : Run Unit :=
  if targets.all (· == State.processNumber) then
    if isDeadly signal then throw (.killed signal) else finish 0
  else do
    report (octets "kill: No such process")
    finish 1

/-- The command that sends signals. -/
def killCommand : List Octets → Run Unit
  | ['-', 's'] :: name :: targets =>
    match signal? name with
    | some n => sendSignal n targets
    | none => abort (octets "kill: Illegal option -s")
  | ('-' :: o :: os) :: targets =>
    match signal? (o :: os) with
    | some n => sendSignal n targets
    | none => abort (octets "kill: Illegal option -" ++ [o])
  | targets => sendSignal 15 targets

/-- An argument of the form of an assignment: the name, and the value if there is one. -/
def assignmentOf (s : Octets) : Octets × Option Octets :=
  match s.dropWhile (· != '=') with
  | _ :: value => (s.takeWhile (· != '='), some value)
  | [] => (s, none)

/-- Passes variables on, with new values where they are given. -/
def exportCommand : List Octets → Run Unit
  | [] => finish 0
  | a :: as => do
    let (name, value) := assignmentOf a
    if !(name.headD ' ' |> isNameStart) || !name.all isNameChar then
      abort (octets "export: " ++ name ++ octets ": bad variable name")
    else do
      modify fun st => (match value with
        | some v => st.assign name v
        | none => st).share name
      exportCommand as

/-- Removes variables. -/
def unsetCommand (names : List Octets) : Run Unit := do
  modify fun st => { st with values := st.values.filter fun e => !names.contains e.1 }
  finish 0

/-- Drops parameters. -/
def shiftCommand (args : List Octets) : Run Unit := do
  let n ← match args with
    | [] => pure 1
    | a :: _ => countOf (octets "shift") a
  let st ← get
  if st.params.length < n then abort (octets "shift: can't shift that many")
  else do
    set { st with params := st.params.drop n }
    finish 0

/-- Replaces the parameters. -/
def setCommand (args : List Octets) : Run Unit := do
  match args with
  | ['-', '-'] :: rest => modify fun st => { st with params := rest }
  | ('-' :: _) :: _ => pure ()
  | ('+' :: _) :: _ => pure ()
  | [] => pure ()
  | args => modify fun st => { st with params := args }
  finish 0

/-- The built-in commands that leave the assignments in front of them in force. -/
def keepsAssignments (command : Octets) : Bool :=
  [":", "exit", "export", "unset", "shift", "set", "break", "continue", "return"].any
    fun n => octets n = command

/-- Leaves rounds of enclosing loops, if there are any. -/
def interrupt (command : Octets) (args : List Octets) (how : Nat → Interrupt) : Run Unit := do
  let n ← match args with
    | [] => pure 1
    | a :: _ => countOf command a
  let st ← get
  if st.loops = 0 then finish 0 else throw (how (min n st.loops))

/-- The built-in command of a name. -/
def builtIn? (command : Octets) (args : List Octets) : Option (Run Unit) :=
  let named (n : String) : Bool := octets n = command
  if named ":" || named "true" then some (finish 0)
  else if named "false" then some (finish 1)
  else if named "echo" then
    some do
      say (echoText args)
      finish 0
  else if named "printf" then
    some (match args with
      | [] => do
        report (octets "printf: usage: printf format [arg ...]")
        finish 2
      | f :: args => do
        say (formatText (args.length + 1) f args)
        finish 0)
  else if named "wait" || named "umask" then some (finish 0)
  else if named "exit" || named "return" then
    some (match args with
      | [] => throw .exited
      | a :: _ => do leave ((← countOf command a) % 256))
  else if named "test" then some (testCommand command args)
  else if named "[" then
    some (if args.getLast? = some [']'] then testCommand command args.dropLast
      else do
        report (octets "[: missing ]")
        finish 2)
  else if named "kill" then some (killCommand args)
  else if named "export" then some (exportCommand args)
  else if named "unset" then some (unsetCommand args)
  else if named "shift" then some (shiftCommand args)
  else if named "set" then some (setCommand args)
  else if named "break" then some (interrupt command args .broken)
  else if named "continue" then some (interrupt command args .continued)
  else none

/-- Redirects descriptors, one after the other. -/
def redirect (st : State) (rs : List Redirection) : State :=
  rs.foldl (fun st r =>
    let channel :=
      match r.destination with
      | .descriptor 1 => st.one
      | .descriptor 2 => st.two
      | .descriptor _ => .nowhere
      | .nowhere => .nowhere
    match r.descriptor with
    | 1 => { st with one := channel }
    | 2 => { st with two := channel }
    | _ => st) st

/-- Runs with redirected descriptors. -/
def redirected (rs : List Redirection) (run : Run Unit) : Run Unit := fun st =>
  match run (redirect st rs) with
  | .ok a after => .ok a { after with one := st.one, two := st.two }
  | .error e after => .error e { after with one := st.one, two := st.two }

/-- Runs in a shell of its own: only what it writes and its status are kept. -/
def isolated (run : Run Unit) : Run Unit := fun st =>
  let keep (after : State) : State :=
    { st with out := after.out, err := after.err, captured := after.captured,
              status := after.status }
  match run st with
  | .error (.killed n) after => .error (.killed n) (keep after)
  | .ok _ after | .error _ after => .ok () (keep after)

/-- Drops line breaks at the end of octets that stand in reverse. -/
def capturedText (reversed : Octets) : Octets :=
  (reversed.dropWhile (· == '\n')).reverse

/-- Runs in a shell of its own and gives what it writes. -/
def capturing (run : Run Unit) : Run Octets := fun st =>
  match isolated run { st with captured := [], one := .captured } with
  | .ok _ after =>
    .ok (capturedText after.captured)
      { after with captured := st.captured, one := st.one, two := st.two }
  | .error e after => .error e after

/-- Text that is split at blanks unless it is quoted. -/
def valuePiece (quoted : Bool) (s : Octets) : Piece :=
  if quoted then .whole s else .splittable s

/-- The pieces of a parameter. -/
def parameterPieces (st : State) (quoted : Bool) (name : Octets) : List Piece :=
  if name = ['@'] || (name = ['*'] && !quoted) then
    (st.params.map (valuePiece quoted)).intersperse .cut
  else
    match st.find? name with
    | some v => [valuePiece quoted v]
    | none => if quoted then [.whole []] else []

/-- Whether a word holds the output of a command. -/
def hasOutput (w : Word) : Bool :=
  w.any fun p => match p with
    | .output _ _ => true
    | _ => false

/-- How a program is started for a shell: its path, arguments and variables. -/
abbrev Starter := Octets → List Octets → List (Octets × Octets) → Except Failure Outcome

/-- Runs a program and takes over what it wrote; `label` goes before its name in messages. -/
def runProgram (start : Starter) (label command : Octets) (args : List Octets) : Run Unit := do
  let st ← get
  match start command args st.environment with
  | .ok o => do
    say o.stdout
    complain o.stderr
    finish (if o.status < 0 then 128 + o.status.natAbs else o.status.natAbs)
  | .error .notAllowed => do
    report (label ++ command ++ octets ": Permission denied")
    finish 126
  | .error _ => do
    report (label ++ command ++ octets ": not found")
    finish 127

/-- Runs a round of a loop, which tells whether there is another one. -/
def handleLoop (round : Run Bool) : Run Bool := fun st =>
  let back (after : State) : State := { after with loops := st.loops }
  match round { st with loops := st.loops + 1 } with
  | .ok again after => .ok again (back after)
  | .error (.broken n) after =>
    if n ≤ 1 then .ok false (back { after with status := 0 })
    else .error (.broken (n - 1)) (back after)
  | .error (.continued n) after =>
    if n ≤ 1 then .ok true (back { after with status := 0 })
    else .error (.continued (n - 1)) (back after)
  | .error e after => .error e (back after)

mutual

/-- Expands a part of a word. -/
def expandPart (start : Starter) : Nat → Part → Run (List Piece)
  | 0, _ => leave 2
  | _, .text _ s => pure [.whole s]
  | _, .value q name => do pure (parameterPieces (← get) q name)
  | _, .size q name => do
    pure [valuePiece q (decimalDigits (((← get).find? name).getD []).length)]
  | n + 1, .fallback q name emptyCounts operator word => do
    let st ← get
    let isSet :=
      match st.find? name with
      | some v => !(emptyCounts && v.isEmpty)
      | none => false
    match operator, isSet with
    | '+', true => expandWord start n word
    | '+', false => pure []
    | _, true => pure (parameterPieces st q name)
    | '-', false => expandWord start n word
    | '=', false => do
      let v := Piece.text (← expandWord start n word)
      modify fun st => st.assign name v
      pure [valuePiece q v]
    | _, false => do
      let m := Piece.text (← expandWord start n word)
      abort (name ++ octets ": " ++ if m.isEmpty then octets "parameter not set" else m)
  | n + 1, .arithmetic q word => do
    let s := Piece.text (← expandWord start n word)
    let st ← get
    match evaluate (fun name => (st.find? name).getD []) s with
    | .ok v => pure [valuePiece q (integerText v)]
    | .error e => abort (e.message ++ octets ": " ++ quotedToken s)
  | n + 1, .output q c => do
    pure [valuePiece q (← capturing (execute start n c))]

/-- Expands a word. -/
def expandWord (start : Starter) : Nat → List Part → Run (List Piece)
  | 0, _ => leave 2
  | _, [] => pure []
  | n + 1, p :: ps => do
    let a ← expandPart start n p
    let b ← expandWord start n ps
    pure (a ++ b)

/-- Expands words to fields. -/
def expandWords (start : Starter) : Nat → List Word → Run (List Octets)
  | 0, _ => leave 2
  | _, [] => pure []
  | n + 1, w :: ws => do
    let a ← expandWord start n w
    let b ← expandWords start n ws
    pure (Piece.fields none a ++ b)

/-- Carries out assignments; `shared` variables are passed on. -/
def assignAll (start : Starter) : Nat → Bool → List (Octets × Word) → Run Unit
  | 0, _, _ => leave 2
  | _, _, [] => pure ()
  | n + 1, shared, (name, w) :: as => do
    let v := Piece.text (← expandWord start n w)
    modify fun st => if shared then (st.assign name v).share name else st.assign name v
    assignAll start n shared as

/-- Runs a simple command whose words have been expanded. -/
def invoke (start : Starter) : Nat → List (Octets × Word) → List Octets → Run Unit
  | 0, _, _ => leave 2
  | n + 1, as, [] => do
    assignAll start n false as
    if !as.any fun a => hasOutput a.2 then finish 0
  | n + 1, as, command :: args => do
    let before ← get
    assignAll start n true as
    let restore : Run Unit :=
      if as.isEmpty || keepsAssignments command then pure ()
      else modify fun st =>
        { st with values := before.values, exported := before.exported }
    match builtIn? command args with
    | some run => do
      run
      restore
    | none =>
      if command = octets "exec" then
        match args with
        | [] => finish 0
        | c :: cs => do
          runProgram start (octets "exec: ") c cs
          throw .exited
      else do
        runProgram start [] command args
        restore

/-- Runs a command. -/
def execute (start : Starter) : Nat → Command → Run Unit
  | 0, _ => leave 2
  | _, .nothing => pure ()
  | n + 1, .simple line as ws rs => do
    modify fun st => { st with line := line }
    let fields ← expandWords start n ws
    if fields = [octets "exec"] then modify fun st => redirect st rs
    else redirected rs (invoke start n as fields)
  | n + 1, .sequence a b => do
    execute start n a
    execute start n b
  | n + 1, .both a b => do
    execute start n a
    if (← get).status = 0 then execute start n b
  | n + 1, .either a b => do
    execute start n a
    if (← get).status != 0 then execute start n b
  | n + 1, .negated c => do
    execute start n c
    finish (if (← get).status = 0 then 1 else 0)
  | n + 1, .branch c yes no => do
    execute start n c
    if (← get).status = 0 then execute start n yes
    else do
      finish 0
      execute start n no
  | n + 1, .loop goOn c body => repeatLoop start n goOn c body 0
  | n + 1, .each name words body => do
    let fields ←
      match words with
      | some ws => expandWords start n ws
      | none => do pure (← get).params
    finish 0
    forEach start n name body fields
  | n + 1, .group c rs => redirected rs (execute start n c)
  | n + 1, .subshell c rs => redirected rs (isolated (execute start n c))

/-- Runs a loop; `status` is that of the last round. -/
def repeatLoop (start : Starter) : Nat → Bool → Command → Command → Nat → Run Unit
  | 0, _, _, _, _ => leave 2
  | n + 1, goOn, c, body, status => do
    let again ← handleLoop do
      execute start n c
      if ((← get).status == 0) = goOn then do
        execute start n body
        pure true
      else do
        finish status
        pure false
    if again then do
      let st ← get
      repeatLoop start n goOn c body st.status

/-- Runs a command for each field. -/
def forEach (start : Starter) : Nat → Octets → Command → List Octets → Run Unit
  | 0, _, _, _ => leave 2
  | _, _, _, [] => pure ()
  | n + 1, name, body, v :: vs => do
    modify fun st => st.assign name v
    let again ← handleLoop do
      execute start n body
      pure true
    if again then forEach start n name body vs

end

end NixContext.Program.Shell
