import NixContext.Program.Shell.Syntax
import NixContext.Number.Notation

/-! # Reading shell scripts

A script is read one complete command at a time: a line, or as many lines as its compound
commands take. Every function is given more fuel than there are characters to read.
-/

namespace NixContext.Program.Shell

/-- A character that ends an unquoted word. -/
def endsWord (c : Char) : Bool :=
  [' ', '\t', '\n', ';', '&', '|', '<', '>', '(', ')'].contains c

/-- A character that can begin the name of a variable. -/
def isNameStart (c : Char) : Bool :=
  c.isAlpha || c = '_'

/-- A character of the name of a variable. -/
def isNameChar (c : Char) : Bool :=
  c.isAlphanum || c = '_'

/-- A parameter with a name of one special character. -/
def isSpecial (c : Char) : Bool :=
  ['@', '*', '#', '?', '$', '!', '-'].contains c

/-- Skips blanks, continued lines and a comment. -/
def skipBlanks : Octets → Octets
  | ' ' :: cs => skipBlanks cs
  | '\t' :: cs => skipBlanks cs
  | '\\' :: '\n' :: cs => skipBlanks cs
  | '#' :: cs => cs.dropWhile (· != '\n')
  | cs => cs

/-- Skips blanks, comments and line breaks. -/
def skipLines : Nat → Octets → Octets
  | 0, cs => cs
  | n + 1, cs =>
    match skipBlanks cs with
    | '\n' :: rest => skipLines n rest
    | rest => rest

/-- The words that stand for structure where a command may begin. -/
def reservedWords : List String :=
  ["if", "then", "else", "elif", "fi", "while", "until", "for", "do", "done", "\x7b", "\x7d", "!",
    "case", "esac", "in"]

/-- The words that cannot begin a command. -/
def closingWords : List String :=
  ["then", "else", "elif", "fi", "do", "done", "\x7d", "esac"]

/-- The plain characters up to the end of a word; nothing if some are quoted or replaced. -/
def plainWord (s : Octets) : Octets :=
  let w := s.takeWhile fun c => !endsWord c
  if w.any fun c => ['\'', '"', '\\', '$', '\x60'].contains c then [] else w

/-- The word at the front is the given one. -/
def startsWith (word : String) (s : Octets) : Bool :=
  plainWord s = octets word

/-- No command can begin here. -/
def closes (s : Octets) : Bool :=
  match s with
  | [] => true
  | ')' :: _ => true
  | ';' :: ';' :: _ => true
  | s => closingWords.any fun w => startsWith w s

/-- What stands at the front, as an error names it. -/
def describe : Octets → Octets
  | [] => octets "end of file"
  | '\n' :: _ => octets "newline"
  | ';' :: ';' :: _ => quotedToken [';', ';']
  | '&' :: '&' :: _ => quotedToken ['&', '&']
  | '|' :: '|' :: _ => quotedToken ['|', '|']
  | '<' :: _ => octets "redirection"
  | '>' :: _ => octets "redirection"
  | c :: cs =>
    if endsWord c then quotedToken [c]
    else if reservedWords.any fun w => startsWith w (c :: cs) then quotedToken (plainWord (c :: cs))
    else octets "word"

/-- The error that what stands at the front cannot stand there. -/
def unexpected (s : Octets) (expecting : Option String) : SyntaxError :=
  .unexpected (describe s) (expecting.map octets)

/-- Reads a given word where a command may begin. -/
def expectWord (word : String) (s : Octets) : Except SyntaxError Octets :=
  let s := skipLines (s.length + 1) s
  if startsWith word s then .ok (s.drop (octets word).length)
  else .error (unexpected s (some word))

/-- The number of the line on which the rest of a script begins. -/
def lineOf (breaks : Nat) (rest : Octets) : Nat :=
  1 + (breaks - rest.count '\n')

/-- Where a file takes a descriptor. -/
def fileDestination (name : Octets) : Destination :=
  if name = octets "/dev/stderr" then .descriptor 2
  else if name = octets "/dev/stdout" then .descriptor 1
  else .nowhere

/-- The text between backward quotes, where a backslash protects three characters, and a
double quote too if the whole is quoted. -/
def backquoted (quoted : Bool) : Octets → Except SyntaxError (Octets × Octets)
  | [] => .error .unterminatedCommand
  | '\x60' :: cs => .ok ([], cs)
  | '\\' :: c :: cs => do
    let (s, rest) ← backquoted quoted cs
    let isProtected := ['$', '\x60', '\\'].contains c || (quoted && c = '"')
    pure (if isProtected then (c :: s, rest) else ('\\' :: c :: s, rest))
  | c :: cs => do
    let (s, rest) ← backquoted quoted cs
    pure (c :: s, rest)

/-- Puts a part in front of a word. -/
def prepend (p : Part) (r : Word × Octets) : Word × Octets :=
  (p :: r.1, r.2)

mutual

/-- Reads a word. -/
def readWord (breaks : Nat) : Nat → Octets → Except SyntaxError (Word × Octets)
  | 0, _ => .error (unexpected [] none)
  | _, [] => .ok ([], [])
  | n + 1, '\\' :: '\n' :: cs => readWord breaks n cs
  | n + 1, '\\' :: c :: cs => (readWord breaks n cs).map (prepend (.text true [c]))
  | n + 1, '\'' :: cs =>
    match cs.dropWhile (· != '\'') with
    | _ :: rest =>
      (readWord breaks n rest).map (prepend (.text true (cs.takeWhile (· != '\''))))
    | [] => .error .unterminatedQuote
  | n + 1, '"' :: cs => do
    let (ps, rest) ← readQuoted breaks n cs
    let (qs, rest) ← readWord breaks n rest
    pure ((if ps.isEmpty then [.text true []] else ps) ++ qs, rest)
  | n + 1, '$' :: cs => do
    let (p, rest) ← readDollar breaks n false cs
    (readWord breaks n rest).map (prepend p)
  | n + 1, '\x60' :: cs => do
    let (s, rest) ← backquoted false cs
    let (c, _) ← readList breaks n s
    (readWord breaks n rest).map (prepend (.output false c))
  | n + 1, c :: cs =>
    if endsWord c then .ok ([], c :: cs)
    else (readWord breaks n cs).map (prepend (.text false [c]))

/-- Reads the parts up to a double quote. -/
def readQuoted (breaks : Nat) : Nat → Octets → Except SyntaxError (Word × Octets)
  | 0, _ => .error (unexpected [] none)
  | _, [] => .error .unterminatedQuote
  | _, '"' :: cs => .ok ([], cs)
  | n + 1, '\\' :: '\n' :: cs => readQuoted breaks n cs
  | n + 1, '\\' :: c :: cs =>
    let s := if ['$', '\x60', '"', '\\'].contains c then [c] else ['\\', c]
    (readQuoted breaks n cs).map (prepend (.text true s))
  | n + 1, '$' :: cs => do
    let (p, rest) ← readDollar breaks n true cs
    (readQuoted breaks n rest).map (prepend p)
  | n + 1, '\x60' :: cs => do
    let (s, rest) ← backquoted true cs
    let (c, _) ← readList breaks n s
    (readQuoted breaks n rest).map (prepend (.output true c))
  | n + 1, c :: cs => (readQuoted breaks n cs).map (prepend (.text true [c]))

/-- Reads what follows a dollar sign. -/
def readDollar (breaks : Nat) : Nat → Bool → Octets → Except SyntaxError (Part × Octets)
  | 0, _, _ => .error (unexpected [] none)
  | n + 1, q, '(' :: '(' :: cs => do
    let (w, rest) ← readArithmetic breaks n 0 cs
    pure (.arithmetic q w, rest)
  | n + 1, q, '(' :: cs => do
    let (c, rest) ← readList breaks n cs
    match rest with
    | ')' :: rest => pure (.output q c, rest)
    | rest => .error (unexpected rest (some ")"))
  | n + 1, q, '\x7b' :: cs => readBraced breaks n q cs
  | _, q, c :: cs =>
    if isNameStart c then
      .ok (.value q ((c :: cs).takeWhile isNameChar), (c :: cs).dropWhile isNameChar)
    else if c.isDigit || isSpecial c then .ok (.value q [c], cs)
    else .ok (.text q ['$'], c :: cs)
  | _, q, [] => .ok (.text q ['$'], [])

/-- Reads a parameter between braces. -/
def readBraced (breaks : Nat) : Nat → Bool → Octets → Except SyntaxError (Part × Octets)
  | 0, _, _ => .error (unexpected [] none)
  | n + 1, q, cs =>
    let (sized, cs) : Bool × Octets :=
      match cs with
      | '#' :: '\x7d' :: _ => (false, cs)
      | '#' :: rest => (true, rest)
      | _ => (false, cs)
    let (name, rest) : Octets × Octets :=
      match cs with
      | c :: rest =>
        if isSpecial c then ([c], rest)
        else if c.isDigit then (cs.takeWhile Char.isDigit, cs.dropWhile Char.isDigit)
        else (cs.takeWhile isNameChar, cs.dropWhile isNameChar)
      | [] => ([], [])
    if name.isEmpty then .error (if rest.isEmpty then .missingBrace else .badSubstitution)
    else
      match sized, rest with
      | true, '\x7d' :: rest => .ok (.size q name, rest)
      | false, '\x7d' :: rest => .ok (.value q name, rest)
      | false, ':' :: o :: rest =>
        if ['-', '=', '+', '?'].contains o then do
          let (w, rest) ← readBracedWord breaks n q rest
          pure (.fallback q name true o w, rest)
        else .error .badSubstitution
      | false, o :: rest =>
        if ['-', '=', '+', '?'].contains o then do
          let (w, rest) ← readBracedWord breaks n q rest
          pure (.fallback q name false o w, rest)
        else .error .badSubstitution
      | _, [] => .error .missingBrace
      | _, _ => .error .badSubstitution

/-- Reads a word up to a closing brace. -/
def readBracedWord (breaks : Nat) : Nat → Bool → Octets → Except SyntaxError (Word × Octets)
  | 0, _, _ => .error (unexpected [] none)
  | _, _, [] => .error .missingBrace
  | _, _, '\x7d' :: cs => .ok ([], cs)
  | n + 1, q, '\\' :: c :: cs =>
    (readBracedWord breaks n q cs).map (prepend (.text true [c]))
  | n + 1, q, '"' :: cs => do
    let (ps, rest) ← readQuoted breaks n cs
    let (qs, rest) ← readBracedWord breaks n q rest
    pure ((if ps.isEmpty then [.text true []] else ps) ++ qs, rest)
  | n + 1, q, '$' :: cs => do
    let (p, rest) ← readDollar breaks n q cs
    (readBracedWord breaks n q rest).map (prepend p)
  | n + 1, q, '\'' :: cs =>
    if q then (readBracedWord breaks n q cs).map (prepend (.text q ['\'']))
    else
      match cs.dropWhile (· != '\'') with
      | _ :: rest =>
        (readBracedWord breaks n q rest).map (prepend (.text true (cs.takeWhile (· != '\''))))
      | [] => .error .unterminatedQuote
  | n + 1, q, c :: cs => (readBracedWord breaks n q cs).map (prepend (.text q [c]))

/-- Reads an arithmetic expression up to its closing brackets, `depth` of them inside open. -/
def readArithmetic (breaks : Nat) : Nat → Nat → Octets → Except SyntaxError (Word × Octets)
  | 0, _, _ => .error (unexpected [] none)
  | _, _, [] => .error .missingBrackets
  | _, 0, ')' :: ')' :: cs => .ok ([], cs)
  | n + 1, depth, '$' :: cs => do
    let (p, rest) ← readDollar breaks n true cs
    (readArithmetic breaks n depth rest).map (prepend p)
  | n + 1, depth, c :: cs =>
    let depth := if c = '(' then depth + 1 else if c = ')' then depth - 1 else depth
    (readArithmetic breaks n depth cs).map (prepend (.text true [c]))

/-- Reads a list of commands up to what cannot begin a command. -/
def readList (breaks : Nat) : Nat → Octets → Except SyntaxError (Command × Octets)
  | 0, _ => .error (unexpected [] none)
  | n + 1, cs => do
    let cs := skipLines (cs.length + 1) cs
    if closes cs then .ok (.nothing, cs)
    else do
      let (c, rest) ← readAndOr breaks n cs
      let rest := skipBlanks rest
      let again (rest : Octets) : Except SyntaxError (Command × Octets) := do
        let (d, rest) ← readList breaks n rest
        pure (.sequence c d, rest)
      match rest with
      | ';' :: ';' :: _ => .ok (c, rest)
      | ';' :: rest => again rest
      | '&' :: rest => again rest
      | '\n' :: rest => again rest
      | rest => .ok (c, rest)

/-- Reads a list that holds a command, and the word after it. -/
def readClause (breaks : Nat) : Nat → List String → Octets →
    Except SyntaxError (Command × Octets)
  | 0, _, _ => .error (unexpected [] none)
  | n + 1, ends, cs => do
    let start := skipLines (cs.length + 1) cs
    let (c, rest) ← readList breaks n cs
    if closes start then .error (unexpected start (if start.isEmpty then ends.head? else none))
    else if ends.any fun w => startsWith w rest then pure (c, rest)
    else .error (unexpected rest ends.head?)

/-- Reads commands joined by signs for both or either. -/
def readAndOr (breaks : Nat) : Nat → Octets → Except SyntaxError (Command × Octets)
  | 0, _ => .error (unexpected [] none)
  | n + 1, cs => do
    let (c, rest) ← readNegated breaks n cs
    readAndOrRest breaks n c rest

/-- Reads the commands after the first that are joined to it. -/
def readAndOrRest (breaks : Nat) : Nat → Command → Octets →
    Except SyntaxError (Command × Octets)
  | 0, _, _ => .error (unexpected [] none)
  | n + 1, c, cs =>
    match skipBlanks cs with
    | '&' :: '&' :: rest => do
      let (d, rest) ← readNegated breaks n (skipLines (rest.length + 1) rest)
      readAndOrRest breaks n (.both c d) rest
    | '|' :: '|' :: rest => do
      let (d, rest) ← readNegated breaks n (skipLines (rest.length + 1) rest)
      readAndOrRest breaks n (.either c d) rest
    | rest => .ok (c, rest)

/-- Reads a command whose status may be inverted. -/
def readNegated (breaks : Nat) : Nat → Octets → Except SyntaxError (Command × Octets)
  | 0, _ => .error (unexpected [] none)
  | n + 1, cs =>
    let cs := skipBlanks cs
    if startsWith "!" cs then do
      let (c, rest) ← readNegated breaks n (cs.drop 1)
      pure (.negated c, rest)
    else readCommand breaks n cs

/-- Reads a compound or a simple command. -/
def readCommand (breaks : Nat) : Nat → Octets → Except SyntaxError (Command × Octets)
  | 0, _ => .error (unexpected [] none)
  | n + 1, cs =>
    let cs := skipBlanks cs
    if startsWith "if" cs then readBranch breaks n (cs.drop 2)
    else if startsWith "while" cs then readLoop breaks n true (cs.drop 5)
    else if startsWith "until" cs then readLoop breaks n false (cs.drop 5)
    else if startsWith "for" cs then readEach breaks n (cs.drop 3)
    else if startsWith "\x7b" cs then do
      let (c, rest) ← readClause breaks n ["\x7d"] (cs.drop 1)
      let (rs, rest) ← readRedirections breaks n (rest.drop 1)
      pure (.group c rs, rest)
    else
      match cs with
      | '(' :: cs => do
        let (c, rest) ← readList breaks n cs
        match c, rest with
        | .nothing, rest => .error (unexpected rest none)
        | c, ')' :: rest => do
          let (rs, rest) ← readRedirections breaks n rest
          pure (.subshell c rs, rest)
        | _, rest => .error (unexpected rest (some ")"))
      | cs =>
        if closes cs then .error (unexpected cs none)
        else do
          let (as, ws, rs, rest) ← readSimple breaks n true cs
          if as.isEmpty && ws.isEmpty && rs.isEmpty then .error (unexpected rest none)
          else pure (.simple (lineOf breaks cs) as ws rs, rest)

/-- Reads what follows the word that begins a branch. -/
def readBranch (breaks : Nat) : Nat → Octets → Except SyntaxError (Command × Octets)
  | 0, _ => .error (unexpected [] none)
  | n + 1, cs => do
    let (c, rest) ← readClause breaks n ["then"] cs
    let (yes, rest) ← readClause breaks n ["fi", "else", "elif"] (rest.drop 4)
    if startsWith "elif" rest then do
      let (no, rest) ← readBranch breaks n (rest.drop 4)
      pure (.branch c yes no, rest)
    else if startsWith "else" rest then do
      let (no, rest) ← readClause breaks n ["fi"] (rest.drop 4)
      pure (.branch c yes no, rest.drop 2)
    else pure (.branch c yes .nothing, rest.drop 2)

/-- Reads what follows the word that begins a loop. -/
def readLoop (breaks : Nat) : Nat → Bool → Octets → Except SyntaxError (Command × Octets)
  | 0, _, _ => .error (unexpected [] none)
  | n + 1, goOn, cs => do
    let (c, rest) ← readClause breaks n ["do"] cs
    let (body, rest) ← readClause breaks n ["done"] (rest.drop 2)
    pure (.loop goOn c body, rest.drop 4)

/-- Reads what follows the word that begins a loop over words. -/
def readEach (breaks : Nat) : Nat → Octets → Except SyntaxError (Command × Octets)
  | 0, _ => .error (unexpected [] none)
  | n + 1, cs => do
    let cs := skipBlanks cs
    let name := plainWord cs
    if !(name.headD ' ' |> isNameStart) || !name.all isNameChar then .error .badLoopName
    else do
      let afterName := cs.drop name.length
      let next := skipLines (afterName.length + 1) afterName
      let (words, rest) ← (if startsWith "in" next then do
          let (_, ws, _, rest) ← readSimple breaks n false (next.drop 2)
          pure (some ws, rest)
        else pure (none, afterName) : Except SyntaxError (Option (List Word) × Octets))
      let rest :=
        match skipBlanks rest with
        | ';' :: rest => rest
        | rest => rest
      let rest ← expectWord "do" rest
      let (body, rest) ← readClause breaks n ["done"] rest
      pure (.each name words body, rest.drop 4)

/-- Reads redirections behind a compound command. -/
def readRedirections (breaks : Nat) : Nat → Octets →
    Except SyntaxError (List Redirection × Octets)
  | 0, _ => .error (unexpected [] none)
  | n + 1, cs =>
    let s := skipBlanks cs
    let ds := s.takeWhile Char.isDigit
    match s.dropWhile Char.isDigit with
    | '>' :: rest => do
      let (r, rest) ← readRedirection breaks n (if ds.isEmpty then 1 else digitsValue ds) rest
      let (rs, rest) ← readRedirections breaks n rest
      pure (r :: rs, rest)
    | '<' :: rest => do
      let (_, rest) ← readRedirection breaks n 0 rest
      readRedirections breaks n rest
    | _ => .ok ([], cs)

/-- Reads the destination of a redirection, behind its sign. -/
def readRedirection (breaks : Nat) : Nat → Nat → Octets →
    Except SyntaxError (Redirection × Octets)
  | 0, _, _ => .error (unexpected [] none)
  | n + 1, descriptor, cs => do
    let (duplicate, cs) : Bool × Octets :=
      match cs with
      | '&' :: cs => (true, cs)
      | '>' :: cs => (false, cs)
      | '|' :: cs => (false, cs)
      | cs => (false, cs)
    let cs := skipBlanks cs
    let (w, rest) ← readWord breaks n cs
    if w.isEmpty then .error (unexpected rest none)
    else
      let name := plainWord cs
      if duplicate then
        if name.all Char.isDigit then
          pure (⟨descriptor, .descriptor (digitsValue name)⟩, rest)
        else pure (⟨descriptor, .nowhere⟩, rest)
      else pure (⟨descriptor, fileDestination name⟩, rest)

/-- Reads the assignments, words and redirections of a simple command. -/
def readSimple (breaks : Nat) : Nat → Bool → Octets →
    Except SyntaxError (List (Octets × Word) × List Word × List Redirection × Octets)
  | 0, _, _ => .error (unexpected [] none)
  | n + 1, assigning, cs => do
    let s := skipBlanks cs
    let (rs, rest) ← readRedirections breaks n s
    if !rs.isEmpty || rest.length < s.length then do
      let (as, ws, more, rest) ← readSimple breaks n assigning rest
      pure (as, ws, rs ++ more, rest)
    else
      match s with
      | [] => .ok ([], [], [], [])
      | c :: _ =>
        if endsWord c then .ok ([], [], [], s)
        else
          let name := s.takeWhile isNameChar
          match s.dropWhile isNameChar with
          | '=' :: value =>
            if assigning && isNameStart c then do
              let (w, rest) ← readWord breaks n value
              let (as, ws, rs, rest) ← readSimple breaks n true rest
              pure ((name, w) :: as, ws, rs, rest)
            else do
              let (w, rest) ← readWord breaks n s
              let (as, ws, rs, rest) ← readSimple breaks n false rest
              pure (as, w :: ws, rs, rest)
          | _ => do
            let (w, rest) ← readWord breaks n s
            let (as, ws, rs, rest) ← readSimple breaks n false rest
            pure (as, w :: ws, rs, rest)

end

/-- Reads the commands of a line: nothing is left of an empty script. -/
def readLine (breaks : Nat) : Nat → Octets → Except SyntaxError (Command × Octets)
  | 0, _ => .error (unexpected [] none)
  | n + 1, cs => do
    let (c, rest) ← readAndOr breaks (16 * cs.length + 64) cs
    let again (rest : Octets) : Except SyntaxError (Command × Octets) :=
      match skipBlanks rest with
      | [] => .ok (c, [])
      | '\n' :: rest => .ok (c, rest)
      | rest => do
        let (d, rest) ← readLine breaks n rest
        pure (.sequence c d, rest)
    match skipBlanks rest with
    | [] => .ok (c, [])
    | '\n' :: rest => .ok (c, rest)
    | ';' :: ';' :: rest => .error (unexpected (';' :: ';' :: rest) none)
    | ';' :: rest => again rest
    | '&' :: rest => again rest
    | rest => .error (unexpected rest none)

/-- The next complete command of a script and what follows it; nothing at the end. -/
def nextCommand (breaks : Nat) (s : Octets) : Except SyntaxError (Option (Command × Octets)) :=
  let s := skipLines (s.length + 1) s
  if s.isEmpty then .ok none else (readLine breaks (s.length + 1) s).map some

end NixContext.Program.Shell
