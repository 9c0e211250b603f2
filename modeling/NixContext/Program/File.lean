import NixContext.Program.Outcome

/-! # Files that programs are started from

The programs that are there, by path, and the other paths that are known to exist. A name
without a slash is looked for in the directories of a search list.
-/

namespace NixContext.Program

/-- The programs that are there. -/
inductive Tool where
  | echo
  | env
  | shell
  | succeed
  | fail
  deriving DecidableEq, Repr

/-- The names of the tools in a directory of programs. -/
def Tool.named? : Octets → Option Tool
  | ['e', 'c', 'h', 'o'] => some echo
  | ['e', 'n', 'v'] => some env
  | ['s', 'h'] | ['d', 'a', 's', 'h'] => some shell
  | ['t', 'r', 'u', 'e'] => some succeed
  | ['f', 'a', 'l', 's', 'e'] => some fail
  | _ => none

/-- The directories that hold programs. -/
def programDirectories : List (List Octets) :=
  [[octets "bin"], [octets "usr", octets "bin"]]

/-- Directories that are there. -/
def knownDirectories : List String :=
  ["/", "/bin", "/dev", "/etc", "/home", "/lib", "/opt", "/proc", "/root", "/sbin", "/tmp", "/usr",
    "/usr/bin", "/usr/lib", "/usr/local", "/usr/local/bin", "/usr/local/sbin", "/usr/sbin",
    "/usr/share", "/var"]

/-- Files that are there and cannot be started. -/
def knownFiles : List String :=
  ["/etc/passwd", "/etc/group", "/etc/hosts", "/etc/hostname", "/etc/resolv.conf", "/etc/shadow",
    "/dev/null", "/dev/zero"]

/-- What a path leads to. -/
inductive Entry where
  | tool (t : Tool)
  | file
  | directory
  deriving DecidableEq, Repr

/-- Follows a component of a path from the components so far, which stand in reverse. -/
def descend (ps : List Octets) (p : Octets) : List Octets :=
  if p = [] ∨ p = ['.'] then ps else if p = ['.', '.'] then ps.tail else p :: ps

/-- The components of a path, without empty ones and dots. -/
def components (path : Octets) : List Octets :=
  ((path.splitOn '/').foldl descend []).reverse

/-- What the components of an absolute path lead to. -/
def entryAt (ps : List Octets) : Option Entry :=
  match programDirectories.contains ps.dropLast, ps.getLast?.bind Tool.named? with
  | true, some t => some (.tool t)
  | _, _ =>
    if (knownDirectories.map fun d => components (octets d)).contains ps then some .directory
    else if (knownFiles.map fun f => components (octets f)).contains ps then some .file
    else none

/-- What an absolute path leads to. -/
def lookUp (path : Octets) : Option Entry :=
  entryAt (components path)

/-- The tool at a path, or why it cannot be started. -/
def toolAt (path : Octets) : Except Failure Tool :=
  match lookUp path with
  | some (.tool t) => .ok t
  | some _ => .error .notAllowed
  | none =>
    match entryAt (components path).dropLast with
    | some .directory | none => .error .notFound
    | some _ => .error .notDirectory

/-- The first tool in directories; that one of them may not be started from is remembered. -/
def toolIn (name : Octets) : List Octets → Except Failure Tool
  | [] => .error .notFound
  | d :: ds =>
    match toolAt (d ++ '/' :: name), toolIn name ds with
    | .ok t, _ => .ok t
    | .error _, .ok t => .ok t
    | .error .notAllowed, _ => .error .notAllowed
    | .error _, .error f => .error f

/-- The tool of a name, looked for in the directories of `search` if it has no slash. -/
def toolOf (search : List Octets) (name : Octets) : Except Failure Tool :=
  if name.contains '/' then toolAt name else toolIn name search

/-- The directories of a search list. -/
def searchList (environment : List (Octets × Octets)) (default : String) : List Octets :=
  ((environment.lookup (octets "PATH")).getD (octets default)).splitOn ':'

end NixContext.Program
