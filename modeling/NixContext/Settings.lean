import NixContext.Hcl.Fold
import NixContext.Reference
import NixContext.Template.Render
import NixContext.Text.Lines

/-! # Settings files

A settings file is a template that renders to a settings text. The template sees the
variables of the process under one name and the values that the caller supplies, which come
later and may take that name.
-/

namespace NixContext.Settings

/-- A settings file: its path and what is stored there. -/
structure File where
  path : Path
  content : Option ByteArray

/-- Why a settings file has no value. -/
inductive Failure where
  | absent
  | notText
  | template (file : Path) (f : Template.Failure)
  | settings (f : Hcl.Failure)
  deriving DecidableEq, Repr

/-- The text of a failure where it has one of its own. -/
def Failure.message? : Failure → Option String
  | template file (.fault (.undefined m)) =>
    some (file.text ++ ": " ++ String.ofList m)
  | template _ (.fault (.badValue m)) => some (String.ofList m)
  | settings (.fault f) => f.message?
  | _ => none

/-- The variables of the process as a value. -/
def environmentValue (t : Table String) : Value :=
  .map (t.entries.map fun e => (.str e.1, .str e.2))

/-- The names that a template sees. -/
def names (environment : Table String) (context : Table Value) :
    List (List Char × Template.Datum) :=
  (context.entries.foldl (fun t e => t.insert e.1 e.2)
    (Table.ofList [("env", environmentValue environment)])).entries.map
      fun e => (e.1.toList, Template.Datum.ofValue e.2)

/-- The text of a settings file. -/
def File.text (f : File) : Except Failure (List Char) :=
  match f.content with
  | none => .error .absent
  | some bytes =>
    match Text.ofBytes? bytes with
    | none => .error .notText
    | some s => .ok s

/-- The value of the text of a settings file at a path. -/
def valueOf (path : Path) (source : List Char) (environment : Table String)
    (context : Table Value) : Except Failure Value := do
  let text ← (Template.render source (names environment context)).mapError (.template path)
  (Hcl.read text).mapError .settings

/-- The value of a settings file. -/
def load (f : File) (environment : Table String) (context : Table Value) :
    Except Failure Value := do
  let source ← f.text
  valueOf f.path source environment context

end NixContext.Settings
