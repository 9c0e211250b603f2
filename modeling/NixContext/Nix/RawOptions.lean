import NixContext.Nix.Options
import NixContext.Value.Raw

/-! # Options from raw values

Options whose texts are raw. Raw texts are taken as paths and as entries like any other, but no
raw text that cannot be encoded is reported: if it would have to be named as no entry, nothing can
be built and nothing can be reported, and if it is a name that is none, this is all that is
reported.
-/

namespace NixContext

namespace RawValue

/-- A truth value, zero or one, or a word for one of them. -/
def truth : RawValue → Checked Bool
  | bool b => Check.truth (.bool b)
  | int i => Check.truth (.int i)
  | float x => Check.truth (.float x)
  | str s =>
    match s.string? with
    | some t => Check.truth (.str t)
    | none => .fail .illFormedText
  | _ => .fail .notTruth

/-- A path, or a text that names one. -/
def rawPath : RawValue → Checked RawPath
  | str s => .ok (.ofText s)
  | path p => .ok p
  | _ => .fail .notPath

/-- A text. -/
def text : RawValue → Checked RawText
  | str s => .ok s
  | _ => .fail .notText

/-- A list or a tuple of texts. -/
def texts : RawValue → Checked (List RawText)
  | list xs => Checked.items text 0 xs
  | tuple xs => Checked.items text 0 xs
  | _ => .fail .notTuple

end RawValue

namespace Nix

/-- The value of an option. -/
inductive RawOptionValue where
  | truth (b : Bool)
  | path (p : RawPath)
  | entries (s : RawEntrySet)
  deriving DecidableEq

/-- The text of an option's value: entries are separated by single blanks. -/
def RawOptionValue.text : RawOptionValue → RawText
  | truth b => .ofString (if b then "true" else "false")
  | path p => p.chars
  | entries s => [RawChar.char ' '].intercalate s.entries

/-- Values for the options, where they are set, under the names of the fields in order. -/
structure RawOptions where
  fields : List (String × Option RawOptionValue)
  names : fields.map Prod.fst = Options.fieldNames
  deriving DecidableEq

namespace RawOptions

open Options (Kind BuildFailure)

/-- The flags of a field. -/
def fieldArgs : String × Option RawOptionValue → List RawText
  | (name, some v) => [.ofString "--option", .ofString (optionName name), v.text]
  | (_, none) => []

/-- The flags of the options that are set, in order. -/
def toArgs (o : RawOptions) : List RawText :=
  o.fields.flatMap fieldArgs

/-- The set of the given texts; the first text that is no entry is reported, if that is possible. -/
def entrySet (es : List RawText) : Except BuildFailure (Checked RawEntrySet) :=
  match EntrySetOf.ofList isRawEntry es with
  | .ok s => .ok (.ok s)
  | .error e =>
    match e.string? with
    | some d => .ok (.fail (.badEntry d))
    | none => .error .unencodable

/-- What a value is for an option of some kind; null is none. -/
def read : Kind → RawValue → Except BuildFailure (Checked (Option RawOptionValue))
  | _, .null => .ok (.ok none)
  | .truth, v => .ok (v.truth.map fun b => some (.truth b))
  | .path, v => .ok (v.rawPath.map fun p => some (.path p))
  | .entries, v =>
    match v.texts with
    | .ok es => (entrySet es).map (Except.map fun s => some (.entries s))
    | .error is => .ok (.error is)

/-- The value that is given under the name of a field. -/
def given? (es : List (RawText × RawValue)) (name : String) : Option RawValue :=
  es.lookup (.ofString name)

/-- The field of a name and a kind. -/
def readField (es : List (RawText × RawValue)) (f : String × Kind) :
    Except BuildFailure (Checked (Option RawOptionValue)) :=
  match given? es f.1 with
  | some v => (read f.2 v).map (Checked.under (.field f.1))
  | none => .ok (.ok none)

/-- All fields, one after the other; the issues of all of them are kept. -/
def readFields (es : List (RawText × RawValue)) : (fs : List (String × Kind)) →
    Except BuildFailure
      (Checked { vs : List (String × Option RawOptionValue) // vs.map Prod.fst = fs.map Prod.fst })
  | [] => .ok (.ok ⟨[], rfl⟩)
  | f :: fs => do
    let c ← readField es f
    let cs ← readFields es fs
    pure (Checked.also (c.map fun v vs => ⟨(f.1, v) :: vs.1, by rw [List.map_cons, vs.2]; rfl⟩) cs)

/-- The given names that are none of a field. -/
def strayNames (es : List (RawText × RawValue)) : List RawText :=
  (es.map Prod.fst).filter (· ∉ Options.fieldNames.map RawText.ofString)

/-- The issues with names that are none of a field. -/
def strayIssues (names : List String) : List Issue :=
  names.map fun n => ⟨.unexpected, [.field n]⟩

/-- The options that were read, unless there are names that are none of a field. One that cannot be
encoded is reported alone. -/
def refuseStray (options : Checked RawOptions) (stray : List RawText) :
    Except BuildFailure RawOptions :=
  match stray.mapM RawText.string? with
  | some names => (options.guarded (strayIssues names)).mapError .rejected
  | none => .error (.rejected [⟨.illFormedText, []⟩])

/-- Options from named values, unless one of them has the reserved name. -/
def build (es : List (RawText × RawValue)) : Except BuildFailure RawOptions :=
  if es.any (fun e => e.1 = .ofString Options.reservedName) then .error .reservedName
  else do
    let fields ← readFields es Options.kinds
    refuseStray (fields.map fun vs => ⟨vs.1, vs.2⟩) (strayNames es)

end RawOptions

end Nix

end NixContext
