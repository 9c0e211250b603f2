import NixContext.Validation.Issue
import NixContext.Table

/-! # Checks of single values

What is accepted as a truth value, a text, a path or a collection of texts, and as a record
of named fields.
-/

namespace NixContext.Check

variable {α : Type}

/-- The words that stand for true. -/
def trueWords : List String :=
  ["1", "on", "t", "true", "y", "yes"]

/-- The words that stand for false. -/
def falseWords : List String :=
  ["0", "off", "f", "false", "n", "no"]

/-- The truth value that a whole number stands for. -/
def truthOfInt (i : Int) : Checked Bool :=
  if i = 0 then .ok false
  else if i = 1 then .ok true
  else .fail .unreadableTruth

/-- A whole number that fits into 64 bits with its sign. -/
def isWordSized (i : Int) : Bool :=
  -0x8000000000000000 ≤ i && i < 0x8000000000000000

/-- A whole double strictly between the bounds of 64 bits with their sign. -/
def isWordSizedWhole (x : Double) : Bool :=
  x.isWhole && -0x8000000000000000 < x.truncate && x.truncate < 0x8000000000000000

/-- A truth value, zero or one, or a word for one of them. -/
def truth : Value → Checked Bool
  | .bool b => .ok b
  | .int i => if isWordSized i then truthOfInt i else .fail .notTruth
  | .float x => if isWordSizedWhole x then truthOfInt x.truncate else .fail .notTruth
  | .str s =>
    let w := s.map Char.toLower
    if falseWords.contains w then .ok false
    else if trueWords.contains w then .ok true
    else .fail .unreadableTruth
  | _ => .fail .notTruth

/-- A text. -/
def text : Value → Checked String
  | .str s => .ok s
  | _ => .fail .notText

/-- A path, or a text that names one. -/
def path : Value → Checked Path
  | .str s => .ok (Path.ofText s)
  | .path p => .ok p
  | _ => .fail .notPath

/-- A list or a tuple of texts; `c` is the cause when it is neither. -/
def texts (c : Cause) : Value → Checked (List String)
  | .list xs => Checked.items text 0 xs
  | .tuple xs => Checked.items text 0 xs
  | _ => .fail c

/-- Null, or what the check accepts. -/
def orNull (check : Value → Checked α) : Value → Checked (Option α)
  | .null => .ok none
  | v => (check v).map some

/-- The entry of a map from texts to texts. -/
def textEntry (k v : Value) : Checked (String × String) :=
  Checked.also (((text k).under .keyItself).under (.key k) |>.map Prod.mk)
    ((text v).under (.key k))

/-- The entries of a map from texts to texts, in order. -/
def textEntries : List (Value × Value) → Checked (List (String × String))
  | [] => .ok []
  | (k, v) :: es => Checked.also ((textEntry k v).map List.cons) (textEntries es)

/-- A map from texts to texts. -/
def textMap : Value → Checked (Table String)
  | .map es => (textEntries es).map Table.ofList
  | _ => .fail .notMap

/-- A field that must be there. -/
def required (name : String) (check : Value → Checked α) (es : List (Value × Value)) :
    Checked α :=
  match Value.findEntry (.str name) es with
  | some v => (check v).under (.field name)
  | none => (Checked.fail .missing).under (.field name)

/-- A field that may be left out. -/
def optional (name : String) (check : Value → Checked α) (default : α)
    (es : List (Value × Value)) : Checked α :=
  match Value.findEntry (.str name) es with
  | some v => (check v).under (.field name)
  | none => .ok default

/-- The issue with an entry that is no field of the record. -/
def strayIssue? (names : List String) (k : Value) : Option Issue :=
  match k with
  | .str s => if names.contains s then none else some ⟨.unexpected, [.field s]⟩
  | k => some ⟨.badKey, [.key k]⟩

/-- The issues with entries that are no fields of the record, in order. -/
def strayIssues (names : List String) (es : List (Value × Value)) : List Issue :=
  es.filterMap fun e => strayIssue? names e.1

/-- A record, given the check of its entries. -/
def record (check : List (Value × Value) → Checked α) : Value → Checked α
  | .map es => check es
  | _ => .fail .notRecord

end NixContext.Check
