import NixContext.Template.Operators
import NixContext.Text.Case
import NixContext.Text.Blank
import NixContext.Text.Replace
import NixContext.Value.Json

/-! # Filters and tests

A filter maps a datum and arguments to a datum, a test maps them to a truth value. Arguments
are matched to parameters by position and by name.
-/

namespace NixContext.Template

/-- The filters. -/
inductive Filter where
  | default | upper | lower | join | length | first | last | replace | trim | abs | int | list
  | reverse | tojson
  deriving DecidableEq, Repr

/-- The tests. -/
inductive Test where
  | defined | undefined | none | odd | even | string | number | mapping
  deriving DecidableEq, Repr

namespace Filter

/-- The filter with a name. -/
def ofName? (name : List Char) : Option Filter :=
  [("default", default), ("d", default), ("upper", upper), ("lower", lower), ("join", join),
    ("length", length), ("count", length), ("first", first), ("last", last),
    ("replace", replace), ("trim", trim), ("abs", abs), ("int", int), ("list", list),
    ("reverse", reverse), ("tojson", tojson)].lookup (String.ofList name)

/-- The parameters of a filter after the datum that it is applied to. -/
def parameters : Filter → List String
  | default => ["default_value", "boolean"]
  | join => ["d", "attribute"]
  | replace => ["old", "new", "count"]
  | trim => ["chars"]
  | int => ["default", "base"]
  | tojson => ["indent"]
  | _ => []

/-- Matches arguments to parameters; a parameter may stay without an argument. -/
def bind? (named : List (List Char × Datum)) : List String → List Datum →
    Option (List (Option Datum))
  | [], [] => some []
  | [], _ :: _ => none
  | p :: ps, d :: ds =>
    if (named.lookup p.toList).isSome then none else (bind? named ps ds).map (some d :: ·)
  | p :: ps, [] => (bind? named ps []).map (named.lookup p.toList :: ·)

/-- The text of a datum with the characters of a set dropped at both ends. -/
def strip (chars : Option Datum) (s : List Char) : Except Fault (List Char) :=
  match chars with
  | .none | some .null => .ok (Text.trim s)
  | some (.str cs) =>
    .ok ((s.dropWhile cs.contains).reverse.dropWhile cs.contains).reverse
  | some _ => .error .typeMismatch

/-- The first item, or a failed look-up. -/
def firstOf : List Datum → Datum
  | x :: _ => x
  | [] => .undefined "No first item, sequence was empty.".toList

/-- The last item, or a failed look-up. -/
def lastOf (xs : List Datum) : Datum :=
  xs.getLast?.getD (.undefined "No last item, sequence was empty.".toList)

/-- The items from the end to the front; sequences that are already reversed have none. -/
def reversedItems (d : Datum) : Except Fault (List Datum) :=
  match d with
  | .sequence _ => .error .typeMismatch
  | .absent _ => .ok []
  | d => do pure (← d.items).reverse

/-- The whole number that a datum is read as. -/
def wholeOf? : Datum → Except Fault (Option Int)
  | .bool b => .ok (some b.toInt)
  | .int i => .ok (some i)
  | .float x => .ok (if x.isFinite then some x.truncate else .none)
  | .str s =>
    let s := Text.plainDigits s
    match readInt? s with
    | some i => .ok (some i)
    | .none =>
      match readDouble? s with
      | some x => .ok (if x.isFinite then some x.truncate else .none)
      | .none => .ok .none
  | .undefined m => .error (.undefined m)
  | .absent m => .error (.undefined m)
  | _ => .ok .none

/-- Replaces the first `n` occurrences of a non-empty text. -/
def replaceFirst (pat rep : List Char) : Nat → Nat → List Char → List Char
  | _, _, [] => []
  | n, skip + 1, _ :: cs => replaceFirst pat rep n skip cs
  | 0, 0, cs => cs
  | n + 1, 0, c :: cs =>
    if pat.isPrefixOf (c :: cs) then
      rep ++ replaceFirst pat rep n (pat.length - 1) cs
    else c :: replaceFirst pat rep (n + 1) 0 cs

/-- Replaces occurrences of a text, all of them or a number from the left. -/
def substitute (pat rep : List Char) (count : Option Datum) (s : List Char) :
    Except Fault (List Char) :=
  match count with
  | .none | some .null => .ok (Text.replaceAll pat rep s)
  | some d =>
    match d.number? with
    | some (.whole i) =>
      if i < 0 then .ok (Text.replaceAll pat rep s)
      else if pat.isEmpty then
        let n := i.toNat
        .ok (if n = 0 then s
          else rep ++ (s.take (n - 1)).flatMap (fun c => c :: rep) ++ s.drop (n - 1))
      else .ok (replaceFirst pat rep i.toNat 0 s)
    | _ => .error .typeMismatch

/-- The JSON text of a datum, with the characters that markup reserves escaped. -/
def json (d : Datum) : Except Fault (List Char) :=
  match d.toValue?.bind (Json.encode? true) with
  | some s => .ok (s.flatMap fun c =>
      if c = '<' || c = '>' || c = '&' || c.toNat = 39 then Json.unitEscape c.toNat else [c])
  | .none => .error .typeMismatch

/-- Whether a failed look-up, or anything false if `strict`, is replaced by the default. -/
def needsDefault (d : Datum) (strict : Option Datum) : Except Fault Bool :=
  if d.failure?.isSome then .ok true
  else
    match strict with
    | some s => do if ← s.truth then pure !(← d.truth) else pure false
    | .none => .ok false

/-- Applies a filter to a datum with an argument or none for each parameter. -/
def run (f : Filter) (d : Datum) (args : List (Option Datum)) : Except Fault Datum :=
  match f, args with
  | default, [value, strict] => do
    if ← needsDefault d strict then pure (value.getD (.str [])) else pure d
  | upper, _ => do pure (.str (Text.upper (← d.text)))
  | lower, _ => do pure (.str (Text.lower (← d.text)))
  | join, [sep, selector] => do
    let s ← (sep.getD (.str [])).text
    match selector with
    | .none | some .null => do
      let ts ← (← d.items).mapM Datum.text
      pure (.str (s.intercalate ts))
    | some _ => .error .typeMismatch
  | length, _ => do pure (.int (← d.length))
  | first, _ => do pure (firstOf (← d.items))
  | last, _ => do pure (lastOf (← reversedItems d).reverse)
  | replace, [some old, some new, count] => do
    let s ← d.text
    let pat ← old.text
    let rep ← new.text
    pure (.str (← substitute pat rep count s))
  | trim, [chars] => do pure (.str (← strip chars (← d.text)))
  | abs, _ =>
    match d.number? with
    | some (.whole i) => .ok (.int i.natAbs)
    | some (.real x) => .ok (.float x.abs)
    | .none => .error .typeMismatch
  | int, value :: _ => do
    match ← wholeOf? d with
    | some i => pure (.int i)
    | .none => pure (value.getD (.int 0))
  | list, _ => do pure (.list (← d.items))
  | reverse, _ =>
    match d with
    | .str s => .ok (.str s.reverse)
    | .sequence xs => .ok (.list xs.reverse)
    | d =>
      match reversedItems d with
      | .ok xs => .ok (.sequence xs)
      | .error (.undefined m) => .error (.undefined m)
      | .error _ => .error .badArgument
  | tojson, _ => do pure (.str (← json d))
  | _, _ => .error .typeMismatch

/-- Applies the filter with a name. -/
def apply (name : List Char) (d : Datum) (args : List Datum)
    (named : List (List Char × Datum)) : Except Fault Datum :=
  match ofName? name with
  | .none => .error .unknownName
  | some f =>
    if named.all (fun p => f.parameters.contains (String.ofList p.1)) then
      match bind? named f.parameters args with
      | some args => f.run d args
      | .none => .error .typeMismatch
    else .error .typeMismatch

end Filter

namespace Test

/-- The test with a name. -/
def ofName? (name : List Char) : Option Test :=
  [("defined", defined), ("undefined", undefined), ("none", none), ("odd", odd),
    ("even", even), ("string", string), ("number", number),
    ("mapping", mapping)].lookup (String.ofList name)

/-- Whether a number leaves the given remainder when divided by two. -/
def hasParity (d : Datum) (r : Int) : Except Fault Bool := do
  Datum.equal (← d.arithmetic .remainder (.int 2)) (.int r)

/-- Applies a test to a datum. -/
def run (t : Test) (d : Datum) : Except Fault Bool :=
  match t with
  | defined => .ok d.failure?.isNone
  | undefined => .ok d.failure?.isSome
  | none => .ok (match d with | .null => true | _ => false)
  | odd => hasParity d 1
  | even => hasParity d 0
  | string => .ok (match d with | .str _ => true | _ => false)
  | number => .ok d.number?.isSome
  | mapping => .ok (match d with | .map _ => true | _ => false)

/-- Applies the test with a name; the tests there are take no arguments. -/
def apply (name : List Char) (d : Datum) (args : List Datum)
    (named : List (List Char × Datum)) : Except Fault Bool :=
  match ofName? name with
  | .none => .error .unknownName
  | some t => if args.isEmpty && named.isEmpty then t.run d else .error .typeMismatch

end Test

end NixContext.Template
