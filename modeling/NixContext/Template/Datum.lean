import NixContext.Value.Print
import NixContext.Text.Quoted

/-! # Data of template expressions

Values, and besides them ranges, views of maps, spent sequences, functions, the loop record
and the results of failed look-ups. A failed look-up is a datum of its own, which most uses
turn into an error.
-/

namespace NixContext.Template

/-- Why rendering stops. -/
inductive Fault where
  | undefined (message : List Char)
  | unknownName
  | badArgument
  | typeMismatch
  | zeroDivision
  | badValue (message : List Char)
  deriving DecidableEq, Repr

/-- Which part of its entries a view of a map shows. -/
inductive ViewKind where
  | keys | values | items
  deriving DecidableEq, Repr

/-- The methods of maps. -/
inductive Method where
  | get | keys | values | items
  deriving DecidableEq, Repr

/-- A datum of a template expression. -/
inductive Datum where
  | null
  | bool (b : Bool)
  | int (i : Int)
  | float (x : Double)
  | str (s : List Char)
  | path (p : Path)
  | list (items : List Datum)
  | tuple (items : List Datum)
  | map (entries : List (Datum × Datum))
  | range (start stop step : Int)
  | view (kind : ViewKind) (entries : List (Datum × Datum))
  | sequence (items : List Datum)
  | undefined (message : List Char)
  | absent (message : List Char)
  | method (receiver : List (Datum × Datum)) (name : Method)
  | rangeFunction
  | loop (index : Nat) (size : Nat)
  deriving Repr, Inhabited

namespace Datum

mutual

/-- A value as a datum. -/
def ofValue : Value → Datum
  | .null => null
  | .bool b => bool b
  | .int i => int i
  | .float x => float x
  | .str s => str s.toList
  | .list xs => list (ofValues xs)
  | .tuple xs => tuple (ofValues xs)
  | .map es => map (ofEntries es)
  | .path p => path p

/-- Values as data. -/
def ofValues : List Value → List Datum
  | [] => []
  | x :: xs => ofValue x :: ofValues xs

/-- Map entries as data. -/
def ofEntries : List (Value × Value) → List (Datum × Datum)
  | [] => []
  | (k, v) :: es => (ofValue k, ofValue v) :: ofEntries es

end

mutual

/-- The value that a datum is, if it is one. -/
def toValue? : Datum → Option Value
  | null => some .null
  | bool b => some (.bool b)
  | int i => some (.int i)
  | float x => some (.float x)
  | str s => some (.str (String.ofList s))
  | path p => some (.path p)
  | list xs => (toValues? xs).map .list
  | tuple xs => (toValues? xs).map .tuple
  | map es => (toEntries? es).map .map
  | _ => none

/-- The values that data are. -/
def toValues? : List Datum → Option (List Value)
  | [] => some []
  | x :: xs => do pure ((← toValue? x) :: (← toValues? xs))

/-- The entries that data are. -/
def toEntries? : List (Datum × Datum) → Option (List (Value × Value))
  | [] => some []
  | (k, v) :: es => do pure ((← toValue? k, ← toValue? v) :: (← toEntries? es))

end

/-- How many numbers a range has. -/
def rangeSize (start stop step : Int) : Nat :=
  if 0 < step then ((stop - start + step - 1) / step).toNat
  else if step < 0 then ((start - stop - step - 1) / -step).toNat
  else 0

/-- The numbers of a range. -/
def rangeItems (start stop step : Int) : List Datum :=
  (List.range (rangeSize start stop step)).map fun (i : Nat) => int (start + (i : Int) * step)

/-- What a view of a map shows. -/
def viewItems : ViewKind → List (Datum × Datum) → List Datum
  | .keys, es => es.map Prod.fst
  | .values, es => es.map Prod.snd
  | .items, es => es.map fun e => tuple [e.1, e.2]

/-- The name of a view's type. -/
def viewName : ViewKind → String
  | .keys => "dict_keys"
  | .values => "dict_values"
  | .items => "dict_items"

mutual

/-- The text of a datum inside a collection. -/
def innerText : Datum → List Char
  | null => "None".toList
  | bool b => Value.truthText b
  | int i => integerText i
  | float x => x.text
  | str s => Text.quoted s
  | path p => (Value.path p).innerText
  | list xs => '[' :: Value.commaSeparated (innerTexts xs) ++ [']']
  | tuple xs => Value.tupleText (innerTexts xs)
  | map es => '\x7b' :: Value.commaSeparated (entryTexts es) ++ ['\x7d']
  | range a b c =>
    let bounds := [integerText a, integerText b] ++ if c = 1 then [] else [integerText c]
    "range(".toList ++ Value.commaSeparated bounds ++ [')']
  | view kind es =>
    let parts := match kind with
      | .keys => keyTexts es
      | .values => valueTexts es
      | .items => pairTexts es
    (viewName kind).toList ++ "([".toList ++ Value.commaSeparated parts ++ "])".toList
  | sequence _ => "<reversed object>".toList
  | undefined _ => "Undefined".toList
  | absent _ => "Undefined".toList
  | method .. => "<built-in method>".toList
  | rangeFunction => "<class 'range'>".toList
  | loop i n =>
    "<LoopContext ".toList ++ decimalDigits (i + 1) ++ '/' :: decimalDigits n ++ ['>']

/-- The texts of items. -/
def innerTexts : List Datum → List (List Char)
  | [] => []
  | x :: xs => innerText x :: innerTexts xs

/-- The texts of map entries. -/
def entryTexts : List (Datum × Datum) → List (List Char)
  | [] => []
  | (k, v) :: es => (innerText k ++ ':' :: ' ' :: innerText v) :: entryTexts es

/-- The texts of the keys of map entries. -/
def keyTexts : List (Datum × Datum) → List (List Char)
  | [] => []
  | (k, _) :: es => innerText k :: keyTexts es

/-- The texts of the values of map entries. -/
def valueTexts : List (Datum × Datum) → List (List Char)
  | [] => []
  | (_, v) :: es => innerText v :: valueTexts es

/-- The texts of map entries as pairs. -/
def pairTexts : List (Datum × Datum) → List (List Char)
  | [] => []
  | (k, v) :: es => Value.tupleText [innerText k, innerText v] :: pairTexts es

end

/-- The text of a datum where it is written out. -/
def text : Datum → Except Fault (List Char)
  | str s => .ok s
  | path p => .ok p.chars
  | absent _ => .ok []
  | undefined m => .error (.undefined m)
  | d => .ok d.innerText

/-- What a datum is called in messages. -/
def kindName : Datum → String
  | null => "None"
  | bool _ => "bool object"
  | int _ => "int object"
  | float _ => "float object"
  | str _ => "str object"
  | path _ => "pathlib.PosixPath object"
  | list _ => "list object"
  | tuple _ => "tuple object"
  | map _ => "dict object"
  | range .. => "range object"
  | view k _ => viewName k ++ " object"
  | sequence _ => "list_reverseiterator object"
  | undefined _ => "Undefined object"
  | absent _ => "Undefined object"
  | method .. => "builtin_function_or_method object"
  | rangeFunction => "type object"
  | loop .. => "jinja2.runtime.LoopContext object"

/-- The number a datum denotes. -/
def quantity? : Datum → Option Quantity
  | bool b => some (.ratio b.toInt 1)
  | int i => some (.ratio i 1)
  | float x => some (.ofDouble x)
  | _ => none

/-- Equality of data that are no collections. -/
def sameScalar : Datum → Datum → Bool
  | null, null => true
  | str s, str t => s == t
  | path p, path q => p == q
  | rangeFunction, rangeFunction => true
  | range a b c, range d e f =>
    let n := rangeSize a b c
    n == rangeSize d e f && (n == 0 || (a == d && (n == 1 || c == f)))
  | absent _, absent _ => true
  | x, y =>
    match x.quantity?, y.quantity? with
    | some p, some q => p.same q && p != .nan
    | _, _ => false

mutual

/-- Whether two data are equal; a failed look-up cannot be compared. -/
def equal : Datum → Datum → Except Fault Bool
  | undefined m, _ => .error (.undefined m)
  | x, undefined m => match x with
    | undefined m' => .error (.undefined m')
    | _ => .error (.undefined m)
  | list xs, list ys => if xs.length = ys.length then equalItems xs ys else .ok false
  | tuple xs, tuple ys => if xs.length = ys.length then equalItems xs ys else .ok false
  | map es, map fs => if es.length = fs.length then equalEntries es fs else .ok false
  | x, y => .ok (sameScalar x y)

/-- Whether data are equal item by item. -/
def equalItems : List Datum → List Datum → Except Fault Bool
  | x :: xs, y :: ys => do if ← equal x y then equalItems xs ys else pure false
  | _, _ => .ok true

/-- Whether every entry of the first map is in the second. -/
def equalEntries : List (Datum × Datum) → List (Datum × Datum) → Except Fault Bool
  | [], _ => .ok true
  | (k, v) :: es, fs => do
    match ← fs.findM? (fun f => equal k f.1) with
    | some f => do if ← equal v f.2 then equalEntries es fs else pure false
    | none => pure false

end

/-- A message about a failed look-up under a key. -/
def missingMessage (d k : Datum) : List Char :=
  match k with
  | str s => Text.quoted d.kindName.toList ++ " has no attribute ".toList ++ Text.quoted s
  | k => d.kindName.toList ++ " has no element ".toList ++ k.innerText

/-- The failed look-up of a key. -/
def missing (d k : Datum) : Datum :=
  undefined (missingMessage d k)

/-- The failed look-up of a name. -/
def unknown (name : List Char) : Datum :=
  undefined (Text.quoted name ++ " is undefined".toList)

mutual

/-- Whether a datum may be a key; a failed look-up may not even be asked. -/
def hashable : Datum → Except Fault Bool
  | undefined m => .error (.undefined m)
  | list _ => .ok false
  | map _ => .ok false
  | tuple xs => allHashable xs
  | _ => .ok true

/-- Whether data may be keys, from the left. -/
def allHashable : List Datum → Except Fault Bool
  | [] => .ok true
  | x :: xs => do if ← hashable x then allHashable xs else pure false

end

/-- The value under a key that may be one. -/
def findEntry (k : Datum) : List (Datum × Datum) → Except Fault (Option Datum)
  | [] => .ok none
  | (l, w) :: es => do if ← equal l k then pure (some w) else findEntry k es

/-- The entries with `k` mapped to `v`: in its old place if it was there, else at the end. -/
def insertEntry (k v : Datum) : List (Datum × Datum) → Except Fault (List (Datum × Datum))
  | [] => .ok [(k, v)]
  | (l, w) :: es => do
    if ← equal l k then pure ((l, v) :: es) else pure ((l, w) :: (← insertEntry k v es))

/-- Whether a datum counts as true. -/
def truth : Datum → Except Fault Bool
  | null => .ok false
  | bool b => .ok b
  | int i => .ok (i != 0)
  | float x => .ok (!x.isZero)
  | str s => .ok !s.isEmpty
  | list xs => .ok !xs.isEmpty
  | tuple xs => .ok !xs.isEmpty
  | map es => .ok !es.isEmpty
  | view _ es => .ok !es.isEmpty
  | range a b c => .ok (rangeSize a b c != 0)
  | loop _ n => .ok (n != 0)
  | undefined m => .error (.undefined m)
  | absent _ => .ok false
  | _ => .ok true

/-- The items that a datum yields one by one. -/
def items : Datum → Except Fault (List Datum)
  | str s => .ok (s.map fun c => str [c])
  | list xs => .ok xs
  | tuple xs => .ok xs
  | map es => .ok (es.map Prod.fst)
  | view k es => .ok (viewItems k es)
  | range a b c => .ok (rangeItems a b c)
  | sequence xs => .ok xs
  | absent _ => .ok []
  | undefined m => .error (.undefined m)
  | _ => .error .typeMismatch

/-- The length of a datum. -/
def length : Datum → Except Fault Nat
  | str s => .ok s.length
  | list xs => .ok xs.length
  | tuple xs => .ok xs.length
  | map es => .ok es.length
  | view _ es => .ok es.length
  | range a b c => .ok (rangeSize a b c)
  | loop _ n => .ok n
  | absent _ => .ok 0
  | undefined m => .error (.undefined m)
  | _ => .error .typeMismatch

end Datum

end NixContext.Template
