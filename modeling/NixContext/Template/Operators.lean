import NixContext.Template.Datum
import NixContext.Template.Syntax

/-! # Operators of template expressions

Arithmetic, order, membership, subscripts and slices. A failed look-up is an error in all
of them.
-/

namespace NixContext.Template

namespace Datum

/-- A whole or a real number. -/
inductive Number where
  | whole (i : Int)
  | real (x : Double)

/-- The number as a double. -/
def Number.toDouble : Number → Double
  | .whole i => .ofInt i
  | .real x => x

/-- The number that a datum is in arithmetic. -/
def number? : Datum → Option Number
  | bool b => some (.whole b.toInt)
  | int i => some (.whole i)
  | float x => some (.real x)
  | _ => none

/-- The message of a failed look-up. -/
def failure? : Datum → Option (List Char)
  | undefined m => some m
  | absent m => some m
  | _ => none

/-- Arithmetic on whole numbers. -/
def wholeArithmetic : Arithmetic → Int → Int → Except Fault Datum
  | .add, a, b => .ok (int (a + b))
  | .subtract, a, b => .ok (int (a - b))
  | .multiply, a, b => .ok (int (a * b))
  | .divide, a, b =>
    if b = 0 then .error .zeroDivision
    else .ok (float (.ofRatio ((a < 0) != (b < 0)) a.natAbs b.natAbs))
  | .floorDivide, a, b => if b = 0 then .error .zeroDivision else .ok (int (Int.fdiv a b))
  | .remainder, a, b => if b = 0 then .error .zeroDivision else .ok (int (Int.fmod a b))
  | .power, a, b =>
    if 0 ≤ b then .ok (int (a.pow b.toNat))
    else if a = 0 then .error .zeroDivision
    else .ok (float ((Double.ofInt a).pow (.ofInt b)))

/-- Arithmetic on doubles. -/
def realArithmetic : Arithmetic → Double → Double → Except Fault Datum
  | .add, a, b => .ok (float (a.add b))
  | .subtract, a, b => .ok (float (a.sub b))
  | .multiply, a, b => .ok (float (a.mul b))
  | .divide, a, b => if b.isZero then .error .zeroDivision else .ok (float (a.div b))
  | .floorDivide, a, b =>
    if b.isZero then .error .zeroDivision else .ok (float (a.floorDivMod b).1)
  | .remainder, a, b =>
    if b.isZero then .error .zeroDivision else .ok (float (a.floorDivMod b).2)
  | .power, a, b =>
    if a.isZero && b.isNegative && !b.isZero then .error .zeroDivision
    else if a.isNegative && a.isFinite && !a.isZero && b.isFinite && !b.isWhole then
      .error .typeMismatch
    else .ok (float (a.pow b))

/-- Arithmetic on numbers; it is exact as long as both are whole. -/
def numberArithmetic (op : Arithmetic) : Number → Number → Except Fault Datum
  | .whole a, .whole b => wholeArithmetic op a b
  | a, b => realArithmetic op a.toDouble b.toDouble

/-- A list repeated a number of times. -/
def repeated {α : Type} (xs : List α) (n : Int) : List α :=
  (List.replicate n.toNat xs).flatten

/-- Arithmetic on texts and sequences: joining and repeating. -/
def sequenceArithmetic : Arithmetic → Datum → Datum → Except Fault Datum
  | .add, str s, str t => .ok (str (s ++ t))
  | .add, list xs, list ys => .ok (list (xs ++ ys))
  | .add, tuple xs, tuple ys => .ok (tuple (xs ++ ys))
  | .multiply, a, b =>
    match a, b.number? with
    | str s, some (.whole n) => .ok (str (repeated s n))
    | list xs, some (.whole n) => .ok (list (repeated xs n))
    | tuple xs, some (.whole n) => .ok (tuple (repeated xs n))
    | _, _ =>
      match a.number?, b with
      | some (.whole n), str s => .ok (str (repeated s n))
      | some (.whole n), list xs => .ok (list (repeated xs n))
      | some (.whole n), tuple xs => .ok (tuple (repeated xs n))
      | _, _ => .error .typeMismatch
  | _, _, _ => .error .typeMismatch

/-- Arithmetic on two data. -/
def arithmetic (op : Arithmetic) (a b : Datum) : Except Fault Datum :=
  match a.failure?, b.failure? with
  | some m, _ => .error (.undefined m)
  | none, some m => .error (.undefined m)
  | none, none =>
    match a.number?, b.number? with
    | some m, some n => numberArithmetic op m n
    | _, _ => sequenceArithmetic op a b

/-- A sign or a negation applied to a datum. -/
def signed (s : Sign) (d : Datum) : Except Fault Datum :=
  match s with
  | .no => do pure (bool !(← d.truth))
  | s =>
    match d.failure?, d.number? with
    | some m, _ => .error (.undefined m)
    | none, some (.whole i) => .ok (int (if s = .minus then -i else i))
    | none, some (.real x) => .ok (float (if s = .minus then x.neg else x))
    | none, none => .error .typeMismatch

/-- The order of two numbers, if they have one. -/
def quantityOrder (p q : Quantity) : Option Ordering :=
  if p.less q then some .lt
  else if q.less p then some .gt
  else if p.same q && p != .nan then some .eq
  else none

mutual

/-- The order of two data, if numbers among them have one. -/
def order : Datum → Datum → Except Fault (Option Ordering)
  | str s, str t => .ok (some (if s < t then .lt else if s = t then .eq else .gt))
  | list xs, list ys => orderItems xs ys
  | tuple xs, tuple ys => orderItems xs ys
  | a, b =>
    match a.failure?, b.failure? with
    | some m, _ => .error (.undefined m)
    | none, some m => .error (.undefined m)
    | none, none =>
      match a.quantity?, b.quantity? with
      | some p, some q => .ok (quantityOrder p q)
      | _, _ => .error .typeMismatch

/-- The order of the first items that differ, else of the lengths. -/
def orderItems : List Datum → List Datum → Except Fault (Option Ordering)
  | [], [] => .ok (some .eq)
  | [], _ :: _ => .ok (some .lt)
  | _ :: _, [] => .ok (some .gt)
  | x :: xs, y :: ys => do if ← equal x y then orderItems xs ys else order x y

end

/-- Whether a datum is among others. -/
def isAmong (d : Datum) : List Datum → Except Fault Bool
  | [] => .ok false
  | x :: xs => do if ← equal x d then pure true else isAmong d xs

/-- Whether a text occurs in another. -/
def occursIn (s : List Char) : List Char → Bool
  | [] => s.isEmpty
  | c :: cs => s.isPrefixOf (c :: cs) || occursIn s cs

/-- Membership of `d` in `c`. -/
def isIn (d c : Datum) : Except Fault Bool :=
  match c with
  | undefined m => .error (.undefined m)
  | str t =>
    match d with
    | str s => .ok (occursIn s t)
    | _ => .error .typeMismatch
  | map es => do
    if ← hashable d then pure (← findEntry d es).isSome else .error .typeMismatch
  | c => do isAmong d (← c.items)

/-- One comparison. -/
def compare (op : Comparison) (a b : Datum) : Except Fault Bool :=
  match op with
  | .equal => equal a b
  | .notEqual => do pure !(← equal a b)
  | .less => do pure ((← order a b) == some .lt)
  | .lessEqual => do pure ((← order a b) == some .lt || (← order a b) == some .eq)
  | .greater => do pure ((← order a b) == some .gt)
  | .greaterEqual => do pure ((← order a b) == some .gt || (← order a b) == some .eq)
  | .isIn => isIn a b
  | .isNotIn => do pure !(← isIn a b)

/-- The method of a map with this name. -/
def method? (name : List Char) : Option Method :=
  [("get", Method.get), ("keys", .keys), ("values", .values), ("items", .items)].lookup
    (String.ofList name)

/-- The field of the loop record with this name. -/
def loopField? (index size : Nat) (name : List Char) : Option Datum :=
  let fields : List (String × Datum) :=
    [("index", int (index + 1)), ("index0", int index), ("first", bool (index == 0)),
      ("last", bool (index + 1 == size)), ("length", int size),
      ("revindex", int (size - index : Nat)), ("revindex0", int (size - index - 1 : Nat)),
      ("depth", int 1), ("depth0", int 0)]
  fields.lookup (String.ofList name)

/-- An attribute of its own that a datum has under a name. -/
def member? (d : Datum) (name : List Char) : Option Datum :=
  match d with
  | map es => (method? name).map (method es)
  | loop i n => loopField? i n name
  | _ => none

/-- The attribute of a datum under a name: its own, else an entry of the map. -/
def memberOf (d : Datum) (name : List Char) : Except Fault Datum :=
  match d.failure? with
  | some m => .error (.undefined m)
  | none =>
    match d.member? name with
    | some a => .ok a
    | none =>
      match d with
      | map es => do pure ((← findEntry (str name) es).getD (missing d (str name)))
      | _ => .ok (missing d (str name))

/-- The item of a list at an index, which counts from the end if it is negative. -/
def itemAt? {α : Type} (xs : List α) (i : Int) : Option α :=
  let j := if i < 0 then i + xs.length else i
  if j < 0 then none else xs[j.toNat]?

/-- The item of a sequence at an index. -/
def sequenceItem? (d : Datum) (i : Int) : Option Datum :=
  match d with
  | str s => (itemAt? s i).map fun c => str [c]
  | list xs => itemAt? xs i
  | tuple xs => itemAt? xs i
  | range a b c => itemAt? (rangeItems a b c) i
  | _ => none

/-- The item that a datum itself holds under a key. -/
def ownItem? (d k : Datum) : Except Fault (Option Datum) :=
  match d with
  | map es => do if ← hashable k then findEntry k es else pure none
  | d =>
    match k.number? with
    | some (.whole i) => .ok (d.sequenceItem? i)
    | _ => .ok none

/-- The item of a datum under a key: its own, else an attribute. -/
def item (d k : Datum) : Except Fault Datum :=
  match d.failure? with
  | some m => .error (.undefined m)
  | none => do
    match ← d.ownItem? k with
    | some x => pure x
    | none =>
      match k with
      | str s => pure ((d.member? s).getD (missing d k))
      | _ => pure (missing d k)

/-- A bound of a slice: absent or a whole number. -/
def bound? : Option Datum → Except Fault (Option Int)
  | none => .ok none
  | some null => .ok none
  | some d =>
    match d.number? with
    | some (.whole i) => .ok (some i)
    | _ => .error .typeMismatch

/-- A bound of a slice moved into the sequence. -/
def clampBound (size lower upper default : Int) : Option Int → Int
  | none => default
  | some i =>
    let i := if i < 0 then i + size else i
    if i < lower then lower else if upper < i then upper else i

/-- The first index, the index to stop before and the step of a slice. -/
def sliceBounds (size : Nat) (start stop : Option Int) (step : Int) : Int × Int :=
  let n : Int := size
  if 0 < step then (clampBound n 0 n 0 start, clampBound n 0 n n stop)
  else (clampBound n (-1) (n - 1) (n - 1) start, clampBound n (-1) (n - 1) (-1) stop)

/-- The items at the indexes of a range. -/
def pick {α : Type} (xs : List α) (start stop step : Int) : List α :=
  (List.range (rangeSize start stop step)).filterMap fun (i : Nat) =>
    xs[(start + (i : Int) * step).toNat]?

/-- A slice of a sequence. -/
def slice (d : Datum) (start stop step : Option Datum) : Except Fault Datum :=
  match d.failure? with
  | some m => .error (.undefined m)
  | none => do
    let size ←
      match d with
      | str s => pure s.length
      | list xs => pure xs.length
      | tuple xs => pure xs.length
      | range a b c => pure (rangeSize a b c)
      | _ => .error .typeMismatch
    let step := (← bound? step).getD 1
    let start ← bound? start
    let stop ← bound? stop
    if step = 0 then .error (.badValue "slice step cannot be zero".toList)
    else
      let (i, j) := sliceBounds size start stop step
      match d with
      | str s => pure (str (pick s i j step))
      | list xs => pure (list (pick xs i j step))
      | tuple xs => pure (tuple (pick xs i j step))
      | range a _ c => pure (range (a + i * c) (a + j * c) (c * step))
      | _ => .error .typeMismatch

/-- A range with the given bounds. -/
def rangeOf : List Datum → Except Fault Datum
  | ds => do
    let ns ← ds.mapM fun d =>
      match d.number? with
      | some (.whole i) => Except.ok i
      | _ => .error Fault.typeMismatch
    match ns with
    | [b] => pure (range 0 b 1)
    | [a, b] => pure (range a b 1)
    | [a, b, c] =>
      if c = 0 then .error (.badValue "range() arg 3 must not be zero".toList)
      else pure (range a b c)
    | _ => .error .typeMismatch

/-- Calls a datum with arguments; the functions there are take no named ones. -/
def call (f : Datum) (args : List Datum) (named : List (List Char × Datum)) :
    Except Fault Datum :=
  match f.failure? with
  | some m => .error (.undefined m)
  | none =>
    if !named.isEmpty then .error .typeMismatch
    else match f, args with
      | rangeFunction, ds => rangeOf ds
      | method es .get, k :: rest => do
        if 1 < rest.length then .error .typeMismatch
        else if ← hashable k then
          pure ((← findEntry k es).getD (rest.headD null))
        else .error .typeMismatch
      | method es .keys, [] => .ok (view .keys es)
      | method es .values, [] => .ok (view .values es)
      | method es .items, [] => .ok (view .items es)
      | _, _ => .error .typeMismatch

end Datum

end NixContext.Template
