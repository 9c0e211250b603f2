import NixContext.Path
import NixContext.Number.Double

/-! # Dynamic values

The data that settings files, template contexts and options are made of. Maps are
association lists in insertion order. Two values are the same when they denote the same
data: numbers are compared by value and maps without regard to order.
-/

namespace NixContext

/-- A value of a settings file, a template context or an option. -/
inductive Value where
  | null
  | bool (b : Bool)
  | int (i : Int)
  | float (x : Double)
  | str (s : String)
  | list (items : List Value)
  | tuple (items : List Value)
  | map (entries : List (Value × Value))
  | path (p : Path)
  deriving Repr, Inhabited

mutual

/-- Decides whether two values are equal as data, order and number kind included. -/
def Value.decEq : (a b : Value) → Decidable (a = b)
  | .null, b => match b with
    | .null => isTrue rfl
    | .bool _ | .int _ | .float _ | .str _ | .list _ | .tuple _ | .map _ | .path _ => isFalse nofun
  | .bool x, b => match b with
    | .bool y => decidable_of_iff (x = y) (by simp)
    | .null | .int _ | .float _ | .str _ | .list _ | .tuple _ | .map _ | .path _ => isFalse nofun
  | .int x, b => match b with
    | .int y => decidable_of_iff (x = y) (by simp)
    | .null | .bool _ | .float _ | .str _ | .list _ | .tuple _ | .map _ | .path _ => isFalse nofun
  | .float x, b => match b with
    | .float y => decidable_of_iff (x = y) (by simp)
    | .null | .bool _ | .int _ | .str _ | .list _ | .tuple _ | .map _ | .path _ => isFalse nofun
  | .str x, b => match b with
    | .str y => decidable_of_iff (x = y) (by simp)
    | .null | .bool _ | .int _ | .float _ | .list _ | .tuple _ | .map _ | .path _ => isFalse nofun
  | .path x, b => match b with
    | .path y => decidable_of_iff (x = y) (by simp)
    | .null | .bool _ | .int _ | .float _ | .list _ | .tuple _ | .map _ | .str _ => isFalse nofun
  | .list x, b => match b with
    | .list y => match Value.decEqList x y with
      | isTrue h => isTrue (by rw [h])
      | isFalse h => isFalse (by simpa using h)
    | .null | .bool _ | .int _ | .float _ | .str _ | .tuple _ | .map _ | .path _ => isFalse nofun
  | .tuple x, b => match b with
    | .tuple y => match Value.decEqList x y with
      | isTrue h => isTrue (by rw [h])
      | isFalse h => isFalse (by simpa using h)
    | .null | .bool _ | .int _ | .float _ | .str _ | .list _ | .map _ | .path _ => isFalse nofun
  | .map x, b => match b with
    | .map y => match Value.decEqEntries x y with
      | isTrue h => isTrue (by rw [h])
      | isFalse h => isFalse (by simpa using h)
    | .null | .bool _ | .int _ | .float _ | .str _ | .list _ | .tuple _ | .path _ => isFalse nofun

/-- Decides equality of lists of values. -/
def Value.decEqList : (a b : List Value) → Decidable (a = b)
  | [], [] => isTrue rfl
  | [], _ :: _ => isFalse nofun
  | _ :: _, [] => isFalse nofun
  | x :: xs, y :: ys => match Value.decEq x y, Value.decEqList xs ys with
    | isTrue h, isTrue h' => isTrue (by rw [h, h'])
    | isFalse h, _ => isFalse (by simp [h])
    | _, isFalse h => isFalse (by simp [h])

/-- Decides equality of map entries. -/
def Value.decEqEntries : (a b : List (Value × Value)) → Decidable (a = b)
  | [], [] => isTrue rfl
  | [], _ :: _ => isFalse nofun
  | _ :: _, [] => isFalse nofun
  | (k, v) :: xs, (l, w) :: ys =>
    match Value.decEq k l, Value.decEq v w, Value.decEqEntries xs ys with
    | isTrue h, isTrue h', isTrue h'' => isTrue (by rw [h, h', h''])
    | isFalse h, _, _ => isFalse (by simp [h])
    | _, isFalse h, _ => isFalse (by simp [h])
    | _, _, isFalse h => isFalse (by simp [h])

end

instance : DecidableEq Value := Value.decEq

/-- A number: exact, infinite or not a number. -/
inductive Quantity where
  | ratio (num : Int) (den : Nat)
  | infinite (negative : Bool)
  | nan
  deriving DecidableEq, Repr

namespace Quantity

/-- The quantity of a double. -/
def ofDouble (x : Double) : Quantity :=
  if x.isNaN then nan
  else if x.isInfinite then infinite x.isNegative
  else ratio x.ratio.1 x.ratio.2

/-- Equal as numbers; not a number agrees with itself only. -/
def same : Quantity → Quantity → Bool
  | ratio a b, ratio c d => a * d == c * b
  | infinite s, infinite t => s == t
  | nan, nan => true
  | _, _ => false

/-- Strictly smaller as numbers; nothing is smaller or larger than not a number. -/
def less : Quantity → Quantity → Bool
  | ratio a b, ratio c d => a * d < c * b
  | infinite s, infinite t => s && !t
  | infinite s, ratio _ _ => s
  | ratio _ _, infinite t => !t
  | _, _ => false

end Quantity

namespace Value

/-- The number a value denotes: truth values count as one and zero. -/
def quantity? : Value → Option Quantity
  | bool b => some (.ratio b.toInt 1)
  | int i => some (.ratio i 1)
  | float x => some (.ofDouble x)
  | _ => none

/-- Both denote numbers, and the same one. -/
def sameNumber (a b : Value) : Bool :=
  match a.quantity?, b.quantity? with
  | some p, some q => p.same q
  | _, _ => false

mutual

/-- Equal as data. -/
def same : Value → Value → Bool
  | null, null => true
  | str s, str t => s == t
  | path p, path q => p == q
  | list xs, list ys => sameItems xs ys
  | tuple xs, tuple ys => sameItems xs ys
  | map es, map fs => es.length == fs.length && sameEntries es fs
  | a, b => sameNumber a b

/-- Equal item by item. -/
def sameItems : List Value → List Value → Bool
  | [], [] => true
  | x :: xs, y :: ys => same x y && sameItems xs ys
  | _, _ => false

/-- Every entry of the first map is in the second. -/
def sameEntries : List (Value × Value) → List (Value × Value) → Bool
  | [], _ => true
  | (k, v) :: es, fs => fs.any (fun f => same k f.1 && same v f.2) && sameEntries es fs

end

/-- The entries with `k` mapped to `v`: in its old place if it was there, else at the end. -/
def insertEntry (k v : Value) : List (Value × Value) → List (Value × Value)
  | [] => [(k, v)]
  | (l, w) :: es => if l.same k then (l, v) :: es else (l, w) :: insertEntry k v es

/-- The map of the entries in order; a repeated key keeps its first place and last value. -/
def mapOfEntries (es : List (Value × Value)) : List (Value × Value) :=
  es.foldl (fun m e => insertEntry e.1 e.2 m) []

/-- The value under a key. -/
def findEntry (k : Value) : List (Value × Value) → Option Value
  | [] => none
  | (l, w) :: es => if l.same k then some w else findEntry k es

mutual

/-- May be a key of a map: holds no list and no map. -/
def isKey : Value → Bool
  | list _ => false
  | map _ => false
  | tuple xs => areKeys xs
  | _ => true

/-- All of them may be keys. -/
def areKeys : List Value → Bool
  | [] => true
  | x :: xs => isKey x && areKeys xs

end

end Value

end NixContext
