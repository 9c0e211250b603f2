import NixContext.Number.Double

/-! # Shortest decimal digits

The fewest significant digits that read back as the same double, and among those the
digits nearest to its value.
-/

namespace NixContext.Double

/-- A positive ratio and the interval of ratios that round to the same double, over one
denominator. -/
structure Neighbourhood where
  low : Nat
  value : Nat
  high : Nat
  den : Nat
  closed : Bool

/-- The neighbourhood of a finite magnitude other than zero. -/
def neighbourhood (x : Double) : Neighbourhood :=
  let (m, q) := x.parts
  let below := if m = leadingBit && -1074 < q then 1 else 2
  let up := 1 <<< q.toNat
  ⟨(4 * m - below) * up, 4 * m * up, (4 * m + 2) * up, 4 <<< (-q).toNat, m % 2 = 0⟩

/-- The least `k` in `k, k + 1, …` with `den ≤ num * 10 ^ k`. -/
def leadingZeros (num den : Nat) : Nat → Nat → Nat
  | 0, k => k
  | fuel + 1, k => if den ≤ num * powerOfTen k then k else leadingZeros num den fuel (k + 1)

/-- The exponent of the power of ten at or below a positive ratio. -/
def decimalExponent (num den : Nat) : Int :=
  if den ≤ num then ((Nat.toDigits 10 (num / den)).length : Int) - 1
  else -(leadingZeros num den 400 1 : Int)

/-- The multiple of `10 ^ g` nearest to the value, if one lies in the neighbourhood. -/
def Neighbourhood.onGrid (n : Neighbourhood) (g : Int) : Option Nat :=
  let coarse := n.den * powerOfTen g.toNat
  let fine := powerOfTen (-g).toNat
  let inside (c : Nat) : Bool :=
    if n.closed then n.low * fine ≤ c * coarse && c * coarse ≤ n.high * fine
    else n.low * fine < c * coarse && c * coarse < n.high * fine
  let c := roundDiv (n.value * fine) coarse
  let d := n.value * fine / coarse
  let other := if c = d then d + 1 else d
  if inside c then some c else if inside other then some other else none

/-- Tries the grids from coarse to fine. -/
def Neighbourhood.search (n : Neighbourhood) : Nat → Int → Nat × Int
  | 0, g => (roundDiv (n.value * powerOfTen (-g).toNat) (n.den * powerOfTen g.toNat), g)
  | fuel + 1, g =>
    match n.onGrid g with
    | some c => (c, g)
    | none => n.search fuel (g - 1)

/-- Digits `d` and exponent `g` of the shortest decimal `d * 10 ^ g` of a finite magnitude
other than zero. -/
def shortest (x : Double) : Nat × Int :=
  let n := x.neighbourhood
  n.search 16 (decimalExponent n.value n.den)

end NixContext.Double
