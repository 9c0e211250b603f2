/-! # Double precision

A double is its 64 bits, so that equal doubles are interchangeable. Conversions from exact
ratios round to nearest, ties to even.
-/

namespace NixContext

/-- A number of IEEE binary64, given by its bits. -/
structure Double where
  bits : UInt64
  deriving DecidableEq, Repr

namespace Double

/-- The machine number with these bits. -/
def toFloat (x : Double) : Float :=
  Float.ofBits x.bits

/-- The bits of a machine number. -/
def ofFloat (f : Float) : Double :=
  ⟨f.toBits⟩

/-- The weight of the sign bit. -/
def signBit : Nat :=
  0x8000000000000000

/-- The weight of the leading bit of a significand, which is not stored. -/
def leadingBit : Nat :=
  0x10000000000000

/-- The sign bit is set. -/
def isNegative (x : Double) : Bool :=
  signBit ≤ x.bits.toNat

/-- The bits without the sign. -/
def magnitude (x : Double) : Nat :=
  x.bits.toNat % signBit

/-- The magnitude of infinity. -/
def infinityBits : Nat :=
  0x7FF * leadingBit

/-- The double with the given sign and magnitude. -/
def ofMagnitude (negative : Bool) (n : Nat) : Double :=
  ⟨UInt64.ofNat ((if negative then signBit else 0) + n)⟩

/-- The double is not a number. -/
def isNaN (x : Double) : Bool :=
  infinityBits < x.magnitude

/-- The double is infinite. -/
def isInfinite (x : Double) : Bool :=
  x.magnitude == infinityBits

/-- The double is a number and not infinite. -/
def isFinite (x : Double) : Bool :=
  x.magnitude < infinityBits

/-- The double is zero, with either sign. -/
def isZero (x : Double) : Bool :=
  x.magnitude == 0

/-- The double that is not a number. -/
def nan : Double :=
  ofMagnitude false (infinityBits + leadingBit / 2)

/-- The infinite double of a sign. -/
def infinity (negative : Bool) : Double :=
  ofMagnitude negative infinityBits

/-- Significand and exponent of a finite magnitude: its value is `m * 2 ^ q`. -/
def parts (x : Double) : Nat × Int :=
  let e : Nat := x.magnitude / leadingBit
  let f : Nat := x.magnitude % leadingBit
  if e = 0 then (f, -1074) else (f + leadingBit, (e : Int) - 1075)

/-- The exact value of a finite double as numerator and denominator. -/
def ratio (x : Double) : Int × Nat :=
  let (m, q) := x.parts
  let n : Int := (m <<< q.toNat : Nat)
  (if x.isNegative then -n else n, 1 <<< (-q).toNat)

/-- The quotient rounded to the nearest integer, a half to the even neighbour. -/
def roundDiv (num den : Nat) : Nat :=
  let d := num / den
  let r := num % den
  if den < 2 * r || (2 * r = den && d % 2 = 1) then d + 1 else d

/-- The exponent of the power of two at or below a positive ratio. -/
def binaryExponent (num den : Nat) : Int :=
  let e : Int := (num.log2 : Int) - den.log2
  if num <<< (-e).toNat < den <<< e.toNat then e - 1 else e

/-- The double nearest to `num / den`, of even significand when two are equally near. -/
def ofRatio (negative : Bool) (num den : Nat) : Double :=
  if num = 0 || den = 0 then ofMagnitude negative 0
  else
    let q := max (binaryExponent num den - 52) (-1074)
    let m := roundDiv (num <<< (-q).toNat) (den <<< q.toNat)
    ofMagnitude negative (min ((q + 1074).toNat * leadingBit + m) infinityBits)

/-- The double nearest to an integer. -/
def ofInt (i : Int) : Double :=
  ofRatio (i < 0) i.natAbs 1

/-- A power of ten. -/
def powerOfTen (n : Nat) : Nat :=
  Nat.pow 10 n

/-- The double nearest to `digits * 10 ^ exponent`. -/
def ofDecimal (negative : Bool) (digits : Nat) (exponent : Int) : Double :=
  let size : Int := (Nat.toDigits 10 digits).length + exponent
  if digits = 0 || size < -400 then ofMagnitude negative 0
  else if 400 < size then infinity negative
  else ofRatio negative (digits * powerOfTen exponent.toNat) (powerOfTen (-exponent).toNat)

/-- The whole number at or below a finite double. -/
def floor (x : Double) : Int :=
  let (n, d) := x.ratio
  Int.fdiv n d

/-- The whole number between a finite double and zero that is nearest to it. -/
def truncate (x : Double) : Int :=
  let (n, d) := x.ratio
  Int.tdiv n d

/-- A finite double without fractional part. -/
def isWhole (x : Double) : Bool :=
  x.isFinite && (let (n, d) := x.ratio; n % d == 0)

/-- The double with the opposite sign. -/
def neg (x : Double) : Double :=
  ofMagnitude (!x.isNegative) x.magnitude

/-- The double without its sign. -/
def abs (x : Double) : Double :=
  ofMagnitude false x.magnitude

/-- The rounded sum. -/
def add (x y : Double) : Double :=
  ofFloat (x.toFloat + y.toFloat)

/-- The rounded difference. -/
def sub (x y : Double) : Double :=
  ofFloat (x.toFloat - y.toFloat)

/-- The rounded product. -/
def mul (x y : Double) : Double :=
  ofFloat (x.toFloat * y.toFloat)

/-- The rounded quotient. -/
def div (x y : Double) : Double :=
  ofFloat (x.toFloat / y.toFloat)

/-- The rounded power. -/
def pow (x y : Double) : Double :=
  ofFloat (Float.pow x.toFloat y.toFloat)

/-- The exact remainder of the quotient rounded toward zero; it has the sign of `x`. -/
def truncatedRemainder (x y : Double) : Double :=
  if !x.isFinite || y.isNaN || y.isZero then nan
  else if !y.isFinite then x
  else
    let (a, b) := x.ratio
    let (c, d) := y.ratio
    ofRatio x.isNegative ((a.natAbs * d) % (c.natAbs * b)) (b * d)

/-- Quotient rounded down, with the remainder that has the sign of the divisor. -/
def floorDivMod (x y : Double) : Double × Double :=
  let m := truncatedRemainder x y
  let q := div (sub x m) y
  let (q, m) :=
    if m.isZero then (q, ofMagnitude y.isNegative 0)
    else if y.isNegative != m.isNegative then (sub q (ofInt 1), add m y)
    else (q, m)
  if q.isZero then (ofMagnitude (div x y).isNegative 0, m)
  else if !q.isFinite then (q, m)
  else
    let f := ofInt q.floor
    let half := ofRatio false 1 2
    (if (sub q f).toFloat > half.toFloat then add f (ofInt 1) else f, m)

end Double

end NixContext
