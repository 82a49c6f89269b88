/-!
Binary floating point of 64 bits, held as its bit pattern. Every finite value is a significand times
a power of two; a ratio of naturals is rounded to the nearest value, a half to the even neighbour,
and past the largest finite value to infinity. Nothing here uses hardware arithmetic.
-/
namespace ContractAtlas
set_option autoImplicit false

/-- A 64-bit float, told apart from others by its bits. -/
structure Binary64 where
  bits : UInt64
  deriving DecidableEq

namespace Binary64

/-! ## Fields -/

def fractionSize : Nat := Nat.pow 2 52

def magnitudeSize : Nat := Nat.pow 2 63

/-- The bits of positive infinity; NaNs lie above, finite magnitudes below. -/
def infinityBits : Nat := 2047 * fractionSize

def magnitude (x : Binary64) : Nat := x.bits.toNat % magnitudeSize

def isNegative (x : Binary64) : Bool := magnitudeSize ≤ x.bits.toNat

def isNaN (x : Binary64) : Bool := infinityBits < x.magnitude

def isInfinite (x : Binary64) : Bool := x.magnitude == infinityBits

def isFinite (x : Binary64) : Bool := x.magnitude < infinityBits

def isZero (x : Binary64) : Bool := x.magnitude == 0

/-- The magnitude of a finite value is `significand * 2 ^ exponent`. -/
def significand (x : Binary64) : Nat :=
  let field := x.magnitude / fractionSize
  if field = 0 then x.magnitude else x.magnitude % fractionSize + fractionSize

def exponent (x : Binary64) : Int :=
  let field := x.magnitude / fractionSize
  if field = 0 then -1074 else (field : Int) - 1075

def ofMagnitude (negative : Bool) (magnitude : Nat) : Binary64 :=
  ⟨UInt64.ofNat (if negative then magnitude + magnitudeSize else magnitude)⟩

def zero : Binary64 := ofMagnitude false 0

def nan : Binary64 := ofMagnitude false (infinityBits + fractionSize / 2)

def infinity (negative : Bool) : Binary64 := ofMagnitude negative infinityBits

/-- Numerator and denominator of the magnitude of a finite value. -/
def ratio (x : Binary64) : Nat × Nat :=
  if 0 ≤ x.exponent then (x.significand * Nat.pow 2 x.exponent.toNat, 1)
  else (x.significand, Nat.pow 2 (-x.exponent).toNat)

/-! ## Rounding -/

/-- The natural nearest to `num / den`, a half going to the even neighbour. -/
def roundHalfEven (num den : Nat) : Nat :=
  let q := num / den
  let r := num % den
  if 2 * r < den then q
  else if den < 2 * r then q + 1
  else q + q % 2

/-- `num / (den * 2 ^ e)` as a pair of naturals. -/
def scaled (num den : Nat) (e : Int) : Nat × Nat :=
  if 0 ≤ e then (num, den * Nat.pow 2 e.toNat) else (num * Nat.pow 2 (-e).toNat, den)

/-- The exponent at which `num / den` has a significand of 53 bits, not below the least one. -/
def exponentFor (num den : Nat) : Int :=
  let e : Int := (num.log2 : Int) - den.log2 - 53
  let (n, d) := scaled num den e
  max (-1074) (if d * Nat.pow 2 53 ≤ n then e + 1 else e)

/-- Magnitude bits of the value nearest to `num / den`. -/
def nearestMagnitude (num den : Nat) : Nat :=
  if num = 0 then 0
  else
    let e := exponentFor num den
    let (n, d) := scaled num den e
    min infinityBits ((e + 1074).toNat * fractionSize + roundHalfEven n d)

def ofRatio (negative : Bool) (num den : Nat) : Binary64 :=
  ofMagnitude negative (nearestMagnitude num den)

/-! ## Decimals -/

def decimalLength (n : Nat) : Nat := (Nat.toDigits 10 n).length

/-- The value nearest to `digits * 10 ^ exponent`. Exponents far out of range are settled without
building the power. -/
def ofDecimal (negative : Bool) (digits : Nat) (exponent : Int) : Binary64 :=
  if digits = 0 then ofMagnitude negative 0
  else
    let top := (decimalLength digits : Int) + exponent
    if 400 < top then infinity negative
    else if top < -400 then ofMagnitude negative 0
    else if 0 ≤ exponent then ofRatio negative (digits * Nat.pow 10 exponent.toNat) 1
    else ofRatio negative digits (Nat.pow 10 (-exponent).toNat)

/-! ## Integers -/

/-- The integer a finite value without fraction stands for. -/
def toInt? (x : Binary64) : Option Int :=
  if x.isFinite then
    let (n, d) := x.ratio
    if n % d = 0 then
      let magnitude : Int := (n / d : Nat)
      some (if x.isNegative then -magnitude else magnitude)
    else none
  else none

end Binary64

end ContractAtlas
