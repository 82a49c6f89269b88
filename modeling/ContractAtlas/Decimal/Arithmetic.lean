import ContractAtlas.Decimal.Binary64

/-!
Sum and product of floats: the exact result, rounded once. A sum of nothing is negative only if both
terms are; an infinity absorbs what is finite, and what has no value is not a number.
-/
namespace ContractAtlas.Binary64
set_option autoImplicit false

/-! ## Sums -/

def addFinite (x y : Binary64) : Binary64 :=
  let signed (z : Binary64) (n : Nat) : Int := if z.isNegative then -(n : Int) else n
  let (n, d) := x.ratio
  let (m, e) := y.ratio
  let sum := signed x (n * e) + signed y (m * d)
  ofRatio (if sum = 0 then x.isNegative && y.isNegative else decide (sum < 0)) sum.natAbs (d * e)

def add (x y : Binary64) : Binary64 :=
  if x.isNaN || y.isNaN then nan
  else if x.isInfinite then (if y.isInfinite && x.isNegative != y.isNegative then nan else x)
  else if y.isInfinite then y
  else addFinite x y

/-! ## Products -/

def mul (x y : Binary64) : Binary64 :=
  let negative := x.isNegative != y.isNegative
  if x.isNaN || y.isNaN then nan
  else if x.isInfinite || y.isInfinite then (if x.isZero || y.isZero then nan else infinity negative)
  else ofRatio negative (x.ratio.1 * y.ratio.1) (x.ratio.2 * y.ratio.2)

/-! ## Signs and naturals -/

/-- The value with its sign turned, if so asked. -/
def negateIf (turn : Bool) (x : Binary64) : Binary64 := ofMagnitude (x.isNegative != turn) x.magnitude

/-- The float nearest to a natural, unless that is beyond the largest. -/
def ofNat? (n : Nat) : Option Binary64 :=
  let x := ofRatio false n 1
  if x.isFinite then some x else none

end ContractAtlas.Binary64
