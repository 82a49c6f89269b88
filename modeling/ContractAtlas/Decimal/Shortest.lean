import ContractAtlas.Decimal.Binary64

/-!
Decimal text of a float: the fewest digits that read back as the same value, and of those the
nearest to it. On each grid of decimals only the two neighbours of the value can be nearest, so the
search tries them for one digit, two digits and so on; seventeen digits always suffice.
-/
namespace ContractAtlas.Binary64
set_option autoImplicit false

/-! ## Digits -/

/-- `digits * 10 ^ exponent`. -/
structure Decimal where
  digits : Nat
  exponent : Int
  deriving DecidableEq

/-- Exponent of the first digit of `num / den`, for positive naturals. -/
def leadingExponent (num den : Nat) : Int :=
  if den ≤ num then (decimalLength (num / den) : Int) - 1
  else -(decimalLength ((den + num - 1) / num - 1) : Int)

def Decimal.ratio (d : Decimal) : Nat × Nat :=
  if 0 ≤ d.exponent then (d.digits * Nat.pow 10 d.exponent.toNat, 1)
  else (d.digits, Nat.pow 10 (-d.exponent).toNat)

def Decimal.readsBack (d : Decimal) (x : Binary64) : Bool :=
  let (n, k) := d.ratio
  nearestMagnitude n k == x.magnitude

/-- Of the two neighbours of `x` on the grid of `count` digits, the nearest that reads back; an
exact half goes to the even one. -/
def onGrid (x : Binary64) (count : Nat) : Option Decimal :=
  let (num, den) := x.ratio
  let g := leadingExponent num den - (count : Int) + 1
  let (n, d) := if 0 ≤ g then (num, den * Nat.pow 10 g.toNat) else (num * Nat.pow 10 (-g).toNat, den)
  let low : Decimal := ⟨n / d, g⟩
  let high : Decimal := ⟨n / d + 1, g⟩
  match low.readsBack x, high.readsBack x with
  | true, false => some low
  | false, true => some high
  | false, false => none
  | true, true =>
    let r := 2 * (n % d)
    if r < d || (r == d && n / d % 2 == 0) then some low else some high

/-- Moves factors of ten from the digits to the exponent. -/
def Decimal.trimZeros : Nat → Decimal → Decimal
  | 0, d => d
  | fuel + 1, d =>
    if d.digits != 0 && d.digits % 10 == 0 then trimZeros fuel ⟨d.digits / 10, d.exponent + 1⟩ else d

def shortest (x : Binary64) : Decimal :=
  let found := (List.range 17).findSome? fun i => onGrid x (i + 1)
  (found.getD ⟨0, 0⟩).trimZeros 20

/-! ## Layout -/

/-- How far the exponent of the first digit may go before scientific form takes over. -/
structure Layout where
  leastPositional : Int
  firstScientific : Int

/-- Positional from four zeros after the point up to sixteen digits before it. -/
def layout : Layout where
  leastPositional := -4
  firstScientific := 16

def exponentText (e : Int) : String :=
  let digits := toString e.natAbs
  (if e < 0 then "e-" else "e+") ++ (if digits.length < 2 then "0" ++ digits else digits)

def zeros (n : Nat) : String := String.ofList (List.replicate n '0')

/-- The digits `ds`, the first of which has exponent `e`, with a point set among them. -/
def positional (ds : List Char) (e : Int) : String :=
  if e < 0 then "0." ++ zeros (-e - 1).toNat ++ String.ofList ds
  else
    let whole := e.toNat + 1
    if ds.length ≤ whole then String.ofList ds ++ zeros (whole - ds.length) ++ ".0"
    else String.ofList (ds.take whole) ++ "." ++ String.ofList (ds.drop whole)

def scientific (ds : List Char) (e : Int) : String :=
  match ds with
  | [] => exponentText e
  | [d] => d.toString ++ exponentText e
  | d :: rest => d.toString ++ "." ++ String.ofList rest ++ exponentText e

def magnitudeText (x : Binary64) : String :=
  if x.isZero then "0.0"
  else
    let d := x.shortest
    let ds := Nat.toDigits 10 d.digits
    let e := d.exponent + ds.length - 1
    if layout.leastPositional ≤ e ∧ e < layout.firstScientific then positional ds e
    else scientific ds e

def text (x : Binary64) : String :=
  if x.isNaN then "nan"
  else (if x.isNegative then "-" else "") ++ (if x.isInfinite then "inf" else x.magnitudeText)

end ContractAtlas.Binary64
