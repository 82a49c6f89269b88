import ContractAtlas.Decimal.Binary64
import ContractAtlas.Text.Blank
import ContractAtlas.Text.Digit

/-!
Numbers in text. Blanks around a number do not count, its digits may be those of any script, and a
sign may stand in front. An integer to the base 2, 8 or 16 may name its base by a zero and a letter;
one to the base 10 may not have more digits than `digitLimit`.
-/
namespace ContractAtlas.Numeral
set_option autoImplicit false

/-! ## Characters -/

/-- The character with a digit of any script replaced by that of ASCII. -/
def plainDigit (c : Char) : Char :=
  match Text.digitValue? c with
  | some n => Char.ofNat (0x30 + n)
  | none => c

/-- The characters of a number without blanks around it. -/
def bare (s : String) : List Char := Text.trim Text.isWhiteSpace (s.toList.map plainDigit)

/-- Whether there is a minus sign, and what follows the sign if there is one. -/
def splitSign (cs : List Char) : Bool × List Char :=
  match cs with
  | '-' :: rest => (true, rest)
  | '+' :: rest => (false, rest)
  | cs => (false, cs)

/-- The worth of a digit or of a letter from A to F. -/
def worth? (c : Char) : Option Nat :=
  if '0' ≤ c ∧ c ≤ '9' then some (c.toNat - 0x30)
  else if 'a' ≤ c ∧ c ≤ 'f' then some (c.toNat - 0x57)
  else if 'A' ≤ c ∧ c ≤ 'F' then some (c.toNat - 0x37)
  else none

def isDigitOf (base : Nat) (c : Char) : Bool := (worth? c).any (· < base)

def ofDigits (base : Nat) (digits : List Char) : Nat :=
  digits.foldl (fun n c => n * base + (worth? c).getD 0) 0

/-! ## Integers -/

/-- The largest number of digits of an integer to the base 10. -/
def digitLimit : Nat := 4300

/-- Why a text is no integer. -/
inductive IntegerFault where
  | malformed
  | tooLong (digits : Nat)
  deriving DecidableEq

/-- How the refusal of an integer with too many digits is told. -/
def longIntegerText (digits : Nat) : String :=
  "Exceeds the limit (" ++ toString digitLimit ++ " digits) for integer string conversion: value has " ++
    toString digits ++ " digits; use sys.set_int_max_str_digits() to increase the limit"

/-- The letter that names a base. -/
def baseLetter? (base : Nat) : Option Char := [(2, 'b'), (8, 'o'), (16, 'x')].lookup base

/-- The digits without the sign of their base. -/
def dropBase (base : Nat) (cs : List Char) : List Char :=
  match cs with
  | '0' :: letter :: rest => if baseLetter? base = some letter.toLower then rest else cs
  | cs => cs

/-- The integer that a text stands for. -/
def integer (base : Nat) (s : String) : Except IntegerFault Int :=
  let (negative, cs) := splitSign (bare s)
  let cs := dropBase base cs
  let digits := cs.takeWhile (isDigitOf base)
  if base = 10 ∧ digitLimit < digits.length then .error (.tooLong digits.length)
  else if digits.isEmpty ∨ digits.length < cs.length then .error .malformed
  else .ok (if negative then -(ofDigits base digits : Int) else ofDigits base digits)

/-! ## Floats -/

def infinityWords : List String := ["inf", "infinity"]

/-- The value of an exponent, which may be missing. -/
def exponent? (cs : List Char) : Option Int :=
  match cs with
  | [] => some 0
  | e :: rest =>
    let (negative, digits) := splitSign rest
    if (e = 'e' ∨ e = 'E') ∧ !digits.isEmpty ∧ digits.all (isDigitOf 10) then
      some (if negative then -(ofDigits 10 digits : Int) else ofDigits 10 digits)
    else none

/-- The float of digits, among which there may be a point, and an exponent. -/
def decimal? (negative : Bool) (cs : List Char) : Option Binary64 :=
  let whole := cs.takeWhile (isDigitOf 10)
  let rest := cs.dropWhile (isDigitOf 10)
  let (fraction, rest) :=
    match rest with
    | '.' :: places => (places.takeWhile (isDigitOf 10), places.dropWhile (isDigitOf 10))
    | rest => ([], rest)
  if whole.isEmpty ∧ fraction.isEmpty then none
  else (exponent? rest).map fun e =>
    .ofDecimal negative (ofDigits 10 (whole ++ fraction)) (e - fraction.length)

/-- The float that a text stands for; words for infinity and for what is no number count as well. -/
def float? (s : String) : Option Binary64 :=
  let (negative, cs) := splitSign (bare s)
  let word := String.ofList (cs.map Char.toLower)
  if infinityWords.contains word then some (.infinity negative)
  else if word = "nan" then some .nan
  else decimal? negative cs

end ContractAtlas.Numeral
