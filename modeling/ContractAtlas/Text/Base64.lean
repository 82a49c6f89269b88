import ContractAtlas.Text.Quoted

/-!
Octets written to the base 64. Every four characters of the alphabet stand for three octets; a last
group of two or three is filled up with equals signs, behind which nothing is read. Other characters
of ASCII are passed over.
-/
namespace ContractAtlas.Text.Base64
set_option autoImplicit false

/-! ## Faults -/

/-- Why a text stands for no octets: characters outside ASCII in a row, a group that is not filled
up, or a group of a single character. -/
inductive Fault where
  | foreign (first : Char) (position count : Nat)
  | unfilled
  | single (characters : Nat)
  deriving DecidableEq

/-- A character by its number. -/
def numbered (c : Char) : String :=
  let n := c.toNat
  if n < 0x100 then "\\x" ++ String.ofList (hexDigits 2 n)
  else if n < 0x10000 then "\\u" ++ String.ofList (hexDigits 4 n)
  else "\\U" ++ String.ofList (hexDigits 8 n)

def Fault.text : Fault → String
  | .foreign c position count =>
    "failed to convert base64 data into ascii: 'ascii' codec can't encode character" ++
      (if count = 1 then " '" ++ numbered c ++ "' in position " ++ toString position
        else "s in position " ++ toString position ++ "-" ++ toString (position + count - 1)) ++
      ": ordinal not in range(128)"
  | .unfilled => "failed to decode base64 data: Incorrect padding"
  | .single characters =>
    "failed to decode base64 data: Invalid base64-encoded string: number of data characters (" ++
      toString characters ++ ") cannot be 1 more than a multiple of 4"

/-! ## Reading -/

/-- The worth of a character of the alphabet. -/
def sextet? (c : Char) : Option Nat :=
  if 'A' ≤ c ∧ c ≤ 'Z' then some (c.toNat - 65)
  else if 'a' ≤ c ∧ c ≤ 'z' then some (c.toNat - 71)
  else if '0' ≤ c ∧ c ≤ '9' then some (c.toNat + 4)
  else if c = '+' then some 62
  else if c = '/' then some 63
  else none

/-- The octets of a group; one of less than four characters has one octet less than characters. -/
def octetsOf (group : List Nat) : List UInt8 :=
  let n := (group ++ [0, 0, 0]).take 4 |>.foldl (fun n sextet => n * 64 + sextet) 0
  [UInt8.ofNat (n / 65536), UInt8.ofNat (n / 256), UInt8.ofNat n].take (group.length - 1)

/-- The octets of what is left of a text. `read` characters came before the present group, and `pads`
equals signs after its last character. -/
def octetsFrom (read : Nat) (group : List Nat) (pads : Nat) : List Char → Except Fault (List UInt8)
  | [] =>
    match group with
    | [] => .ok []
    | [_] => .error (.single (read + 1))
    | _ => .error .unfilled
  | c :: rest =>
    if c = '=' then
      if group.length < 2 then octetsFrom read group pads rest
      else if group.length + pads < 3 then octetsFrom read group (pads + 1) rest
      else .ok (octetsOf group)
    else
      match sextet? c with
      | none => octetsFrom read group pads rest
      | some sextet =>
        let group := group ++ [sextet]
        if group.length < 4 then octetsFrom read group 0 rest
        else (octetsFrom (read + 4) [] 0 rest).map (octetsOf group ++ ·)

def isForeign (c : Char) : Bool := 0x80 ≤ c.toNat

def decode (s : String) : Except Fault (List UInt8) :=
  let cs := s.toList
  match cs.dropWhile fun c => !isForeign c with
  | c :: rest =>
    .error (.foreign c (cs.length - rest.length - 1) ((c :: rest).takeWhile isForeign).length)
  | [] => octetsFrom 0 [] 0 cs

end ContractAtlas.Text.Base64
