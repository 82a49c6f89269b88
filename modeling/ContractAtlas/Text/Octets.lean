import ContractAtlas.Text.Quoted

/-!
Octets to characters in UTF-8, UTF-16 and UTF-32. A fault names the octets at which reading stopped
and why. In JSON documents surrogate code points are let through on their own; a character cannot
hold one, so each stands as U+FFFD. Text in memory is written as UTF-8 (`encode`).
-/
namespace ContractAtlas.Text
set_option autoImplicit false

/-! ## Faults -/

inductive Codec where
  | utf8
  | utf16 (bigEndian : Bool)
  | utf32 (bigEndian : Bool)
  deriving DecidableEq

def Codec.name : Codec → String
  | .utf8 => "utf-8"
  | .utf16 true => "utf-16-be"
  | .utf16 false => "utf-16-le"
  | .utf32 true => "utf-32-be"
  | .utf32 false => "utf-32-le"

inductive OctetFault where
  | start
  | continuation
  | endOfData
  | truncated
  | outOfRange
  deriving DecidableEq

def OctetFault.reason : OctetFault → String
  | .start => "invalid start byte"
  | .continuation => "invalid continuation byte"
  | .endOfData => "unexpected end of data"
  | .truncated => "truncated data"
  | .outOfRange => "code point not in range(0x110000)"

/-- What is wrong with the octets `first`, …, `first + count - 1`, the first of which is `octet`. -/
structure Undecodable where
  codec : Codec
  fault : OctetFault
  first : Nat
  count : Nat
  octet : UInt8
  deriving DecidableEq

def Undecodable.message (u : Undecodable) : String :=
  let codec := "'" ++ u.codec.name ++ "' codec can't decode "
  let place :=
    if u.count = 1 then
      "byte 0x" ++ String.ofList (hexDigits 2 u.octet.toNat) ++ " in position " ++ toString u.first
    else
      "bytes in position " ++ toString u.first ++ "-" ++ toString (u.first + u.count - 1)
  codec ++ place ++ ": " ++ u.fault.reason

/-! ## Code points -/

def replacement : Char := Char.ofNat 0xFFFD

/-- The character of a code point; a surrogate has none and is replaced. -/
def charOf (n : Nat) : Char := if n.isValidChar then Char.ofNat n else replacement

def isHighSurrogate (n : Nat) : Bool := 0xD800 ≤ n && n < 0xDC00

def isLowSurrogate (n : Nat) : Bool := 0xDC00 ≤ n && n < 0xE000

def joinSurrogates (high low : Nat) : Nat := 0x10000 + (high - 0xD800) * 0x400 + (low - 0xDC00)

/-! ## UTF-8 -/

def isContinuation (b : UInt8) : Bool := 0x80 ≤ b && b < 0xC0

/-- Whether `b` may follow a lead octet of a form of three octets. -/
def isSecondOfThree (lead b : UInt8) : Bool :=
  isContinuation b && (lead != 0xE0 || 0xA0 ≤ b) && (lead != 0xED || b < 0xA0)

/-- Whether `b` may follow a lead octet of a form of four octets. -/
def isSecondOfFour (lead b : UInt8) : Bool :=
  isContinuation b && (lead != 0xF0 || 0x90 ≤ b) && (lead != 0xF4 || b < 0x90)

def bits6 (b : UInt8) : Nat := b.toNat % 64

/-- Reads UTF-8 from position `at`; `surrogates` tells whether their encodings pass. -/
def decodeUtf8 (surrogates : Bool) : (pos : Nat) → List UInt8 → Except Undecodable (List Char)
  | _, [] => .ok []
  | pos, b :: rest =>
    let fail (fault : OctetFault) (count : Nat) : Except Undecodable (List Char) :=
      .error ⟨.utf8, fault, pos, count, b⟩
    let stop := fail .endOfData
    if b < 0x80 then (charOf b.toNat :: ·) <$> decodeUtf8 surrogates (pos + 1) rest
    else if b < 0xC2 then fail .start 1
    else if b < 0xE0 then
      match rest with
      | [] => stop 1
      | c :: rest =>
        if isContinuation c then
          (charOf (b.toNat % 32 * 64 + bits6 c) :: ·) <$> decodeUtf8 surrogates (pos + 2) rest
        else fail .continuation 1
    else if b < 0xF0 then
      match rest with
      | [] => stop 1
      | [c] => if isSecondOfThree b c then stop 2 else fail .continuation 1
      | c :: d :: rest =>
        if isSecondOfThree b c then
          if isContinuation d then
            (charOf (b.toNat % 16 * 4096 + bits6 c * 64 + bits6 d) :: ·) <$>
              decodeUtf8 surrogates (pos + 3) rest
          else fail .continuation 2
        else if surrogates && isContinuation c && isContinuation d && b == 0xED then
          (replacement :: ·) <$> decodeUtf8 surrogates (pos + 3) rest
        else fail .continuation 1
    else if b < 0xF5 then
      match rest with
      | [] => stop 1
      | c :: rest =>
        if isSecondOfFour b c then
          match rest with
          | [] => stop 2
          | d :: rest =>
            if isContinuation d then
              match rest with
              | [] => stop 3
              | e :: rest =>
                if isContinuation e then
                  (charOf (b.toNat % 8 * 262144 + bits6 c * 4096 + bits6 d * 64 + bits6 e) :: ·) <$>
                    decodeUtf8 surrogates (pos + 4) rest
                else fail .continuation 3
            else fail .continuation 2
        else fail .continuation 1
    else fail .start 1

/-- Encoding as UTF-8. -/
def encode (s : String) : List UInt8 := s.toUTF8.toList

/-! ## UTF-16 and UTF-32 -/

def unit16 (big : Bool) (a b : UInt8) : Nat :=
  if big then a.toNat * 256 + b.toNat else b.toNat * 256 + a.toNat

def decodeUtf16 (big : Bool) : (pos : Nat) → List UInt8 → Except Undecodable (List Char)
  | _, [] => .ok []
  | pos, [a] => .error ⟨.utf16 big, .truncated, pos, 1, a⟩
  | pos, a :: b :: rest =>
    let n := unit16 big a b
    if isHighSurrogate n then
      match rest with
      | c :: d :: after =>
        let m := unit16 big c d
        if isLowSurrogate m then
          (charOf (joinSurrogates n m) :: ·) <$> decodeUtf16 big (pos + 4) after
        else (replacement :: ·) <$> decodeUtf16 big (pos + 2) (c :: d :: after)
      | rest => (replacement :: ·) <$> decodeUtf16 big (pos + 2) rest
    else (charOf n :: ·) <$> decodeUtf16 big (pos + 2) rest

def decodeUtf32 (big : Bool) : (pos : Nat) → List UInt8 → Except Undecodable (List Char)
  | _, [] => .ok []
  | pos, a :: b :: c :: d :: rest =>
    let n :=
      if big then unit16 true a b * 65536 + unit16 true c d
      else unit16 false c d * 65536 + unit16 false a b
    if n < 0x110000 then (charOf n :: ·) <$> decodeUtf32 big (pos + 4) rest
    else .error ⟨.utf32 big, .outOfRange, pos, 4, a⟩
  | pos, a :: rest => .error ⟨.utf32 big, .truncated, pos, rest.length + 1, a⟩

/-! ## Detection -/

/-- How a document is to be read: the codec, the length of the byte order mark, and the position
given to the first octet after the mark. -/
structure Signature where
  codec : Codec
  markLength : Nat
  firstPosition : Nat
  deriving DecidableEq

/-- The byte order marks; a mark that starts with another stands before it. -/
def marks : List (List UInt8 × Signature) := [
  ([0x00, 0x00, 0xFE, 0xFF], ⟨.utf32 true, 4, 4⟩),
  ([0xFF, 0xFE, 0x00, 0x00], ⟨.utf32 false, 4, 4⟩),
  ([0xFE, 0xFF], ⟨.utf16 true, 2, 2⟩),
  ([0xFF, 0xFE], ⟨.utf16 false, 2, 2⟩),
  ([0xEF, 0xBB, 0xBF], ⟨.utf8, 3, 0⟩)]

/-- The codec that the zeros among the first four octets show. -/
def codecOfZeros : List UInt8 → Codec
  | a :: b :: c :: d :: _ =>
    if a = 0 then (if b = 0 then .utf32 true else .utf16 true)
    else if b = 0 then (if c = 0 ∧ d = 0 then .utf32 false else .utf16 false)
    else .utf8
  | [a, b] => if a = 0 then .utf16 true else if b = 0 then .utf16 false else .utf8
  | _ => .utf8

/-- A byte order mark decides; without one the zeros do. -/
def detect (octets : List UInt8) : Signature :=
  match marks.find? fun (mark, _) => mark.isPrefixOf octets with
  | some (_, signature) => signature
  | none => ⟨codecOfZeros octets, 0, 0⟩

/-- The characters of a document in the encoding it shows. -/
def decodeDetected (octets : List UInt8) : Except Undecodable (List Char) :=
  let signature := detect octets
  let body := octets.drop signature.markLength
  match signature.codec with
  | .utf8 => decodeUtf8 true signature.firstPosition body
  | .utf16 big => decodeUtf16 big signature.firstPosition body
  | .utf32 big => decodeUtf32 big signature.firstPosition body

end ContractAtlas.Text
