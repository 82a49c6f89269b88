/-!
Blank characters at the ends of a text. Two classes are in use: the white space of the Unicode
standard, and the larger class that also counts the four information separators. `trim` removes
the members of a class from both ends and nothing else.
-/
namespace ContractAtlas.Text
set_option autoImplicit false

/-! ## Classes -/

/-- The White_Space property. -/
def isWhiteSpace (c : Char) : Bool :=
  let n := c.toNat
  (0x09 ≤ n && n ≤ 0x0D) || n == 0x20 || n == 0x85 || n == 0xA0 || n == 0x1680 ||
  (0x2000 ≤ n && n ≤ 0x200A) || n == 0x2028 || n == 0x2029 || n == 0x202F || n == 0x205F ||
  n == 0x3000

/-- White space and the information separators U+001C to U+001F. -/
def isSpacing (c : Char) : Bool :=
  isWhiteSpace c || (0x1C ≤ c.toNat && c.toNat ≤ 0x1F)

/-! ## Trimming -/

def trimEnd (blank : Char → Bool) (cs : List Char) : List Char :=
  (cs.reverse.dropWhile blank).reverse

def trim (blank : Char → Bool) (cs : List Char) : List Char :=
  trimEnd blank (cs.dropWhile blank)

/-- The text without spacing at its ends. -/
def strip (s : String) : String := String.ofList (trim isSpacing s.toList)

end ContractAtlas.Text
