import ContractAtlas.Yaml.Error

/-!
A cursor in YAML text: what is left of the text, and the mark of its first character. Past the end
there is nothing but `endMark`, which the text itself never holds.
-/
namespace ContractAtlas.Yaml
set_option autoImplicit false

/-! ## Classes of characters -/

def isBreakOrEnd (c : Char) : Bool := isBreak c || c == endMark

def isSpaceOrTab (c : Char) : Bool := c == ' ' || c == '\t'

/-- Whether a character ends a word: a space, a tab, a break, or the end. -/
def endsWord (c : Char) : Bool := isSpaceOrTab c || isBreakOrEnd c

/-- Like `endsWord`, but a tab does not count. -/
def endsField (c : Char) : Bool := c == ' ' || isBreakOrEnd c

def isDigit (c : Char) : Bool := '0' ≤ c && c ≤ '9'

def isHexDigit (c : Char) : Bool := isDigit c || ('A' ≤ c && c ≤ 'F') || ('a' ≤ c && c ≤ 'f')

/-- The value of a hexadecimal digit. -/
def hexValue (c : Char) : Nat :=
  if isDigit c then c.toNat - 0x30 else if 'a' ≤ c then c.toNat - 0x57 else c.toNat - 0x37

/-- Letters of names: digits, Latin letters, hyphen and underscore. -/
def isNameChar (c : Char) : Bool :=
  isDigit c || ('A' ≤ c && c ≤ 'Z') || ('a' ≤ c && c ≤ 'z') || c == '-' || c == '_'

/-! ## Marks -/

/-- The mark after a character that `rest` follows. A carriage return before a line feed does not
end a line of its own, and a byte order mark takes no column. -/
def Mark.after (mark : Mark) (c : Char) (rest : List Char) : Mark :=
  if isBreak c && (c != '\r' || rest.head? != some '\n') then ⟨mark.index + 1, mark.line + 1, 0⟩
  else if c == '\ufeff' then ⟨mark.index + 1, mark.line, mark.column⟩
  else ⟨mark.index + 1, mark.line, mark.column + 1⟩

/-! ## Cursors -/

structure Cursor where
  rest : List Char
  mark : Mark

namespace Cursor

def ofText (text : List Char) : Cursor := ⟨text, .start⟩

def column (c : Cursor) : Nat := c.mark.column

/-- The character some places ahead. -/
def peekAt (c : Cursor) (ahead : Nat) : Char := (c.rest.drop ahead).headD endMark

def peek (c : Cursor) : Char := c.rest.headD endMark

def next (c : Cursor) : Cursor :=
  match c.rest with
  | [] => c
  | ch :: rest => ⟨rest, c.mark.after ch rest⟩

def skip (c : Cursor) : Nat → Cursor
  | 0 => c
  | count + 1 => c.next.skip count

/-- The characters ahead as far as they pass a test, and the cursor behind them. -/
def spanFrom (test : Char → Bool) : List Char → Mark → List Char × Cursor
  | [], mark => ([], ⟨[], mark⟩)
  | ch :: rest, mark =>
    if test ch then
      let (taken, after) := spanFrom test rest (mark.after ch rest)
      (ch :: taken, after)
    else ([], ⟨ch :: rest, mark⟩)

def span (c : Cursor) (test : Char → Bool) : List Char × Cursor := spanFrom test c.rest c.mark

/-- The cursor behind the characters ahead that pass a test. -/
def skipWhile (c : Cursor) (test : Char → Bool) : Cursor := (c.span test).2

def skipSpaces (c : Cursor) : Cursor := c.skipWhile (· == ' ')

/-- Behind a comment, if one starts here. -/
def skipComment (c : Cursor) : Cursor :=
  if c.peek = '#' then c.skipWhile fun ch => !isBreak ch else c

/-- The line break at the cursor, as the character it counts as, and the cursor behind it. -/
def lineBreak? (c : Cursor) : Option (Char × Cursor) :=
  match c.rest with
  | '\r' :: '\n' :: _ => some ('\n', c.skip 2)
  | ch :: _ =>
    if isBreak ch then some (if ch = '\u2028' ∨ ch = '\u2029' then ch else '\n', c.next) else none
  | [] => none

/-- Whether three of a character stand here as a word. -/
def isRuler (c : Cursor) (ch : Char) : Bool :=
  c.rest.take 3 == [ch, ch, ch] && endsWord (c.peekAt 3)

/-- Whether the line begins with the marker that separates documents. -/
def isSeparator (c : Cursor) : Bool := c.isRuler '-' || c.isRuler '.'

end Cursor

end ContractAtlas.Yaml
