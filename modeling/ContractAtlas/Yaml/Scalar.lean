import ContractAtlas.Yaml.Cursor

/-!
Scalars in YAML text: plain, quoted, and block scalars. Where a scalar runs over several lines, one
line break between two lines of text counts as a space, and of several the first is dropped. Each
reader takes the cursor at the first character of the scalar and hands back the text of the scalar
and the cursor behind it.
-/
namespace ContractAtlas.Yaml
set_option autoImplicit false

/-! ## Folding -/

/-- What a line break, with the further breaks after it, stands for between two lines of text. -/
def foldBreak (first : Char) (more : List Char) : List Char :=
  if first ≠ '\n' then first :: more
  else if more.isEmpty then [' ']
  else more

/-! ## Plain scalars -/

/-- Whether a plain scalar ends before a character that `following` comes after. -/
def endsPlain (flow : Bool) (c following : Char) : Bool :=
  endsWord c ||
  (c == ':' && (endsWord following || (flow && [',', '[', ']', '\x7b', '\x7d'].contains following))) ||
  (flow && [',', '?', '[', ']', '\x7b', '\x7d'].contains c)

/-- A run of characters of a plain scalar. -/
def plainRun (flow : Bool) : List Char → Mark → List Char × Cursor
  | [], mark => ([], ⟨[], mark⟩)
  | c :: rest, mark =>
    if endsPlain flow c (rest.headD endMark) then ([], ⟨c :: rest, mark⟩)
    else
      let (run, after) := plainRun flow rest (mark.after c rest)
      (c :: run, after)

/-- The breaks and spaces ahead: the breaks, and whether a separator of documents was met, at which
the cursor stops. -/
def breaksAndSpaces (c : Cursor) : Nat → List Char × Bool × Cursor
  | 0 => ([], false, c)
  | fuel + 1 =>
    if c.peek = ' ' then breaksAndSpaces c.next fuel
    else match c.lineBreak? with
    | none => ([], false, c)
    | some (ch, after) =>
      if after.isSeparator then ([ch], true, after)
      else
        let (breaks, stopped, after) := breaksAndSpaces after fuel
        (ch :: breaks, stopped, after)

/-- What lies between two runs of a plain scalar: the blanks it stands for, none if the scalar ends
there, whether a line was ended, and the cursor behind it. -/
def plainSpace (c : Cursor) : List Char × Bool × Cursor :=
  let (spaces, c) := c.span (· == ' ')
  match c.lineBreak? with
  | none => (spaces, false, c)
  | some (first, after) =>
    if after.isSeparator then ([], true, after)
    else
      let (more, stopped, after) := breaksAndSpaces after (after.rest.length + 1)
      (if stopped then [] else foldBreak first more, true, after)

/-- A plain scalar as read: its text, the mark where it ends, whether the blanks behind it end a
line, and the cursor behind the blanks. -/
structure PlainScalar where
  text : List Char
  stop : Mark
  endsLine : Bool
  after : Cursor

/-- Reads on behind `part` after blanks that stand for `blanks`: the part that follows, all of it.
Outside flow collections the text must be indented by `indent` columns. -/
def plainRest (flow : Bool) (indent : Nat) (part : PlainScalar) (blanks : List Char) : Nat → PlainScalar
  | 0 => { part with text := [] }
  | fuel + 1 =>
    let (run, after) := plainRun flow part.after.rest part.after.mark
    if part.after.peek = '#' ∨ run.isEmpty then { part with text := [] }
    else
      let (next, endsLine, behind) := plainSpace after
      let part : PlainScalar := ⟨blanks ++ run, after.mark, endsLine, behind⟩
      if next.isEmpty ∨ behind.peek = '#' ∨ (!flow ∧ behind.column < indent) then part
      else
        let rest := plainRest flow indent part next fuel
        { rest with text := part.text ++ rest.text }

def plainScalar (flow : Bool) (indent : Nat) (c : Cursor) : PlainScalar :=
  plainRest flow indent ⟨[], c.mark, false, c⟩ [] (c.rest.length + 1)

/-! ## Quoted scalars -/

/-- Letters that stand for a character after a backslash. -/
def escapes : List (Char × Char) := [
  ('0', '\x00'), ('a', '\x07'), ('b', '\x08'), ('t', '\t'), ('\t', '\t'), ('n', '\n'), ('v', '\x0b'),
  ('f', '\x0c'), ('r', '\r'), ('e', '\x1b'), (' ', ' '), ('"', '"'), ('\\', '\\'), ('/', '/'),
  ('N', '\x85'), ('_', '\xa0'), ('L', '\u2028'), ('P', '\u2029')]

/-- Letters that a character's number in hexadecimal follows, and the number of its digits. -/
def numberedEscapes : List (Char × Nat) := [('x', 2), ('u', 4), ('U', 8)]

/-- The number that some hexadecimal digits ahead write; an error at the cursor if one is missing. -/
def hexNumber (context : Context) (start : Mark) (what : String) (width : Nat) (c : Cursor) :
    Except Complaint (Nat × Cursor) :=
  let digits := c.rest.take width
  match digits.find? fun ch => !isHexDigit ch with
  | some bad => .error (.within context start (.expected what bad) c.mark)
  | none =>
    if digits.length < width then .error (.within context start (.expected what endMark) c.mark)
    else .ok (digits.foldl (fun n ch => n * 16 + hexValue ch) 0, c.skip width)

/-- The character with a number. Half of a surrogate pair stands for the replacement character. -/
def numberedChar? (n : Nat) : Option Char :=
  if n.isValidChar then some (Char.ofNat n) else if n < 0x110000 then some '\ufffd' else none

/-- The breaks ahead, with the blanks around them dropped. -/
def quotedBreaks (start : Mark) (c : Cursor) : Nat → Except Complaint (List Char × Cursor)
  | 0 => .ok ([], c)
  | fuel + 1 =>
    if c.isSeparator then .error (.within .quotedScalar start .separator c.mark)
    else
      let c := c.skipWhile isSpaceOrTab
      match c.lineBreak? with
      | none => .ok ([], c)
      | some (ch, after) => (quotedBreaks start after fuel).map fun (more, c) => (ch :: more, c)

/-- The text that an escape stands for; the cursor is behind the backslash. -/
def escaped (start : Mark) (c : Cursor) : Except Complaint (List Char × Cursor) :=
  match escapes.lookup c.peek, numberedEscapes.lookup c.peek with
  | some ch, _ => .ok ([ch], c.next)
  | none, some width =>
    (hexNumber .doubleQuotedScalar start
      ("escape sequence of " ++ toString width ++ " hexadecimal numbers") width c.next).bind
      fun (n, after) =>
        match numberedChar? n with
        | some ch => .ok ([ch], after)
        | none => .error (.bare (.noCharacter n) c.next.mark)
  | none, none =>
    match c.lineBreak? with
    | some (_, after) => quotedBreaks start after (after.rest.length + 1)
    | none => .error (.within .doubleQuotedScalar start (.unknownEscape c.peek) c.mark)

/-- The blanks and breaks ahead as text. -/
def quotedSpace (start : Mark) (c : Cursor) : Except Complaint (List Char × Cursor) :=
  let (blanks, c) := c.span isSpaceOrTab
  match c.lineBreak? with
  | some (first, after) =>
    (quotedBreaks start after (after.rest.length + 1)).map fun (more, c) => (foldBreak first more, c)
  | none =>
    if c.rest.isEmpty then .error (.within .quotedScalar start .endOfText c.mark) else .ok (blanks, c)

/-- The rest of a quoted scalar after its opening quote, which stands at `start`. -/
def quotedRest (quote : Char) (start : Mark) (c : Cursor) : Nat → Except Complaint (List Char × Cursor)
  | 0 => .error (.within .quotedScalar start .endOfText c.mark)
  | fuel + 1 =>
    let andRest (part : List Char × Cursor) :=
      (quotedRest quote start part.2 fuel).map fun (text, after) => (part.1 ++ text, after)
    let ch := c.peek
    if ch = quote then
      if quote = '\'' ∧ c.peekAt 1 = '\'' then andRest (['\''], c.skip 2) else .ok ([], c.next)
    else if quote = '"' ∧ ch = '\\' then (escaped start c.next).bind andRest
    else if endsWord ch then (quotedSpace start c).bind andRest
    else andRest ([ch], c.next)

def quotedScalar (c : Cursor) : Except Complaint (List Char × Cursor) :=
  quotedRest c.peek c.mark c.next (c.rest.length + 1)

/-! ## Block scalars -/

/-- What becomes of the line breaks at the end of a block scalar. -/
inductive Chomping where
  | strip
  | clip
  | keep
  deriving DecidableEq

def chomping? (c : Char) : Option Chomping :=
  if c = '+' then some .keep else if c = '-' then some .strip else none

/-- The indentation asked for by a digit, if there is one. -/
def increment? (start : Mark) (c : Cursor) : Except Complaint (Option Nat × Cursor) :=
  if isDigit c.peek then
    if c.peek = '0' then .error (.within .blockScalar start .zeroIndentation c.mark)
    else .ok (some (c.peek.toNat - 0x30), c.next)
  else .ok (none, c)

/-- The indicators of chomping and indentation, in either order. -/
def blockIndicators (start : Mark) (c : Cursor) :
    Except Complaint (Chomping × Option Nat × Cursor) :=
  let found : Except Complaint (Chomping × Option Nat × Cursor) :=
    match chomping? c.peek with
    | some chomping => (increment? start c.next).map (chomping, ·)
    | none =>
      (increment? start c).map fun (increment, c) =>
        match increment, chomping? c.peek with
        | some n, some chomping => (chomping, some n, c.next)
        | increment, _ => (.clip, increment, c)
  found.bind fun (chomping, increment, c) =>
    if endsField c.peek then .ok (chomping, increment, c)
    else .error (.within .blockScalar start (.expected "chomping or indentation indicators" c.peek) c.mark)

/-- The rest of a line that holds nothing but spaces and a comment. -/
def ignoredLine (context : Context) (start : Mark) (c : Cursor) : Except Complaint Cursor :=
  let c := c.skipSpaces.skipComment
  match c.lineBreak? with
  | some (_, after) => .ok after
  | none =>
    if c.rest.isEmpty then .ok c
    else .error (.within context start (.expected "a comment or a line break" c.peek) c.mark)

/-- The empty lines ahead and the deepest indentation among them and the line after them. -/
def leadingBreaks (deepest : Nat) (c : Cursor) : Nat → List Char × Nat × Cursor
  | 0 => ([], deepest, c)
  | fuel + 1 =>
    if c.peek = ' ' then leadingBreaks (max deepest c.next.column) c.next fuel
    else match c.lineBreak? with
    | none => ([], deepest, c)
    | some (ch, after) =>
      let (breaks, deepest, c) := leadingBreaks deepest after fuel
      (ch :: breaks, deepest, c)

/-- Spaces up to a column. -/
def skipIndent (indent : Nat) (c : Cursor) : Cursor :=
  c.skip (min (indent - c.column) (c.rest.takeWhile (· == ' ')).length)

/-- The empty lines ahead of a line indented by `indent`. -/
def emptyLines (indent : Nat) (c : Cursor) : Nat → List Char × Cursor
  | 0 => ([], c)
  | fuel + 1 =>
    let c := skipIndent indent c
    match c.lineBreak? with
    | none => ([], c)
    | some (ch, after) =>
      let (breaks, c) := emptyLines indent after fuel
      (ch :: breaks, c)

/-- The break between two lines of a block scalar. In a folded one a single line feed between lines
that do not begin with a blank counts as a space, and is dropped before empty lines. -/
def betweenLines (folded : Bool) (lineBreak : Option Char) (blankAround : Bool) (breaks : List Char) :
    List Char :=
  if folded ∧ lineBreak = some '\n' ∧ !blankAround then (if breaks.isEmpty then [' '] else [])
  else lineBreak.toList

/-- The lines of a block scalar from a line of text on, `breaks` being the empty lines before it. -/
def blockLines (folded : Bool) (chomping : Chomping) (indent : Nat) (breaks : List Char) (c : Cursor) :
    Nat → List Char × Cursor
  | 0 => ([], c)
  | fuel + 1 =>
    let (line, c') := c.span fun ch => !isBreak ch
    let (lineBreak, c') : Option Char × Cursor :=
      match c'.lineBreak? with
      | some (ch, after) => (some ch, after)
      | none => (none, c')
    let (more, after) := emptyLines indent c' (c'.rest.length + 1)
    if after.column = indent ∧ !after.rest.isEmpty then
      let between := betweenLines folded lineBreak (isSpaceOrTab c.peek || isSpaceOrTab after.peek) more
      let (text, behind) := blockLines folded chomping indent more after fuel
      (breaks ++ line ++ between ++ text, behind)
    else
      let tail := match chomping with
        | .strip => []
        | .clip => lineBreak.toList
        | .keep => lineBreak.toList ++ more
      (breaks ++ line ++ tail, after)

/-- A block scalar in a node indented by `parent` columns; the cursor is at its indicator. -/
def blockScalar (parent : Nat) (c : Cursor) : Except Complaint (List Char × Cursor) :=
  let folded := c.peek == '>'
  (blockIndicators c.mark c.next).bind fun (chomping, increment, c') =>
  (ignoredLine .blockScalar c.mark c').map fun c' =>
    let least := max 1 parent
    let fuel := c'.rest.length + 1
    let (indent, breaks, after) : Nat × List Char × Cursor :=
      match increment with
      | none =>
        let (breaks, deepest, after) := leadingBreaks 0 c' fuel
        (max least deepest, breaks, after)
      | some n =>
        let indent := least + n - 1
        let (breaks, after) := emptyLines indent c' fuel
        (indent, breaks, after)
    if after.column = indent ∧ !after.rest.isEmpty then
      blockLines folded chomping indent breaks after (after.rest.length + 1)
    else
      (if chomping = .keep then breaks else [], after)

end ContractAtlas.Yaml
