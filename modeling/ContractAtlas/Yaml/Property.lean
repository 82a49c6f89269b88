import ContractAtlas.Text.Octets
import ContractAtlas.Yaml.Scalar

/-!
Properties of nodes in YAML text, anchors, aliases and tags, and the directives before a document.
Each reader takes the cursor at the sign that begins the property.
-/
namespace ContractAtlas.Yaml
set_option autoImplicit false

/-! ## Names -/

/-- A name of at least one character, behind which only a character that passes `ends` may stand. -/
def name (context : Context) (start : Mark) (ends : Char → Bool) (c : Cursor) :
    Except Complaint (String × Cursor) :=
  let (text, after) := c.span isNameChar
  if text.isEmpty ∨ !ends after.peek then
    .error (.within context start (.expected "alphabetic or numeric character" after.peek) after.mark)
  else .ok (String.ofList text, after)

/-- Whether an anchor or alias may end before a character. -/
def endsAnchor (c : Char) : Bool :=
  endsWord c || ['?', ':', ',', ']', '\x7d', '%', '@', '\x60'].contains c

/-- An anchor or an alias. -/
def anchorOrAlias (c : Cursor) : Except Complaint (TokenKind × Cursor) :=
  if c.peek = '*' then (name .aliasName c.mark endsAnchor c.next).map fun (s, c) => (.aliasOf s, c)
  else (name .anchor c.mark endsAnchor c.next).map fun (s, c) => (.anchor s, c)

/-! ## Addresses of tags -/

def isAddressChar (c : Char) : Bool :=
  isNameChar c || ";/?:@&=+$,.!~*'()[]".toList.contains c

/-- Octets in a row, each written as a percent sign and two hexadecimal digits. -/
def percentOctets (context : Context) (start : Mark) (c : Cursor) :
    Nat → Except Complaint (List UInt8 × Cursor)
  | 0 => .ok ([], c)
  | fuel + 1 =>
    if c.peek ≠ '%' then .ok ([], c)
    else
      (hexNumber context start "URI escape sequence of 2 hexadecimal numbers" 2 c.next).bind
        fun (n, c) => (percentOctets context start c fuel).map fun (octets, c) => (UInt8.ofNat n :: octets, c)

/-- The text of percent-coded octets. -/
def percentText (context : Context) (start : Mark) (c : Cursor) :
    Except Complaint (List Char × Cursor) :=
  (percentOctets context start c c.rest.length).bind fun (octets, after) =>
    match Text.decodeUtf8 false 0 octets with
    | .ok text => .ok (text, after)
    | .error fault => .error (.within context start (.badOctets fault.message) c.mark)

def addressRest (context : Context) (start : Mark) (c : Cursor) :
    Nat → Except Complaint (List Char × Cursor)
  | 0 => .ok ([], c)
  | fuel + 1 =>
    let andRest (part : List Char × Cursor) :=
      (addressRest context start part.2 fuel).map fun (text, after) => (part.1 ++ text, after)
    if c.peek = '%' then (percentText context start c).bind andRest
    else if isAddressChar c.peek then andRest ([c.peek], c.next)
    else .ok ([], c)

/-- An address of at least one character. -/
def address (scanning parsing : Context) (start : Mark) (c : Cursor) :
    Except Complaint (String × Cursor) :=
  (addressRest scanning start c (c.rest.length + 1)).bind fun (text, after) =>
    if after.mark = c.mark then
      .error (.within parsing start (.expected "URI" after.peek) after.mark)
    else .ok (String.ofList text, after)

/-! ## Tags -/

/-- A handle: an exclamation mark, alone before a space or else with a name and a second one. -/
def tagHandle (context : Context) (start : Mark) (c : Cursor) : Except Complaint (String × Cursor) :=
  if c.peek ≠ '!' then .error (.within context start (.expected "'!'" c.peek) c.mark)
  else if c.peekAt 1 = ' ' then .ok ("!", c.next)
  else
    let (text, after) := c.next.span isNameChar
    if after.peek = '!' then .ok ("!" ++ String.ofList text ++ "!", after.next)
    else .error (.within context start (.expected "'!'" after.peek) after.mark)

/-- The handle and the address of a tag that is neither verbatim nor a lone exclamation mark. -/
def shortTag (c : Cursor) : Except Complaint (TokenKind × Cursor) :=
  let word := (c.next.rest.takeWhile fun ch => !endsField ch)
  let handle : Except Complaint (String × Cursor) :=
    if word.contains '!' then tagHandle .tag c.mark c else .ok ("!", c.next)
  handle.bind fun (handle, after) =>
    (address .tag .tagAddress c.mark after).map fun (suffix, after) => (.tag (some handle) suffix, after)

/-- A tag in angle brackets, which has no handle. -/
def verbatimTag (c : Cursor) : Except Complaint (TokenKind × Cursor) :=
  (address .tag .tagAddress c.mark (c.skip 2)).bind fun (suffix, after) =>
    if after.peek = '>' then .ok (.tag none suffix, after.next)
    else .error (.within .tagAddress c.mark (.expected "'>'" after.peek) after.mark)

def tag (c : Cursor) : Except Complaint (TokenKind × Cursor) :=
  let found : Except Complaint (TokenKind × Cursor) :=
    if c.peekAt 1 = '<' then verbatimTag c
    else if endsWord (c.peekAt 1) then .ok (.tag none "!", c.next)
    else shortTag c
  found.bind fun (kind, after) =>
    if endsField after.peek then .ok (kind, after)
    else .error (.within .tag c.mark (.expected "' '" after.peek) after.mark)

/-! ## Directives -/

def expectedInDirective {α : Type} (start : Mark) (what : String) (c : Cursor) : Except Complaint α :=
  .error (.within .directive start (.expected what c.peek) c.mark)

def versionNumber (start : Mark) (c : Cursor) : Except Complaint (Nat × Cursor) :=
  let (digits, after) := c.span isDigit
  if digits.isEmpty then expectedInDirective start "a digit" c
  else .ok (digits.foldl (fun n ch => n * 10 + (ch.toNat - 0x30)) 0, after)

def versionDirective (start : Mark) (c : Cursor) : Except Complaint (Directive × Cursor) :=
  (versionNumber start c.skipSpaces).bind fun (major, c) =>
    if c.peek ≠ '.' then expectedInDirective start "a digit or '.'" c
    else (versionNumber start c.next).bind fun (minor, c) =>
      if endsField c.peek then .ok (.version major minor, c)
      else expectedInDirective start "a digit or ' '" c

def handleDirective (start : Mark) (c : Cursor) : Except Complaint (Directive × Cursor) :=
  (tagHandle .directive start c.skipSpaces).bind fun (handle, c) =>
    if c.peek ≠ ' ' then expectedInDirective start "' '" c
    else (address .directive .directiveAddress start c.skipSpaces).bind fun (expansion, c) =>
      if endsField c.peek then .ok (.handle handle expansion, c)
      else expectedInDirective start "' '" c

/-- A directive, and the cursor on the next line. The token ends before the comment that may follow. -/
def directive (c : Cursor) : Except Complaint (TokenKind × Cursor) :=
  (name .directive c.mark endsField c.next).bind fun (title, after) =>
    let found : Except Complaint (Directive × Cursor) :=
      if title = "YAML" then versionDirective c.mark after
      else if title = "TAG" then handleDirective c.mark after
      else .ok (.unknown, after.skipWhile fun ch => !isBreak ch)
    found.bind fun (directive, after) =>
      (ignoredLine .directive c.mark after).map fun after => (.directive directive, after)

end ContractAtlas.Yaml
