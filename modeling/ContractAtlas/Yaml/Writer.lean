import ContractAtlas.Yaml.Page

/-!
Writing a JSON value as YAML in block style: one entry or item a line, deeper collections indented by
two columns, and a sequence under a key not indented. Empty collections are written in brackets. A key
that is empty, long, or of several lines gets a question mark and a line of its own.
-/
namespace ContractAtlas.Yaml
set_option autoImplicit false

def indentStep : Nat := 2

/-- A key of this length together with its tag is no simple key. -/
def simpleKeyLimit : Nat := 128

/-- The length of a tag in its short form. -/
def Tag.shortLength (tag : Tag) : Nat := tag.name.length - Tag.common.length + 2

/-- Whether a key is written on the line of its value. -/
def isSimpleKey (key : String) : Bool :=
  key ≠ "" && !key.toList.any partsLines && decide (key.length + Tag.str.shortLength < simpleKeyLimit)

/-- The column of a collection inside one at `column`; `none` is the document. -/
def innerColumn : Option Nat → Nat
  | none => 0
  | some column => column + indentStep

/-- The column in which further lines of a scalar begin. -/
def scalarColumn : Option Nat → Nat
  | none => indentStep
  | some column => column + indentStep

/-- Writes a key with the sign behind it: on the line of its value, or with a question mark and on a
line of its own. -/
def writeKey (column : Nat) (p : Page) (key : String) : Page :=
  if isSimpleKey key then (p.putScalar true (scalarColumn (some column)) .str key).tightSign ":"
  else
    (((p.indentSign "?").putScalar false (scalarColumn (some column)) .str key).indent column).indentSign ":"

mutual

/-- Writes a value; `inMapping` tells whether it is the value of an entry. -/
def write (column : Option Nat) (inMapping : Bool) (p : Page) : Json → Page
  | .arr [] => (p.sign "[").tightSign "]"
  | .obj [] => (p.sign "\x7b").tightSign "\x7d"
  | .arr (item :: items) =>
    let inner := if inMapping && !p.indenting then column.getD 0 else innerColumn column
    writeItems inner p (item :: items)
  | .obj (field :: fields) => writeFields (innerColumn column) p (field :: fields)
  | .null => p.putScalar false (scalarColumn column) .null "null"
  | .bool b => p.putScalar false (scalarColumn column) .bool (if b then "true" else "false")
  | .int n => p.putScalar false (scalarColumn column) .int (toString n)
  | .float x => p.putScalar false (scalarColumn column) .float (floatSpelling x)
  | .str s => p.putScalar false (scalarColumn column) .str s

def writeItems (column : Nat) (p : Page) : List Json → Page
  | [] => p
  | item :: rest =>
    writeItems column (write (some column) false ((p.indent column).indentSign "-") item) rest

def writeFields (column : Nat) (p : Page) : List (String × Json) → Page
  | [] => p
  | (key, value) :: rest =>
    writeFields column (write (some column) true (writeKey column (p.indent column) key) value) rest

end

/-- Whether a document is a plain scalar, whose end has to be marked. -/
def endsOpen (json : Json) : Bool :=
  match scalarSpelling? json with
  | some (tag, spelling) => styleOf false tag spelling == .plain
  | none => false

/-- The text of a document. -/
def textOf (json : Json) : String :=
  let p := (write none false {} json).lineBreak
  p.text ++ (if endsOpen json then "...\n" else "")

end ContractAtlas.Yaml
