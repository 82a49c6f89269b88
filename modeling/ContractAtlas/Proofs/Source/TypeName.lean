import ContractAtlas.Source.TypeName
import ContractAtlas.Proofs.Fold
import ContractAtlas.Proofs.Text.Boundary
import ContractAtlas.Proofs.Source.Expression

/-!
Type names that can be read back from their texts. A legible type is made of names and lengths without
marks, of mappings and of arrays. Its text tells where it ends (`Legible.readable`), so two documents
that give the same text give the same type (`text_eq_iff_of_spellings`).

The lengths of an array stand behind its base, so a text is read as a name or a mapping and the
brackets behind it (`Form`).
-/
namespace ContractAtlas.TypeName
set_option autoImplicit false
open Text

/-! ## Legible types -/

/-- The characters that mappings and arrays are written with. -/
def isMark (c : Char) : Bool := ['[', ']', '(', ')', '=', '>'].contains c

/-- A text without marks. It may be empty, and it may have spaces. -/
def IsPlain (s : String) : Prop := ∀ c ∈ s.toList, isMark c = false

instance (s : String) : Decidable (IsPlain s) := List.decidableBAll _ _

inductive Legible : TypeName → Prop
  | named {name : String} (hname : IsPlain name) : Legible (.named name)
  | mapping {key value : TypeName} (hkey : Legible key) (hvalue : Legible value) :
    Legible (.mapping key value)
  | array {base : TypeName} {length : String} (hbase : Legible base) (hlength : IsPlain length) :
    Legible (.array base (.atom length))

/-! ## Texts -/

def chars (t : TypeName) : List Char := t.text.toList

/-- A length in its brackets. -/
def bracket (length : String) : List Char := '[' :: length.toList ++ [']']

theorem chars_named (name : String) : (TypeName.named name).chars = name.toList := rfl

theorem chars_mapping (key value : TypeName) (r : List Char) :
    (TypeName.mapping key value).chars ++ r =
      "mapping".toList ++ '(' :: (key.chars ++ ' ' :: '=' :: '>' :: ' ' :: (value.chars ++ ')' :: r)) := by
  simp [chars, text]

theorem chars_array (base : TypeName) (length : String) :
    (TypeName.array base (.atom length)).chars = base.chars ++ bracket length := by
  simp [chars, text, Expression.text, bracket]

/-- Arrays of arrays, from the innermost to the outermost length. -/
def indexed (base : TypeName) (lengths : List String) : TypeName :=
  lengths.foldl (fun t length => .array t (.atom length)) base

theorem indexed_concat (base : TypeName) (lengths : List String) (length : String) :
    indexed base (lengths ++ [length]) = .array (indexed base lengths) (.atom length) := by
  simp [indexed]

theorem chars_indexed (base : TypeName) (lengths : List String) :
    (indexed base lengths).chars = base.chars ++ lengths.flatMap bracket :=
  foldl_append _ chars chars_array lengths base

/-- The forms of legible types, told by what stands before the first mark. -/
inductive Form : TypeName → Prop
  | named {name : String} {lengths : List String} (hname : IsPlain name)
    (hlengths : ∀ length ∈ lengths, IsPlain length) : Form (indexed (.named name) lengths)
  | mapping {key value : TypeName} {lengths : List String} (hkey : Legible key) (hvalue : Legible value)
    (hlengths : ∀ length ∈ lengths, IsPlain length) : Form (indexed (.mapping key value) lengths)

theorem Legible.form {t : TypeName} (h : Legible t) : Form t := by
  induction h with
  | @named name hname => exact @Form.named name [] hname (List.forall_mem_nil _)
  | @mapping key value hkey hvalue =>
    exact @Form.mapping key value [] hkey hvalue (List.forall_mem_nil _)
  | @array base length _ hlength ih =>
    have hconcat {lengths : List String} (hlengths : ∀ l ∈ lengths, IsPlain l) :
        ∀ l ∈ lengths ++ [length], IsPlain l := by
      simpa [or_imp, forall_and] using ⟨hlengths, hlength⟩
    cases ih with
    | named hname hlengths =>
      rw [← indexed_concat]
      exact .named hname (hconcat hlengths)
    | mapping hkey hvalue hlengths =>
      rw [← indexed_concat]
      exact .mapping hkey hvalue (hconcat hlengths)

/-! ## Where a name ends -/

/-- What parts a name from the mark behind it: a space, if the mark is the arrow of a mapping. -/
def gap (rest : List Char) : List Char := if rest.head? = some '=' then [' '] else []

/-- What may stand behind a name. -/
def Bounds (r : List Char) : Prop := ∃ rest, r = gap rest ++ rest ∧ ∀ c ∈ rest.head?, isMark c = true

theorem bounds_cons {c : Char} (hc : isMark c = true) (hne : c ≠ '=') (rest : List Char) :
    Bounds (c :: rest) := by
  refine ⟨c :: rest, ?_, ?_⟩
  · simp [gap, hne]
  · simpa using hc

theorem bounds_arrow (rest : List Char) : Bounds (' ' :: '=' :: rest) :=
  ⟨'=' :: rest, rfl, by simp [isMark]⟩

theorem name_append_inj {n m : String} (hn : IsPlain n) (hm : IsPlain m) {r s : List Char}
    (hr : Bounds r) (hs : Bounds s) (h : n.toList ++ r = m.toList ++ s) : n = m ∧ r = s := by
  obtain ⟨r, rfl, hr⟩ := hr
  obtain ⟨s, rfl, hs⟩ := hs
  have hgap (rest : List Char) : ∀ c ∈ gap rest, isMark c = false := by
    unfold gap
    split <;> simp [isMark]
  have hinside {n : String} (hn : IsPlain n) (rest : List Char) :
      ∀ c ∈ n.toList ++ gap rest, (!isMark c) = true := by
    intro c hc
    rw [Bool.not_eq_true', (List.mem_append.mp hc).elim (hn c) (hgap rest c)]
  -- The gap is read with the name. It depends on the mark alone, so it is the same on both sides.
  rw [← List.append_assoc, ← List.append_assoc] at h
  obtain ⟨hname, rfl⟩ := append_inj_of_all (hinside hn r) (hinside hm s)
    (by simpa using hr) (by simpa using hs) h
  exact ⟨String.toList_injective (List.append_cancel_right hname), rfl⟩

/-! ## Reading back -/

/-- What may stand behind a type: nothing, the end of a mapping or its arrow. -/
structure Ends (r : List Char) : Prop where
  bounds : Bounds r
  no_bracket : r.head? ≠ some '['
  no_parenthesis : r.head? ≠ some '('

theorem ends_nil : Ends [] := ⟨⟨[], rfl, by simp⟩, by simp, by simp⟩

theorem ends_close (r : List Char) : Ends (')' :: r) :=
  ⟨bounds_cons (by decide) (by decide) r, by simp, by simp⟩

theorem ends_arrow (r : List Char) : Ends (' ' :: '=' :: r) := ⟨bounds_arrow r, by simp, by simp⟩

/-- Wherever the text of the type is followed by what may stand behind it, it can be told from the text
of any other legible type. -/
def Readable (t : TypeName) : Prop :=
  ∀ {u}, Legible u → ∀ {r s}, Ends r → Ends s → t.chars ++ r = u.chars ++ s → t = u ∧ r = s

theorem bracket_append_inj {l k : String} (hl : IsPlain l) (hk : IsPlain k) {r s : List Char}
    (h : bracket l ++ r = bracket k ++ s) : l = k ∧ r = s := by
  simp only [bracket, List.cons_append, List.append_assoc, List.cons.injEq, true_and] at h
  have hclose (r : List Char) : Bounds (']' :: r) := bounds_cons (by decide) (by decide) r
  obtain ⟨rfl, hrest⟩ := name_append_inj hl hk (hclose r) (hclose s) h
  exact ⟨rfl, (List.cons.inj hrest).2⟩

theorem brackets_append_inj {lengths others : List String}
    (hlengths : ∀ l ∈ lengths, IsPlain l) (hothers : ∀ l ∈ others, IsPlain l) {r s : List Char}
    (hr : Ends r) (hs : Ends s)
    (h : lengths.flatMap bracket ++ r = others.flatMap bracket ++ s) : lengths = others ∧ r = s := by
  have hbracket : ∀ l ∈ lengths, ∀ k ∈ others, ∀ {r s}, True → True →
      bracket l ++ r = bracket k ++ s → l = k ∧ r = s :=
    fun l hl k hk _ _ _ _ => bracket_append_inj (hlengths l hl) (hothers k hk)
  exact flatMap_append_inj (fun _ => rfl) (fun _ => trivial) hbracket trivial trivial
    hr.no_bracket hs.no_bracket h

theorem bounds_brackets (lengths : List String) {r : List Char} (hr : Ends r) :
    Bounds (lengths.flatMap bracket ++ r) := by
  cases lengths with
  | nil => exact hr.bounds
  | cons length lengths => exact bounds_cons (by decide) (by decide) _

theorem name_ne_mapping {name : String} (hname : IsPlain name) {lengths : List String}
    {r rest : List Char} (hr : Ends r) :
    name.toList ++ (lengths.flatMap bracket ++ r) ≠ "mapping".toList ++ '(' :: rest := by
  intro h
  have hmapping : IsPlain "mapping" := by decide
  obtain ⟨-, hrest⟩ := name_append_inj hname hmapping (bounds_brackets lengths hr)
    (bounds_cons (by decide) (by decide) rest) h
  cases lengths with
  | nil => exact hr.no_parenthesis (by rw [show r = '(' :: rest from hrest]; rfl)
  | cons length lengths => simp [bracket] at hrest

theorem readable_indexed_named {name : String} (hname : IsPlain name) {lengths : List String}
    (hlengths : ∀ l ∈ lengths, IsPlain l) : Readable (indexed (.named name) lengths) := by
  intro u hu r s hr hs h
  rw [chars_indexed, List.append_assoc, chars_named] at h
  cases hu.form with
  | named hname' hothers =>
    rw [chars_indexed, List.append_assoc, chars_named] at h
    obtain ⟨rfl, hrest⟩ := name_append_inj hname hname' (bounds_brackets lengths hr)
      (bounds_brackets _ hs) h
    obtain ⟨rfl, rfl⟩ := brackets_append_inj hlengths hothers hr hs hrest
    exact ⟨rfl, rfl⟩
  | mapping =>
    rw [chars_indexed, List.append_assoc, chars_mapping] at h
    exact absurd h (name_ne_mapping hname hr)

theorem readable_indexed_mapping {key value : TypeName} (hkey : Readable key) (hvalue : Readable value)
    {lengths : List String} (hlengths : ∀ l ∈ lengths, IsPlain l) :
    Readable (indexed (.mapping key value) lengths) := by
  intro u hu r s hr hs h
  rw [chars_indexed, List.append_assoc, chars_mapping] at h
  cases hu.form with
  | named hname =>
    rw [chars_indexed, List.append_assoc, chars_named] at h
    exact absurd h.symm (name_ne_mapping hname hs)
  | mapping hkey' hvalue' hothers =>
    rw [chars_indexed, List.append_assoc, chars_mapping] at h
    -- The key is followed by the arrow, the value by what closes the mapping.
    obtain ⟨rfl, harrow⟩ := hkey hkey' (ends_arrow _) (ends_arrow _)
      (List.cons.inj (List.append_cancel_left h)).2
    simp only [List.cons.injEq, true_and] at harrow
    obtain ⟨rfl, hclosed⟩ := hvalue hvalue' (ends_close _) (ends_close _) harrow
    obtain ⟨rfl, rfl⟩ := brackets_append_inj hlengths hothers hr hs (List.cons.inj hclosed).2
    exact ⟨rfl, rfl⟩

theorem Legible.readable_indexed {t : TypeName} (h : Legible t) {lengths : List String}
    (hlengths : ∀ l ∈ lengths, IsPlain l) : Readable (indexed t lengths) := by
  induction h generalizing lengths with
  | named hname => exact readable_indexed_named hname hlengths
  | mapping _ _ ihkey ihvalue =>
    exact readable_indexed_mapping (ihkey (List.forall_mem_nil _)) (ihvalue (List.forall_mem_nil _))
      hlengths
  | array _ hlength ih =>
    -- The length is the first of those behind the base.
    exact ih (List.forall_mem_cons.mpr ⟨hlength, hlengths⟩)

/-- A legible type and what stands behind it can be read from a text. -/
theorem Legible.readable {t : TypeName} (h : Legible t) : Readable t :=
  h.readable_indexed (List.forall_mem_nil _)

/-! ## Documents -/

/-- The text of the length in a node of an array: none for a dynamic array, else one that is not
empty. -/
inductive SpellsLength : Json → String → Prop
  | dynamic : SpellsLength .null ""
  | fixed {node : Json} {length : String} (htext : (Expression.ofJson node).text = length)
    (hne : length ≠ "") (hplain : IsPlain length) : SpellsLength node length

/-- What the name of a user-defined type is taken from: the resolved type, else the name as written,
else the path. -/
inductive Resolves (node : Json) : String → Prop
  | resolved {name : String}
    (hresolved : (node.field "typeDescriptions").field "typeString" = .str name) (hne : name ≠ "") :
    Resolves node name
  | written {name : String}
    (hblank : ((node.field "typeDescriptions").field "typeString").textOrEmpty = "")
    (hwritten : node.field "name" = .str name) (hne : name ≠ "") : Resolves node name
  | path (hblank : ((node.field "typeDescriptions").field "typeString").textOrEmpty = "")
    (hblank' : (node.field "name").textOrEmpty = "") :
    Resolves node ((node.field "pathNode").field "name").textOrEmpty

/-- A document that spells a type. -/
inductive Spells : Json → TypeName → Prop
  | elementary {node : Json} (hkind : node.kind = "ElementaryTypeName")
    (hname : IsPlain (node.field "name").textOrEmpty) :
    Spells node (.named (node.field "name").textOrEmpty)
  | userDefined {node : Json} {name : String} (hkind : node.kind = "UserDefinedTypeName")
    (hresolves : Resolves node name) (hname : IsPlain name) : Spells node (.named name)
  | mapping {node : Json} {key value : TypeName} (hkind : node.kind = "Mapping")
    (hkey : Spells (node.field "keyType") key) (hvalue : Spells (node.field "valueType") value) :
    Spells node (.mapping key value)
  | array {node : Json} {base : TypeName} {length : String} (hkind : node.kind = "ArrayTypeName")
    (hbase : Spells (node.field "baseType") base)
    (hlength : SpellsLength (node.field "length") length) : Spells node (.array base (.atom length))

theorem SpellsLength.text_eq {node : Json} {length : String} (h : SpellsLength node length) :
    (Expression.ofJson node).text = length := by
  cases h with
  | dynamic =>
    rw [Expression.ofJson]
    rfl
  | fixed htext => exact htext

theorem SpellsLength.isPlain {node : Json} {length : String} (h : SpellsLength node length) :
    IsPlain length := by
  cases h with
  | dynamic => decide
  | fixed _ _ hplain => exact hplain

theorem Resolves.userDefined_eq {node : Json} {name : String} (h : Resolves node name) :
    userDefined node = name := by
  have htext {json : Json} (h : json = .str name) : json.textOrEmpty = name := by
    rw [h]
    rfl
  unfold userDefined
  cases h with
  | resolved hresolved hne => simp [htext hresolved, hne]
  | written hblank hwritten hne => simp [hblank, htext hwritten, hne]
  | path hblank hblank' => simp [hblank, hblank']

theorem Spells.legible {node : Json} {t : TypeName} (h : Spells node t) : Legible t := by
  induction h with
  | elementary _ hname | userDefined _ _ hname => exact .named hname
  | mapping _ _ _ ihkey ihvalue => exact .mapping ihkey ihvalue
  | array _ _ hlength ih => exact .array ih hlength.isPlain

/-- The lengths need not be atoms in the document. -/
theorem Spells.text_eq {node : Json} {t : TypeName} (h : Spells node t) :
    (ofJson node).text = t.text := by
  induction h with
  | elementary hkind =>
    obtain ⟨fields, rfl⟩ := Json.exists_fields_of_kind hkind (by decide)
    rw [ofJson]
    simp only [hkind]
  | userDefined hkind hresolves =>
    obtain ⟨fields, rfl⟩ := Json.exists_fields_of_kind hkind (by decide)
    rw [ofJson]
    simp only [hkind]
    rw [hresolves.userDefined_eq]
  | mapping hkind _ _ ihkey ihvalue =>
    obtain ⟨fields, rfl⟩ := Json.exists_fields_of_kind hkind (by decide)
    rw [ofJson]
    simp only [hkind]
    rw [text, text, ihkey, ihvalue]
  | array hkind _ hlength ih =>
    obtain ⟨fields, rfl⟩ := Json.exists_fields_of_kind hkind (by decide)
    rw [ofJson]
    simp only [hkind]
    rw [text, text, ih, hlength.text_eq, Expression.text]

/-- Two documents have the same text just if they spell the same type. -/
theorem text_eq_iff_of_spellings {a b : Json} {t u : TypeName} (ha : Spells a t) (hb : Spells b u) :
    (ofJson a).text = (ofJson b).text ↔ t = u := by
  rw [ha.text_eq, hb.text_eq]
  refine ⟨fun htext => ?_, congrArg text⟩
  have hchars : t.chars ++ [] = u.chars ++ [] := congrArg (String.toList · ++ []) htext
  exact (ha.legible.readable hb.legible ends_nil ends_nil hchars).1

def account : Json :=
  .obj [("nodeType", .str "UserDefinedTypeName"),
    ("pathNode", .obj [("nodeType", .str "IdentifierPath"), ("name", .str "Account")])]

def pair : Json :=
  .obj [("nodeType", .str "ArrayTypeName"),
    ("baseType", .obj [("nodeType", .str "ElementaryTypeName"), ("name", .str "uint256")]),
    ("length", .obj [("nodeType", .str "Literal"), ("value", .str "2")])]

def byAccount (value : Json) : Json :=
  .obj [("nodeType", .str "Mapping"), ("keyType", account), ("valueType", value)]

def listOf (base : Json) : Json := .obj [("nodeType", .str "ArrayTypeName"), ("baseType", base)]

theorem spells_pair : Spells pair (.array (.named "uint256") (.atom "2")) := by
  have hlength : (Expression.ofJson (pair.field "length")).text = "2" := by
    rw [Expression.ofJson_literal rfl rfl, Expression.text]
  exact .array rfl (.elementary rfl (by decide)) (.fixed hlength (by decide) (by decide))

theorem spells_byAccount {value : Json} {t : TypeName} (h : Spells value t) :
    Spells (byAccount value) (.mapping (.named "Account") t) := by
  have haccount : Resolves account "Account" := .path rfl rfl
  exact .mapping rfl (.userDefined rfl haccount (by decide)) h

theorem spells_listOf {base : Json} {t : TypeName} (h : Spells base t) :
    Spells (listOf base) (.array t (.atom "")) :=
  .array rfl h .dynamic

/-- A list of mappings is not a mapping to lists. -/
theorem text_eq_iff_of_spellings_balances :
    Spells (listOf (byAccount pair))
      (.array (.mapping (.named "Account") (.array (.named "uint256") (.atom "2"))) (.atom "")) ∧
    Spells (byAccount (listOf pair))
      (.mapping (.named "Account") (.array (.array (.named "uint256") (.atom "2")) (.atom ""))) ∧
    (ofJson (listOf (byAccount pair))).text ≠ (ofJson (byAccount (listOf pair))).text := by
  have houter := spells_listOf (spells_byAccount spells_pair)
  have hinner := spells_byAccount (spells_listOf spells_pair)
  refine ⟨houter, hinner, fun htext => ?_⟩
  cases (text_eq_iff_of_spellings houter hinner).mp htext

end ContractAtlas.TypeName
