import ContractAtlas.Proofs.Contract.Detail

/-!
Which texts of a document act as markup in the detail texts. A value is compared with its blank, in
which each text is known only by whether it is empty. The two show the same tags exactly if the value
is inert (`activeTags_blank`): its unescaped texts have no tags, its neighbouring texts make none
between them, and no backslashes reach the closing tag of a name or a pragma.
-/
namespace ContractAtlas
set_option autoImplicit false
open Text

/-! ## Blank members -/

/-- A text in place of which only its presence is known. -/
def blankText (s : String) : String := if s = "" then "" else "x"

def Parameter.blank (p : Parameter) : Parameter :=
  { p with name := blankText p.name, type := blankText p.type }

def ImportDecl.blank (i : ImportDecl) : ImportDecl :=
  ⟨blankText i.absolutePath, blankText i.file, blankText i.localName⟩

def VariableDecl.blank (v : VariableDecl) : VariableDecl :=
  { v with
    name := blankText v.name
    type := blankText v.type
    visibility := blankText v.visibility
    storageLocation := blankText v.storageLocation
    mutability := blankText v.mutability
    functionSelector := blankText v.functionSelector
    value := blankText v.value }

def FunctionDecl.blank (f : FunctionDecl) : FunctionDecl :=
  { f with
    name := blankText f.name
    kind := blankText f.kind
    visibility := blankText f.visibility
    stateMutability := blankText f.stateMutability
    parameters := f.parameters.map Parameter.blank
    returnParameters := f.returnParameters.map Parameter.blank
    modifiers := f.modifiers.map blankText
    overrides := f.overrides.map blankText }

def EventDecl.blank (e : EventDecl) : EventDecl :=
  ⟨blankText e.name, e.parameters.map Parameter.blank⟩

def ModifierDecl.blank (m : ModifierDecl) : ModifierDecl :=
  ⟨blankText m.name, m.parameters.map Parameter.blank⟩

def StructDecl.blank (s : StructDecl) : StructDecl :=
  ⟨blankText s.name, s.members.map VariableDecl.blank⟩

def EnumDecl.blank (e : EnumDecl) : EnumDecl := ⟨blankText e.name, e.values.map blankText⟩

def Member.blank : Member → Member
  | .importDecl i => .importDecl i.blank
  | .variableDecl v => .variableDecl v.blank
  | .functionDecl f => .functionDecl f.blank
  | .eventDecl e => .eventDecl e.blank
  | .modifierDecl m => .modifierDecl m.blank
  | .structDecl s => .structDecl s.blank
  | .enumDecl e => .enumDecl e.blank

def Contract.blank (c : Contract) : Contract where
  name := blankText c.name
  pragma := blankText c.pragma
  imports := c.imports.map ImportDecl.blank
  inherits := c.inherits.map blankText
  constructor := c.constructor.map FunctionDecl.blank
  stateVariables := c.stateVariables.map VariableDecl.blank
  mappings := c.mappings.map VariableDecl.blank
  functions := c.functions.map FunctionDecl.blank
  events := c.events.map EventDecl.blank
  modifiers := c.modifiers.map ModifierDecl.blank
  structs := c.structs.map StructDecl.blank
  enums := c.enums.map EnumDecl.blank

@[simp] theorem blankText_eq_empty_iff (s : String) : blankText s = "" ↔ s = "" := by
  unfold blankText
  split <;> simp [*]

/-- No text of a member has a part in a tag, neither alone nor with its neighbours. -/
def Member.Inert : Member → Prop
  | .importDecl _ => True
  | .variableDecl _ => True
  | .functionDecl f =>
    (activeTags (capitalize f.kind) = [] ∧ activeTags f.visibility = [] ∧
      activeTags f.stateMutability = []) ∧
    Apart (f.parameters.flatMap Parameter.spans) ∧
    Apart (f.returnParameters.flatMap Parameter.spans)
  | .eventDecl e => Apart (e.parameters.flatMap Parameter.spans)
  | .modifierDecl m => Apart (m.parameters.flatMap Parameter.spans)
  | .structDecl s => Apart (s.members.flatMap VariableDecl.memberSpans)
  | .enumDecl e => Apart (e.values.flatMap valueSpans)

instance : (m : Member) → Decidable m.Inert
  | .importDecl _ => isTrue trivial
  | .variableDecl _ => isTrue trivial
  | .functionDecl f => inferInstanceAs (Decidable
      ((activeTags (capitalize f.kind) = [] ∧ activeTags f.visibility = [] ∧
        activeTags f.stateMutability = []) ∧
      Apart (f.parameters.flatMap Parameter.spans) ∧
      Apart (f.returnParameters.flatMap Parameter.spans)))
  | .eventDecl e => inferInstanceAs (Decidable (Apart (e.parameters.flatMap Parameter.spans)))
  | .modifierDecl m => inferInstanceAs (Decidable (Apart (m.parameters.flatMap Parameter.spans)))
  | .structDecl s =>
    inferInstanceAs (Decidable (Apart (s.members.flatMap VariableDecl.memberSpans)))
  | .enumDecl e => inferInstanceAs (Decidable (Apart (e.values.flatMap valueSpans)))

/-! ## The tags of blank members -/

theorem tags_entrySpans (style caption value : String) :
    tags (entrySpans style caption value) = [style.toList, ("/" ++ style).toList] := rfl

theorem tags_entrySpansIf (caption value shown : String) :
    tags (entrySpansIf caption value shown) =
      if value = "" then [] else ["green".toList, "/green".toList] := by
  unfold entrySpansIf
  split <;> rfl

theorem tags_listSpans (caption : String) {α : Type} {spans : α → List Span} {blank : α → α}
    (h : ∀ a, tags (spans (blank a)) = tags (spans a)) (items : List α) :
    tags (listSpans caption ((items.map blank).flatMap spans)) =
      tags (listSpans caption (items.flatMap spans)) := by
  have hitems : tags ((items.map blank).flatMap spans) = tags (items.flatMap spans) := by
    induction items with
    | nil => rfl
    | cons a items ih =>
      rw [List.map_cons, List.flatMap_cons, List.flatMap_cons, tags_append, tags_append, h, ih]
  rw [listSpans, listSpans, tags_append, tags_append, hitems]

theorem tags_parameter (p : Parameter) :
    tags p.spans = if p.indexed then ["dim".toList, "/dim".toList] else [] := by
  unfold Parameter.spans
  cases p.indexed <;> rfl

theorem tags_parameterSpans (caption : String) (parameters : List Parameter) :
    tags (parameterSpans caption (parameters.map Parameter.blank)) =
      tags (parameterSpans caption parameters) := by
  have hparameter (p : Parameter) : tags p.blank.spans = tags p.spans :=
    (tags_parameter p.blank).trans (tags_parameter p).symm
  cases parameters with
  | nil => rfl
  | cons p parameters => exact tags_listSpans caption hparameter (p :: parameters)

theorem tags_nameSpans (caption : String) (names : List String) :
    tags (nameSpans caption names) =
      if names.isEmpty then [] else ["yellow".toList, "/yellow".toList] := by
  unfold nameSpans
  split <;> rfl

theorem tags_blank (m : Member) : m.blank.blocks.flatMap tags = m.blocks.flatMap tags := by
  have hmember (v : VariableDecl) : tags v.blank.memberSpans = tags v.memberSpans := by
    have hnone (v : VariableDecl) : tags v.memberSpans = [] := rfl
    rw [hnone, hnone]
  have hvalue (value : String) : tags (valueSpans (blankText value)) = tags (valueSpans value) := by
    have hnone (value : String) : tags (valueSpans value) = [] := rfl
    rw [hnone, hnone]
  cases m with
  | importDecl i =>
    simp only [Member.blank, Member.blocks, ImportDecl.blocks, ImportDecl.blank, List.flatMap_cons,
      tags_entrySpans, tags_entrySpansIf, blankText_eq_empty_iff]
  | variableDecl v =>
    simp only [Member.blank, Member.blocks, VariableDecl.blocks, VariableDecl.blank,
      List.flatMap_cons, tags_entrySpans, tags_entrySpansIf, blankText_eq_empty_iff]
  | functionDecl f =>
    simp only [Member.blank, Member.blocks, FunctionDecl.blocks, FunctionDecl.blank,
      List.flatMap_cons, tags_entrySpans, tags_entrySpansIf, blankText_eq_empty_iff,
      tags_parameterSpans, tags_nameSpans, List.isEmpty_map]
  | eventDecl e =>
    simp only [Member.blank, Member.blocks, EventDecl.blank, List.flatMap_cons, tags_entrySpans,
      tags_parameterSpans]
  | modifierDecl m =>
    simp only [Member.blank, Member.blocks, ModifierDecl.blank, List.flatMap_cons, tags_entrySpans,
      tags_parameterSpans]
  | structDecl s =>
    simp only [Member.blank, Member.blocks, StructDecl.blank, List.flatMap_cons, tags_entrySpans,
      tags_listSpans _ hmember]
  | enumDecl e =>
    simp only [Member.blank, Member.blocks, EnumDecl.blank, List.flatMap_cons, tags_entrySpans,
      tags_listSpans _ hvalue]

/-! ## Inert members -/

theorem all_isPlain_toDigits (n : Nat) : (Nat.toDigits 10 n).all isPlain = true := by
  rw [List.all_eq_true]
  intro c hc
  have hdigit := Nat.isDigit_of_mem_toDigits (by decide) (by decide) hc
  unfold isPlain
  by_cases h1 : c = '['
  · subst h1
    exact absurd hdigit (by decide)
  by_cases h2 : c = ']'
  · subst h2
    exact absurd hdigit (by decide)
  simp [h1, h2]

theorem all_isPlain_int (n : Int) : (toString n).toList.all isPlain = true := by
  cases n with
  | ofNat n =>
    have hnat : (toString (Int.ofNat n)).toList = Nat.toDigits 10 n := Nat.toList_repr
    rw [hnat, all_isPlain_toDigits]
  | negSucc n =>
    have hneg : (toString (Int.negSucc n)).toList = '-' :: Nat.toDigits 10 (n + 1) := by
      simp [toString, Int.repr]
    rw [hneg, List.all_cons, all_isPlain_toDigits]
    rfl

theorem all_isPlain_commaSeparated {items : List String}
    (h : ∀ item ∈ items, item.toList.all isPlain = true) :
    (commaSeparated items).toList.all isPlain = true := by
  rw [commaSeparated, String.toList_intercalate]
  induction items with
  | nil => rfl
  | cons item items ih =>
    have hitem := h item List.mem_cons_self
    have hrest := ih fun i hi => h i (List.mem_cons_of_mem _ hi)
    cases items with
    | nil => simpa using hitem
    | cons next items =>
      rw [List.map_cons] at hrest
      rw [List.map_cons, List.map_cons, List.intercalate_cons_cons, List.all_append, List.all_append,
        hitem, hrest]
      rfl

theorem strays_blocks_iff (m : Member) : (∀ block ∈ m.blocks, strays block = []) ↔ m.Inert := by
  have hnil (p : List Span → Prop) : (∀ block ∈ ([] : List (List Span)), p block) ↔ True := by simp
  cases m with
  | importDecl i =>
    simp (disch := decide) only [Member.blocks, ImportDecl.blocks, Member.Inert,
      List.forall_mem_cons, hnil, strays_escaped, strays_escapedIf, and_self]
  | variableDecl v =>
    have hconstant : strays (if v.constant then entrySpans "green" "Constant" "yes" else []) = [] := by
      cases v.constant <;> decide +kernel
    simp (disch := decide) only [Member.blocks, VariableDecl.blocks, Member.Inert,
      List.forall_mem_cons, hnil, strays_escaped, strays_escapedIf, hconstant, and_self]
  | functionDecl f =>
    have hkind : strays (entrySpans "green" (capitalize f.kind) (escape f.displayName)) =
        activeTags (capitalize f.kind) := by
      rw [strays_entrySpans, activeTags_escape, List.append_nil]
    have hbase : strays (if f.baseFunctions.isEmpty then []
        else entrySpans "yellow" "Base functions" (commaSeparated (f.baseFunctions.map toString))) =
        [] := by
      have hids : activeTags (commaSeparated (f.baseFunctions.map toString)) = [] :=
        activeTags_of_isPlain (all_isPlain_commaSeparated
          (List.forall_mem_map.mpr fun id _ => all_isPlain_int id))
      split
      case isTrue => rfl
      case isFalse =>
        have hcaption : activeTags "Base functions" = [] := by decide
        rw [strays_entrySpans, hids, hcaption, List.append_nil]
    simp (disch := decide) only [Member.blocks, FunctionDecl.blocks, Member.Inert,
      List.forall_mem_cons, hnil, hkind, strays_bareIf, strays_parameterSpans, strays_nameSpans, hbase,
      and_true, and_assoc]
  | eventDecl e =>
    simp (disch := decide) only [Member.blocks, Member.Inert, List.forall_mem_cons, hnil,
      strays_escaped, strays_parameterSpans, and_true, true_and]
  | modifierDecl m =>
    simp (disch := decide) only [Member.blocks, Member.Inert, List.forall_mem_cons, hnil,
      strays_escaped, strays_parameterSpans, and_true, true_and]
  | structDecl s =>
    have hfields (v : VariableDecl) (text behind : String)
        (h : .field text behind ∈ v.memberSpans) : activeTags text = [] := by
      obtain rfl | rfl := field_of_mem_member h <;> exact activeTags_escape _
    have hcaption : activeTags "Members" = [] := by decide
    have hmembers := strays_listSpans hcaption (fun _ => rfl) hfields s.members
    simp (disch := decide) only [Member.blocks, Member.Inert, List.forall_mem_cons, hnil,
      strays_escaped, hmembers, and_true, true_and]
  | enumDecl e =>
    have hfields (value text behind : String) (h : .field text behind ∈ valueSpans value) :
        activeTags text = [] := by
      obtain rfl := field_of_mem_value h
      exact activeTags_escape _
    have hcaption : activeTags "Values" = [] := by decide
    have hvalues := strays_listSpans hcaption (fun _ => rfl) hfields e.values
    simp (disch := decide) only [Member.blocks, Member.Inert, List.forall_mem_cons, hnil,
      strays_escaped, hvalues, and_true, true_and]

theorem openAt_escape_blankText (s : String) : openAt 0 (escape (blankText s)).toList = none := by
  unfold blankText
  split <;> decide +kernel

theorem activeTags_blankText (s : String) : activeTags (blankText s) = [] := by
  unfold blankText
  split <;> decide +kernel

theorem apart_of_openAt {spans : List Span}
    (h : ∀ text behind, .field text behind ∈ spans → openAt 0 text.toList = none) : Apart spans := by
  induction spans with
  | nil => trivial
  | cons span spans ih =>
    have hrest : Apart spans := ih fun text behind hmem => h text behind (List.mem_cons_of_mem _ hmem)
    cases span with
    | field text behind => exact ⟨.inl (h text behind List.mem_cons_self), hrest⟩
    | _ => exact hrest

theorem apart_flatMap_map {α : Type} {spans : α → List Span} {blank : α → α}
    (h : ∀ a text behind, .field text behind ∈ spans (blank a) → ∃ s, text = escape (blankText s))
    (items : List α) : Apart ((items.map blank).flatMap spans) := by
  apply apart_of_openAt
  intro text behind hmem
  obtain ⟨a, ha, hspan⟩ := List.mem_flatMap.mp hmem
  obtain ⟨b, -, rfl⟩ := List.mem_map.mp ha
  obtain ⟨s, rfl⟩ := h b text behind hspan
  exact openAt_escape_blankText s

theorem inert_blank (m : Member) : m.blank.Inert := by
  have hparameter (p : Parameter) (text behind : String) (h : .field text behind ∈ p.blank.spans) :
      ∃ s, text = escape (blankText s) := by
    obtain h | h := field_of_mem_parameter h
    · exact ⟨p.name, h⟩
    · exact ⟨p.type, h⟩
  have hmember (v : VariableDecl) (text behind : String)
      (h : .field text behind ∈ v.blank.memberSpans) : ∃ s, text = escape (blankText s) := by
    obtain h | h := field_of_mem_member h
    · exact ⟨v.name, h⟩
    · exact ⟨v.type, h⟩
  have hvalue (value text behind : String) (h : .field text behind ∈ valueSpans (blankText value)) :
      ∃ s, text = escape (blankText s) := ⟨value, field_of_mem_value h⟩
  cases m with
  | importDecl i => trivial
  | variableDecl v => trivial
  | functionDecl f =>
    refine ⟨⟨?_, activeTags_blankText _, activeTags_blankText _⟩,
      apart_flatMap_map hparameter f.parameters, apart_flatMap_map hparameter f.returnParameters⟩
    change activeTags (capitalize (blankText f.kind)) = []
    unfold blankText
    split <;> decide +kernel
  | eventDecl e => exact apart_flatMap_map hparameter e.parameters
  | modifierDecl m => exact apart_flatMap_map hparameter m.parameters
  | structDecl s => exact apart_flatMap_map hmember s.members
  | enumDecl e => exact apart_flatMap_map hvalue e.values

theorem activeTags_detail_blank (m : Member) :
    activeTags m.detail = activeTags m.blank.detail ↔ m.Inert := by
  have hblank : activeTags m.blank.detail = m.blocks.flatMap tags := by
    rw [← tags_blank]
    exact (activeTags_detail_iff m.blank).mpr ((strays_blocks_iff m.blank).mpr (inert_blank m))
  rw [hblank, activeTags_detail_iff, strays_blocks_iff]

/-! ## Contracts -/

def inheritsSpans (names : List String) : List Span :=
  if names.isEmpty then [.tag "yellow", .fixed "No inheritance", .tag "/yellow", .fixed "\n"]
  else entrySpans "yellow" "Inherits" (escape (commaSeparated names))

/-- The summary of a contract below its name and its pragma. -/
def Contract.blocks (c : Contract) : List (List Span) :=
  [inheritsSpans c.inherits, [.fixed "\n"]] ++
  (c.constructor.toList.map fun f => entrySpans "dim" "constructor" (escape f.label)) ++
  c.shownCounts.map fun (key, n) => entrySpans "dim" key (toString n)

def Contract.restLines (c : Contract) : List String :=
  [if c.inherits.isEmpty then styled "yellow" "No inheritance"
    else remark "Inherits" (escape (commaSeparated c.inherits))] ++
  [""] ++
  (c.constructor.toList.map fun f => dimEntry "constructor" (escape f.label)) ++
  c.shownCounts.map fun (key, n) => dimEntry key (toString n)

theorem textLines_map {α : Type} {line : α → String} {spans : α → List Span}
    (h : ∀ a, textLines [line a] = markup (spans a)) (items : List α) :
    textLines (items.map line) = markup (items.map spans).flatten :=
  textLines_items h items

theorem textLines_restLines (c : Contract) : textLines c.restLines = markup c.blocks.flatten := by
  have hinherits : textLines [if c.inherits.isEmpty then styled "yellow" "No inheritance"
      else remark "Inherits" (escape (commaSeparated c.inherits))] =
      markup (inheritsSpans c.inherits) := by
    unfold inheritsSpans
    split
    · rfl
    · exact textLines_remark _ _
  have hdim (caption value : String) :
      textLines [dimEntry caption value] = markup (entrySpans "dim" caption value) :=
    textLines_styled "dim" caption value
  unfold Contract.restLines Contract.blocks
  rw [textLines_append, textLines_append, textLines_append, hinherits,
    textLines_map (fun f => hdim "constructor" _), textLines_map (fun _ => hdim _ _)]
  have hblank : textLines [""] = markup [.fixed "\n"] := rfl
  simp only [List.flatten_append, List.flatten_cons, List.flatten_nil, List.append_nil, markup_append,
    hblank]

theorem isBlock_of_mem_contract (c : Contract) : ∀ block ∈ c.blocks, IsBlock block := by
  have hdim (caption value : String) : IsBlock (entrySpans "dim" caption value) :=
    isBlock_entrySpans (by decide) caption value
  have hinherits : IsBlock (inheritsSpans c.inherits) := by
    unfold inheritsSpans
    split
    · exact ⟨rfl, rfl⟩
    · exact isBlock_entrySpans (by decide) _ _
  have hblank : IsBlock [.fixed "\n"] := ⟨rfl, rfl⟩
  intro block hblock
  simp only [Contract.blocks, List.mem_append, List.mem_cons, List.not_mem_nil, or_false,
    List.mem_map] at hblock
  obtain ((rfl | rfl) | ⟨f, -, rfl⟩) | ⟨⟨key, n⟩, -, rfl⟩ := hblock
  · exact hinherits
  · exact hblank
  · exact hdim _ _
  · exact hdim _ _

theorem strays_of_mem_contract (c : Contract) : ∀ block ∈ c.blocks, strays block = [] := by
  have hkeys : ∀ entry ∈ c.memberCounts, activeTags entry.1 = [] := by
    simp only [Contract.memberCounts, List.forall_mem_cons]
    decide
  intro block hblock
  simp only [Contract.blocks, List.mem_append, List.mem_cons, List.not_mem_nil, or_false,
    List.mem_map] at hblock
  obtain ((rfl | rfl) | ⟨f, -, rfl⟩) | ⟨⟨key, n⟩, hentry, rfl⟩ := hblock
  · unfold inheritsSpans
    split
    · rfl
    · exact strays_escaped (by decide) _ _
  · rfl
  · exact strays_escaped (by decide) _ _
  · have hkey := hkeys (key, n) (List.mem_filter.mp hentry).1
    have hcount : (toString n).toList.all isPlain = true :=
      (congrArg (List.all · isPlain) Nat.toList_repr).trans (all_isPlain_toDigits n)
    rw [strays_entrySpans, hkey, activeTags_of_isPlain hcount, List.append_nil]

theorem shownCounts_blank (c : Contract) : c.blank.shownCounts = c.shownCounts := by
  simp only [Contract.shownCounts, Contract.memberCounts, Contract.blank, List.length_map]

theorem tags_blocks_blank (c : Contract) : c.blank.blocks.flatMap tags = c.blocks.flatMap tags := by
  have hinherits (names : List String) :
      tags (inheritsSpans names) = ["yellow".toList, "/yellow".toList] := by
    unfold inheritsSpans
    split <;> rfl
  unfold Contract.blocks
  rw [shownCounts_blank]
  simp only [Contract.blank, List.flatMap_append, List.flatMap_cons, List.flatMap_nil,
    List.flatMap_map, hinherits, tags_entrySpans]
  cases c.constructor <;> rfl

theorem activeFrom_restLines (c : Contract) :
    activeFrom 0 (textLines c.restLines) = c.blocks.flatMap tags := by
  rw [textLines_restLines]
  exact (activeFrom_blocks_iff (isBlock_of_mem_contract c)).mpr (strays_of_mem_contract c)

/-- The active tags of a text in a style: the backslashes at its end may reach the closing tag. -/
def styleTags (style s : String) : List (List Char) :=
  style.toList ::
    if slashesAfter 0 (escape s).toList % 2 = 0 then [("/" ++ style).toList] else []

theorem activeFrom_styled {style : String} (hopening : begins style.toList = true)
    (hclosing : begins ("/" ++ style).toList = true) (s : String) (lines : List String) :
    activeFrom 0 (textLines (styled style (escape s) :: lines)) =
      styleTags style s ++ activeFrom 0 (textLines lines) := by
  have hchars : textLines (styled style (escape s) :: lines) =
      '[' :: (style.toList ++ ']' :: ((escape s).toList ++
        ('[' :: (("/" ++ style).toList ++ ']' :: '\n' :: textLines lines)))) := by
    simp [textLines_cons, styled]
  have hjoint (rest : List Char) : joint 0 (escape s).toList ('[' :: rest) = [] :=
    (joint_eq_nil_iff 0 _ _).mpr (.inr rfl)
  have hescape : activeFrom 0 (escape s).toList = [] := activeTags_escape s
  rw [hchars, activeFrom_tag 0 hopening, activeFrom_append 0 _ (by simp [opensTag]), hescape, hjoint,
    activeFrom_tag _ hclosing, (scan_other 0 (by decide) (by decide) (textLines lines)).1]
  simp [styleTags]

theorem activeTags_summary (c : Contract) :
    activeTags c.summary = styleTags "bold" c.name ++
      (if c.pragma = "" then [] else styleTags "dim" c.pragma) ++ c.blocks.flatMap tags := by
  have hlines : c.summaryLines = styled "bold" (escape c.name) ::
      ((if c.pragma = "" then [] else [styled "dim" (escape c.pragma)]) ++ c.restLines) := by
    simp [Contract.summaryLines, Contract.restLines]
  rw [Contract.summary, activeTags_joinLines, hlines, activeFrom_styled rfl rfl]
  split
  case isTrue => simp [activeFrom_restLines]
  case isFalse =>
    rw [List.singleton_append, activeFrom_styled rfl rfl, activeFrom_restLines, List.append_assoc]

/-- Whether the backslashes at the end of a text, once it is escaped, leave a tag behind it alone. -/
def EndsClear (s : String) : Prop :=
  slashesAfter 0 s.toList % 2 = 0 ∨ slashesAfter 0 s.toList = 1

instance (s : String) : Decidable (EndsClear s) :=
  inferInstanceAs (Decidable (slashesAfter 0 s.toList % 2 = 0 ∨ slashesAfter 0 s.toList = 1))

def Contract.Inert (c : Contract) : Prop := EndsClear c.name ∧ EndsClear c.pragma

instance (c : Contract) : Decidable c.Inert :=
  inferInstanceAs (Decidable (EndsClear c.name ∧ EndsClear c.pragma))

theorem endsClear_iff (s : String) : EndsClear s ↔ slashesAfter 0 (escape s).toList % 2 = 0 := by
  unfold EndsClear
  rw [slashesAfter_escape]
  split
  case isTrue h => simp [h]
  case isFalse h => simp [h]

theorem styleTags_of_endsClear (style : String) {s : String} (h : EndsClear s) :
    styleTags style s = [style.toList, ("/" ++ style).toList] := by
  rw [styleTags, if_pos ((endsClear_iff s).mp h)]

theorem styleTags_of_not_endsClear (style : String) {s : String} (h : ¬EndsClear s) :
    styleTags style s = [style.toList] := by
  rw [styleTags, if_neg (mt (endsClear_iff s).mpr h)]

theorem endsClear_blankText (s : String) : EndsClear (blankText s) := by
  unfold blankText
  split <;> exact .inl (by decide +kernel)

theorem activeTags_summary_blank (c : Contract) :
    activeTags c.summary = activeTags c.blank.summary ↔ c.Inert := by
  have hname : styleTags "bold" c.blank.name = ["bold".toList, ("/" ++ "bold").toList] :=
    styleTags_of_endsClear "bold" (endsClear_blankText c.name)
  have hpragma : styleTags "dim" c.blank.pragma = ["dim".toList, ("/" ++ "dim").toList] :=
    styleTags_of_endsClear "dim" (endsClear_blankText c.pragma)
  have hempty : c.blank.pragma = "" ↔ c.pragma = "" := blankText_eq_empty_iff c.pragma
  rw [activeTags_summary, activeTags_summary, tags_blocks_blank, List.append_cancel_right_eq, hname,
    hpragma, Contract.Inert]
  simp only [hempty]
  by_cases hn : EndsClear c.name
  · rw [styleTags_of_endsClear "bold" hn, List.append_cancel_left_eq]
    by_cases hp : c.pragma = ""
    · rw [if_pos hp, if_pos hp, hp]
      exact iff_of_true rfl ⟨hn, .inl rfl⟩
    rw [if_neg hp, if_neg hp]
    by_cases hc : EndsClear c.pragma
    · rw [styleTags_of_endsClear "dim" hc]
      exact iff_of_true rfl ⟨hn, hc⟩
    · rw [styleTags_of_not_endsClear "dim" hc]
      exact iff_of_false (by decide +kernel) fun h => hc h.2
  · refine iff_of_false ?_ fun h => hn h.1
    -- the closing tag is missing behind the opening one
    rw [styleTags_of_not_endsClear "bold" hn]
    intro heq
    have hnext := congrArg (fun tags => tags[1]?) heq
    split at hnext <;> simp [styleTags] at hnext

/-- Text of a document against the tags of the detail texts. A text shows exactly the tags of its blank
exactly if it is inert: variables and imports always are; of a function the kind, the visibility and the
state mutability must have no tags, as they are shown unescaped; neighbours in a list of parameters,
members or values must not make a tag between them; and of a contract neither name nor pragma may end
in three, five and so on backslashes. -/
theorem activeTags_blank (m : Member) (c : Contract) :
    (activeTags m.detail = activeTags m.blank.detail ↔ m.Inert) ∧
    (activeTags c.summary = activeTags c.blank.summary ↔ c.Inert) :=
  ⟨activeTags_detail_blank m, activeTags_summary_blank c⟩

example : ¬(Member.functionDecl { name := "f", visibility := "[bold]public[/bold]" }).Inert := by
  decide +kernel

example : ¬(Member.eventDecl { name := "Paid", parameters := [⟨"[a", "b]", false⟩] }).Inert := by
  decide +kernel

example : ¬Contract.Inert { name := "Ledger\\\\\\" } := by
  decide +kernel

end ContractAtlas
