import ContractAtlas.Contract.Detail
import ContractAtlas.Proofs.Text.Spans
import Mathlib.Data.List.Basic

/-!
Detail texts as spans. The lines of a member come in blocks that begin with a tag, so that no text of
one block makes a tag with the next (`IsBlock`). The active tags of a detail text are then its style
tags exactly if no block has strays (`activeTags_detail_iff`), and escaped texts have none of their own
(`strays_escaped`, `strays_parameterSpans`).
-/
namespace ContractAtlas
set_option autoImplicit false
open Text

/-! ## Lines -/

/-- Lines with a break behind each, the last included. -/
def textLines (lines : List String) : List Char := lines.flatMap fun line => line.toList ++ ['\n']

theorem textLines_append (lines others : List String) :
    textLines (lines ++ others) = textLines lines ++ textLines others := List.flatMap_append

theorem textLines_cons (line : String) (lines : List String) :
    textLines (line :: lines) = line.toList ++ '\n' :: textLines lines := by
  simp [textLines]

theorem toList_joinLines {lines : List String} (h : lines ≠ []) :
    (joinLines lines).toList ++ ['\n'] = textLines lines := by
  rw [joinLines, String.toList_intercalate]
  induction lines with
  | nil => exact absurd rfl h
  | cons line lines ih =>
    cases lines with
    | nil => simp [textLines]
    | cons next lines =>
      rw [textLines_cons, ← ih (List.cons_ne_nil _ _)]
      simp

theorem activeTags_joinLines (lines : List String) :
    activeTags (joinLines lines) = activeFrom 0 (textLines lines) := by
  by_cases h : lines = []
  · subst h
    rfl
  · rw [← toList_joinLines h, activeFrom_append 0 _ (by simp [opensTag]), joint]
    simp [activeTags, activeFrom, closes_cons, isPlain]

/-! ## Lines as spans -/

def entrySpans (style caption value : String) : List Span :=
  [.tag style, .field caption ":", .tag ("/" ++ style), .fixed " ", .field value "\n"]

def entrySpansIf (caption value shown : String) : List Span :=
  if value = "" then [] else entrySpans "green" caption shown

def listSpans (caption : String) (items : List Span) : List Span :=
  [.tag "yellow", .field caption ":", .tag "/yellow", .fixed "\n"] ++ items

def Parameter.spans (p : Parameter) : List Span :=
  [.fixed "  - ", .field (escape p.name) ": "] ++
    if p.indexed then [.field (escape p.type) " ", .tag "dim", .fixed "(indexed)", .tag "/dim",
      .fixed "\n"]
    else [.field (escape p.type) "\n"]

def parameterSpans (caption : String) (parameters : List Parameter) : List Span :=
  if parameters.isEmpty then [] else listSpans caption (parameters.flatMap Parameter.spans)

def nameSpans (caption : String) (names : List String) : List Span :=
  if names.isEmpty then [] else entrySpans "yellow" caption (escape (commaSeparated names))

def VariableDecl.memberSpans (v : VariableDecl) : List Span :=
  [.fixed "  - ", .field (escape v.name) ": ", .field (escape v.type) "\n"]

def valueSpans (value : String) : List Span := [.fixed "  - ", .field (escape value) "\n"]

theorem textLines_styled (style caption value : String) :
    textLines [styled style (caption ++ ":") ++ " " ++ value] =
      markup (entrySpans style caption value) := by
  simp [textLines, styled, entrySpans, markup, Span.chars]

theorem textLines_entryIf (caption value shown : String) :
    textLines (entryIf caption value shown) = markup (entrySpansIf caption value shown) := by
  unfold entryIf entrySpansIf
  split
  · rfl
  · exact textLines_styled "green" caption shown

theorem textLines_heading (caption : String) (lines : List String) {items : List Span}
    (h : textLines lines = markup items) :
    textLines (heading caption :: lines) = markup (listSpans caption items) := by
  rw [textLines_cons, h]
  simp [heading, styled, listSpans, markup, Span.chars]

theorem textLines_parameter (p : Parameter) : textLines [p.line] = markup p.spans := by
  unfold Parameter.line Parameter.spans
  cases p.indexed <;> simp [textLines, styled, markup, Span.chars]

theorem textLines_items {α : Type} {line : α → String} {spans : α → List Span}
    (h : ∀ a, textLines [line a] = markup (spans a)) (items : List α) :
    textLines (items.map line) = markup (items.flatMap spans) := by
  induction items with
  | nil => rfl
  | cons a items ih =>
    rw [List.map_cons, ← List.singleton_append, textLines_append, h, ih, List.flatMap_cons,
      markup_append]

theorem textLines_parameterLines (caption : String) (parameters : List Parameter) :
    textLines (parameterLines caption parameters) = markup (parameterSpans caption parameters) := by
  unfold parameterLines parameterSpans
  split
  · rfl
  · exact textLines_heading caption _ (textLines_items textLines_parameter parameters)

theorem textLines_nameLines (caption : String) (names : List String) :
    textLines (nameLines caption names) = markup (nameSpans caption names) := by
  unfold nameLines nameSpans
  split
  · rfl
  · exact textLines_styled "yellow" caption _

/-! ## Members as blocks -/

def FunctionDecl.blocks (f : FunctionDecl) : List (List Span) := [
  entrySpans "green" (capitalize f.kind) (escape f.displayName),
  entrySpansIf "Visibility" f.visibility f.visibility,
  entrySpansIf "State mutability" f.stateMutability f.stateMutability,
  parameterSpans "Inputs" f.parameters,
  parameterSpans "Outputs" f.returnParameters,
  nameSpans "Modifiers" f.modifiers,
  nameSpans "Overrides" f.overrides,
  if f.baseFunctions.isEmpty then []
    else entrySpans "yellow" "Base functions" (commaSeparated (f.baseFunctions.map toString))]

def VariableDecl.blocks (v : VariableDecl) : List (List Span) := [
  entrySpans "green" "Variable" (escape v.name),
  entrySpans "green" "Type" (escape v.type),
  entrySpansIf "Visibility" v.visibility (escape v.visibility),
  entrySpansIf "Storage" v.storageLocation (escape v.storageLocation),
  entrySpansIf "Mutability" v.mutability (escape v.mutability),
  entrySpansIf "Selector" v.functionSelector (escape v.functionSelector),
  if v.constant then entrySpans "green" "Constant" "yes" else [],
  entrySpansIf "Value" v.value (escape v.value)]

def ImportDecl.blocks (i : ImportDecl) : List (List Span) := [
  entrySpans "green" "Import" (escape i.file),
  entrySpansIf "Path" i.absolutePath (escape i.absolutePath),
  entrySpansIf "Alias" i.localName (escape i.localName)]

def Member.blocks : Member → List (List Span)
  | .importDecl i => i.blocks
  | .variableDecl v => v.blocks
  | .functionDecl f => f.blocks
  | .eventDecl e =>
    [entrySpans "green" "Event" (escape e.name), parameterSpans "Parameters" e.parameters]
  | .modifierDecl m =>
    [entrySpans "green" "Modifier" (escape m.name), parameterSpans "Parameters" m.parameters]
  | .structDecl s =>
    [entrySpans "green" "Struct" (escape s.name),
      listSpans "Members" (s.members.flatMap VariableDecl.memberSpans)]
  | .enumDecl e =>
    [entrySpans "green" "Enum" (escape e.name), listSpans "Values" (e.values.flatMap valueSpans)]

theorem textLines_entry (caption value : String) :
    textLines [entry caption value] = markup (entrySpans "green" caption value) :=
  textLines_styled "green" caption value

theorem textLines_remark (caption value : String) :
    textLines [remark caption value] = markup (entrySpans "yellow" caption value) :=
  textLines_styled "yellow" caption value

theorem textLines_detailLines (m : Member) :
    textLines m.detailLines = markup m.blocks.flatten := by
  have hentry (caption value : String) (lines : List String) :
      textLines (entry caption value :: lines) =
        markup (entrySpans "green" caption value) ++ textLines lines := by
    rw [← textLines_entry, ← textLines_append]
    rfl
  have hflatten (block : List Span) (blocks : List (List Span)) :
      markup (block :: blocks).flatten = markup block ++ markup blocks.flatten := by
    rw [List.flatten_cons, markup_append]
  have hnil : markup ([] : List (List Span)).flatten = [] ∧ textLines [] = [] := ⟨rfl, rfl⟩
  cases m with
  | importDecl i =>
    simp only [Member.detailLines, ImportDecl.detail, Member.blocks, ImportDecl.blocks,
      textLines_append, textLines_entry, textLines_entryIf, hflatten, hnil, List.append_nil,
      List.append_assoc]
  | variableDecl v =>
    have hconstant : textLines (if v.constant then [entry "Constant" "yes"] else []) =
        markup (if v.constant then entrySpans "green" "Constant" "yes" else []) := by
      cases v.constant
      · rfl
      · exact textLines_entry "Constant" "yes"
    simp only [Member.detailLines, VariableDecl.detail, Member.blocks, VariableDecl.blocks,
      textLines_append, hentry, textLines_entryIf, hconstant, hflatten, hnil,
      List.append_nil, List.append_assoc]
  | functionDecl f =>
    have hbase : textLines (if f.baseFunctions.isEmpty then []
          else [remark "Base functions" (commaSeparated (f.baseFunctions.map toString))]) =
        markup (if f.baseFunctions.isEmpty then []
          else entrySpans "yellow" "Base functions" (commaSeparated (f.baseFunctions.map toString))) := by
      split
      · rfl
      · exact textLines_remark _ _
    simp only [Member.detailLines, FunctionDecl.detail, Member.blocks, FunctionDecl.blocks,
      textLines_append, textLines_entry, textLines_entryIf, textLines_parameterLines,
      textLines_nameLines, hbase, hflatten, hnil, List.append_nil, List.append_assoc]
  | eventDecl e =>
    simp only [Member.detailLines, EventDecl.detail, Member.blocks, hentry,
      textLines_parameterLines, hflatten, hnil, List.append_nil]
  | modifierDecl m =>
    simp only [Member.detailLines, ModifierDecl.detail, Member.blocks, hentry,
      textLines_parameterLines, hflatten, hnil, List.append_nil]
  | structDecl s =>
    have hmember (v : VariableDecl) :
        textLines ["  - " ++ escape v.name ++ ": " ++ escape v.type] = markup v.memberSpans := by
      simp [textLines, VariableDecl.memberSpans, markup, Span.chars]
    have hmembers := textLines_heading "Members" _ (textLines_items hmember s.members)
    simp only [Member.detailLines, StructDecl.detail, Member.blocks, List.cons_append,
      List.nil_append, hentry, hmembers, hflatten, hnil, List.append_nil]
  | enumDecl e =>
    have hvalue (value : String) : textLines ["  - " ++ escape value] = markup (valueSpans value) := by
      simp [textLines, valueSpans, markup, Span.chars]
    have hvalues := textLines_heading "Values" _ (textLines_items hvalue e.values)
    simp only [Member.detailLines, EnumDecl.detail, Member.blocks, List.cons_append,
      List.nil_append, hentry, hvalues, hflatten, hnil, List.append_nil]

/-! ## Sound blocks -/

/-- A block of spans that begins afresh: it ends no tag of the text before it. -/
structure IsBlock (spans : List Span) : Prop where
  sound : spans.all Span.isSound = true
  headed : closes (markup spans) = false

theorem isBlock_nil : IsBlock [] := ⟨rfl, rfl⟩

theorem isBlock_entrySpans {style : String} (hstyle : style ∈ ["green", "yellow", "dim"])
    (caption value : String) : IsBlock (entrySpans style caption value) := by
  simp only [List.mem_cons, List.not_mem_nil, or_false] at hstyle
  obtain rfl | rfl | rfl := hstyle <;> exact ⟨rfl, rfl⟩

theorem isBlock_entrySpansIf (caption value shown : String) :
    IsBlock (entrySpansIf caption value shown) := by
  unfold entrySpansIf
  split
  · exact isBlock_nil
  · exact isBlock_entrySpans (by decide) caption shown

theorem isBlock_nameSpans (caption : String) (names : List String) :
    IsBlock (nameSpans caption names) := by
  unfold nameSpans
  split
  · exact isBlock_nil
  · exact isBlock_entrySpans (by decide) caption _

theorem isBlock_listSpans {α : Type} (caption : String) {spans : α → List Span}
    (h : ∀ a, (spans a).all Span.isSound = true) (items : List α) :
    IsBlock (listSpans caption (items.flatMap spans)) where
  sound := by
    rw [listSpans, List.all_append, List.all_flatMap, List.all_eq_true.mpr fun a _ => h a]
    rfl
  headed := rfl

theorem all_isSound_parameter (p : Parameter) : p.spans.all Span.isSound = true := by
  unfold Parameter.spans
  cases p.indexed <;> rfl

theorem isBlock_parameterSpans (caption : String) (parameters : List Parameter) :
    IsBlock (parameterSpans caption parameters) := by
  unfold parameterSpans
  split
  · exact isBlock_nil
  · exact isBlock_listSpans caption all_isSound_parameter parameters

theorem isBlock_of_mem_blocks (m : Member) : ∀ block ∈ m.blocks, IsBlock block := by
  have hgreen (caption value : String) : IsBlock (entrySpans "green" caption value) :=
    isBlock_entrySpans (by decide) caption value
  have hyellow (caption value : String) : IsBlock (entrySpans "yellow" caption value) :=
    isBlock_entrySpans (by decide) caption value
  have hif {p : Prop} [Decidable p] {spans others : List Span} (h : IsBlock spans)
      (h' : IsBlock others) : IsBlock (if p then spans else others) := by
    split <;> assumption
  have hmembers (v : VariableDecl) : v.memberSpans.all Span.isSound = true := rfl
  have hvalues (value : String) : (valueSpans value).all Span.isSound = true := rfl
  cases m with
  | importDecl i => simp [Member.blocks, ImportDecl.blocks, hgreen, isBlock_entrySpansIf]
  | variableDecl v =>
    simp [Member.blocks, VariableDecl.blocks, hgreen, isBlock_entrySpansIf, hif, isBlock_nil]
  | functionDecl f =>
    simp [Member.blocks, FunctionDecl.blocks, hgreen, hyellow, isBlock_entrySpansIf,
      isBlock_parameterSpans, isBlock_nameSpans, hif, isBlock_nil]
  | eventDecl e => simp [Member.blocks, hgreen, isBlock_parameterSpans]
  | modifierDecl m => simp [Member.blocks, hgreen, isBlock_parameterSpans]
  | structDecl s => simp [Member.blocks, hgreen, isBlock_listSpans _ hmembers]
  | enumDecl e => simp [Member.blocks, hgreen, isBlock_listSpans _ hvalues]

theorem activeFrom_blocks_iff {blocks : List (List Span)} (h : ∀ block ∈ blocks, IsBlock block) :
    activeFrom 0 (markup blocks.flatten) = blocks.flatMap tags ↔
      ∀ block ∈ blocks, strays block = [] := by
  have hsound : ∀ span ∈ blocks.flatten, span.isSound = true := by
    intro span hspan
    obtain ⟨block, hblock, hmem⟩ := List.mem_flatten.mp hspan
    exact List.all_eq_true.mp (h block hblock).sound span hmem
  rw [← tags_flatten, activeFrom_markup_iff hsound,
    strays_flatten fun block hblock => (h block hblock).headed, List.flatMap_eq_nil_iff]

theorem activeTags_detail_iff (m : Member) :
    activeTags m.detail = m.blocks.flatMap tags ↔ ∀ block ∈ m.blocks, strays block = [] := by
  rw [Member.detail, activeTags_joinLines, textLines_detailLines,
    activeFrom_blocks_iff (isBlock_of_mem_blocks m)]

/-! ## Strays of a block -/

theorem strays_entrySpans (style caption value : String) :
    strays (entrySpans style caption value) = activeTags caption ++ activeTags value := by
  have hcaption (rest : List Char) : joint 0 caption.toList (":".toList ++ '[' :: rest) = [] :=
    (joint_eq_nil_iff 0 _ _).mpr (.inr rfl)
  have hvalue : joint 0 value.toList ("\n".toList ++ markup []) = [] :=
    (joint_eq_nil_iff 0 _ _).mpr (.inr rfl)
  simp only [entrySpans, strays, markup_cons _ (_ :: _), Span.chars, List.cons_append, hcaption,
    hvalue, List.append_nil]

theorem strays_entrySpansIf {caption value shown : String} (hcaption : activeTags caption = [])
    (h : value = "" → activeTags shown = []) :
    strays (entrySpansIf caption value shown) = activeTags shown := by
  unfold entrySpansIf
  split
  case isTrue he => rw [h he, strays]
  case isFalse => rw [strays_entrySpans, hcaption, List.nil_append]

theorem strays_escaped {caption : String} (hcaption : activeTags caption = []) (style value : String) :
    strays (entrySpans style caption (escape value)) = [] := by
  rw [strays_entrySpans, hcaption, activeTags_escape, List.nil_append]

theorem strays_escapedIf {caption : String} (hcaption : activeTags caption = []) (value : String) :
    strays (entrySpansIf caption value (escape value)) = [] := by
  rw [strays_entrySpansIf hcaption fun _ => activeTags_escape value, activeTags_escape]

theorem strays_bareIf {caption : String} (hcaption : activeTags caption = []) (value : String) :
    strays (entrySpansIf caption value value) = activeTags value :=
  strays_entrySpansIf hcaption fun he => he ▸ rfl

theorem strays_nameSpans {caption : String} (hcaption : activeTags caption = [])
    (names : List String) : strays (nameSpans caption names) = [] := by
  unfold nameSpans
  split
  case isTrue => rfl
  case isFalse => exact strays_escaped hcaption "yellow" (commaSeparated names)

theorem field_of_mem_parameter {p : Parameter} {text behind : String}
    (h : .field text behind ∈ p.spans) : text = escape p.name ∨ text = escape p.type := by
  unfold Parameter.spans at h
  cases hp : p.indexed <;> simp [hp] at h <;> exact h.imp And.left And.left

theorem field_of_mem_member {v : VariableDecl} {text behind : String}
    (h : .field text behind ∈ v.memberSpans) : text = escape v.name ∨ text = escape v.type := by
  simp only [VariableDecl.memberSpans, List.mem_cons, Span.field.injEq, reduceCtorEq, false_or,
    List.not_mem_nil, or_false] at h
  exact h.imp And.left And.left

theorem field_of_mem_value {value text behind : String} (h : .field text behind ∈ valueSpans value) :
    text = escape value := by
  simp only [valueSpans, List.mem_cons, Span.field.injEq, reduceCtorEq, false_or,
    List.not_mem_nil, or_false] at h
  exact h.1

theorem strays_listSpans {α : Type} {caption : String} (hcaption : activeTags caption = [])
    {spans : α → List Span} (hsound : ∀ a, (spans a).all Span.isSound = true)
    (hescaped : ∀ a text behind, .field text behind ∈ spans a → activeTags text = [])
    (items : List α) :
    strays (listSpans caption (items.flatMap spans)) = [] ↔ Apart (items.flatMap spans) := by
  have hjoint (rest : List Char) : joint 0 caption.toList (":".toList ++ '[' :: rest) = [] :=
    (joint_eq_nil_iff 0 _ _).mpr (.inr rfl)
  have hstrays : strays (listSpans caption (items.flatMap spans)) =
      strays (items.flatMap spans) := by
    simp only [listSpans, List.cons_append, List.nil_append, strays, markup_cons _ (_ :: _),
      Span.chars, hcaption, hjoint]
  have hall : ∀ span ∈ items.flatMap spans, span.isSound = true := by
    intro span hspan
    obtain ⟨a, -, ha⟩ := List.mem_flatMap.mp hspan
    exact List.all_eq_true.mp (hsound a) span ha
  rw [hstrays, strays_eq_nil_iff hall]
  refine ⟨And.right, fun happart => ⟨fun text behind hfield => ?_, happart⟩⟩
  obtain ⟨a, -, ha⟩ := List.mem_flatMap.mp hfield
  exact hescaped a text behind ha

theorem strays_parameterSpans {caption : String} (hcaption : activeTags caption = [])
    (parameters : List Parameter) :
    strays (parameterSpans caption parameters) = [] ↔ Apart (parameters.flatMap Parameter.spans) := by
  have hescaped (p : Parameter) (text behind : String) (h : .field text behind ∈ p.spans) :
      activeTags text = [] := by
    obtain rfl | rfl := field_of_mem_parameter h <;> exact activeTags_escape _
  unfold parameterSpans
  cases parameters with
  | nil => simp [strays, Apart]
  | cons p parameters => exact strays_listSpans hcaption all_isSound_parameter hescaped (p :: parameters)

end ContractAtlas
