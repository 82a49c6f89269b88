import ContractAtlas.Proofs.Text.Tags

/-!
Marked-up texts as lists of spans: style tags, fixed text, and fields that show what comes from a
document. Of a sound list the active tags are its style tags and nothing else exactly if no field has a
tag of its own and no two fields make one between them (`activeFrom_markup_iff`).
-/
namespace ContractAtlas.Text
set_option autoImplicit false

/-! ## Spans -/

/-- A part of a marked-up text. What follows a field is never missing, so that backslashes at its end
reach no tag. -/
inductive Span where
  | tag (name : String)
  | fixed (text : String)
  | field (text behind : String)

namespace Span

def chars : Span → List Char
  | .tag name => '[' :: (name.toList ++ [']'])
  | .fixed text => text.toList
  | .field text behind => text.toList ++ behind.toList

/-- Text that has no part in any tag. -/
def isQuiet (text : String) : Bool :=
  text.toList.all fun c => isPlain c && c != '\\' && !opensTag c

def isSound : Span → Bool
  | .tag name => begins name.toList
  | .fixed text => text.toList.all fun c => isPlain c && c != '\\'
  | .field _ behind => behind != "" && isQuiet behind

end Span

def markup (spans : List Span) : List Char := spans.flatMap Span.chars

/-- The style tags. -/
def tags : List Span → List (List Char)
  | [] => []
  | .tag name :: spans => name.toList :: tags spans
  | .fixed _ :: spans => tags spans
  | .field _ _ :: spans => tags spans

/-- The tags that the fields make: those of each field, and those that begin in it and end behind. -/
def strays : List Span → List (List Char)
  | [] => []
  | .tag _ :: spans => strays spans
  | .fixed _ :: spans => strays spans
  | .field text behind :: spans =>
    activeTags text ++ joint 0 text.toList (behind.toList ++ markup spans) ++ strays spans

theorem markup_cons (span : Span) (spans : List Span) :
    markup (span :: spans) = span.chars ++ markup spans := rfl

theorem markup_append (spans others : List Span) :
    markup (spans ++ others) = markup spans ++ markup others := List.flatMap_append

theorem tags_append (spans others : List Span) : tags (spans ++ others) = tags spans ++ tags others := by
  induction spans with
  | nil => rfl
  | cons span spans ih => cases span <;> simp [tags, ih]

/-! ## The active tags of spans -/

theorem slashesAfter_of_all {cs : List Char} (hne : cs ≠ []) (slashes : Nat)
    (h : ∀ c ∈ cs, c ≠ '\\') : slashesAfter slashes cs = 0 := by
  obtain ⟨ds, c, rfl⟩ := (List.eq_nil_or_concat' cs).resolve_left hne
  rw [slashesAfter_concat, if_neg (h c (by simp))]

theorem activeFrom_tag (slashes : Nat) {name : List Char} (h : begins name = true) (rest : List Char) :
    activeFrom slashes ('[' :: (name ++ ']' :: rest)) =
      (if slashes % 2 = 0 then [name] else []) ++ activeFrom 0 rest := by
  have hall := all_isPlain_of_begins h
  have htag : tagAt slashes (name ++ ']' :: rest) = if slashes % 2 = 0 then [name] else [] := by
    have hnone : tagAt slashes name = [] := by simp [tagAt, not_isTag_of_begins h]
    rw [tagAt_append slashes (by simp [opensTag]), h, Bool.and_true, hnone]
    simp [closes_cons, isPlain]
  rw [activeFrom_bracket, htag, activeFrom_append_of_all 0 hall,
    (scan_other _ (by decide) (by decide) rest).1]

theorem activeFrom_fixed {text : String} (h : (Span.fixed text).isSound = true) (rest : List Char) :
    activeFrom 0 (text.toList ++ rest) = activeFrom 0 rest := by
  have hchar : ∀ c ∈ text.toList, isPlain c = true ∧ c ≠ '\\' := by
    simpa [Span.isSound] using h
  rw [activeFrom_append_of_all 0 (List.all_eq_true.mpr fun c hc => (hchar c hc).1)]
  by_cases hne : text.toList = []
  · rw [hne]
    rfl
  · rw [slashesAfter_of_all hne 0 fun c hc => (hchar c hc).2]

theorem activeFrom_field (text : String) {behind : String} (rest : List Char)
    (h : (Span.field text behind).isSound = true) :
    activeFrom 0 (text.toList ++ behind.toList ++ rest) =
      activeTags text ++ joint 0 text.toList (behind.toList ++ rest) ++ activeFrom 0 rest := by
  rw [Span.isSound, Bool.and_eq_true, bne_iff_ne] at h
  have hchar : ∀ c ∈ behind.toList, (isPlain c = true ∧ c ≠ '\\') ∧ opensTag c = false := by
    simpa [Span.isQuiet] using h.2
  have hne : behind.toList ≠ [] := fun e => h.1 (String.toList_eq_nil_iff.mp e)
  obtain ⟨c, cs, hcons⟩ := List.exists_cons_of_ne_nil hne
  have hblunt : ∀ c ∈ (behind.toList ++ rest).head?, opensTag c = false := by
    rw [hcons] at hchar ⊢
    intro d hd
    cases hd
    exact (hchar c List.mem_cons_self).2
  rw [List.append_assoc, activeFrom_append 0 _ hblunt,
    activeFrom_append_of_all _ (List.all_eq_true.mpr fun c hc => (hchar c hc).1.1),
    slashesAfter_of_all hne _ fun c hc => (hchar c hc).1.2]
  rfl

/-- The active tags of spans are the style tags, with those of the fields put in between. -/
theorem activeFrom_markup {spans : List Span} (h : ∀ span ∈ spans, span.isSound = true) :
    (activeFrom 0 (markup spans)).length = (tags spans).length + (strays spans).length ∧
      (strays spans = [] → activeFrom 0 (markup spans) = tags spans) := by
  induction spans with
  | nil => exact ⟨rfl, fun _ => rfl⟩
  | cons span spans ih =>
    have hsound := h span List.mem_cons_self
    obtain ⟨hlength, hnone⟩ := ih fun s hs => h s (List.mem_cons_of_mem _ hs)
    rw [markup_cons]
    cases span with
    | tag name =>
      rw [Span.chars, tags, strays, List.cons_append, List.append_assoc, List.singleton_append,
        activeFrom_tag 0 hsound]
      refine ⟨?_, fun hs => ?_⟩
      · simp [hlength]
        omega
      · simp [hnone hs]
    | fixed text =>
      rw [Span.chars, tags, strays, activeFrom_fixed hsound]
      exact ⟨hlength, hnone⟩
    | field text behind =>
      rw [Span.chars, tags, strays, activeFrom_field text _ hsound]
      refine ⟨?_, fun hs => ?_⟩
      · simp [hlength]
        omega
      · rw [List.append_eq_nil_iff] at hs
        rw [hs.1, hnone hs.2]
        rfl

theorem activeFrom_markup_iff {spans : List Span} (h : ∀ span ∈ spans, span.isSound = true) :
    activeFrom 0 (markup spans) = tags spans ↔ strays spans = [] := by
  obtain ⟨hlength, hnone⟩ := activeFrom_markup h
  -- stray tags add to the style tags and never stand for one, so that counting them is enough
  refine ⟨fun heq => ?_, hnone⟩
  rw [heq] at hlength
  exact List.eq_nil_of_length_eq_zero (by omega)

/-! ## Fields that stay apart -/

/-- No field leaves a tag open that is ended by what stands behind it. -/
def Apart : List Span → Prop
  | [] => True
  | .tag _ :: spans => Apart spans
  | .fixed _ :: spans => Apart spans
  | .field text _ :: spans =>
    (openAt 0 text.toList = none ∨ closes (markup spans) = false) ∧ Apart spans

instance decidableApart : (spans : List Span) → Decidable (Apart spans)
  | [] => isTrue trivial
  | .tag _ :: spans => decidableApart spans
  | .fixed _ :: spans => decidableApart spans
  | .field text _ :: spans =>
    have := decidableApart spans
    inferInstanceAs (Decidable
      ((openAt 0 text.toList = none ∨ closes (markup spans) = false) ∧ Apart spans))

theorem joint_eq_nil_iff (slashes : Nat) (cs tail : List Char) :
    joint slashes cs tail = [] ↔ openAt slashes cs = none ∨ closes tail = false := by
  rw [joint]
  cases closes tail <;> cases openAt slashes cs <;> simp

theorem closes_behind {text behind : String} (h : (Span.field text behind).isSound = true)
    (rest : List Char) : closes (behind.toList ++ rest) = closes rest := by
  rw [Span.isSound, Bool.and_eq_true] at h
  have hall : behind.toList.all isPlain = true := by
    rw [List.all_eq_true]
    intro c hc
    have hchar := List.all_eq_true.mp h.2 c hc
    rw [Bool.and_eq_true, Bool.and_eq_true] at hchar
    exact hchar.1.1
  rw [closes_append, not_closes_of_all hall, hall, Bool.true_and, Bool.false_or]

theorem strays_eq_nil_iff {spans : List Span} (h : ∀ span ∈ spans, span.isSound = true) :
    strays spans = [] ↔
      (∀ text behind, .field text behind ∈ spans → activeTags text = []) ∧ Apart spans := by
  induction spans with
  | nil => simp [strays, Apart]
  | cons span spans ih =>
    have hrest := ih fun s hs => h s (List.mem_cons_of_mem _ hs)
    cases span with
    | tag name => simpa [strays, Apart] using hrest
    | fixed text => simpa [strays, Apart] using hrest
    | field text behind =>
      have hsound := h _ List.mem_cons_self
      rw [strays, Apart, List.append_eq_nil_iff, List.append_eq_nil_iff, joint_eq_nil_iff,
        closes_behind hsound, hrest]
      simp only [List.mem_cons, Span.field.injEq]
      constructor
      · rintro ⟨⟨hactive, hjoint⟩, hfields, hapart⟩
        refine ⟨?_, hjoint, hapart⟩
        rintro t b (⟨rfl, rfl⟩ | hmem)
        · exact hactive
        · exact hfields t b hmem
      · rintro ⟨hfields, hjoint, hapart⟩
        exact ⟨⟨hfields text behind (.inl ⟨rfl, rfl⟩), hjoint⟩,
          fun t b hmem => hfields t b (.inr hmem), hapart⟩

/-! ## Blocks of spans -/

theorem joint_append (slashes : Nat) (cs : List Char) {tail rest : List Char}
    (h : closes rest = false) : joint slashes cs (tail ++ rest) = joint slashes cs tail := by
  rw [joint, joint, closes_append, h, Bool.and_false, Bool.or_false]
  split
  case isTrue hc => rw [takeWhile_append_of_mem rest (mem_of_closes hc)]
  case isFalse => rfl

/-- What a text does not end is not ended by what stands before a further opening bracket. -/
theorem strays_append (spans : List Span) {others : List Span} (h : closes (markup others) = false) :
    strays (spans ++ others) = strays spans ++ strays others := by
  induction spans with
  | nil => rfl
  | cons span spans ih =>
    cases span with
    | field text behind =>
      rw [List.cons_append, strays, strays, ih, markup_append, ← List.append_assoc behind.toList,
        joint_append 0 _ h]
      simp only [List.append_assoc]
    | _ => exact ih

theorem closes_markup_flatten {blocks : List (List Span)}
    (h : ∀ block ∈ blocks, closes (markup block) = false) :
    closes (markup blocks.flatten) = false := by
  induction blocks with
  | nil => rfl
  | cons block blocks ih =>
    rw [List.flatten_cons, markup_append, closes_append, h block List.mem_cons_self,
      ih fun b hb => h b (List.mem_cons_of_mem _ hb), Bool.and_false]
    rfl

/-- Blocks that end no tag from before them make only their own tags. -/
theorem strays_flatten {blocks : List (List Span)}
    (h : ∀ block ∈ blocks, closes (markup block) = false) :
    strays blocks.flatten = blocks.flatMap strays := by
  induction blocks with
  | nil => rfl
  | cons block blocks ih =>
    have hblocks : ∀ b ∈ blocks, closes (markup b) = false := fun b hb =>
      h b (List.mem_cons_of_mem _ hb)
    rw [List.flatten_cons, strays_append block (closes_markup_flatten hblocks), ih hblocks,
      List.flatMap_cons]

theorem tags_flatten (blocks : List (List Span)) : tags blocks.flatten = blocks.flatMap tags := by
  induction blocks with
  | nil => rfl
  | cons block blocks ih => rw [List.flatten_cons, tags_append, ih, List.flatMap_cons]

end ContractAtlas.Text
