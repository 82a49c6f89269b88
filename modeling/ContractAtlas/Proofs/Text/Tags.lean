import ContractAtlas.Text.Markup
import Mathlib.Data.List.Basic

/-!
Which tags of a marked-up text are active. Texts are put together from pieces, so the main statement is
about two texts of which one follows the other (`activeFrom_append`): the tags of both are active, with
one more where the first begins a tag that the second ends. An escaped text has no active tags
(`activeTags_escape`), and the backslashes at its end are even in number unless it ends in three, five
and so on (`slashesAfter_escape`).
-/
namespace ContractAtlas.Text
set_option autoImplicit false

/-! ## Definitions -/

def isPlain (c : Char) : Bool := c != '[' && c != ']'

/-- The tag that an opening bracket in front of the text begins, if an even number of backslashes
stands before it. -/
def tagAt (slashes : Nat) (rest : List Char) : List (List Char) :=
  if slashes % 2 = 0 && isTag rest then [rest.takeWhile (· != ']')] else []

/-- The insides of the active tags of a text, in order; `slashes` is the number of backslashes right
before the text. -/
def activeFrom : (slashes : Nat) → List Char → List (List Char)
  | _, [] => []
  | slashes, c :: rest =>
    if c = '\\' then activeFrom (slashes + 1) rest
    else (if c = '[' then tagAt slashes rest else []) ++ activeFrom 0 rest

def activeTags (s : String) : List (List Char) := activeFrom 0 s.toList

/-- The number of backslashes right behind a text. -/
def slashesAfter : (slashes : Nat) → List Char → Nat
  | slashes, [] => slashes
  | slashes, c :: rest => if c = '\\' then slashesAfter (slashes + 1) rest else slashesAfter 0 rest

/-- Whether the text is a tag but for the closing bracket. -/
def begins : List Char → Bool
  | c :: rest => opensTag c && rest.all isPlain
  | [] => false

/-- The inside of the active tag that a text leaves open, as far as the text goes. -/
def openAt : (slashes : Nat) → List Char → Option (List Char)
  | _, [] => none
  | slashes, c :: rest =>
    if c = '\\' then openAt (slashes + 1) rest
    else if c = '[' && (slashes % 2 = 0 && begins rest) then some rest
    else openAt 0 rest

/-- The tag that begins in one text and ends in the next. -/
def joint (slashes : Nat) (cs tail : List Char) : List (List Char) :=
  if closes tail then (openAt slashes cs).toList.map (· ++ tail.takeWhile (· != ']')) else []

/-! ## Brackets -/

@[simp] theorem closes_nil : closes [] = false := rfl

theorem closes_cons (c : Char) (cs : List Char) :
    closes (c :: cs) = if isPlain c then closes cs else c == ']' := by
  unfold closes isPlain
  by_cases h : c = '['
  · simp [h]
  · by_cases h' : c = ']'
    · simp [h']
    · simp [h, h']

theorem closes_append (cs tail : List Char) :
    closes (cs ++ tail) = (closes cs || (cs.all isPlain && closes tail)) := by
  induction cs with
  | nil => rfl
  | cons c cs ih =>
    rw [List.cons_append, closes_cons, closes_cons, ih, List.all_cons]
    cases h : isPlain c <;> simp

theorem isPlain_of_opensTag {c : Char} (h : opensTag c = true) : isPlain c = true := by
  unfold isPlain
  by_cases h1 : c = '['
  · subst h1
    revert h
    decide
  · by_cases h2 : c = ']'
    · subst h2
      revert h
      decide
    · simp [h1, h2]

theorem not_closes_of_all {cs : List Char} (h : cs.all isPlain = true) : closes cs = false := by
  induction cs with
  | nil => rfl
  | cons c cs ih =>
    rw [List.all_cons, Bool.and_eq_true] at h
    rw [closes_cons, h.1, if_pos rfl]
    exact ih h.2

theorem all_isPlain_of_begins {cs : List Char} (h : begins cs = true) : cs.all isPlain = true := by
  cases cs with
  | nil => rfl
  | cons c cs =>
    rw [begins, Bool.and_eq_true] at h
    rw [List.all_cons, isPlain_of_opensTag h.1, h.2]
    rfl

theorem isTag_append {cs tail : List Char} (hblunt : ∀ c ∈ tail.head?, opensTag c = false) :
    isTag (cs ++ tail) = (isTag cs || (begins cs && closes tail)) := by
  cases cs with
  | nil =>
    cases tail with
    | nil => rfl
    | cons c tail => simp [isTag, begins, hblunt c rfl]
  | cons c cs =>
    rw [List.cons_append, isTag, isTag, begins, closes_append]
    cases opensTag c <;> rfl

theorem not_isTag_of_begins {cs : List Char} (h : begins cs = true) : isTag cs = false := by
  have hall := all_isPlain_of_begins h
  cases cs with
  | nil => rfl
  | cons c cs =>
    rw [List.all_cons, Bool.and_eq_true] at hall
    rw [isTag, not_closes_of_all hall.2, Bool.and_false]

theorem mem_of_closes {cs : List Char} (h : closes cs = true) : ']' ∈ cs := by
  induction cs with
  | nil => cases h
  | cons c cs ih =>
    rw [closes_cons] at h
    split at h
    case isTrue => exact List.mem_cons_of_mem _ (ih h)
    case isFalse =>
      rw [beq_iff_eq] at h
      exact h ▸ List.mem_cons_self

theorem takeWhile_append_of_mem {cs : List Char} (tail : List Char) (h : ']' ∈ cs) :
    (cs ++ tail).takeWhile (· != ']') = cs.takeWhile (· != ']') := by
  induction cs with
  | nil => cases h
  | cons c cs ih =>
    rw [List.cons_append, List.takeWhile_cons, List.takeWhile_cons]
    split
    case isTrue hc =>
      have hmem : ']' ∈ cs := (List.mem_cons.mp h).resolve_left fun e => by simp [← e] at hc
      rw [ih hmem]
    case isFalse => rfl

theorem takeWhile_append_of_all {cs : List Char} (tail : List Char) (h : cs.all isPlain = true) :
    (cs ++ tail).takeWhile (· != ']') = cs ++ tail.takeWhile (· != ']') := by
  apply List.takeWhile_append_of_pos
  intro c hc
  have hplain := List.all_eq_true.mp h c hc
  rw [isPlain, Bool.and_eq_true] at hplain
  exact hplain.2

theorem tagAt_append {cs tail : List Char} (slashes : Nat)
    (hblunt : ∀ c ∈ tail.head?, opensTag c = false) :
    tagAt slashes (cs ++ tail) =
      if slashes % 2 = 0 && begins cs then
        if closes tail then [cs ++ tail.takeWhile (· != ']')] else []
      else tagAt slashes cs := by
  unfold tagAt
  rw [isTag_append hblunt]
  cases hb : begins cs with
  | true =>
    rw [not_isTag_of_begins hb, takeWhile_append_of_all tail (all_isPlain_of_begins hb)]
    by_cases hs : slashes % 2 = 0 <;> simp [hs]
  | false =>
    rw [Bool.false_and, Bool.or_false, Bool.and_false, if_neg Bool.false_ne_true]
    split
    case isFalse => rfl
    case isTrue h =>
      have htag : isTag cs = true := (Bool.and_eq_true _ _ ▸ h).2
      cases cs with
      | nil => cases htag
      | cons c cs =>
        rw [isTag, Bool.and_eq_true] at htag
        rw [takeWhile_append_of_mem tail (List.mem_cons_of_mem _ (mem_of_closes htag.2))]

/-! ## Texts behind one another -/

theorem activeFrom_bracket (slashes : Nat) (rest : List Char) :
    activeFrom slashes ('[' :: rest) = tagAt slashes rest ++ activeFrom 0 rest := rfl

theorem openAt_bracket (slashes : Nat) (rest : List Char) :
    openAt slashes ('[' :: rest) =
      if slashes % 2 = 0 && begins rest then some rest else openAt 0 rest := rfl

theorem scan_other (slashes : Nat) {c : Char} (hs : c ≠ '\\') (hc : c ≠ '[') (rest : List Char) :
    activeFrom slashes (c :: rest) = activeFrom 0 rest ∧
      openAt slashes (c :: rest) = openAt 0 rest := by
  simp [activeFrom, openAt, hs, hc]

theorem scan_of_all (slashes : Nat) {cs : List Char} (h : cs.all isPlain = true) :
    activeFrom slashes cs = [] ∧ openAt slashes cs = none := by
  induction cs generalizing slashes with
  | nil => exact ⟨rfl, rfl⟩
  | cons c cs ih =>
    rw [List.all_cons, Bool.and_eq_true] at h
    by_cases hs : c = '\\'
    · subst hs
      exact ih (slashes + 1) h.2
    · have hc : c ≠ '[' := by
        rintro rfl
        exact absurd h.1 (by decide)
      obtain ⟨hactive, hopen⟩ := scan_other slashes hs hc cs
      rw [hactive, hopen]
      exact ih 0 h.2

theorem activeTags_of_isPlain {s : String} (h : s.toList.all isPlain = true) : activeTags s = [] :=
  (scan_of_all 0 h).1

/-- The active tags of two texts, one behind the other, are those of both, and where the first leaves
a tag open, maybe one more. The second text may not begin like the inside of a tag. -/
theorem activeFrom_append (slashes : Nat) (cs : List Char) {tail : List Char}
    (hblunt : ∀ c ∈ tail.head?, opensTag c = false) :
    activeFrom slashes (cs ++ tail) = activeFrom slashes cs ++ joint slashes cs tail ++
      activeFrom (slashesAfter slashes cs) tail := by
  induction cs generalizing slashes with
  | nil => simp [activeFrom, joint, openAt, slashesAfter]
  | cons c cs ih =>
    by_cases hs : c = '\\'
    · subst hs
      exact ih (slashes + 1)
    have hslashes : slashesAfter slashes (c :: cs) = slashesAfter 0 cs := by
      rw [slashesAfter, if_neg hs]
    rw [List.cons_append, hslashes]
    by_cases hc : c = '['
    · subst hc
      rw [activeFrom_bracket, activeFrom_bracket, ih 0, tagAt_append slashes hblunt, joint, joint,
        openAt_bracket]
      split
      case isTrue h =>
        -- the bracket leaves a tag open, so that the text behind it has none
        have hb : begins cs = true := (Bool.and_eq_true_iff.mp h).2
        obtain ⟨hactive, hopen⟩ := scan_of_all 0 (all_isPlain_of_begins hb)
        have hnone : tagAt slashes cs = [] := by simp [tagAt, not_isTag_of_begins hb]
        rw [hactive, hopen, hnone]
        simp
      case isFalse h => simp
    · obtain ⟨hactive, hopen⟩ := scan_other slashes hs hc cs
      rw [(scan_other slashes hs hc (cs ++ tail)).1, hactive, ih 0, joint, joint, hopen]

theorem activeFrom_append_of_all (slashes : Nat) {cs : List Char} (h : cs.all isPlain = true)
    (tail : List Char) :
    activeFrom slashes (cs ++ tail) = activeFrom (slashesAfter slashes cs) tail := by
  induction cs generalizing slashes with
  | nil => rfl
  | cons c cs ih =>
    rw [List.all_cons, Bool.and_eq_true] at h
    by_cases hs : c = '\\'
    · subst hs
      exact ih (slashes + 1) h.2
    · have hc : c ≠ '[' := by
        rintro rfl
        exact absurd h.1 (by decide)
      rw [List.cons_append, (scan_other slashes hs hc _).1, slashesAfter, if_neg hs, ih 0 h.2]

/-! ## Escaped texts -/

theorem slashesAfter_append (slashes : Nat) (cs tail : List Char) :
    slashesAfter slashes (cs ++ tail) = slashesAfter (slashesAfter slashes cs) tail := by
  induction cs generalizing slashes with
  | nil => rfl
  | cons c cs ih =>
    rw [List.cons_append, slashesAfter, slashesAfter]
    split <;> exact ih _

theorem slashesAfter_backslashes (slashes n : Nat) :
    slashesAfter slashes (backslashes n) = slashes + n := by
  induction n generalizing slashes with
  | zero => rfl
  | succ n ih =>
    have h := ih (slashes + 1)
    rw [Nat.add_right_comm] at h
    exact h

theorem all_isPlain_backslashes (n : Nat) : (backslashes n).all isPlain = true := by
  rw [List.all_eq_true]
  intro c hc
  rw [(List.mem_replicate.mp hc).2]
  rfl

theorem closes_escapeFrom (slashes : Nat) (cs : List Char) :
    closes (escapeFrom slashes cs) = closes cs := by
  have hskip (n : Nat) (cs : List Char) : closes (backslashes n ++ cs) = closes cs := by
    rw [closes_append, not_closes_of_all (all_isPlain_backslashes n), all_isPlain_backslashes]
    rfl
  induction cs generalizing slashes with
  | nil => exact not_closes_of_all (all_isPlain_backslashes slashes)
  | cons c cs ih =>
    rw [escapeFrom]
    split
    case isTrue hs =>
      rw [ih, hs]
      rfl
    case isFalse => rw [hskip, closes_cons, closes_cons, ih]

theorem isTag_escapeFrom_succ (slashes : Nat) (cs : List Char) :
    isTag (escapeFrom (slashes + 1) cs) = false := by
  have hbackslash (n : Nat) (cs : List Char) : isTag (backslashes (n + 1) ++ cs) = false := rfl
  induction cs generalizing slashes with
  | nil => exact hbackslash slashes []
  | cons c cs ih =>
    rw [escapeFrom]
    split
    case isTrue => exact ih _
    case isFalse =>
      split
      · exact hbackslash (2 * (slashes + 1)) _
      · exact hbackslash slashes _

theorem isTag_escapeFrom (cs : List Char) : isTag (escapeFrom 0 cs) = isTag cs := by
  cases cs with
  | nil => rfl
  | cons c cs =>
    rw [escapeFrom]
    split
    case isTrue hs =>
      subst hs
      exact isTag_escapeFrom_succ 0 cs
    case isFalse hs =>
      by_cases hc : c = '['
      · subst hc
        split <;> rfl
      · simp [hc, backslashes, isTag, closes_escapeFrom]

theorem activeFrom_escapeFrom (slashes : Nat) (cs : List Char) :
    activeFrom 0 (escapeFrom slashes cs) = [] := by
  induction cs generalizing slashes with
  | nil => exact (scan_of_all 0 (all_isPlain_backslashes slashes)).1
  | cons c cs ih =>
    rw [escapeFrom]
    split
    case isTrue => exact ih _
    case isFalse hs =>
      rw [activeFrom_append_of_all 0 (all_isPlain_backslashes _), slashesAfter_backslashes]
      by_cases hc : c = '['
      · subst hc
        rw [activeFrom_bracket, ih, tagAt, isTag_escapeFrom]
        cases isTag cs <;> simp
      · rw [(scan_other _ hs hc _).1, ih]

theorem slashesAfter_escapeFrom (slashes : Nat) (cs : List Char) :
    slashesAfter 0 (escapeFrom slashes cs) = slashesAfter slashes cs := by
  induction cs generalizing slashes with
  | nil => exact (slashesAfter_backslashes 0 slashes).trans (Nat.zero_add _)
  | cons c cs ih =>
    rw [escapeFrom, slashesAfter]
    split
    case isTrue => exact ih _
    case isFalse hs =>
      rw [slashesAfter_append, slashesAfter, if_neg hs, ih]

theorem slashesAfter_concat (slashes : Nat) (cs : List Char) (c : Char) :
    slashesAfter slashes (cs ++ [c]) = if c = '\\' then slashesAfter slashes cs + 1 else 0 := by
  rw [slashesAfter_append, slashesAfter]
  rfl

theorem closeEscape_eq (cs : List Char) :
    closeEscape cs = cs ++ if slashesAfter 0 cs = 1 then ['\\'] else [] := by
  unfold closeEscape
  obtain rfl | ⟨ds, c, rfl⟩ := List.eq_nil_or_concat' cs
  · rfl
  rw [List.reverse_concat, slashesAfter_concat]
  by_cases hc : c = '\\'
  · subst hc
    obtain rfl | ⟨es, d, rfl⟩ := List.eq_nil_or_concat' ds
    · rfl
    rw [List.reverse_concat, slashesAfter_concat]
    by_cases hd : d = '\\'
    · simp [hd]
    · simp [hd]
  · simp [hc]

theorem toList_escape (s : String) :
    (escape s).toList = escapeFrom 0 s.toList ++
      if slashesAfter 0 s.toList = 1 then ['\\'] else [] := by
  rw [escape, String.toList_ofList, closeEscape_eq, slashesAfter_escapeFrom]

theorem activeTags_escape (s : String) : activeTags (escape s) = [] := by
  rw [activeTags, toList_escape]
  split
  case isFalse => rw [List.append_nil, activeFrom_escapeFrom]
  case isTrue =>
    rw [activeFrom_append 0 _ (by simp [opensTag]), activeFrom_escapeFrom]
    rfl

/-- Of the backslashes at the end of an escaped text only a single one has been doubled. -/
theorem slashesAfter_escape (s : String) :
    slashesAfter 0 (escape s).toList =
      if slashesAfter 0 s.toList = 1 then 2 else slashesAfter 0 s.toList := by
  rw [toList_escape]
  split
  case isFalse => rw [List.append_nil, slashesAfter_escapeFrom]
  case isTrue h => rw [slashesAfter_concat, slashesAfter_escapeFrom, h, if_pos rfl]

end ContractAtlas.Text
