import ContractAtlas.Json.Reader
import Mathlib.Data.List.TakeWhile

/-!
Which texts are refused for an integer of too many digits. The reader stays within the text that it is
given (`Within`), so an integer that it refuses is a run of digits in the text (`read_longInteger`). A
text that is nothing but such a run is refused (`read_of_digits`).
-/
namespace ContractAtlas.Json
set_option autoImplicit false

/-- A text holds a run of digits that is longer than an integer may be. -/
structure HoldsLongRun (text : List Char) (digits : Nat) : Prop where
  long : Numeral.digitLimit < digits
  run : ∃ run, run <:+: text ∧ run.length = digits ∧ ∀ c ∈ run, Reader.isDigit c = true

theorem HoldsLongRun.mono {inner text : List Char} {digits : Nat} (h : HoldsLongRun inner digits)
    (hinner : inner <:+: text) : HoldsLongRun text digits := by
  obtain ⟨long, run, hrun, hlength, hdigits⟩ := h
  exact ⟨long, run, hrun.trans hinner, hlength, hdigits⟩

namespace Reader

/-! ## Staying within a text -/

/-- What is read from a text leaves an end of the text, and an integer that is refused is a run of
digits in the text. -/
def Within {α : Type} (text : List Char) : Except ReadError (α × Cursor) → Prop
  | .ok (_, c) => c.rest <:+ text
  | .error (.malformed _ _) => True
  | .error (.longInteger digits) => HoldsLongRun text digits

theorem Within.mono {α : Type} {inner text : List Char} {r : Except ReadError (α × Cursor)}
    (h : Within inner r) (hinner : inner <:+ text) : Within text r := by
  cases r with
  | ok found => exact List.IsSuffix.trans h hinner
  | error e =>
    cases e with
    | malformed complaint position => trivial
    | longInteger digits => exact HoldsLongRun.mono h hinner.isInfix

theorem Within.bind {α β : Type} {text : List Char} {r : Except ReadError (α × Cursor)}
    {next : α × Cursor → Except ReadError (β × Cursor)} (h : Within text r)
    (hnext : ∀ a c, c.rest <:+ text → Within text (next (a, c))) : Within text (r >>= next) := by
  cases r with
  | ok found => exact hnext found.1 found.2 h
  | error e =>
    cases e with
    | malformed complaint position => trivial
    | longInteger digits => exact h

theorem within_expected {α : Type} (text : List Char) (complaint : Complaint) (position : Nat) :
    Within (α := α) text (expected complaint position) :=
  trivial

/-! ## Cursors -/

theorem skipBlank_suffix (c : Cursor) : c.skipBlank.rest <:+ c.rest :=
  List.dropWhile_suffix isBlank

theorem advance_suffix (c : Cursor) (count : Nat) : (c.advance count).rest <:+ c.rest :=
  List.drop_suffix count c.rest

theorem suffix_of_rest_eq_cons {c : Cursor} {first : Char} {rest : List Char}
    (h : c.rest = first :: rest) : rest <:+ c.rest := by
  rw [h]
  exact List.suffix_cons first rest

/-! ## Numbers -/

theorem wholeDigits_isPrefix (cs : List Char) : wholeDigits cs <+: cs := by
  unfold wholeDigits
  split
  · exact List.prefix_append ['0'] _
  · exact List.takeWhile_prefix isDigit

theorem isDigit_of_mem_wholeDigits {cs : List Char} {c : Char} (h : c ∈ wholeDigits cs) :
    isDigit c = true := by
  unfold wholeDigits at h
  split at h
  · rw [List.mem_singleton.mp h]
    decide
  · exact List.all_eq_true.mp List.all_takeWhile c h

theorem within_integer {text : List Char} {c : Cursor} (hc : c.rest <:+ text) (negative : Bool) :
    Within text ((·, c) <$> integer negative (wholeDigits text)) := by
  unfold integer
  split
  case isTrue hlong =>
    exact ⟨hlong, _, (wholeDigits_isPrefix text).isInfix, rfl, fun _ => isDigit_of_mem_wholeDigits⟩
  case isFalse => exact hc

theorem within_unsigned (start : Nat) (negative : Bool) (c : Cursor) :
    Within c.rest (unsigned start negative c) := by
  unfold unsigned
  dsimp only
  split
  case isTrue => exact within_expected _ _ _
  case isFalse =>
    have hwhole := advance_suffix c (wholeDigits c.rest).length
    generalize c.advance (wholeDigits c.rest).length = mid at hwhole ⊢
    have hfraction : (if (fractionDigits mid.rest).isEmpty then mid
        else mid.advance ((fractionDigits mid.rest).length + 1)).rest <:+ c.rest := by
      split
      · exact hwhole
      · exact (advance_suffix _ _).trans hwhole
    generalize (if (fractionDigits mid.rest).isEmpty then mid
        else mid.advance ((fractionDigits mid.rest).length + 1)) = last at hfraction ⊢
    split
    · exact (advance_suffix _ _).trans hfraction
    · split
      · exact within_integer hfraction negative
      · exact hfraction

theorem within_number (c : Cursor) : Within c.rest (number c) := by
  unfold number
  split
  · exact (within_unsigned c.pos true (c.advance 1)).mono (advance_suffix c 1)
  · exact within_unsigned c.pos false c

/-! ## Texts -/

/-- A text body that goes on behind some characters stays within what held them. -/
theorem Within.behind {α : Type} {text : List Char} {r : Except ReadError (α × Cursor)}
    (h : Within text r) (skipped : List Char) : Within (skipped ++ text) r :=
  h.mono (List.suffix_append skipped text)

theorem within_textBody (opening : Nat) (read : List Char) (pos : Nat) (cs : List Char) :
    Within cs (textBody opening read pos cs) := by
  fun_induction textBody opening read pos cs with
  | case2 read pos rest => exact List.suffix_cons '"' rest
  | case7 read pos a b c d n _ e f g h after =>
    rename_i ih
    exact ih.behind ['\\', 'u', a, b, c, d, '\\', 'u', e, f, g, h]
  | case8 read pos a b c d =>
    rename_i ih
    exact ih.behind ['\\', 'u', a, b, c, d]
  | case9 read pos a b c d =>
    rename_i ih
    exact ih.behind ['\\', 'u', a, b, c, d]
  | case10 read pos a b c d =>
    rename_i ih
    exact ih.behind ['\\', 'u', a, b, c, d]
  | case12 read pos e rest _ _ c _ ih => exact ih.behind ['\\', e]
  | case15 read pos c rest _ _ _ ih => exact ih.behind [c]
  | _ => exact within_expected _ _ _

/-! ## Values -/

/-- With so much fuel, whatever is read stays within the text. -/
structure Stays (fuel : Nat) : Prop where
  value : ∀ c, Within c.rest (value fuel c)
  members : ∀ read c, Within c.rest (members fuel read c)
  elements : ∀ read c, Within c.rest (elements fuel read c)

theorem within_value_succ {fuel : Nat} (h : Stays fuel) (c : Cursor) :
    Within c.rest (value (fuel + 1) c) := by
  unfold value
  split
  case h_1 rest hc =>
    refine (within_textBody c.pos [] (c.pos + 1) rest).mono (suffix_of_rest_eq_cons hc) |>.bind ?_
    intro s after hafter
    exact hafter
  case h_2 rest hc =>
    have hin := (skipBlank_suffix ⟨c.pos + 1, rest⟩).trans (suffix_of_rest_eq_cons hc)
    dsimp only
    split
    · exact (advance_suffix _ 1).trans hin
    · exact (h.members [] _).mono hin
  case h_3 rest hc =>
    have hin := (skipBlank_suffix ⟨c.pos + 1, rest⟩).trans (suffix_of_rest_eq_cons hc)
    dsimp only
    split
    · exact (advance_suffix _ 1).trans hin
    · exact (h.elements [] _).mono hin
  case h_4 =>
    split
    · exact advance_suffix c _
    · exact within_number c

theorem within_elements_succ {fuel : Nat} (h : Stays fuel) (read : List Json) (c : Cursor) :
    Within c.rest (elements (fuel + 1) read c) := by
  unfold elements
  refine (h.value c).bind ?_
  intro json item hitem
  have hblank := (skipBlank_suffix item).trans hitem
  dsimp only
  split
  · exact (advance_suffix _ 1).trans hblank
  · have hnext := (skipBlank_suffix _).trans ((advance_suffix item.skipBlank 1).trans hblank)
    exact (h.elements (json :: read) _).mono hnext
  · exact within_expected _ _ _

theorem within_members_succ {fuel : Nat} (h : Stays fuel) (read : List (String × Json)) (c : Cursor) :
    Within c.rest (members (fuel + 1) read c) := by
  unfold members
  split
  case h_1 rest hc =>
    refine (within_textBody c.pos [] (c.pos + 1) rest).mono (suffix_of_rest_eq_cons hc) |>.bind ?_
    intro key colon hcolon
    have hcolon' := (skipBlank_suffix colon).trans hcolon
    dsimp only
    split
    · have hstart := (skipBlank_suffix _).trans ((advance_suffix colon.skipBlank 1).trans hcolon')
      refine ((h.value _).mono hstart).bind ?_
      intro json item hitem
      have hblank := (skipBlank_suffix item).trans hitem
      dsimp only
      split
      · exact (advance_suffix _ 1).trans hblank
      · have hnext := (skipBlank_suffix _).trans ((advance_suffix item.skipBlank 1).trans hblank)
        exact (h.members ((key, json) :: read) _).mono hnext
      · exact within_expected _ _ _
    · exact within_expected _ _ _
  case h_2 => exact within_expected _ _ _

theorem stays (fuel : Nat) : Stays fuel := by
  induction fuel with
  | zero =>
    exact ⟨fun _ => within_expected _ _ _, fun _ _ => within_expected _ _ _,
      fun _ _ => within_expected _ _ _⟩
  | succ fuel ih => exact ⟨within_value_succ ih, within_members_succ ih, within_elements_succ ih⟩

/-! ## Texts of digits -/

theorem ne_of_isDigit {c other : Char} (h : isDigit c = true) (hother : isDigit other = false) :
    c ≠ other := by
  rintro rfl
  simp [hother] at h

theorem skipBlank_of_isDigit {c : Char} {cs : List Char} (h : isDigit c = true) (start : Nat) :
    (Cursor.mk start (c :: cs)).skipBlank = ⟨start, c :: cs⟩ := by
  have hblank : isBlank c = false := by
    simp [isBlank, ne_of_isDigit h (by decide : isDigit ' ' = false),
      ne_of_isDigit h (by decide : isDigit '\t' = false),
      ne_of_isDigit h (by decide : isDigit '\n' = false),
      ne_of_isDigit h (by decide : isDigit '\r' = false)]
  simp [Cursor.skipBlank, hblank]

theorem constant?_of_isDigit {c : Char} {cs : List Char} (h : isDigit c = true) :
    constant? (c :: cs) = none := by
  rw [constant?, List.findSome?_eq_none_iff]
  intro found hfound
  have hfirst : ∀ word ∈ constants.map Prod.fst, word.head?.any isDigit = false ∧ word ≠ [] := by decide
  obtain ⟨hword, hne⟩ := hfirst found.1 (List.mem_map_of_mem hfound)
  cases hw : found.1 with
  | nil => exact absurd hw hne
  | cons first rest =>
    have hdiffers : first ≠ c := by
      rintro rfl
      simp [hw, h] at hword
    simp [hw, hdiffers]

theorem wholeDigits_of_digits {c : Char} {cs : List Char} (hdigits : ∀ d ∈ c :: cs, isDigit d = true)
    (hfirst : c ≠ '0') : wholeDigits (c :: cs) = c :: cs := by
  unfold wholeDigits
  split
  case h_1 heq =>
    injection heq with hc
    exact absurd hc hfirst
  case h_2 => exact List.takeWhile_eq_self_iff.mpr hdigits

theorem unsigned_of_digits {c : Char} {cs : List Char} (start : Nat)
    (hdigits : ∀ d ∈ c :: cs, isDigit d = true)
    (hfirst : c ≠ '0') (hlong : Numeral.digitLimit < (c :: cs).length) :
    unsigned start false ⟨start, c :: cs⟩ = .error (.longInteger (c :: cs).length) := by
  have hrest : (Cursor.advance ⟨start, c :: cs⟩ (c :: cs).length).rest = [] := List.drop_length
  unfold unsigned
  rw [wholeDigits_of_digits hdigits hfirst]
  dsimp only
  generalize Cursor.advance ⟨start, c :: cs⟩ (c :: cs).length = last at hrest ⊢
  have hfraction : fractionDigits last.rest = [] := by rw [hrest]; rfl
  have hexponent : exponentPart last.rest = none := by rw [hrest]; rfl
  have hrefused : integer false (c :: cs) = .error (.longInteger (c :: cs).length) := if_pos hlong
  simp [hfraction, hexponent, hrefused]

theorem value_of_digits {c : Char} {cs : List Char} (fuel start : Nat)
    (hdigits : ∀ d ∈ c :: cs, isDigit d = true)
    (hfirst : c ≠ '0') (hlong : Numeral.digitLimit < (c :: cs).length) :
    value (fuel + 1) ⟨start, c :: cs⟩ = .error (.longInteger (c :: cs).length) := by
  have hc : isDigit c = true := hdigits c List.mem_cons_self
  have hminus : c ≠ '-' := ne_of_isDigit hc (by decide)
  have hquote : c ≠ '"' := ne_of_isDigit hc (by decide)
  have hbrace : c ≠ '\x7b' := ne_of_isDigit hc (by decide)
  have hbracket : c ≠ '[' := ne_of_isDigit hc (by decide)
  simp [value, number, hminus, hquote, hbrace, hbracket, constant?_of_isDigit hc,
    unsigned_of_digits start hdigits hfirst hlong]

end Reader

/-! ## Whole texts -/

/-- An integer is refused only over a run of so many digits in the text. -/
theorem read_longInteger {text : List Char} {digits : Nat}
    (h : read text = .error (.longInteger digits)) : HoldsLongRun text digits := by
  have hstart : (Reader.Cursor.mk 0 text).skipBlank.rest <:+ text := Reader.skipBlank_suffix ⟨0, text⟩
  have hvalue := (Reader.stays (text.length + 1)).value (Reader.Cursor.mk 0 text).skipBlank
  have hwithin := hvalue.mono hstart
  unfold read at h
  cases hr : Reader.value (text.length + 1) (Reader.Cursor.mk 0 text).skipBlank with
  | ok found =>
    rw [hr] at h
    change (if _ then _ else _) = _ at h
    split at h <;> cases h
  | error e =>
    rw [hr] at h hwithin
    obtain rfl := Except.error.inj h
    exact hwithin

/-- A text of nothing but too many digits, the first of them no zero, is refused. -/
theorem read_of_digits {c : Char} {cs : List Char} (hdigits : ∀ d ∈ c :: cs, Reader.isDigit d = true)
    (hfirst : c ≠ '0') (hlong : Numeral.digitLimit < (c :: cs).length) :
    read (c :: cs) = .error (.longInteger (c :: cs).length) := by
  rw [read, Reader.skipBlank_of_isDigit (hdigits c List.mem_cons_self),
    Reader.value_of_digits _ 0 hdigits hfirst hlong]
  rfl

end ContractAtlas.Json
