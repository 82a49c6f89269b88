/-!
Pieces of a text between the places where a separator stands. There is always one piece more than
there are separators, and no piece holds any (`mem_pieces`).
-/
namespace ContractAtlas.Text
set_option autoImplicit false

def pieces (separator : Char) : List Char → List (List Char)
  | [] => [[]]
  | c :: rest =>
    match pieces separator rest with
    | [] => [[c]]
    | piece :: more => if c = separator then [] :: piece :: more else (c :: piece) :: more

theorem pieces_ne_nil (separator : Char) (cs : List Char) : pieces separator cs ≠ [] := by
  cases cs with
  | nil => simp [pieces]
  | cons c rest =>
    unfold pieces
    split
    · simp
    · split <;> simp

theorem pieces_of_not_mem {separator : Char} {cs : List Char} (h : separator ∉ cs) :
    pieces separator cs = [cs] := by
  induction cs with
  | nil => rfl
  | cons c rest ih =>
    have hc : c ≠ separator := fun hc => h (hc ▸ List.mem_cons_self)
    rw [pieces, ih fun hrest => h (List.mem_cons_of_mem c hrest)]
    exact if_neg hc

theorem pieces_append (separator : Char) (before after : List Char) :
    pieces separator (before ++ separator :: after) =
      pieces separator before ++ pieces separator after := by
  induction before with
  | nil =>
    rw [List.nil_append, pieces]
    cases h : pieces separator after with
    | nil => exact absurd h (pieces_ne_nil separator after)
    | cons piece more => simp [pieces, h]
  | cons c before ih =>
    rw [List.cons_append, pieces, ih, pieces]
    cases h : pieces separator before with
    | nil => exact absurd h (pieces_ne_nil separator before)
    | cons piece more =>
      simp only [List.cons_append]
      split <;> rfl

theorem mem_pieces {separator : Char} {cs piece : List Char} (h : piece ∈ pieces separator cs) :
    separator ∉ piece ∧ ∀ c ∈ piece, c ∈ cs := by
  induction cs generalizing piece with
  | nil =>
    obtain rfl := List.mem_singleton.mp h
    simp
  | cons c rest ih =>
    unfold pieces at h
    split at h
    case h_1 hnil => exact absurd hnil (pieces_ne_nil separator rest)
    case h_2 first more hrest =>
      have hold : ∀ {old}, old ∈ first :: more → separator ∉ old ∧ ∀ d ∈ old, d ∈ c :: rest := by
        intro old hold
        obtain ⟨hfree, hmem⟩ := ih (hrest ▸ hold)
        exact ⟨hfree, fun d hd => List.mem_cons_of_mem c (hmem d hd)⟩
      split at h
      case isTrue hc =>
        cases List.mem_cons.mp h with
        | inl hnew => simp [hnew]
        | inr hmem => exact hold hmem
      case isFalse hc =>
        cases List.mem_cons.mp h with
        | inl hnew =>
          obtain ⟨hfree, hmem⟩ := hold List.mem_cons_self
          have hc' : separator ≠ c := Ne.symm hc
          simpa [hnew, hc', hfree] using hmem
        | inr hmem => exact hold (List.mem_cons_of_mem first hmem)

end ContractAtlas.Text
