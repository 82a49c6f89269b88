import ContractAtlas.Text.CaseMap
import Mathlib.Tactic.ByContra

/-!
Words that are read in any letter case. Only a Latin letter becomes a letter of such a word in lower
case, as long as no `i` and no `k` is in it (`lt_of_mem_lowerLetter`), so that a text spells the word
exactly if its Latin letters do (`lower_eq_iff`).
-/
namespace ContractAtlas.Text
set_option autoImplicit false

/-! ## Letters -/

/-- Letters and digits that no letter of another script becomes in lower case. -/
def isUnshared (c : Char) : Bool :=
  (0x61 ≤ c.toNat && c.toNat ≤ 0x7A && c.toNat ≠ 0x69 && c.toNat ≠ 0x6B) ||
    (0x30 ≤ c.toNat && c.toNat ≤ 0x39)

theorem lt_of_isUnshared {c : Char} (h : isUnshared c = true) : c.toNat < 0x80 := by
  simp [isUnshared] at h
  omega

theorem not_isUnshared_ofNat {n : Nat} (h : 0x80 ≤ n ∨ n = 0x6B) :
    isUnshared (Char.ofNat n) = false := by
  obtain h | rfl := h
  case inr => decide
  by_cases hvalid : n.isValidChar
  case pos =>
    have hn : (Char.ofNat n).toNat = n := by
      rw [Char.ofNat, dif_pos hvalid]
      rfl
    rw [← Bool.not_eq_true]
    intro hunshared
    have hlt := lt_of_isUnshared hunshared
    omega
  case neg =>
    have hzero : Char.ofNat n = Char.ofNat 0 := by simp [Char.ofNat, hvalid]; rfl
    rw [hzero]
    decide

/-- Outside ASCII only the sign of the Kelvin has its lower case in it. -/
theorem lowerRuns_apart : ∀ run ∈ lowerRuns, run.last < 0x80 ∨
    0x80 ≤ (run.first : Int) + run.shift ∨
      (run.first = run.last ∧ (run.first : Int) + run.shift = 0x6B) := by
  decide +kernel

theorem lt_of_mem_lowerLetter {c x : Char} (h : x ∈ lowerLetter c) (hx : isUnshared x = true) :
    c.toNat < 0x80 := by
  by_contra hc
  rw [lowerLetter, if_neg hc] at h
  split at h
  case isTrue =>
    obtain rfl | rfl : x = 'i' ∨ x = Char.ofNat 0x307 := by simpa using h
    · exact absurd hx (by decide)
    · exact absurd hx (by decide)
  case isFalse =>
    obtain rfl := List.mem_singleton.mp h
    rw [shiftBy] at hx
    cases hrun : lowerRuns.find? (·.covers c.toNat) with
    | none =>
      rw [hrun] at hx
      exact hc (lt_of_isUnshared hx)
    | some run =>
      rw [hrun] at hx
      have hcovers := List.find?_some hrun
      have hapart := lowerRuns_apart run (List.mem_of_find?_eq_some hrun)
      simp only [CaseRun.covers, Bool.and_eq_true, decide_eq_true_eq] at hcovers
      have hshifted : 0x80 ≤ ((c.toNat : Int) + run.shift).toNat ∨
          ((c.toNat : Int) + run.shift).toNat = 0x6B := by omega
      rw [Option.map_some, Option.getD_some, not_isUnshared_ofNat hshifted] at hx
      cases hx

theorem toLower_of_le {c : Char} (h : ¬c.toNat < 0x80) : c.toLower = c := by
  have hupper : ¬(c.val ≥ 'A'.val ∧ c.val ≤ 'Z'.val) := by
    rintro ⟨_, hle⟩
    have hnat : c.toNat ≤ 90 := hle
    omega
  exact dif_neg hupper

/-! ## Words -/

/-- A word of unshared letters is spelled by its Latin letters alone. -/
theorem lowerFrom_eq_iff {word : List Char} (hword : ∀ x ∈ word, isUnshared x = true)
    (before cs : List Char) : lowerFrom before cs = word ↔ cs.map Char.toLower = word := by
  induction cs generalizing before word with
  | nil => rfl
  | cons c rest ih =>
    by_cases hc : c.toNat < 0x80
    case pos =>
      have hsigma : c ≠ capitalSigma := by
        rintro rfl
        exact absurd hc (by decide)
      rw [lowerFrom, if_neg hsigma, lowerLetter, if_pos hc, List.map_cons, List.singleton_append]
      cases word with
      | nil => simp
      | cons x word =>
        rw [List.cons.injEq, List.cons.injEq,
          ih (fun y hy => hword y (List.mem_cons_of_mem x hy))]
    case neg =>
      -- neither side begins with a letter of the word
      have hnot : ∀ first behind : List Char, (∀ x ∈ first, isUnshared x = false) → first ≠ [] →
          first ++ behind ≠ word := by
        rintro first behind hfirst hne rfl
        obtain ⟨x, hx⟩ := List.exists_mem_of_ne_nil first hne
        have hin := hword x (List.mem_append_left _ hx)
        rw [hfirst x hx] at hin
        cases hin
      have hleft : lowerFrom before (c :: rest) ≠ word := by
        rw [lowerFrom]
        refine hnot _ _ ?_ ?_
        · intro x hx
          split at hx
          case isTrue =>
            obtain rfl | rfl : x = 'ς' ∨ x = 'σ' := by
              split at hx <;> simp_all
            · decide
            · decide
          case isFalse =>
            rw [← Bool.not_eq_true]
            exact fun hunshared => hc (lt_of_mem_lowerLetter hx hunshared)
        · split
          · split <;> simp
          · rw [lowerLetter, if_neg hc]
            split <;> simp
      have hright : (c :: rest).map Char.toLower ≠ word := by
        rw [List.map_cons, toLower_of_le hc]
        refine hnot [c] _ ?_ (by simp)
        intro x hx
        obtain rfl := List.mem_singleton.mp hx
        rw [← Bool.not_eq_true]
        exact fun hunshared => hc (lt_of_isUnshared hunshared)
      exact ⟨fun h => absurd h hleft, fun h => absurd h hright⟩

theorem lower_eq_iff {word : String} (hword : ∀ x ∈ word.toList, isUnshared x = true) (s : String) :
    lower s = word ↔ s.toList.map Char.toLower = word.toList := by
  rw [← lowerFrom_eq_iff hword [] s.toList, lower]
  constructor
  · rintro rfl
    exact String.toList_ofList.symm
  · intro h
    rw [h, String.ofList_toList]

end ContractAtlas.Text
