import Mathlib.Data.List.Basic

/-!
What a fold leaves in a part of its state, from what each step does to that part: the part grows at
its end (`foldl_append`), gathers what the steps pick (`foldl_gather`), belongs to the last that picks
(`foldl_last`), or stays as it was (`foldl_keep`). Where steps may fail, what
has come out came of steps that all succeeded (`ok_of_bind`), and what every step keeps is kept
(`foldlM_keep`); a fold whose steps are checked is the plain fold if all checks hold (`foldlM_guard`).
-/
namespace ContractAtlas
set_option autoImplicit false

variable {σ α β : Type} (step : σ → α → σ)

theorem foldl_append (get : σ → List β) {piece : α → List β}
    (h : ∀ s a, get (step s a) = get s ++ piece a) (xs : List α) (s : σ) :
    get (xs.foldl step s) = get s ++ xs.flatMap piece := by
  induction xs generalizing s with
  | nil => simp
  | cons a xs ih => rw [List.foldl_cons, ih, h, List.append_assoc, List.flatMap_cons]

/-- A list to which each step adds what it picks holds in the end all that was picked. -/
theorem foldl_gather (get : σ → List β) {pick : α → Option β}
    (h : ∀ s a, get (step s a) = get s ++ (pick a).toList) (xs : List α) (s : σ) :
    get (xs.foldl step s) = get s ++ xs.filterMap pick := by
  rw [foldl_append step get h, List.filterMap_eq_flatMap_toList]

/-- A place that a later step takes from an earlier one belongs in the end to the last. -/
theorem foldl_last (get : σ → Option β) {pick : α → Option β}
    (h : ∀ s a, get (step s a) = (pick a).or (get s)) (xs : List α) (s : σ) :
    get (xs.foldl step s) = (xs.filterMap pick).getLast?.or (get s) := by
  induction xs generalizing s with
  | nil => simp
  | cons a xs ih =>
    rw [List.foldl_cons, ih, h]
    cases hp : pick a with
    | none => simp [hp]
    | some b =>
      rw [List.filterMap_cons_some hp, List.getLast?_cons]
      cases (xs.filterMap pick).getLast? with
      | none => rfl
      | some last => rfl

/-- What no step changes stays. -/
theorem foldl_keep (get : σ → β) (h : ∀ s a, get (step s a) = get s) (xs : List α) (s : σ) :
    get (xs.foldl step s) = get s := by
  induction xs generalizing s with
  | nil => rfl
  | cons a xs ih => rw [List.foldl_cons, ih, h]

/-! ## Steps that may fail -/

variable {ε : Type}

theorem ok_of_bind {x : Except ε α} {f : α → Except ε β} {b : β} (h : x.bind f = .ok b) :
    ∃ a, x = .ok a ∧ f a = .ok b := by
  cases x with
  | error e => cases h
  | ok a => exact ⟨a, rfl, h⟩

theorem ok_of_map {x : Except ε α} {f : α → β} {b : β} (h : x.map f = .ok b) :
    ∃ a, x = .ok a ∧ f a = b := by
  cases x with
  | error e => cases h
  | ok a => exact ⟨a, rfl, Except.ok.inj h⟩

theorem foldlM_keep {P : σ → Prop} {f : σ → α → Except ε σ}
    (h : ∀ {s a s'}, P s → f s a = .ok s' → P s') {xs : List α} {s s' : σ} (hs : P s)
    (hfold : xs.foldlM f s = .ok s') : P s' := by
  induction xs generalizing s with
  | nil => exact Except.ok.inj hfold ▸ hs
  | cons a xs ih =>
    rw [List.foldlM_cons] at hfold
    obtain ⟨next, hstep, hrest⟩ := ok_of_bind hfold
    exact ih (h hs hstep) hrest

/-- Where each step either goes on or fails as a check of its item says, so does the fold. -/
theorem foldlM_guard {f : σ → α → Except ε σ} {holds : α → Bool} {e : ε}
    (h : ∀ s a, f s a = if holds a then .ok (step s a) else .error e) (xs : List α) (s : σ) :
    xs.foldlM f s = if xs.all holds then .ok (xs.foldl step s) else .error e := by
  induction xs generalizing s with
  | nil => rfl
  | cons a xs ih =>
    rw [List.foldlM_cons, h, List.all_cons]
    cases ha : holds a with
    | false => rfl
    | true => exact ih (step s a)

end ContractAtlas
