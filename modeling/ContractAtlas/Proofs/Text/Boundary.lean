import Mathlib.Data.List.Basic

/-!
Where one text ends and the next begins. Two texts behind one another can be told apart if the first is
all of one class of characters and the second does not begin with one of it (`append_inj_of_all`), or if
the first is a row of groups that each begin with an opening character (`flatMap_append_inj`).
-/
namespace ContractAtlas.Text
set_option autoImplicit false

theorem append_inj_of_all {isInside : Char → Bool} {cs ds r s : List Char}
    (hcs : ∀ c ∈ cs, isInside c = true) (hds : ∀ d ∈ ds, isInside d = true)
    (hr : ∀ c ∈ r.head?, isInside c = false) (hs : ∀ c ∈ s.head?, isInside c = false)
    (h : cs ++ r = ds ++ s) : cs = ds ∧ r = s := by
  induction cs generalizing ds with
  | nil =>
    cases ds with
    | nil => exact ⟨rfl, h⟩
    | cons d ds =>
      have hrest : r = d :: (ds ++ s) := h
      have hend : isInside d = false := hr d (by rw [hrest]; rfl)
      rw [hds d List.mem_cons_self] at hend
      cases hend
  | cons c cs ih =>
    cases ds with
    | nil =>
      have hrest : c :: (cs ++ r) = s := h
      have hend : isInside c = false := hs c (by rw [← hrest]; rfl)
      rw [hcs c List.mem_cons_self] at hend
      cases hend
    | cons d ds =>
      obtain ⟨rfl, hrest⟩ := List.cons.inj h
      obtain ⟨rfl, rfl⟩ := ih (fun c hc => hcs c (List.mem_cons_of_mem _ hc))
        (fun d hd => hds d (List.mem_cons_of_mem _ hd)) hrest
      exact ⟨rfl, rfl⟩

/-- What may follow a group is a condition on the rest, met where the next group begins. -/
theorem flatMap_append_inj {α : Type} {group : α → List Char} {opening : Char}
    (hopening : ∀ a, (group a).head? = some opening) {follows : List Char → Prop}
    (hfollows : ∀ {r}, r.head? = some opening → follows r) {as bs : List α}
    (hgroup : ∀ a ∈ as, ∀ b ∈ bs, ∀ {r s}, follows r → follows s → group a ++ r = group b ++ s →
      a = b ∧ r = s)
    {r s : List Char} (hr : follows r) (hs : follows s)
    (hr' : r.head? ≠ some opening) (hs' : s.head? ≠ some opening)
    (h : as.flatMap group ++ r = bs.flatMap group ++ s) : as = bs ∧ r = s := by
  have hhead (a : α) (as : List α) (r : List Char) :
      ((a :: as).flatMap group ++ r).head? = some opening := by
    simp [List.head?_append, hopening]
  have hnext (as : List α) {r : List Char} (hr : follows r) : follows (as.flatMap group ++ r) := by
    cases as with
    | nil => exact hr
    | cons a as => exact hfollows (hhead a as r)
  induction as generalizing bs with
  | nil =>
    cases bs with
    | nil => exact ⟨rfl, h⟩
    | cons b bs =>
      have hrest : r = (b :: bs).flatMap group ++ s := h
      exact absurd (hrest ▸ hhead b bs s) hr'
  | cons a as ih =>
    cases bs with
    | nil =>
      have hrest : (a :: as).flatMap group ++ r = s := h
      exact absurd (hrest ▸ hhead a as r) hs'
    | cons b bs =>
      rw [List.flatMap_cons, List.flatMap_cons, List.append_assoc, List.append_assoc] at h
      obtain ⟨rfl, hrest⟩ :=
        hgroup a List.mem_cons_self b List.mem_cons_self (hnext as hr) (hnext bs hs) h
      obtain ⟨rfl, rfl⟩ := ih (fun a ha b hb => hgroup a (List.mem_cons_of_mem _ ha) b
        (List.mem_cons_of_mem _ hb)) hrest
      exact ⟨rfl, rfl⟩

end ContractAtlas.Text
