import ContractAtlas.Proofs.Atlas.Build
import Mathlib.Data.List.Induction
import Mathlib.Data.List.Sort
import Mathlib.Data.String.Basic

/-!
The names of an atlas that is put together from documents. They stand in the order in which they first
come (`foldl_absorb_keys`), each over a contract of that name (`foldl_absorb_named`), which is that of
the last document to store one there (`foldl_absorb_get?_eq_some_iff`).
-/
namespace ContractAtlas
set_option autoImplicit false

/-! ## Names -/

/-- The name under which a document stores its contract, if it stores one. -/
def Loading.name? (l : Loading) : Option String :=
  match l.result with
  | .ok c => if c.name = "" then none else some c.name
  | .error _ => none

theorem name?_eq_some_iff {l : Loading} {name : String} :
    l.name? = some name ↔ name ≠ "" ∧ ∃ c, l.result = .ok c ∧ c.name = name := by
  cases hr : l.result with
  | error failure => simp [Loading.name?, hr]
  | ok c =>
    by_cases hc : c.name = ""
    · simp only [Loading.name?, hr, hc, if_true, Except.ok.injEq, reduceCtorEq, false_iff]
      rintro ⟨hne, _, rfl, rfl⟩
      exact hne hc
    · simp only [Loading.name?, hr, hc, if_false, Except.ok.injEq, Option.some.injEq]
      constructor
      · rintro rfl
        exact ⟨hc, c, rfl, rfl⟩
      · rintro ⟨_, _, rfl, rfl⟩
        rfl

/-- The names under which documents store contracts, in order, each as often as it comes. -/
def storedNames (loadings : List Loading) : List String := loadings.filterMap Loading.name?

theorem storedNames_concat (loadings : List Loading) (l : Loading) :
    storedNames (loadings ++ [l]) = storedNames loadings ++ l.name?.toList := by
  rw [storedNames, List.filterMap_append]
  cases hn : l.name? with
  | none => simp [storedNames, hn]
  | some name => simp [storedNames, hn]

theorem mem_storedNames {loadings : List Loading} {name : String} :
    name ∈ storedNames loadings ↔
      name ≠ "" ∧ ∃ l ∈ loadings, ∃ c, l.result = .ok c ∧ c.name = name := by
  rw [storedNames, List.mem_filterMap]
  constructor
  · rintro ⟨l, hl, hname⟩
    obtain ⟨hne, hc⟩ := name?_eq_some_iff.mp hname
    exact ⟨hne, l, hl, hc⟩
  · rintro ⟨hne, l, hl, hc⟩
    exact ⟨l, hl, name?_eq_some_iff.mpr ⟨hne, hc⟩⟩

def Loading.newName? (known : List String) (l : Loading) : Option String :=
  l.name?.filter fun name => name ∉ known

theorem eraseDups_append_toList (names : List String) (name? : Option String) :
    (names ++ name?.toList).eraseDups =
      names.eraseDups ++ (name?.filter fun name => name ∉ names).toList := by
  rw [List.eraseDups_append]
  cases name? with
  | none => rfl
  | some name =>
    by_cases hin : name ∈ names
    · simp [List.removeAll, Option.filter, hin]
    · simp [List.removeAll, Option.filter, List.eraseDups_cons, hin]

theorem stored?_eq_some_iff {l : Loading} {name : String} {c : Contract} :
    l.stored? name = some c ↔ l.result = .ok c ∧ name ≠ "" ∧ c.name = name := by
  cases hr : l.result with
  | error failure => simp [Loading.stored?, hr]
  | ok other =>
    by_cases h : other.name ≠ "" ∧ other.name = name
    · obtain ⟨hne, rfl⟩ := h
      simp only [Loading.stored?, hr, ne_eq, hne, not_false_eq_true, and_self, if_true,
        Option.some.injEq, Except.ok.injEq, true_and]
      exact ⟨fun heq => ⟨heq, by rw [heq]⟩, fun heq => heq.1⟩
    · simp only [Loading.stored?, hr, h, if_false, reduceCtorEq, Except.ok.injEq, false_iff]
      rintro ⟨rfl, hne, rfl⟩
      exact h ⟨hne, rfl⟩

namespace Atlas

theorem keys_put (c : Contract) (cs : List (String × Contract)) :
    (put c cs).map (·.1) =
      if c.name ∈ cs.map (·.1) then cs.map (·.1) else cs.map (·.1) ++ [c.name] := by
  induction cs with
  | nil => simp [put]
  | cons entry rest ih =>
    obtain ⟨key, old⟩ := entry
    by_cases hk : key = c.name
    · simp [put, hk]
    · have hk' : c.name ≠ key := fun h => hk h.symm
      simp only [put, if_neg hk, List.map_cons, ih, List.mem_cons, hk', false_or]
      split <;> rfl

theorem mem_put {c : Contract} {cs : List (String × Contract)} {entry : String × Contract}
    (h : entry ∈ put c cs) : entry = (c.name, c) ∨ entry ∈ cs := by
  induction cs with
  | nil => exact .inl (List.mem_singleton.mp h)
  | cons first rest ih =>
    obtain ⟨key, old⟩ := first
    by_cases hk : key = c.name
    · rw [put, if_pos hk] at h
      obtain rfl | h := List.mem_cons.mp h
      · exact .inl (by rw [hk])
      · exact .inr (List.mem_cons_of_mem _ h)
    · rw [put, if_neg hk] at h
      obtain rfl | h := List.mem_cons.mp h
      · exact .inr List.mem_cons_self
      · exact (ih h).imp_right (List.mem_cons_of_mem _)

theorem absorb_keys (a : Atlas) (l : Loading) :
    (a.absorb l).keys = a.keys ++ (l.newName? a.keys).toList := by
  cases hr : l.result with
  | ok c =>
    rw [absorb_of_ok hr, Loading.newName?, Loading.name?, hr]
    by_cases hc : c.name = ""
    · simp [hc]
    · by_cases hin : c.name ∈ a.keys
      · have hkeys : (a.insert c).keys = a.keys := (keys_put c a.contracts).trans (if_pos hin)
        simp [hc, hin, hkeys, Option.filter]
      · have hkeys : (a.insert c).keys = a.keys ++ [c.name] :=
          (keys_put c a.contracts).trans (if_neg hin)
        simp [hc, hin, hkeys, Option.filter]
  | error failure =>
    have hnone : l.newName? a.keys = none := by simp [Loading.newName?, Loading.name?, hr]
    rw [hnone, Option.toList_none, List.append_nil]
    cases failure with
    | document e => rw [absorb_of_document hr, skip, keys, keys]
    | _ => rw [absorb, hr]

theorem foldl_absorb_keys (loadings : List Loading) :
    (loadings.foldl absorb empty).keys = (storedNames loadings).eraseDups := by
  induction loadings using List.reverseRecOn with
  | nil => rfl
  | append_singleton loadings l ih =>
    rw [List.foldl_append, List.foldl_cons, List.foldl_nil, absorb_keys, ih, storedNames_concat,
      eraseDups_append_toList, Loading.newName?]
    simp only [List.mem_eraseDups]

theorem mem_foldl_absorb_keys {loadings : List Loading} {name : String} :
    name ∈ (loadings.foldl absorb empty).keys ↔ name ∈ storedNames loadings := by
  rw [foldl_absorb_keys, List.mem_eraseDups]

theorem contains_iff_mem_keys {a : Atlas} {name : String} :
    a.contains name = true ↔ name ∈ a.keys := by
  rw [contains, get?, List.lookup_isSome_iff, keys, List.mem_map]
  refine exists_congr fun entry => and_congr_right fun _ => ?_
  rw [beq_iff_eq, eq_comm]

theorem foldl_absorb_named (loadings : List Loading) {entry : String × Contract}
    (h : entry ∈ (loadings.foldl absorb empty).contracts) :
    entry.2.name = entry.1 ∧ entry.1 ≠ "" := by
  induction loadings using List.reverseRecOn with
  | nil => simp [empty] at h
  | append_singleton loadings l ih =>
    rw [List.foldl_append, List.foldl_cons, List.foldl_nil] at h
    cases hr : l.result with
    | ok c =>
      rw [absorb_of_ok hr] at h
      split at h
      case isTrue => exact ih h
      case isFalse hc =>
        obtain rfl | h := mem_put h
        · exact ⟨rfl, hc⟩
        · exact ih h
    | error failure =>
      cases failure with
      | document e =>
        rw [absorb_of_document hr] at h
        exact ih h
      | _ =>
        rw [absorb, hr] at h
        exact ih h

/-- The last document that stores a contract under a name, and no other, decides what stands there. -/
theorem foldl_absorb_get?_eq_some_iff {loadings : List Loading} {name : String} {c : Contract} :
    (loadings.foldl absorb empty).get? name = some c ↔
      name ≠ "" ∧ ∃ before l after, loadings = before ++ l :: after ∧ l.result = .ok c ∧
        c.name = name ∧ ∀ other ∈ after, ∀ c', other.result = .ok c' → c'.name ≠ name := by
  rw [foldl_absorb_get?]
  have hempty : empty.get? name = none := rfl
  rw [hempty, Option.or_none, List.getLast?_eq_some_iff]
  constructor
  · rintro ⟨stored, hstored⟩
    obtain ⟨before, rest, rfl, _, hrest⟩ := List.filterMap_eq_append_iff.mp hstored
    obtain ⟨between, l, after, rfl, _, hl, hafter⟩ := List.filterMap_eq_cons_iff.mp hrest
    obtain ⟨hr, hne, hname⟩ := stored?_eq_some_iff.mp hl
    refine ⟨hne, before ++ between, l, after, by simp, hr, hname, ?_⟩
    intro other hother c' hr' hname'
    have hnone := List.filterMap_eq_nil_iff.mp hafter other hother
    rw [stored?_eq_some_iff.mpr ⟨hr', hne, hname'⟩] at hnone
    cases hnone
  · rintro ⟨hne, before, l, after, rfl, hr, hname, hafter⟩
    have hnone : after.filterMap (Loading.stored? name) = [] := by
      refine List.filterMap_eq_nil_iff.mpr fun other hother => ?_
      cases hs : other.stored? name with
      | none => rfl
      | some c' =>
        obtain ⟨hr', _, hname'⟩ := stored?_eq_some_iff.mp hs
        exact absurd hname' (hafter other hother c' hr')
    refine ⟨before.filterMap (Loading.stored? name), ?_⟩
    rw [List.filterMap_append,
      List.filterMap_cons_some (stored?_eq_some_iff.mpr ⟨hr, hne, hname⟩), hnone]

/-! ## The order of names -/

theorem keys_nodup (loadings : List Loading) : (loadings.foldl absorb empty).keys.Nodup := by
  induction loadings using List.reverseRecOn with
  | nil => exact List.nodup_nil
  | append_singleton loadings l ih =>
    rw [List.foldl_append, List.foldl_cons, List.foldl_nil, absorb_keys]
    cases hn : l.newName? (loadings.foldl absorb empty).keys with
    | none => simpa using ih
    | some name =>
      have hnew : name ∉ (loadings.foldl absorb empty).keys := by
        simpa using (Option.filter_eq_some_iff.mp hn).2
      exact List.nodup_append.mpr ⟨ih, List.nodup_singleton name, by
        rintro other hother _ hname rfl
        exact hnew (List.mem_singleton.mp hname ▸ hother)⟩

theorem mem_names {a : Atlas} {name : String} : name ∈ a.names ↔ name ∈ a.keys := List.mem_mergeSort

theorem names_sorted {a : Atlas} (h : a.keys.Nodup) : a.names.Pairwise (· < ·) := by
  have hle : a.names.Pairwise (· ≤ ·) := List.sortedLE_mergeSort.pairwise
  have hne : a.names.Nodup := (List.mergeSort_perm a.keys _).nodup_iff.mpr h
  exact hle.imp₂ (fun _ _ hxy hdiff => lt_of_le_of_ne hxy hdiff) hne

/-- No name comes twice, and each stands over a contract that has it. -/
structure WellNamed (a : Atlas) : Prop where
  named : ∀ name c, a.get? name = some c → c.name = name
  nodup : a.keys.Nodup

theorem wellNamed_of_build {d : Disk} {folder : String} {search : Disk.Search} {strict : Bool}
    {a : Atlas} (h : (build d folder search strict).1 = .ok a) : a.WellNamed := by
  obtain ⟨w, _, _, _, rfl⟩ := build_ok h
  refine ⟨fun name c hc => ?_, keys_nodup _⟩
  obtain ⟨_, _, _, _, _, _, hname, _⟩ := foldl_absorb_get?_eq_some_iff.mp hc
  exact hname

end Atlas

end ContractAtlas
