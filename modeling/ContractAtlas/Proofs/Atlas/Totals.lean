import ContractAtlas.Proofs.Contract.Views
import Mathlib.Algebra.BigOperators.Group.List.Basic

/-!
The totals of an atlas. They add up the lengths of the sections of all contracts, in whatever order
these came (`totals_eq`), and so do the counts in the lines of the listing, which shows each contract
once (`byName_perm`, `countOf_byName`).
-/
namespace ContractAtlas.Atlas
set_option autoImplicit false

variable {a : Atlas}

/-! ## Totals -/

def sectionTotal (a : Atlas) (s : Section) : Nat := (a.toList.map fun c => (c.members s).length).sum

theorem addCounts_map (kinds : List Section) (f g : Section → Nat) :
    addCounts (kinds.map fun s => (s.key, f s)) (kinds.map fun s => (s.key, g s)) =
      kinds.map fun s => (s.key, f s + g s) := by
  rw [addCounts, List.zipWith_map, List.zipWith_self]

theorem foldl_addCounts (cs : List Contract) (f : Section → Nat) :
    cs.foldl (fun totals c => addCounts totals c.memberCounts)
        (Section.counted.map fun s => (s.key, f s)) =
      Section.counted.map fun s => (s.key, f s + (cs.map fun c => (c.members s).length).sum) := by
  induction cs generalizing f with
  | nil => simp
  | cons c rest ih =>
    rw [List.foldl_cons, Contract.memberCounts_eq, addCounts_map, ih]
    simp only [List.map_cons, List.sum_cons, Nat.add_assoc]

theorem totals_eq (hne : a.contracts ≠ []) :
    a.totals = Section.counted.map fun s => (s.key, a.sectionTotal s) := by
  have hlist : a.toList ≠ [] := by simpa [toList] using hne
  unfold totals sectionTotal
  cases h : a.toList with
  | nil => exact absurd h hlist
  | cons c rest =>
    dsimp only
    rw [Contract.memberCounts_eq, foldl_addCounts]
    simp only [List.map_cons, List.sum_cons]

/-! ## The order of the contracts -/

theorem sectionTotal_perm {b : Atlas} (h : b.toList.Perm a.toList) (s : Section) :
    b.sectionTotal s = a.sectionTotal s :=
  (h.map _).sum_eq

theorem totals_perm {b : Atlas} (hne : a.contracts ≠ []) (h : b.toList.Perm a.toList) :
    b.totals = a.totals := by
  have hlist : b.contracts ≠ [] := by
    intro hb
    rw [toList, toList, hb] at h
    exact hne (by simpa using h)
  rw [totals_eq hlist, totals_eq hne]
  simp only [sectionTotal_perm h]

theorem put_of_new {c : Contract} {cs : List (String × Contract)} (h : c.name ∉ cs.map Prod.fst) :
    put c cs = cs ++ [(c.name, c)] := by
  induction cs with
  | nil => rfl
  | cons entry rest ih =>
    rw [List.map_cons, List.mem_cons, not_or] at h
    rw [put, if_neg (fun heq => h.1 heq.symm), ih h.2, List.cons_append]

/-- Contracts of different names stand in an atlas as they are put into it. -/
theorem contracts_foldl_insert {order : List Contract} (h : (order.map Contract.name).Nodup) :
    (order.foldl insert empty).contracts = order.map fun c => (c.name, c) := by
  induction order using List.reverseRecOn with
  | nil => rfl
  | append_singleton order c ih =>
    rw [List.map_append, List.nodup_append] at h
    obtain ⟨horder, _, hnew⟩ := h
    have hnames : c.name ∉ (order.map fun c => (c.name, c)).map Prod.fst := by
      rw [List.map_map]
      exact fun hmem => hnew _ hmem _ (by simp) rfl
    rw [List.foldl_append, List.foldl_cons, List.foldl_nil, insert, ih horder, put_of_new hnames,
      List.map_append, List.map_cons, List.map_nil]

/-! ## The lines of the listing -/

def byName (a : Atlas) : List (String × Contract) :=
  a.names.filterMap fun name => (a.get? name).map (name, ·)

theorem listingLines_eq (a : Atlas) : a.listingLines =
    (a.byName.map fun e => e.2.listingLine e.1) ++ a.skipped.map fun s => "skipped " ++ s.text := by
  rw [listingLines, byName, List.map_filterMap]
  congr 2
  funext name
  rw [Option.map_map]
  rfl

theorem byName_perm (hkeys : a.keys.Nodup) : a.byName.Perm a.contracts := by
  have hfound : ∀ e ∈ a.contracts, (a.get? e.1).map (e.1, ·) = some e := by
    intro e he
    rw [get?, (Disk.lookup_eq_some_iff_mem hkeys e.1 e.2).mpr he]
    rfl
  -- sorting the names moves the entries, and in the order of the keys they are the contracts
  have hsorted : a.names.Perm a.keys := List.mergeSort_perm _ _
  refine (hsorted.filterMap _).trans (List.Perm.of_eq ?_)
  rw [keys, List.filterMap_map]
  exact (List.filterMap_congr hfound).trans List.filterMap_some

/-! ## Counts in lines -/

/-- What pairs of keys and counts say of a key, all together. -/
def countOf (key : String) (pairs : List (String × Nat)) : Nat :=
  ((pairs.filter fun p => p.1 == key).map Prod.snd).sum

theorem countOf_append (key : String) (pairs others : List (String × Nat)) :
    countOf key (pairs ++ others) = countOf key pairs + countOf key others := by
  rw [countOf, List.filter_append, List.map_append, List.sum_append]
  rfl

theorem countOf_cons (key : String) (p : String × Nat) (pairs : List (String × Nat)) :
    countOf key (p :: pairs) = (if p.1 = key then p.2 else 0) + countOf key pairs := by
  by_cases h : p.1 = key
  · simp [countOf, h]
  · simp [countOf, h]

theorem countOf_filter (key : String) (pairs : List (String × Nat)) :
    countOf key (pairs.filter fun (_, n) => n ≠ 0) = countOf key pairs := by
  induction pairs with
  | nil => rfl
  | cons p rest ih =>
    by_cases h : p.2 = 0
    · rw [List.filter_cons_of_neg (by simpa using h), ih, countOf_cons, h, ite_self, Nat.zero_add]
    · rw [List.filter_cons_of_pos (by simpa using h), countOf_cons, countOf_cons, ih]

theorem countOf_memberCounts (c : Contract) {s : Section} (hs : s ≠ .constructor) :
    countOf s.key c.memberCounts = (c.members s).length := by
  cases s with
  | constructor => exact absurd rfl hs
  | _ => simp [countOf, Contract.memberCounts, Section.key, Contract.members]

theorem countOf_tally (c : Contract) {s : Section} (hs : s ≠ .constructor) :
    countOf s.key c.tally = (c.members s).length := by
  rw [← Contract.shownCounts_eq, Contract.shownCounts, countOf_filter, countOf_memberCounts c hs]

theorem countOf_flatMap_tally (entries : List (String × Contract)) {s : Section}
    (hs : s ≠ .constructor) : countOf s.key (entries.flatMap fun e => e.2.tally) =
      (entries.map fun e => (e.2.members s).length).sum := by
  induction entries with
  | nil => rfl
  | cons e rest ih =>
    rw [List.flatMap_cons, countOf_append, countOf_tally e.2 hs, ih, List.map_cons, List.sum_cons]

theorem countOf_byName (hkeys : a.keys.Nodup) {s : Section} (hs : s ≠ .constructor) :
    countOf s.key (a.byName.flatMap fun e => e.2.tally) = a.sectionTotal s := by
  rw [countOf_flatMap_tally _ hs, sectionTotal, toList, List.map_map]
  exact ((byName_perm hkeys).map _).sum_eq

/-! ## All contracts together -/

/-- The totals of an atlas and its listing, and the sections of its contracts. -/
structure Tallied (a : Atlas) : Prop where
  keys : a.totals.map Prod.fst = Section.counted.map Section.key
  /-- The total of a key is that of the lengths of the sections, and of the counts in the lines. -/
  total : ∀ s ≠ Section.constructor, a.totals.lookup s.key = some (a.sectionTotal s) ∧
    countOf s.key (a.byName.flatMap fun e => e.2.tally) = a.sectionTotal s
  /-- An atlas of the same contracts in another order has the same totals. -/
  permuted : ∀ b : Atlas, b.contracts.Perm a.contracts → b.totals = a.totals
  inserted : (∀ e ∈ a.contracts, e.2.name = e.1) → ∀ order : List Contract, order.Perm a.toList →
    (order.foldl insert empty).totals = a.totals
  /-- The listing has a line for each contract, by name, and those of the skipped documents. -/
  listing : a.listing = joinLines ((a.byName.map fun e => e.2.listingLine e.1) ++
    a.skipped.map fun s => "skipped " ++ s.text)
  once : a.byName.Perm a.contracts

theorem tallied (hkeys : a.keys.Nodup) (hne : a.contracts ≠ []) : a.Tallied where
  keys := by
    rw [totals_eq hne, List.map_map]
    rfl
  total s hs := by
    refine ⟨?_, countOf_byName hkeys hs⟩
    rw [totals_eq hne, Section.lookup_key (Section.mem_counted.mpr hs)]
  permuted b h := totals_perm hne (h.map _)
  inserted hnamed order horder := by
    have hnames : a.toList.map Contract.name = a.keys := by
      rw [toList, Atlas.keys, List.map_map]
      exact List.map_congr_left hnamed
    have hdistinct : (order.map Contract.name).Nodup :=
      (horder.map Contract.name).nodup_iff.mpr (hnames ▸ hkeys)
    have hlist : (order.foldl insert empty).toList = order := by
      rw [toList, contracts_foldl_insert hdistinct, List.map_map]
      exact List.map_id _
    refine totals_perm hne ?_
    rwa [hlist]
  listing := by rw [Atlas.listing, listingLines_eq]
  once := byName_perm hkeys

/-- The views of a contract speak of the same declarations, and the totals of an atlas that is not
empty add them up. -/
theorem views_agree : (∀ c : Contract, c.Viewed) ∧
    ∀ a : Atlas, a.keys.Nodup → a.contracts ≠ [] → a.Tallied :=
  ⟨Contract.viewed, fun _ hkeys hne => tallied hkeys hne⟩

theorem views_agree_ledger : ledgerAtlas.totals.lookup "events" = some 1 ∧
    countOf "events" (ledgerAtlas.byName.flatMap fun e => e.2.tally) = 1 ∧
      ledger.sections.map (fun e => e.1.key) = ["events", "enums"] := by
  have htallied := views_agree.2 ledgerAtlas (by decide) (by decide)
  obtain ⟨htotal, hlines⟩ := htallied.total .events (by decide)
  exact ⟨htotal, hlines, by decide⟩

end ContractAtlas.Atlas
