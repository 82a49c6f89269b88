import ContractAtlas.Document.Walk
import ContractAtlas.Proofs.Disk.Sound

/-!
Where a walk comes by. The visits below a folder are those that its entries contribute
(`mem_visits_iff`), so all places visited in a sound tree are made of names (`visits_isName`), and the
documents of a walk are the folder's path with such places added (`mem_along_documents`).
-/
namespace ContractAtlas.Disk
set_option autoImplicit false

/-! ## Visits -/

def Visit.place : Visit → List String
  | .document place => place
  | .folder place => place

/-- What an entry of a folder contributes to the visits. -/
def Entry.branch (search : Search) (name : String) : Entry → List Visit
  | .folder entries =>
    (if search.recursive then .folder [] :: (Entry.folder entries).visits search else []).map
      (Visit.under name)
  | _ => if search.accepts name then [.document [name]] else []

theorem branches_eq_map (search : Search) (entries : List (String × Entry)) :
    branches search entries = entries.map fun e => (e.1, e.2.branch search e.1) := by
  induction entries with
  | nil => rfl
  | cons e entries ih =>
    obtain ⟨name, entry⟩ := e
    cases entry <;> simp [branches, Entry.branch, ih]

theorem mem_visits_iff (search : Search) (entries : List (String × Entry)) (v : Visit) :
    v ∈ (Entry.folder entries).visits search ↔ ∃ e ∈ entries, v ∈ e.2.branch search e.1 := by
  rw [Entry.visits, List.mem_flatMap]
  constructor
  · rintro ⟨b, hb, hv⟩
    rw [List.mem_mergeSort, branches_eq_map, List.mem_map] at hb
    obtain ⟨e, he, rfl⟩ := hb
    exact ⟨e, he, hv⟩
  · rintro ⟨e, he, hv⟩
    refine ⟨(e.1, e.2.branch search e.1), ?_, hv⟩
    rw [List.mem_mergeSort, branches_eq_map]
    exact List.mem_map_of_mem he

theorem mem_branch {search : Search} {name : String} {entry : Entry} {v : Visit}
    (hv : v ∈ entry.branch search name) :
    v.place = [name] ∨ ∃ u ∈ entry.visits search, v.place = name :: u.place := by
  cases entry with
  | folder entries =>
    obtain ⟨u, hu, rfl⟩ := List.mem_map.mp hv
    split at hu
    case isTrue =>
      cases List.mem_cons.mp hu with
      | inl h => subst h; exact .inl rfl
      | inr h =>
        refine .inr ⟨u, h, ?_⟩
        cases u with
        | document | folder => rfl
    case isFalse => simp at hu
  | file | link =>
    simp only [Entry.branch] at hv
    split at hv
    case isTrue =>
      obtain rfl := List.mem_singleton.mp hv
      exact .inl rfl
    case isFalse => simp at hv

theorem visits_isName {entry : Entry} (h : entry.Sound) (search : Search) {v : Visit}
    (hv : v ∈ entry.visits search) : ∀ name ∈ v.place, IsName name := by
  induction h generalizing v with
  | file | link => simp [Entry.visits] at hv
  | @folder entries hdistinct hname hsound ih =>
    obtain ⟨e, he, hb⟩ := (mem_visits_iff search entries v).mp hv
    cases mem_branch hb with
    | inl h => simpa [h] using hname e he
    | inr h =>
      obtain ⟨u, hu, hplace⟩ := h
      rw [hplace]
      intro name hn
      cases List.mem_cons.mp hn with
      | inl hn => exact hn ▸ hname e he
      | inr hn => exact ih e he hu name hn

/-- The files of a folder without subfolders are visited in the order of their names. -/
theorem visits_of_files {search : Search} {entries : List (String × Entry)}
    (hfiles : ∀ e ∈ entries, e.2.isFolder = false) (hsorted : entries.Pairwise fun x y => x.1 ≤ y.1) :
    (Entry.folder entries).visits search =
      (entries.filter fun e => search.accepts e.1).map fun e => .document [e.1] := by
  have hbranches : branches search entries =
      entries.map fun e => (e.1, if search.accepts e.1 then [.document [e.1]] else []) := by
    rw [branches_eq_map]
    refine List.map_congr_left fun e he => ?_
    obtain ⟨name, entry⟩ := e
    cases entry with
    | folder inner => exact absurd (hfiles _ he) Bool.noConfusion
    | file | link => rfl
  have hpairs : (branches search entries).Pairwise fun x y => nameLE x y = true := by
    rw [hbranches, List.pairwise_map]
    exact hsorted.imp fun h => by simpa [nameLE] using h
  rw [Entry.visits, List.mergeSort_of_pairwise hpairs, hbranches, List.flatMap_map]
  clear hfiles hsorted hbranches hpairs
  induction entries with
  | nil => rfl
  | cons e entries ih =>
    rw [List.flatMap_cons, ih]
    by_cases h : search.accepts e.1 = true
    · simp [h]
    · simp [h]

/-! ## Walks -/

theorem mem_along_documents {folder : Path} {visits : List Visit} {p : Path}
    (hp : p ∈ (Walk.along folder visits).documents) :
    ∃ place, .document place ∈ visits ∧ p = folder.append place := by
  induction visits with
  | nil => simp [Walk.along] at hp
  | cons v visits ih =>
    cases v with
    | document place =>
      cases List.mem_cons.mp hp with
      | inl h => exact ⟨place, List.mem_cons_self, h⟩
      | inr h =>
        obtain ⟨other, hm, hp⟩ := ih h
        exact ⟨other, List.mem_cons_of_mem _ hm, hp⟩
    | folder place =>
      rw [Walk.along] at hp
      split at hp
      case isTrue =>
        obtain ⟨other, hm, hp⟩ := ih hp
        exact ⟨other, List.mem_cons_of_mem _ hm, hp⟩
      case isFalse => simp at hp

theorem along_documents (folder : Path) (places : List (List String)) :
    Walk.along folder (places.map .document) = ⟨places.map folder.append, none⟩ := by
  induction places with
  | nil => rfl
  | cons place places ih => rw [List.map_cons, Walk.along, ih, List.map_cons]

theorem folder?_sound {d : Disk} (hd : d.root.Sound) {p : Path} {entries : List (String × Entry)}
    (h : d.folder? p = some entries) : (Entry.folder entries).Sound ∧ p.hasNull = false := by
  unfold folder? locate at h
  split at h
  case h_1 place inner hl =>
    obtain rfl := Option.some.inj h
    split at hl
    case isTrue => simp at hl
    case isFalse hnull =>
      split at hl
      case isTrue => simp at hl
      case isFalse =>
        have hat := find_entry hl
        exact ⟨hd.at? hat.symm, by simpa using hnull⟩
  case h_2 => simp at h

/-- A walk through a sound tree meets no document whose path could not be one. -/
theorem walk?_documents_hasNull {d : Disk} (hd : d.root.Sound) {folder : Path} {search : Search}
    {w : Walk} (h : d.walk? folder search = some w) {p : Path} (hp : p ∈ w.documents) :
    p.hasNull = false := by
  obtain ⟨entries, hf, rfl⟩ := Option.map_eq_some_iff.mp h
  obtain ⟨hsound, hnull⟩ := folder?_sound hd hf
  obtain ⟨place, hv, rfl⟩ := mem_along_documents hp
  have hnames := visits_isName hsound search hv
  unfold Path.hasNull at hnull ⊢
  rw [Path.append, List.any_append, hnull, Bool.false_or, List.any_eq_false]
  intro name hn
  simp [(hnames name hn).no_null]

end ContractAtlas.Disk
