import ContractAtlas.Proofs.Document.Walk
import Mathlib.Data.List.Basic

/-!
Which documents a walk meets, and in which order. The places of a tree where documents and subfolders
stand are told from the tree alone (`IsDocument`, `IsSubfolder`); the visits of a walk are exactly these
(`document_mem_visits`, `folder_mem_visits`), in increasing order, component by component
(`pairwise_visits`). A walk gives the documents before the first subfolder that cannot be listed
(`covers_visits`), and that fixes them and their order (`Covers.unique`).
-/
namespace ContractAtlas.Disk
set_option autoImplicit false

/-! ## Places of a tree -/

/-- A document stands at a place below a folder: a file or a link of the right suffix, in folders on
the way that are no links. -/
structure IsDocument (search : Search) (tree : Entry) (place : List String) : Prop where
  entry : ∃ e, tree.at? place = some e ∧ e.isFolder = false
  accepted : ∃ name, place.getLast? = some name ∧ search.accepts name = true
  depth : search.recursive = true ∨ place.length = 1

/-- A subfolder stands at a place below a folder, and a walk goes there. -/
structure IsSubfolder (search : Search) (tree : Entry) (place : List String) : Prop where
  entry : ∃ e, tree.at? place = some e ∧ e.isFolder = true
  below : place ≠ []
  depth : search.recursive = true

theorem not_isDocument_nil (search : Search) (tree : Entry) : ¬IsDocument search tree [] := by
  rintro ⟨-, ⟨name, hname, -⟩, -⟩
  cases hname

theorem isDocument_cons (search : Search) (tree : Entry) (name : String) (rest : List String) :
    IsDocument search tree (name :: rest) ↔ ∃ e, tree.entries.lookup name = some e ∧
      ((e.isFolder = false ∧ rest = [] ∧ search.accepts name = true) ∨
        (search.recursive = true ∧ IsDocument search e rest)) := by
  constructor
  · rintro ⟨⟨leaf, hat, hleaf⟩, ⟨last, hlast, haccepts⟩, hdepth⟩
    rw [Entry.at?] at hat
    cases he : tree.entries.lookup name with
    | none => simp [he] at hat
    | some e =>
      rw [he] at hat
      refine ⟨e, rfl, ?_⟩
      cases rest with
      | nil =>
        obtain rfl : e = leaf := Option.some.inj hat
        obtain rfl : name = last := Option.some.inj hlast
        exact .inl ⟨hleaf, rfl, haccepts⟩
      | cons next rest =>
        have hrecursive : search.recursive = true := by simpa using hdepth
        exact .inr ⟨hrecursive, ⟨leaf, hat, hleaf⟩, ⟨last, hlast, haccepts⟩, .inl hrecursive⟩
  · rintro ⟨e, he, ⟨hleaf, rfl, haccepts⟩ | ⟨hrecursive, hrest⟩⟩
    · refine ⟨⟨e, ?_, hleaf⟩, ⟨name, rfl, haccepts⟩, .inr rfl⟩
      rw [Entry.at?, he]
      rfl
    · cases rest with
      | nil => exact absurd hrest (not_isDocument_nil search e)
      | cons next rest =>
        obtain ⟨⟨leaf, hat, hleaf⟩, ⟨last, hlast, haccepts⟩, -⟩ := hrest
        refine ⟨⟨leaf, ?_, hleaf⟩, ⟨last, hlast, haccepts⟩, .inl hrecursive⟩
        rw [Entry.at?, he]
        exact hat

theorem isSubfolder_cons (search : Search) (tree : Entry) (name : String) (rest : List String) :
    IsSubfolder search tree (name :: rest) ↔ search.recursive = true ∧
      ∃ e, tree.entries.lookup name = some e ∧
        ((e.isFolder = true ∧ rest = []) ∨ IsSubfolder search e rest) := by
  constructor
  · rintro ⟨⟨inner, hat, hinner⟩, -, hrecursive⟩
    rw [Entry.at?] at hat
    cases he : tree.entries.lookup name with
    | none => simp [he] at hat
    | some e =>
      rw [he] at hat
      refine ⟨hrecursive, e, rfl, ?_⟩
      cases rest with
      | nil =>
        obtain rfl : e = inner := Option.some.inj hat
        exact .inl ⟨hinner, rfl⟩
      | cons next rest => exact .inr ⟨⟨inner, hat, hinner⟩, List.cons_ne_nil _ _, hrecursive⟩
  · rintro ⟨hrecursive, e, he, ⟨hfolder, rfl⟩ | ⟨⟨inner, hat, hinner⟩, hne, -⟩⟩
    · refine ⟨⟨e, ?_, hfolder⟩, List.cons_ne_nil _ _, hrecursive⟩
      rw [Entry.at?, he]
      rfl
    · refine ⟨⟨inner, ?_, hinner⟩, List.cons_ne_nil _ _, hrecursive⟩
      rw [Entry.at?, he]
      exact hat

/-! ## Visits of a tree -/

theorem lookup_eq_some_iff_mem {α : Type} {entries : List (String × α)}
    (h : (entries.map Prod.fst).Nodup) (name : String) (e : α) :
    entries.lookup name = some e ↔ (name, e) ∈ entries := by
  induction entries with
  | nil => simp
  | cons first entries ih =>
    obtain ⟨other, entry⟩ := first
    rw [List.map_cons, List.nodup_cons] at h
    rw [List.lookup_cons, List.mem_cons, Prod.mk.injEq]
    by_cases hname : name = other
    · subst hname
      have hfresh : (name, e) ∉ entries := fun hmem =>
        h.1 (List.mem_map.mpr ⟨(name, e), hmem, rfl⟩)
      simp [hfresh, eq_comm]
    · have hne : (name == other) = false := by simpa using hname
      rw [hne, ih h.2]
      simp [hname]

theorem document_mem_branch (search : Search) (name : String) (e : Entry) (place : List String) :
    .document place ∈ e.branch search name ↔ ∃ rest, place = name :: rest ∧
      ((e.isFolder = false ∧ rest = [] ∧ search.accepts name = true) ∨
        (search.recursive = true ∧ .document rest ∈ e.visits search)) := by
  cases e with
  | folder entries =>
    rw [Entry.branch, List.mem_map]
    constructor
    · rintro ⟨u, hu, hplace⟩
      split at hu
      case isTrue hrecursive =>
        cases u with
        | folder below => cases hplace
        | document below =>
          refine ⟨below, (Visit.document.inj hplace).symm, .inr ⟨hrecursive, ?_⟩⟩
          simpa using hu
      case isFalse => cases hu
    · rintro ⟨rest, rfl, ⟨hfile, -⟩ | ⟨hrecursive, hrest⟩⟩
      · cases hfile
      · rw [if_pos hrecursive]
        exact ⟨.document rest, List.mem_cons_of_mem _ hrest, rfl⟩
  | file | link =>
    simp only [Entry.branch, Entry.visits, Entry.isFolder, List.not_mem_nil, and_false, or_false,
      true_and]
    cases search.accepts name <;> simp

theorem folder_mem_branch (search : Search) (name : String) (e : Entry) (place : List String) :
    .folder place ∈ e.branch search name ↔ search.recursive = true ∧ ∃ rest, place = name :: rest ∧
      ((e.isFolder = true ∧ rest = []) ∨ .folder rest ∈ e.visits search) := by
  cases e with
  | folder entries =>
    rw [Entry.branch, List.mem_map]
    constructor
    · rintro ⟨u, hu, hplace⟩
      split at hu
      case isTrue hrecursive =>
        cases u with
        | document below => cases hplace
        | folder below =>
          refine ⟨hrecursive, below, (Visit.folder.inj hplace).symm, ?_⟩
          obtain hhere | hbelow := List.mem_cons.mp hu
          · exact .inl ⟨rfl, Visit.folder.inj hhere⟩
          · exact .inr hbelow
      case isFalse => cases hu
    · rintro ⟨hrecursive, rest, rfl, ⟨-, rfl⟩ | hrest⟩
      · rw [if_pos hrecursive]
        exact ⟨.folder [], List.mem_cons_self, rfl⟩
      · rw [if_pos hrecursive]
        exact ⟨.folder rest, List.mem_cons_of_mem _ hrest, rfl⟩
  | file | link =>
    simp only [Entry.branch, Entry.visits, Entry.isFolder, List.not_mem_nil]
    cases search.accepts name <;> simp

theorem document_mem_visits {tree : Entry} (h : tree.Sound) (search : Search) (place : List String) :
    .document place ∈ tree.visits search ↔ IsDocument search tree place := by
  induction h generalizing place with
  | file | link =>
    refine iff_of_false (by simp [Entry.visits]) ?_
    cases place with
    | nil => exact not_isDocument_nil search _
    | cons name rest => simp [isDocument_cons, Entry.entries]
  | @folder entries hdistinct hname hsound ih =>
    -- names are distinct, so that the entry of a name is the one that a visit came through
    simp only [mem_visits_iff, document_mem_branch]
    constructor
    · rintro ⟨⟨name, e⟩, he, rest, rfl, hrest⟩
      rw [isDocument_cons]
      refine ⟨e, (lookup_eq_some_iff_mem hdistinct name e).mpr he, hrest.imp id fun hbelow => ?_⟩
      exact ⟨hbelow.1, (ih _ he rest).mp hbelow.2⟩
    · intro hdocument
      cases place with
      | nil => exact absurd hdocument (not_isDocument_nil search _)
      | cons name rest =>
        rw [isDocument_cons] at hdocument
        obtain ⟨e, he, hrest⟩ := hdocument
        have hmem := (lookup_eq_some_iff_mem hdistinct name e).mp he
        exact ⟨(name, e), hmem, rest, rfl,
          hrest.imp id fun hbelow => ⟨hbelow.1, (ih _ hmem rest).mpr hbelow.2⟩⟩

theorem folder_mem_visits {tree : Entry} (h : tree.Sound) (search : Search) (place : List String) :
    .folder place ∈ tree.visits search ↔ IsSubfolder search tree place := by
  induction h generalizing place with
  | file | link =>
    refine iff_of_false (by simp [Entry.visits]) ?_
    cases place with
    | nil => exact fun hfolder => hfolder.below rfl
    | cons name rest => simp [isSubfolder_cons, Entry.entries]
  | @folder entries hdistinct hname hsound ih =>
    simp only [mem_visits_iff, folder_mem_branch]
    constructor
    · rintro ⟨⟨name, e⟩, he, hrecursive, rest, rfl, hrest⟩
      rw [isSubfolder_cons]
      exact ⟨hrecursive, e, (lookup_eq_some_iff_mem hdistinct name e).mpr he,
        hrest.imp id (ih _ he rest).mp⟩
    · intro hfolder
      cases place with
      | nil => exact absurd rfl hfolder.below
      | cons name rest =>
        rw [isSubfolder_cons] at hfolder
        obtain ⟨hrecursive, e, he, hrest⟩ := hfolder
        have hmem := (lookup_eq_some_iff_mem hdistinct name e).mp he
        exact ⟨(name, e), hmem, hrecursive, rest, rfl, hrest.imp id (ih _ hmem rest).mpr⟩

/-! ## The order of visits -/

theorem visits_place_ne_nil {tree : Entry} {search : Search} {v : Visit}
    (hv : v ∈ tree.visits search) : v.place ≠ [] := by
  cases tree with
  | folder entries =>
    obtain ⟨e, -, hb⟩ := (mem_visits_iff search entries v).mp hv
    obtain h | ⟨u, -, h⟩ := mem_branch hb
    · simp [h]
    · simp [h]
  | file | link => simp [Entry.visits] at hv

theorem place_under (name : String) (v : Visit) : (v.under name).place = name :: v.place := by
  cases v <;> rfl

theorem head?_of_mem_branch {search : Search} {name : String} {e : Entry} {v : Visit}
    (hv : v ∈ e.branch search name) : v.place.head? = some name := by
  obtain h | ⟨u, -, h⟩ := mem_branch hv
  · rw [h]
    rfl
  · rw [h]
    rfl

theorem lt_of_head?_lt {place other : List String} {a b : String} (ha : place.head? = some a)
    (hb : other.head? = some b) (h : a < b) : place < other := by
  cases place with
  | nil => cases ha
  | cons x place =>
    cases other with
    | nil => cases hb
    | cons y other =>
      obtain rfl := Option.some.inj ha
      obtain rfl := Option.some.inj hb
      exact List.cons_lt_cons_iff.mpr (.inl h)

/-- Sorted branches of different names stand in strictly increasing order. -/
theorem pairwise_sorted {branches : List (String × List Visit)}
    (h : (branches.map Prod.fst).Nodup) :
    (branches.mergeSort nameLE).Pairwise fun a b => a.1 < b.1 := by
  have hle : (branches.mergeSort nameLE).Pairwise fun a b => nameLE a b = true := by
    apply List.pairwise_mergeSort
    · intro a b c hab hbc
      exact decide_eq_true (String.le_trans (of_decide_eq_true hab) (of_decide_eq_true hbc))
    · intro a b
      obtain h | h := String.le_total a.1 b.1
      · simp [nameLE, h]
      · simp [nameLE, h]
  have hne : (branches.mergeSort nameLE).Pairwise fun a b => a.1 ≠ b.1 := by
    have hnodup := ((List.mergeSort_perm branches nameLE).map Prod.fst).nodup_iff.mpr h
    exact List.pairwise_map.mp hnodup
  refine (hle.and hne).imp fun {a b} hab => ?_
  refine Decidable.byContradiction fun hlt => hab.2 ?_
  exact String.le_antisymm (of_decide_eq_true hab.1) (String.not_lt.mp hlt)

theorem pairwise_branch {name : String} {e : Entry} {search : Search}
    (h : (e.visits search).Pairwise fun u v => u.place < v.place) :
    (e.branch search name).Pairwise fun u v => u.place < v.place := by
  cases e with
  | folder entries =>
    rw [Entry.branch, List.pairwise_map]
    split
    case isTrue =>
      rw [List.pairwise_cons]
      constructor
      · intro v hv
        obtain ⟨first, rest, hplace⟩ := List.exists_cons_of_ne_nil (visits_place_ne_nil hv)
        rw [place_under, place_under, hplace]
        exact List.cons_lt_cons_iff.mpr (.inr ⟨rfl, List.nil_lt_cons _ _⟩)
      · refine h.imp fun {u v} huv => ?_
        rw [place_under, place_under]
        exact List.cons_lt_cons_iff.mpr (.inr ⟨rfl, huv⟩)
    case isFalse => exact .nil
  | file | link =>
    simp only [Entry.branch]
    split
    · exact List.pairwise_singleton _ _
    · exact .nil

/-- The visits of a walk stand in increasing order: a subfolder before what is below it, and all of
that before the next name. -/
theorem pairwise_visits {tree : Entry} (h : tree.Sound) (search : Search) :
    (tree.visits search).Pairwise fun u v => u.place < v.place := by
  induction h with
  | file | link => exact .nil
  | @folder entries hdistinct hname hsound ih =>
    have hnames : ((branches search entries).map Prod.fst).Nodup := by
      rw [branches_eq_map, List.map_map]
      exact hdistinct
    have hbranch {b : String × List Visit} (hb : b ∈ (branches search entries).mergeSort nameLE) :
        ∃ e ∈ entries, b = (e.1, e.2.branch search e.1) := by
      rw [List.mem_mergeSort, branches_eq_map, List.mem_map] at hb
      obtain ⟨e, he, rfl⟩ := hb
      exact ⟨e, he, rfl⟩
    rw [Entry.visits, List.pairwise_flatMap]
    -- within a branch by induction, and between two branches by their names alone
    constructor
    · intro b hb
      obtain ⟨e, he, rfl⟩ := hbranch hb
      exact pairwise_branch (ih e he)
    · refine (pairwise_sorted hnames).imp_of_mem fun {a b} ha hb hab => ?_
      obtain ⟨e, -, rfl⟩ := hbranch ha
      obtain ⟨f, -, rfl⟩ := hbranch hb
      intro u hu v hv
      exact lt_of_head?_lt (head?_of_mem_branch hu) (head?_of_mem_branch hv) hab

/-! ## Where a walk ends -/

def Visit.document? : Visit → Option (List String)
  | .document place => some place
  | .folder _ => none

/-- Whether a walk from a folder goes past a visit. -/
def Visit.passes (folder : Path) : Visit → Bool
  | .document _ => true
  | .folder place => canList (folder.append place)

theorem along_eq (folder : Path) (visits : List Visit) :
    Walk.along folder visits =
      ⟨((visits.takeWhile (Visit.passes folder)).filterMap Visit.document?).map folder.append,
        (visits.find? fun v => !v.passes folder).map fun v => folder.append v.place⟩ := by
  induction visits with
  | nil => rfl
  | cons v visits ih =>
    cases v with
    | document place =>
      simp [Walk.along, ih, Visit.passes, Visit.document?, List.takeWhile_cons]
    | folder place =>
      cases h : canList (folder.append place) with
      | true =>
        simp [Walk.along, ih, Visit.passes, Visit.document?, h, List.filterMap_cons]
      | false => simp [Walk.along, Visit.passes, Visit.place, h]

/-- The front of an increasing list is what comes before the first element that fails. -/
theorem mem_takeWhile_iff {α : Type} {lt : α → α → Prop} (hirrefl : ∀ a, ¬lt a a)
    (hasymm : ∀ a b, lt a b → ¬lt b a) {test : α → Bool} {xs : List α} (h : xs.Pairwise lt) (x : α) :
    x ∈ xs.takeWhile test ↔ x ∈ xs ∧ ∀ b ∈ xs.find? fun a => !test a, lt x b := by
  induction xs with
  | nil => simp
  | cons a xs ih =>
    obtain ⟨hfirst, hrest⟩ := List.pairwise_cons.mp h
    cases ha : test a with
    | true =>
      rw [List.takeWhile_cons_of_pos ha, List.find?_cons_of_neg (by simp [ha]), List.mem_cons,
        List.mem_cons, ih hrest]
      constructor
      · rintro (rfl | ⟨hmem, hlt⟩)
        · exact ⟨.inl rfl, fun b hb => hfirst b (List.mem_of_find?_eq_some hb)⟩
        · exact ⟨.inr hmem, hlt⟩
      · rintro ⟨rfl | hmem, hlt⟩
        · exact .inl rfl
        · exact .inr ⟨hmem, hlt⟩
    | false =>
      rw [List.takeWhile_cons_of_neg (by simp [ha]), List.find?_cons_of_pos (by simp [ha])]
      refine iff_of_false List.not_mem_nil fun ⟨hmem, hlt⟩ => ?_
      have hxa := hlt a rfl
      obtain rfl | hmem := List.mem_cons.mp hmem
      · exact hirrefl x hxa
      · exact hasymm x a hxa (hfirst x hmem)

/-- The first element that fails comes before all others that fail. -/
theorem find?_least {α : Type} {lt : α → α → Prop} {test : α → Bool} {xs : List α}
    (h : xs.Pairwise lt) {b : α} (hb : xs.find? test = some b) {x : α} (hx : x ∈ xs)
    (hfails : test x = true) : x = b ∨ lt b x := by
  induction xs with
  | nil => cases hx
  | cons a xs ih =>
    obtain ⟨hfirst, hrest⟩ := List.pairwise_cons.mp h
    cases ha : test a with
    | true =>
      rw [List.find?_cons_of_pos ha] at hb
      obtain rfl := Option.some.inj hb
      exact (List.mem_cons.mp hx).imp id (hfirst x)
    | false =>
      rw [List.find?_cons_of_neg (by simp [ha])] at hb
      have hxs : x ∈ xs := (List.mem_cons.mp hx).resolve_left fun e => by simp [← e, hfails] at ha
      exact ih hrest hb hxs

/-- A subfolder that cannot be listed. -/
structure Bars (folder : Path) (search : Search) (tree : Entry) (place : List String) : Prop where
  subfolder : IsSubfolder search tree place
  unlistable : canList (folder.append place) = false

/-- What a walk comes to: the places of the documents that it gives, in increasing order, and that of
the subfolder at which it ends, if there is one that cannot be listed. -/
structure Covers (folder : Path) (search : Search) (tree : Entry) (places : List (List String))
    (blocked : Option (List String)) : Prop where
  increasing : places.Pairwise (· < ·)
  mem_iff : ∀ place, place ∈ places ↔ IsDocument search tree place ∧ ∀ b ∈ blocked, place < b
  least : ∀ b ∈ blocked, Bars folder search tree b ∧
    ∀ other, Bars folder search tree other → other = b ∨ b < other
  free : blocked = none → ∀ place, ¬Bars folder search tree place

theorem mem_filterMap_document? (visits : List Visit) (place : List String) :
    place ∈ visits.filterMap Visit.document? ↔ .document place ∈ visits := by
  rw [List.mem_filterMap]
  constructor
  · rintro ⟨v, hv, hplace⟩
    cases v with
    | document other =>
      obtain rfl : other = place := Option.some.inj hplace
      exact hv
    | folder other => cases hplace
  · exact fun h => ⟨_, h, rfl⟩

theorem covers_visits {tree : Entry} (h : tree.Sound) (folder : Path) (search : Search) :
    ∃ places blocked, Covers folder search tree places blocked ∧
      Walk.along folder (tree.visits search) =
        ⟨places.map folder.append, blocked.map folder.append⟩ := by
  have hincreasing := pairwise_visits h search
  have hirrefl (v : Visit) : ¬v.place < v.place := List.lt_irrefl v.place
  have hasymm (u v : Visit) (huv : u.place < v.place) : ¬v.place < u.place := List.lt_asymm huv
  have hfails {v : Visit} (hv : (!v.passes folder) = true) :
      ∃ place, v = .folder place ∧ canList (folder.append place) = false := by
    cases v with
    | document place => cases hv
    | folder place => exact ⟨place, rfl, by simpa [Visit.passes] using hv⟩
  refine ⟨((tree.visits search).takeWhile (Visit.passes folder)).filterMap Visit.document?,
    ((tree.visits search).find? fun v => !v.passes folder).map Visit.place, ?_, ?_⟩
  · constructor
    case increasing =>
      refine List.pairwise_filterMap.mpr ((hincreasing.sublist (List.takeWhile_sublist _)).imp ?_)
      intro u v huv place hplace other hother
      cases u with
      | folder => cases hplace
      | document =>
        cases v with
        | folder => cases hother
        | document =>
          obtain rfl := Option.some.inj hplace
          obtain rfl := Option.some.inj hother
          exact huv
    case mem_iff =>
      intro place
      rw [mem_filterMap_document?, mem_takeWhile_iff hirrefl hasymm hincreasing,
        document_mem_visits h]
      simp [Visit.place]
    case least =>
      intro b hb
      obtain ⟨v, hv, rfl⟩ := Option.map_eq_some_iff.mp hb
      have hblocks : (!v.passes folder) = true :=
        List.find?_some (p := fun v : Visit => !v.passes folder) hv
      obtain ⟨place, rfl, hlist⟩ := hfails hblocks
      refine ⟨⟨(folder_mem_visits h search place).mp (List.mem_of_find?_eq_some hv), hlist⟩, ?_⟩
      intro other hother
      have hmem := (folder_mem_visits h search other).mpr hother.subfolder
      have htest : (!(Visit.folder other).passes folder) = true := by
        simp [Visit.passes, hother.unlistable]
      exact (find?_least hincreasing hv hmem htest).imp Visit.folder.inj id
    case free =>
      intro hnone place hbars
      have hmem := (folder_mem_visits h search place).mpr hbars.subfolder
      have hpasses := List.find?_eq_none.mp (Option.map_eq_none_iff.mp hnone) _ hmem
      simp [Visit.passes, hbars.unlistable] at hpasses
  · rw [along_eq, Option.map_map]
    rfl

theorem nodup_of_increasing {xs : List (List String)} (h : xs.Pairwise (· < ·)) : xs.Nodup :=
  h.imp fun {a b} (hab : a < b) (heq : a = b) => List.lt_irrefl b (heq ▸ hab)

/-- Increasing lists of the same members are the same. -/
theorem eq_of_increasing {xs ys : List (List String)} (hx : xs.Pairwise (· < ·))
    (hy : ys.Pairwise (· < ·)) (h : ∀ place, place ∈ xs ↔ place ∈ ys) : xs = ys := by
  have hperm : xs.Perm ys :=
    (List.perm_ext_iff_of_nodup (nodup_of_increasing hx) (nodup_of_increasing hy)).mpr h
  exact hperm.eq_of_pairwise (fun a b _ _ hab hba => absurd hba (List.lt_asymm hab)) hx hy

/-- The tree alone tells what a walk comes to. -/
theorem Covers.unique {folder : Path} {search search' : Search} {tree tree' : Entry}
    {places places' : List (List String)} {blocked blocked' : Option (List String)}
    (h : Covers folder search tree places blocked) (h' : Covers folder search' tree' places' blocked')
    (hdocument : ∀ place, IsDocument search tree place ↔ IsDocument search' tree' place)
    (hbars : ∀ place, Bars folder search tree place ↔ Bars folder search' tree' place) :
    places = places' ∧ blocked = blocked' := by
  have hblocked : blocked = blocked' := by
    cases blocked with
    | none =>
      cases blocked' with
      | none => rfl
      | some b' => exact absurd ((hbars b').mpr (h'.least b' rfl).1) (h.free rfl b')
    | some b =>
      obtain ⟨hb, hleast⟩ := h.least b rfl
      cases blocked' with
      | none => exact absurd ((hbars b).mp hb) (h'.free rfl b)
      | some b' =>
        obtain ⟨hb', hleast'⟩ := h'.least b' rfl
        have hle := hleast b' ((hbars b').mpr hb')
        have hle' := hleast' b ((hbars b).mp hb)
        obtain rfl | hlt := hle
        · rfl
        · obtain rfl | hlt' := hle'
          · rfl
          · exact absurd hlt' (List.lt_asymm hlt)
  subst hblocked
  refine ⟨eq_of_increasing h.increasing h'.increasing fun place => ?_, rfl⟩
  rw [h.mem_iff, h'.mem_iff, hdocument]

end ContractAtlas.Disk
