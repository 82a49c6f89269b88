import ContractAtlas.Proofs.Atlas.Build
import ContractAtlas.Proofs.Document.Relisting
import Mathlib.Data.List.Nodup

/-!
The documents of a folder. They are told from the tree alone: each document once, in increasing order
of the places, up to the first subfolder that cannot be listed (`documentPaths_covers`).
-/
namespace ContractAtlas
set_option autoImplicit false

namespace Atlas
open Disk (Path Entry Search Covers IsDocument Bars Relisted)

/-! ## Lists of documents -/

/-- The outcome of a list of documents: the paths, or the error at the subfolder where it ends. -/
def listed (path : Path) (places : List (List String)) (blocked : Option (List String)) :
    Except Failure (List Path) :=
  match blocked with
  | none => .ok (places.map path.append)
  | some place => .error (blockedFailure (path.append place))

theorem documentPaths_eq_listed {d : Disk} {folder : String} {search : Search} {path : Path}
    {places : List (List String)} {blocked : Option (List String)}
    (h : walk d folder search = .ok ⟨places.map path.append, blocked.map path.append⟩) :
    documentPaths d folder search = listed path places blocked := by
  rw [documentPaths, h]
  cases blocked <;> rfl

theorem walk_covers {d : Disk} (hd : d.root.Sound) {folder : String} (search : Search)
    {entries : List (String × Entry)} (h : d.folder? (.ofString folder) = some entries) :
    ∃ places blocked, Covers (.ofString folder) search (.folder entries) places blocked ∧
      walk d folder search =
        .ok ⟨places.map (Path.ofString folder).append, blocked.map (Path.ofString folder).append⟩ := by
  obtain ⟨w, hw, hwalk⟩ := walk_of_folder h search
  obtain ⟨places, blocked, hc, halong⟩ :=
    Disk.covers_visits (Disk.folder?_sound hd h).1 (.ofString folder) search
  rw [Disk.walk?, h, Option.map_some, halong] at hw
  obtain rfl := Option.some.inj hw
  exact ⟨places, blocked, hc, hwalk⟩

theorem append_injective (path : Path) : Function.Injective path.append := by
  intro place other h
  exact List.append_cancel_left (congrArg Path.parts h)

/-- The documents that stand in the folder itself. -/
theorem covers_flat {path : Path} {search : Search} {tree : Entry} {places flat : List (List String)}
    {blocked : Option (List String)} (h : Covers path search tree places none)
    (hflat : Covers path { search with recursive := false } tree flat blocked) :
    flat = places.filter (·.length = 1) ∧ blocked = none := by
  have hnone : blocked = none := by
    cases blocked with
    | none => rfl
    | some b => exact absurd (hflat.least b rfl).1.subfolder.depth Bool.false_ne_true
  subst hnone
  refine ⟨Disk.eq_of_increasing hflat.increasing (h.increasing.filter _) fun place => ?_, rfl⟩
  rw [hflat.mem_iff, List.mem_filter, h.mem_iff, decide_eq_true_eq]
  constructor
  · rintro ⟨⟨hentry, haccepted, hdepth⟩, -⟩
    have hone : place.length = 1 := hdepth.resolve_left Bool.false_ne_true
    exact ⟨⟨⟨hentry, haccepted, .inr hone⟩, fun b hb => nomatch hb⟩, hone⟩
  · rintro ⟨⟨⟨hentry, haccepted, -⟩, -⟩, hone⟩
    exact ⟨⟨hentry, haccepted, .inr hone⟩, fun b hb => nomatch hb⟩

/-! ## A yard -/

/-- A folder in which a document stands after a subfolder with another. -/
def yard : List (String × Entry) :=
  [("inner", .folder [("a.json", .file 0 [])]), ("z.json", .file 1 [])]

def yardDisk : Disk where
  root := .folder [("d", .folder yard)]
  here := []
  nextId := 2

theorem yardDisk_sound : yardDisk.root.Sound := by
  have hd : Disk.IsName "d" := by constructor <;> decide
  have hinner : Disk.IsName "inner" := by constructor <;> decide
  have ha : Disk.IsName "a.json" := by constructor <;> decide
  have hz : Disk.IsName "z.json" := by constructor <;> decide
  have hfolder : (Entry.folder [("a.json", .file 0 [])]).Sound :=
    .folder (by simp) (by simpa using ha) (by simpa using .file 0 [])
  have hyard : (Entry.folder yard).Sound :=
    .folder (by decide) (by simpa [yard] using ⟨hinner, hz⟩)
      (by simpa [yard] using ⟨hfolder, .file 1 []⟩)
  exact .folder (by simp) (by simpa using hd) (by simpa using hyard)

theorem visits_yard : (Entry.folder yard).visits {} =
    [.folder ["inner"], .document ["inner", "a.json"], .document ["z.json"]] := by
  have ha : Search.accepts {} "a.json" = true := by decide
  have hz : Search.accepts {} "z.json" = true := by decide
  have hsorted : (Disk.branches {} yard).Pairwise fun x y => Disk.nameLE x y = true := by
    simp [yard, Disk.branches, Disk.nameLE]
  rw [Entry.visits, List.mergeSort_of_pairwise hsorted]
  simp [yard, Disk.branches, Entry.visits, ha, hz, Disk.Visit.under]

theorem inner_isDocument : IsDocument {} (.folder yard) ["inner", "a.json"] :=
  ⟨⟨.file 0 [], rfl, rfl⟩, ⟨"a.json", rfl, by decide⟩, .inl rfl⟩

/-! ## A long way round -/

theorem components_append (before after : String) :
    Disk.components (before ++ "/" ++ after) =
      Disk.components before ++ Disk.components after := by
  have hchars : (before ++ "/" ++ after).toList = before.toList ++ '/' :: after.toList := by simp
  rw [Disk.components, hchars, Text.pieces_append, List.map_append, List.filter_append]
  rfl

/-- A path to the folder `d` that leaves it again and again on the way. -/
def detour : Nat → String
  | 0 => "d"
  | count + 1 => "d/../" ++ detour count

def detourParts : Nat → List String
  | 0 => ["d"]
  | count + 1 => "d" :: ".." :: detourParts count

theorem ofString_detour (count : Nat) : Path.ofString (detour count) = ⟨"", detourParts count⟩ := by
  have hroot : Disk.rootOf (detour count).toList = "" := by
    cases count with
    | zero => rfl
    | succ count =>
      rw [detour, String.toList_append]
      rfl
  have hparts : Disk.components (detour count) = detourParts count := by
    clear hroot
    induction count with
    | zero => decide
    | succ count ih =>
      have hfirst : Disk.components "d/.." = ["d", ".."] := by decide
      have hsplit : detour (count + 1) = "d/.." ++ "/" ++ detour count := rfl
      rw [hsplit, components_append, hfirst, ih]
      rfl
  rw [Path.ofString, hroot, hparts]

theorem hasNull_detour (count : Nat) : (Path.ofString (detour count)).hasNull = false := by
  rw [ofString_detour, Path.hasNull]
  induction count with
  | zero => decide
  | succ count ih =>
    have hfirst : Disk.holdsNull "d" = false := by decide
    have habove : Disk.holdsNull ".." = false := by decide
    rw [detourParts, List.any_cons, List.any_cons, ih, hfirst, habove]
    rfl

/-- Each time round makes the path five octets longer. -/
theorem size_detour (count : Nat) (place : List String) :
    ((Path.ofString (detour count)).append place).text.utf8ByteSize =
      5 * count + (String.intercalate "/" ("d" :: place)).utf8ByteSize := by
  have hparts (count : Nat) : detourParts count ++ place ≠ [] := by
    cases count <;> simp [detourParts]
  rw [ofString_detour, Path.append, Path.text, if_neg fun h => hparts count h.2, String.empty_append]
  induction count with
  | zero => simp [detourParts]
  | succ count ih =>
    have hname : "d".utf8ByteSize = 1 := by decide
    have habove : "..".utf8ByteSize = 2 := by decide
    have hslash : "/".utf8ByteSize = 1 := by decide
    rw [detourParts, List.cons_append, List.cons_append, String.intercalate_cons_cons,
      String.intercalate_cons_of_ne_nil (hparts count)]
    simp only [String.utf8ByteSize_append, ih]
    omega

theorem find_detour {root : Entry} {here : List String} {entries : List (String × Entry)}
    (hat : root.at? (here ++ ["d"]) = some (.folder entries)) (links count : Nat) :
    Disk.find root .goal links here (detourParts count) =
      .ok ⟨here ++ ["d"], some (.folder entries)⟩ := by
  have hshort : ¬Disk.nameLimit < "d".utf8ByteSize := by decide
  induction count with
  | zero =>
    rw [detourParts, Disk.find_name (by decide) (by decide) (by decide) (by simp) hshort, hat]
    rfl
  | succ count ih =>
    rw [detourParts, Disk.find_name (by decide) (by decide) (by decide) (by simp) hshort, hat]
    simp only [List.isEmpty_cons, Bool.false_eq_true, if_false]
    -- a round ends where it began
    rw [Disk.find, List.dropLast_concat]
    exact ih

theorem folder?_detour {count : Nat} (h : 5 * count + 1 ≤ Disk.pathLimit) :
    yardDisk.folder? (.ofString (detour count)) = some yard := by
  have hsize := size_detour count []
  have hname : (String.intercalate "/" ["d"]).utf8ByteSize = 1 := by decide
  have happend : (Path.ofString (detour count)).append [] = Path.ofString (detour count) := by
    rw [Path.append, List.append_nil]
  rw [happend, hname] at hsize
  have hlocate : yardDisk.locate .goal (.ofString (detour count)) =
      .ok ⟨["d"], some (.folder yard)⟩ := by
    rw [Disk.locate, hasNull_detour, if_neg Bool.false_ne_true, if_neg (by omega), ofString_detour]
    exact find_detour rfl Disk.linkLimit count
  rw [Disk.folder?, hlocate]

/-- Where the path of the yard is still one, but that of its subfolder is too long. -/
theorem walk_detour {count : Nat} (h : 5 * count + 1 ≤ Disk.pathLimit)
    (hlong : Disk.pathLimit < 5 * count + 7) :
    walk yardDisk (detour count) {} =
      .ok ⟨[], some ((Path.ofString (detour count)).append ["inner"])⟩ := by
  have hsize := size_detour count ["inner"]
  have hname : (String.intercalate "/" ["d", "inner"]).utf8ByteSize = 7 := by decide
  have hlist : ¬Disk.canList ((Path.ofString (detour count)).append ["inner"]) = true := by
    rw [Disk.canList, hsize, hname, decide_eq_true_eq]
    omega
  obtain ⟨w, hw, hwalk⟩ := walk_of_folder (folder?_detour h) {}
  rw [Disk.walk?, folder?_detour h, Option.map_some, visits_yard, Disk.Walk.along,
    if_neg hlist] at hw
  obtain rfl := Option.some.inj hw
  exact hwalk

theorem folder?_yard : yardDisk.folder? (.ofString "d") = some yard :=
  @folder?_detour 0 (by decide)

theorem walk_yard : walk yardDisk "d" {} =
    .ok ⟨[["inner", "a.json"], ["z.json"]].map (Path.ofString "d").append, none⟩ := by
  have hlist : Disk.canList ((Path.ofString "d").append ["inner"]) = true := by decide
  obtain ⟨w, hw, hwalk⟩ := walk_of_folder folder?_yard {}
  rw [Disk.walk?, folder?_yard, Option.map_some, visits_yard, Disk.Walk.along, if_pos hlist] at hw
  obtain rfl := Option.some.inj hw
  exact hwalk

theorem locate_yard_missing : yardDisk.locate .goal (.ofString "e") = .ok ⟨["e"], none⟩ := by
  have hpath : Path.ofString "e" = ⟨"", ["e"]⟩ := by decide
  have hshort : ¬Disk.nameLimit < "e".utf8ByteSize := by decide
  rw [hpath, Disk.locate, if_neg (by decide), if_neg (by decide),
    Disk.find_name (by decide) (by decide) (by decide) (by simp) hshort]
  rfl

/-! ## The documents of a folder -/

/-- The law of document lists. The paths are those of the documents below a folder, each once, in
increasing order component by component; where a subfolder cannot be listed, the list ends there with
an error. Without subfolders it holds the documents of depth one. The order in which folders list their
entries plays no part, and without a folder there is an error instead. -/
theorem documentPaths_covers {d : Disk} (hd : d.root.Sound) (folder : String) (search : Search) :
    let path := Path.ofString folder
    (∀ entries, d.folder? path = some entries →
      ∃ places blocked, Covers path search (.folder entries) places blocked ∧
        (places.map path.append).Nodup ∧
        walk d folder search = .ok ⟨places.map path.append, blocked.map path.append⟩ ∧
        documentPaths d folder search = listed path places blocked ∧
        (blocked = none → documentPaths d folder { search with recursive := false } =
          .ok ((places.filter (·.length = 1)).map path.append))) ∧
    (∀ d' : Disk, Relisted d.root d'.root → d'.here = d.here →
      walk d' folder search = walk d folder search ∧
        documentPaths d' folder search = documentPaths d folder search) ∧
    (d.folder? path = none → d.locate .goal path ≠ .error .nameTooLong →
      documentPaths d folder search = .error (.document ⟨.noFolder, some path.text⟩)) := by
  intro path
  refine ⟨fun entries hfolder => ?_, fun d' hrelisted hhere => ?_, fun hnone hloc => ?_⟩
  · obtain ⟨places, blocked, hc, hwalk⟩ := walk_covers hd search hfolder
    have hnodup := List.Nodup.map (append_injective path) (Disk.nodup_of_increasing hc.increasing)
    refine ⟨places, blocked, hc, hnodup, hwalk, documentPaths_eq_listed hwalk, ?_⟩
    rintro rfl
    obtain ⟨flat, flatBlocked, hflat, hflatWalk⟩ :=
      walk_covers hd { search with recursive := false } hfolder
    obtain ⟨rfl, rfl⟩ := covers_flat hc hflat
    exact documentPaths_eq_listed hflatWalk
  · have hwalk : walk d' folder search = walk d folder search := by
      rw [walk, walk, Disk.isFolder?_alike (hrelisted.alike hd).2 hhere,
        Disk.walk?_relisted hd hrelisted hhere]
    refine ⟨hwalk, ?_⟩
    rw [documentPaths, documentPaths, hwalk]
  · rw [documentPaths, walk_missing hnone hloc]

/-- The yard, the yard listed the other way round, and a folder that is missing. -/
theorem documentPaths_covers_yard :
    documentPaths yardDisk "d" {} = .ok [⟨"", ["d", "inner", "a.json"]⟩, ⟨"", ["d", "z.json"]⟩] ∧
    documentPaths yardDisk "d" { recursive := false } = .ok [⟨"", ["d", "z.json"]⟩] ∧
    documentPaths { yardDisk with root := .folder [("d", .folder yard.reverse)] } "d" {} =
      .ok [⟨"", ["d", "inner", "a.json"]⟩, ⟨"", ["d", "z.json"]⟩] ∧
    documentPaths yardDisk "e" {} = .error (.document ⟨.noFolder, some "e"⟩) := by
  have hpath : Path.ofString "d" = ⟨"", ["d"]⟩ := by decide
  have hrelisted : Relisted yardDisk.root (.folder [("d", .folder yard.reverse)]) :=
    @Relisted.inside [] [] "d" _ _ (.perm (List.reverse_perm yard).symm)
  obtain ⟨hlists, hsame, -⟩ := documentPaths_covers yardDisk_sound "d" {}
  obtain ⟨places, blocked, -, -, hwalk, hlisted, hflat⟩ := hlists yard folder?_yard
  have hw := Except.ok.inj (hwalk.symm.trans walk_yard)
  have hnone : blocked = none := Option.map_eq_none_iff.mp (congrArg Disk.Walk.blocked hw)
  have hplaces : places = [["inner", "a.json"], ["z.json"]] :=
    (append_injective _).list_map (congrArg Disk.Walk.documents hw)
  subst hnone hplaces
  refine ⟨?_, ?_, ?_, ?_⟩
  · rw [hlisted, hpath]
    rfl
  · rw [hflat rfl, hpath]
    rfl
  · have hreversed :=
      hsame { yardDisk with root := .folder [("d", .folder yard.reverse)] } hrelisted rfl
    rw [hreversed.2, hlisted, hpath]
    rfl
  · have hnone : yardDisk.folder? (.ofString "e") = none := by rw [Disk.folder?, locate_yard_missing]
    have hlocate : yardDisk.locate .goal (.ofString "e") ≠ .error .nameTooLong := by
      rw [locate_yard_missing]
      rintro ⟨⟩
    rw [(documentPaths_covers yardDisk_sound "e" {}).2.2 hnone hlocate]
    rfl

/-- No document of the yard is met where its first subfolder cannot be listed. -/
theorem documentPaths_detour_refused :
    yardDisk.root.Sound ∧ yardDisk.folder? (.ofString (detour 818)) = some yard ∧
    IsDocument {} (.folder yard) ["inner", "a.json"] ∧
    walk yardDisk (detour 818) {} =
      .ok ⟨[], some ((Path.ofString (detour 818)).append ["inner"])⟩ ∧
    documentPaths yardDisk (detour 818) {} =
      .error (blockedFailure ((Path.ofString (detour 818)).append ["inner"])) := by
  have hwalk := walk_detour (by decide : 5 * 818 + 1 ≤ Disk.pathLimit) (by decide)
  refine ⟨yardDisk_sound, folder?_detour (by decide), inner_isDocument, hwalk, ?_⟩
  rw [documentPaths, hwalk]

end Atlas

end ContractAtlas
