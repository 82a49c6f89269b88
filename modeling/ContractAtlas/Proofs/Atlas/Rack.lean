import ContractAtlas.Proofs.Atlas.Build
import ContractAtlas.Proofs.Document.Order
import Mathlib.Data.String.Basic

/-!
Builds from one folder that holds nothing but documents. The walk meets all of them in the order of
their names (`walk_rack`), and what each is loaded as depends on its octets alone (`loadings_rack`), so
that the build can be computed from the files (`build_rack`).
-/
namespace ContractAtlas
set_option autoImplicit false

/-! ## A folder of files -/

/-- What loading comes to, by the value of the document. -/
def Loading.ofValue (p : Disk.Path) : Except Failure Json → Loading
  | .error failure => ⟨p, .error failure, []⟩
  | .ok document =>
    match extract? document with
    | none => ⟨p, .error (documentFailure .noSyntaxTree p), []⟩
    | some (c, notes) => ⟨p, .ok c, notes.map Note.record ++ [loadedRecord p c]⟩

theorem loadDocument_eq_ofValue (d : Disk) (p : Disk.Path) :
    loadDocument d p = .ofValue p (readDocument d p) := by
  unfold loadDocument
  cases readDocument d p <;> rfl

namespace Atlas

def fileEntries (files : List (String × List UInt8)) : List (String × Disk.Entry) :=
  files.map fun f => (f.1, .file 0 f.2)

/-- A disk with one folder of files. -/
def rack (files : List (String × List UInt8)) : Disk where
  root := .folder [("d", .folder (fileEntries files))]
  here := []
  nextId := 1

def racked (name : String) : Disk.Path := ⟨"", ["d", name]⟩

/-- The octets of a text, one for each character. -/
def octets (text : String) : List UInt8 := text.toList.map fun c => UInt8.ofNat c.toNat

theorem isName_rack : Disk.IsName "d" := by constructor <;> decide

theorem folder?_rack (files : List (String × List UInt8)) :
    (rack files).folder? (.ofString "d") = some (fileEntries files) := by
  have hp : Disk.Path.ofString "d" = ⟨"", ["d"]⟩ := by decide
  have hnames : ∀ name ∈ (Disk.Path.mk "" ["d"]).parts, Disk.IsName name := by
    simpa using isName_rack
  rw [Disk.folder?, hp, Disk.locate_of_at? hnames (by decide) rfl (by simp)]

theorem visits_fileEntries {files : List (String × List UInt8)} {search : Disk.Search}
    (haccepts : ∀ f ∈ files, search.accepts f.1 = true)
    (hsorted : files.Pairwise fun x y => x.1 ≤ y.1) :
    (Disk.Entry.folder (fileEntries files)).visits search =
      (files.map fun f => [f.1]).map .document := by
  have hfiles : ∀ e ∈ fileEntries files, e.2.isFolder = false :=
    List.forall_mem_map.mpr fun _ _ => rfl
  have hall : ∀ e ∈ fileEntries files, search.accepts e.1 = true :=
    List.forall_mem_map.mpr haccepts
  have hpairs : (fileEntries files).Pairwise fun x y => x.1 ≤ y.1 := List.pairwise_map.mpr hsorted
  rw [Disk.visits_of_files hfiles hpairs, List.filter_eq_self.mpr hall, fileEntries, List.map_map,
    List.map_map]
  rfl

theorem walk_rack {files : List (String × List UInt8)}
    (haccepts : ∀ f ∈ files, Disk.Search.accepts {} f.1 = true)
    (hsorted : files.Pairwise fun x y => x.1 ≤ y.1) :
    walk (rack files) "d" {} = .ok ⟨files.map fun f => racked f.1, none⟩ := by
  obtain ⟨w, hw, hok⟩ := walk_of_folder (folder?_rack files) {}
  rw [Disk.walk?, folder?_rack, Option.map_some, visits_fileEntries haccepts hsorted,
    Disk.along_documents] at hw
  have hp : Disk.Path.ofString "d" = ⟨"", ["d"]⟩ := by decide
  rw [hok, ← Option.some.inj hw, hp, List.map_map]
  rfl

theorem lookup_fileEntries (files : List (String × List UInt8)) (name : String) :
    (fileEntries files).lookup name = (files.lookup name).map (Disk.Entry.file 0) := by
  induction files with
  | nil => rfl
  | cons f files ih =>
    rw [fileEntries] at ih ⊢
    rw [List.map_cons, List.lookup_cons, List.lookup_cons, ih]
    cases name == f.1 <;> rfl

theorem read_rack {files : List (String × List UInt8)} {name : String} {content : List UInt8}
    (hname : Disk.IsName name) (h : files.lookup name = some content) :
    (rack files).read (racked name) = .ok content := by
  have hnames : ∀ part ∈ (racked name).parts, Disk.IsName part := by
    simpa [racked] using And.intro isName_rack hname
  have htext : (racked name).text = "d/" ++ name := by
    have hparts : String.intercalate "/" ["d", name] = "d" ++ "/" ++ name := rfl
    rw [Disk.Path.text, if_neg (by simp [racked]), racked, hparts, ← String.append_assoc]
    rfl
  have hshort : (racked name).text.utf8ByteSize ≤ Disk.pathLimit := by
    have hd : "d/".utf8ByteSize = 2 := by decide
    have hlimit : Disk.nameLimit + 2 ≤ Disk.pathLimit := by decide
    have hle := hname.short
    rw [htext, String.utf8ByteSize_append, hd]
    omega
  have hat : (rack files).root.at? ["d", name] = some (.file 0 content) := by
    simp [rack, Disk.Entry.at?, Disk.Entry.entries, lookup_fileEntries, h]
  rw [Disk.read, Disk.locate_of_at? hnames hshort hat (by simp)]

/-- Files that can stand on a rack: documents in the order of their names. -/
structure Racked (files : List (String × List UInt8)) : Prop where
  isName : ∀ f ∈ files, Disk.IsName f.1
  accepted : ∀ f ∈ files, Disk.Search.accepts {} f.1 = true
  sorted : files.Pairwise fun x y => x.1 < y.1

theorem Racked.lookup {files : List (String × List UInt8)} (h : Racked files)
    {f : String × List UInt8} (hf : f ∈ files) : files.lookup f.1 = some f.2 := by
  have hdistinct : (files.map Prod.fst).Nodup :=
    List.pairwise_map.mpr (h.sorted.imp fun hlt => hlt.ne)
  exact (Disk.lookup_eq_some_iff_mem hdistinct f.1 f.2).mpr hf

def loadRacked (f : String × List UInt8) : Loading :=
  .ofValue (racked f.1) (decodeDocument (racked f.1) f.2)

theorem loadDocument_rack {files : List (String × List UInt8)} (h : Racked files)
    {f : String × List UInt8} (hf : f ∈ files) :
    loadDocument (rack files) (racked f.1) = loadRacked f := by
  rw [loadDocument_eq_ofValue, readDocument, read_rack (h.isName f hf) (h.lookup hf), loadRacked]

theorem loadings_rack {files : List (String × List UInt8)} (h : Racked files) :
    (files.map fun f => racked f.1).map (loadDocument (rack files)) = files.map loadRacked := by
  rw [List.map_map]
  exact List.map_congr_left fun f hf => loadDocument_rack h hf

theorem build_rack_result {files : List (String × List UInt8)} (h : Racked files) (strict : Bool) :
    (build (rack files) "d" {} strict).1 =
      ((files.map loadRacked).findSome? (Loading.stop? strict)).elim
        (.ok ((files.map loadRacked).foldl absorb empty)) .error := by
  have hwalk := walk_rack h.accepted (h.sorted.imp le_of_lt)
  rw [build_result hwalk, loadings_rack h]
  rfl

theorem build_rack {files : List (String × List UInt8)} (h : Racked files) {strict : Bool}
    (hstop : ((files.map loadRacked).findSome? (Loading.stop? strict)).isNone) :
    (build (rack files) "d" {} strict).1 = .ok ((files.map loadRacked).foldl absorb empty) := by
  rw [build_rack_result h, Option.isNone_iff_eq_none.mp hstop]
  rfl

/-! ## One file -/

def single (content : List UInt8) : List (String × List UInt8) := [("a.json", content)]

theorem racked_single (content : List UInt8) : Racked (single content) where
  isName := by
    have hname : Disk.IsName "a.json" := by constructor <;> decide
    exact List.forall_mem_singleton.mpr hname
  accepted := by
    have haccepts : Disk.Search.accepts {} "a.json" = true := by decide
    exact List.forall_mem_singleton.mpr haccepts
  sorted := List.pairwise_singleton _ _

theorem build_single (content : List UInt8) (strict : Bool) :
    (build (rack (single content)) "d" {} strict).1 =
      ((loadRacked ("a.json", content)).stop? strict).elim
        (.ok (empty.absorb (loadRacked ("a.json", content)))) .error := by
  rw [build_rack_result (racked_single content), single]
  cases hstop : (loadRacked ("a.json", content)).stop? strict with
  | none => simp [hstop]
  | some failure => simp [hstop]

/-- A contract with an event and an enum. -/
def ledger : Contract :=
  { name := "Ledger", events := [{ name := "Paid" }], enums := [{ name := "State" }] }

def ledgerContent : List UInt8 := octets <|
  "\x7b\"ast\":\x7b\"nodes\":[\x7b\"nodeType\":\"ContractDefinition\",\"name\":\"Ledger\",\"nodes\":[" ++
    "\x7b\"nodeType\":\"EventDefinition\",\"name\":\"Paid\"\x7d," ++
    "\x7b\"nodeType\":\"EnumDefinition\",\"name\":\"State\"\x7d]\x7d]\x7d\x7d"

def ledgerAtlas : Atlas := ⟨[("Ledger", ledger)], []⟩

theorem names_ledgerAtlas : ledgerAtlas.names = ["Ledger"] := List.mergeSort_singleton _

theorem load_ledgerContent : (loadRacked ("a.json", ledgerContent)).result = .ok ledger := by
  have hsome : (loadRacked ("a.json", ledgerContent)).result.toOption = some ledger := by
    decide +kernel
  cases hr : (loadRacked ("a.json", ledgerContent)).result with
  | ok c =>
    rw [hr] at hsome
    rw [Option.some.inj hsome]
  | error failure =>
    rw [hr] at hsome
    cases hsome

theorem build_ledger (strict : Bool) :
    (build (rack (single ledgerContent)) "d" {} strict).1 = .ok ledgerAtlas := by
  have hname : ledger.name ≠ "" := by decide
  have habsorb := absorb_of_ok load_ledgerContent empty
  rw [if_neg hname] at habsorb
  rw [build_single, Loading.stop?, load_ledgerContent, habsorb]
  rfl

/-- A file without text ends a strict build. -/
theorem build_blank : ∃ failure,
    (build (rack (single [])) "d" {} true).1 = .error failure ∧ failure.report?.isSome := by
  have hreport : ((loadRacked ("a.json", [])).stop? true).any (·.report?.isSome) = true := by
    decide +kernel
  rw [build_single]
  cases hstop : (loadRacked ("a.json", [])).stop? true with
  | none =>
    rw [hstop] at hreport
    cases hreport
  | some failure =>
    rw [hstop] at hreport
    exact ⟨failure, rfl, hreport⟩

end Atlas

end ContractAtlas
