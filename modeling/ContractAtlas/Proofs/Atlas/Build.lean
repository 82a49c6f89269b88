import ContractAtlas.Atlas.Build
import ContractAtlas.Proofs.Document.Loading
import ContractAtlas.Proofs.Document.Walk
import ContractAtlas.Proofs.Fold

/-!
What a build comes to. Both ways of building take in the same documents in the same order and differ
only in what stops them (`collect_result`): a strict build stops at any failure, a lenient one at
those that are no errors about a document.
-/
namespace ContractAtlas
set_option autoImplicit false

/-! ## One document -/

/-- The failure at which a build stops, if it stops at this document. -/
def Loading.stop? (strict : Bool) (l : Loading) : Option Failure :=
  match l.result with
  | .ok _ => none
  | .error (.document e) => if strict then some (.document e) else none
  | .error failure => some failure

/-- What is noted of a document that failed. -/
def Loading.skipped? (l : Loading) : Option Skipped :=
  match l.result with
  | .error (.document e) => some ⟨l.path.text, e⟩
  | _ => none

/-- The contract that a document puts under a name, if it does. -/
def Loading.stored? (name : String) (l : Loading) : Option Contract :=
  match l.result with
  | .ok c => if c.name ≠ "" ∧ c.name = name then some c else none
  | .error _ => none

theorem skipped?_eq_some_iff {l : Loading} {s : Skipped} :
    l.skipped? = some s ↔ l.result = .error (.document s.error) ∧ s.path = l.path.text := by
  obtain ⟨path, error⟩ := s
  cases hr : l.result with
  | ok c => simp [Loading.skipped?, hr]
  | error failure =>
    cases failure with
    | document e => simp [Loading.skipped?, hr, and_comm, eq_comm]
    | _ => simp [Loading.skipped?, hr]

/-- A document at which no build stops, and which is not skipped, has a contract. -/
theorem ok_of_not_stopped {l : Loading} (hstop : l.stop? false = none) (hskip : l.skipped? = none) :
    ∃ c, l.result = .ok c := by
  cases hr : l.result with
  | ok c => exact ⟨c, rfl⟩
  | error failure =>
    cases failure with
    | document e => simp [Loading.skipped?, hr] at hskip
    | _ => simp [Loading.stop?, hr] at hstop

namespace Atlas

/-- Takes a document in, or skips it. -/
def absorb (a : Atlas) (l : Loading) : Atlas :=
  match l.result with
  | .ok c => (a.take l.path c).1
  | .error (.document e) => (a.pass l.path e).1
  | .error _ => a

theorem take_contracts (a : Atlas) (p : Disk.Path) (c : Contract) :
    (a.take p c).1 = if c.name = "" then a else a.insert c := by
  unfold take
  split
  · rfl
  · split <;> rfl

theorem absorb_of_ok {l : Loading} {c : Contract} (h : l.result = .ok c) (a : Atlas) :
    a.absorb l = if c.name = "" then a else a.insert c := by
  rw [absorb, h]
  exact take_contracts a l.path c

theorem absorb_of_document {l : Loading} {e : DocumentError} (h : l.result = .error (.document e))
    (a : Atlas) : a.absorb l = a.skip ⟨l.path.text, e⟩ := by
  rw [absorb, h]
  rfl

theorem absorb_skipped (a : Atlas) (l : Loading) :
    (a.absorb l).skipped = a.skipped ++ l.skipped?.toList := by
  cases hr : l.result with
  | ok c =>
    rw [absorb_of_ok hr, Loading.skipped?, hr]
    split <;> simp [insert]
  | error failure =>
    cases failure with
    | document e =>
      rw [absorb_of_document hr, Loading.skipped?, hr]
      rfl
    | _ => simp [absorb, Loading.skipped?, hr]

/-! ## All documents -/

theorem collect_result (strict : Bool) (loadings : List Loading) (a : Atlas) :
    (collect strict a loadings).1 =
      (loadings.findSome? (Loading.stop? strict)).elim (.ok (loadings.foldl absorb a)) .error := by
  induction loadings generalizing a with
  | nil => rfl
  | cons l loadings ih =>
    rw [List.findSome?_cons, List.foldl_cons]
    unfold collect
    cases hr : l.result with
    | ok c => simp [Loading.stop?, absorb, hr, ih]
    | error failure =>
      cases failure with
      | document e => cases strict <;> simp [Loading.stop?, absorb, hr, ih]
      | _ => simp [Loading.stop?, hr]

theorem foldl_absorb_skipped (loadings : List Loading) (a : Atlas) :
    (loadings.foldl absorb a).skipped = a.skipped ++ loadings.filterMap Loading.skipped? :=
  foldl_gather absorb Atlas.skipped absorb_skipped loadings a

theorem absorb_get? (name : String) (a : Atlas) (l : Loading) :
    (a.absorb l).get? name = (l.stored? name).or (a.get? name) := by
  cases hr : l.result with
  | ok c =>
    rw [absorb_of_ok hr, Loading.stored?, hr]
    by_cases hc : c.name = ""
    · simp [hc]
    · by_cases hn : c.name = name
      · subst hn
        simp [hc, get?_insert]
      · have hn' : name ≠ c.name := fun h => hn h.symm
        simp [hc, hn, hn', get?_insert]
  | error failure =>
    have hs : l.stored? name = none := by simp [Loading.stored?, hr]
    rw [hs, Option.none_or]
    cases failure with
    | document e => rw [absorb_of_document hr, skip, get?, get?]
    | _ => rw [absorb, hr]

/-- Under a name stands the last contract that was put there. -/
theorem foldl_absorb_get? (name : String) (loadings : List Loading) (a : Atlas) :
    (loadings.foldl absorb a).get? name =
      (loadings.filterMap (Loading.stored? name)).getLast?.or (a.get? name) :=
  foldl_last absorb (fun a => a.get? name) (absorb_get? name) loadings a

/-! ## Builds -/

/-- What a build comes to, once there is a walk through the folder. -/
theorem build_result {d : Disk} {folder : String} {search : Disk.Search} {w : Disk.Walk}
    (hw : walk d folder search = .ok w) (strict : Bool) :
    (build d folder search strict).1 =
      ((w.documents.map (loadDocument d)).findSome? (Loading.stop? strict)).elim
        (w.blocked.elim (.ok ((w.documents.map (loadDocument d)).foldl absorb empty))
          fun p => .error (blockedFailure p))
        .error := by
  have h := collect_result strict (w.documents.map (loadDocument d)) empty
  simp only [build, hw]
  generalize collect strict empty (w.documents.map (loadDocument d)) = outcome at h ⊢
  obtain ⟨result, log⟩ := outcome
  obtain rfl : result = _ := h
  cases (w.documents.map (loadDocument d)).findSome? (Loading.stop? strict) with
  | some failure => rfl
  | none =>
    cases w.blocked with
    | none => rfl
    | some p => rfl

theorem build_of_walk_error {d : Disk} {folder : String} {search : Disk.Search} {failure : Failure}
    (hw : walk d folder search = .error failure) (strict : Bool) :
    (build d folder search strict).1 = .error failure := by
  rw [build, hw]

/-- A build that comes to an end was stopped by no document and no folder. -/
theorem build_ok {d : Disk} {folder : String} {search : Disk.Search} {strict : Bool} {a : Atlas}
    (h : (build d folder search strict).1 = .ok a) :
    ∃ w, walk d folder search = .ok w ∧ w.blocked = none ∧
      (∀ p ∈ w.documents, (loadDocument d p).stop? strict = none) ∧
      a = (w.documents.map (loadDocument d)).foldl absorb empty := by
  cases hw : walk d folder search with
  | error failure => simp [build_of_walk_error hw] at h
  | ok w =>
    rw [build_result hw] at h
    cases hs : (w.documents.map (loadDocument d)).findSome? (Loading.stop? strict) with
    | some failure => simp [hs] at h
    | none =>
      cases hb : w.blocked with
      | some p => simp [hs, hb] at h
      | none =>
        refine ⟨w, rfl, hb, ?_, ?_⟩
        · intro p hp
          exact List.findSome?_eq_none_iff.mp hs _ (List.mem_map_of_mem hp)
        · rw [hs, hb] at h
          exact (Except.ok.inj h).symm

theorem build_lenient_ok {d : Disk} {folder : String} {search : Disk.Search} {a : Atlas}
    (h : (build d folder search false).1 = .ok a) :
    ∃ w, walk d folder search = .ok w ∧ w.blocked = none ∧
      (∀ p ∈ w.documents, (loadDocument d p).stop? false = none) ∧
      a = (w.documents.map (loadDocument d)).foldl absorb empty :=
  build_ok h

/-! ## Strict and lenient -/

theorem stop?_strict {l : Loading} (h : l.stop? false = none) :
    l.stop? true = l.skipped?.map fun s => .document s.error := by
  cases hr : l.result with
  | ok c => simp [Loading.stop?, Loading.skipped?, hr]
  | error failure =>
    cases failure with
    | document e => simp [Loading.stop?, Loading.skipped?, hr]
    | _ => simp [Loading.stop?, hr] at h

/-- Where a lenient build goes through, a strict one stops at the first document that was skipped. -/
theorem findSome?_stop?_strict {loadings : List Loading} (h : ∀ l ∈ loadings, l.stop? false = none) :
    loadings.findSome? (Loading.stop? true) =
      (loadings.filterMap Loading.skipped?).head?.map fun s => .document s.error := by
  induction loadings with
  | nil => rfl
  | cons l loadings ih =>
    have hl := stop?_strict (h l List.mem_cons_self)
    have hrest := ih fun other hm => h other (List.mem_cons_of_mem l hm)
    rw [List.findSome?_cons, hl]
    cases hs : l.skipped? with
    | none => simpa [hs] using hrest
    | some s => simp [hs]

/-! ## The folder -/

theorem walk_of_folder {d : Disk} {folder : String} {entries : List (String × Disk.Entry)}
    (h : d.folder? (.ofString folder) = some entries) (search : Disk.Search) :
    ∃ w, d.walk? (.ofString folder) search = some w ∧ walk d folder search = .ok w := by
  have hloc : d.locate .goal (.ofString folder) ≠ .error .nameTooLong := by
    intro hl
    simp [Disk.folder?, hl] at h
  refine ⟨_, by rw [Disk.walk?, h]; rfl, ?_⟩
  rw [walk, Disk.isFolder?_eq hloc, h, Disk.walk?, h]
  rfl

theorem walk_missing {d : Disk} {folder : String} (h : d.folder? (.ofString folder) = none)
    (hloc : d.locate .goal (.ofString folder) ≠ .error .nameTooLong) (search : Disk.Search) :
    walk d folder search = .error (.document ⟨.noFolder, some (Disk.Path.ofString folder).text⟩) := by
  rw [walk, Disk.isFolder?_eq hloc, h]
  rfl

theorem walk_nameTooLong {d : Disk} {folder : String}
    (hloc : d.locate .goal (.ofString folder) = .error .nameTooLong) (search : Disk.Search) :
    walk d folder search = .error (.disk .nameTooLong) := by
  rw [walk, Disk.isFolder?_nameTooLong hloc]

/-! ## A disk with one document -/

/-- A disk with one folder and one document in it. -/
def shelf (content : List UInt8) : Disk where
  root := .folder [("d", .folder [("a.json", .file 0 content)])]
  here := []
  nextId := 1

def shelved : Disk.Path := ⟨"", ["d", "a.json"]⟩

theorem shelf_names : ∀ name ∈ shelved.parts, Disk.IsName name := by
  have hfolder : Disk.IsName "d" := by constructor <;> decide
  have hname : Disk.IsName "a.json" := by constructor <;> decide
  simpa [shelved] using And.intro hfolder hname

theorem shelf_sound (content : List UInt8) : (shelf content).root.Sound := by
  refine .folder (by simp) (by simpa using shelf_names "d" (by decide)) ?_
  have hinner : (Disk.Entry.folder [("a.json", .file 0 content)]).Sound :=
    .folder (by simp) (by simpa using shelf_names "a.json" (by decide))
      (by simpa using .file 0 content)
  simpa using hinner

theorem folder?_shelf (content : List UInt8) :
    (shelf content).folder? (.ofString "d") = some [("a.json", .file 0 content)] := by
  have hp : Disk.Path.ofString "d" = ⟨"", ["d"]⟩ := by decide
  have hnames : ∀ name ∈ (Disk.Path.mk "" ["d"]).parts, Disk.IsName name := by
    simpa using shelf_names "d" (by decide)
  rw [Disk.folder?, hp, Disk.locate_of_at? hnames (by decide) rfl (by simp)]

theorem read_shelf (content : List UInt8) : (shelf content).read shelved = .ok content := by
  rw [Disk.read, Disk.locate_of_at? shelf_names (by decide) rfl (by simp)]

theorem walk_shelf (content : List UInt8) :
    walk (shelf content) "d" {} = .ok ⟨[shelved], none⟩ := by
  obtain ⟨w, hw, hok⟩ := walk_of_folder (folder?_shelf content) {}
  have haccepts : Disk.Search.accepts {} "a.json" = true := by decide
  have hvisits : (Disk.Entry.folder [("a.json", .file 0 content)]).visits {} =
      [.document ["a.json"]] := by
    simp [Disk.Entry.visits, Disk.branches, haccepts]
  rw [Disk.walk?, folder?_shelf, Option.map_some, hvisits] at hw
  have hp : Disk.Path.ofString "d" = ⟨"", ["d"]⟩ := by decide
  rw [hok, ← Option.some.inj hw, hp]
  rfl

/-! ## The two ways of building -/

/-- A strict build agrees with a lenient one that comes to an end. If nothing was skipped both build
the same atlas; else the strict build ends with the error of the first document that was skipped,
which is the first that fails. Where there is no folder both end with the same error about the folder,
unless its name is too long to be looked up, which is no error about a document. -/
theorem build_strict_of_lenient (d : Disk) (folder : String) (search : Disk.Search) :
    let path := Disk.Path.ofString folder
    (∀ a, (build d folder search false).1 = .ok a →
      (a.skipped = [] → (build d folder search true).1 = .ok a) ∧
      ∀ s rest, a.skipped = s :: rest →
        (build d folder search true).1 = .error (.document s.error) ∧
        ∃ w before p after, walk d folder search = .ok w ∧ w.documents = before ++ p :: after ∧
          (∀ q ∈ before, ∃ c, (loadDocument d q).result = .ok c) ∧
          (loadDocument d p).result = .error (.document s.error) ∧
          s.path = p.text ∧ s.error.path = some p.text) ∧
    (d.folder? path = none → ∀ strict,
      (d.locate .goal path ≠ .error .nameTooLong →
        (build d folder search strict).1 = .error (.document ⟨.noFolder, some path.text⟩)) ∧
      (d.locate .goal path = .error .nameTooLong →
        (build d folder search strict).1 = .error (.disk .nameTooLong))) := by
  intro path
  refine ⟨?_, ?_⟩
  · intro a ha
    obtain ⟨w, hw, hblocked, hstop, rfl⟩ := build_lenient_ok ha
    have hstop' : ∀ l ∈ w.documents.map (loadDocument d), l.stop? false = none := by
      simpa using hstop
    have hstrict := build_result hw true
    rw [findSome?_stop?_strict hstop', hblocked] at hstrict
    rw [foldl_absorb_skipped, empty, List.nil_append]
    refine ⟨?_, ?_⟩
    · intro hnil
      rw [hstrict, hnil]
      rfl
    · intro s rest hcons
      refine ⟨by rw [hstrict, hcons]; rfl, ?_⟩
      rw [List.filterMap_map, List.filterMap_eq_cons_iff] at hcons
      obtain ⟨before, p, after, hsplit, hbefore, hp, _⟩ := hcons
      obtain ⟨hresult, hpath⟩ := skipped?_eq_some_iff.mp hp
      rw [loadDocument_path] at hpath
      refine ⟨w, before, p, after, hw, hsplit, ?_, hresult, hpath, loadDocument_document_path hresult⟩
      intro q hq
      have hmem : q ∈ w.documents := by simp [hsplit, hq]
      exact ok_of_not_stopped (hstop q hmem) (hbefore q hq)
  · intro hnone strict
    exact ⟨fun hloc => build_of_walk_error (walk_missing hnone hloc search) strict,
      fun hloc => build_of_walk_error (walk_nameTooLong hloc search) strict⟩

theorem loadDocument_shelf_empty :
    (loadDocument (shelf []) shelved).result =
      .error (documentFailure (.badText ⟨.value, 1, 1, 0⟩) shelved) := by
  apply loadDocument_of_readDocument_error
  rw [readDocument, read_shelf]
  rfl

theorem locate_shelf_missing (content : List UInt8) :
    (shelf content).locate .goal (.ofString "e") = .ok ⟨["e"], none⟩ := by
  have hp : Disk.Path.ofString "e" = ⟨"", ["e"]⟩ := by decide
  rw [hp, Disk.locate, if_neg (by decide), if_neg (by decide), Disk.find]
  case x | x_1 | x_2 => decide
  rfl

theorem utf8ByteSize_replicate (c : Char) (count : Nat) :
    (String.ofList (List.replicate count c)).utf8ByteSize = count * c.utf8Size := by
  induction count with
  | zero => simp
  | succ count ih =>
    rw [List.replicate_succ, String.ofList_cons, String.utf8ByteSize_append, ih, Nat.succ_mul]
    simp [Nat.add_comm]

/-- A document without text, a folder that is missing, and one of a name that no folder can have. -/
theorem build_strict_of_lenient_shelf :
    (∃ a e, (build (shelf []) "d" {} false).1 = .ok a ∧ a.skipped = [⟨shelved.text, e⟩] ∧
      (build (shelf []) "d" {} true).1 = .error (.document e)) ∧
    (∀ strict, (build (shelf []) "e" {} strict).1 = .error (.document ⟨.noFolder, some "e"⟩)) ∧
    ∀ strict, (build (shelf []) (String.ofList (List.replicate 256 'x')) {} strict).1 =
      .error (.disk .nameTooLong) := by
  refine ⟨?_, ?_, ?_⟩
  · have hlenient := build_result (walk_shelf []) false
    have hstop : (loadDocument (shelf []) shelved).stop? false = none := by
      rw [Loading.stop?, loadDocument_shelf_empty]
      rfl
    have hskip : (loadDocument (shelf []) shelved).skipped? =
        some ⟨shelved.text, ⟨.badText ⟨.value, 1, 1, 0⟩, some shelved.text⟩⟩ :=
      skipped?_eq_some_iff.mpr ⟨loadDocument_shelf_empty, by rw [loadDocument_path]⟩
    simp only [List.map_cons, List.map_nil, List.findSome?_cons, hstop, List.findSome?_nil] at hlenient
    have hskipped := foldl_absorb_skipped [loadDocument (shelf []) shelved] empty
    rw [List.filterMap_cons_some hskip] at hskipped
    obtain ⟨_, hfails⟩ := (build_strict_of_lenient (shelf []) "d" {}).1 _ hlenient
    exact ⟨_, _, hlenient, hskipped, (hfails _ _ hskipped).1⟩
  · intro strict
    have hloc := locate_shelf_missing []
    have hnone : (shelf []).folder? (.ofString "e") = none := by rw [Disk.folder?, hloc]
    have h := ((build_strict_of_lenient (shelf []) "e" {}).2 hnone strict).1 (by simp [hloc])
    rw [h]
    rfl
  · intro strict
    have hsize := utf8ByteSize_replicate 'x' 256
    have honly : ∀ c ∈ (String.ofList (List.replicate 256 'x')).toList, c = 'x' := by
      intro c hc
      rw [String.toList_ofList] at hc
      exact List.eq_of_mem_replicate hc
    have hloc : (shelf []).locate .goal (.ofString (String.ofList (List.replicate 256 'x'))) =
        .error .nameTooLong := by
      apply Disk.locate_longName
      · intro hslash
        exact absurd (honly '/' hslash) (by decide)
      · rw [Disk.holdsNull, List.contains_eq_mem, decide_eq_false_iff_not]
        intro hnull
        exact absurd (honly '\x00' hnull) (by decide)
      · rw [hsize]
        decide
      · rw [hsize]
        decide
    have hnone : (shelf []).folder? (.ofString (String.ofList (List.replicate 256 'x'))) = none := by
      rw [Disk.folder?, hloc]
    exact ((build_strict_of_lenient (shelf []) _ {}).2 hnone strict).2 hloc

end Atlas

end ContractAtlas
