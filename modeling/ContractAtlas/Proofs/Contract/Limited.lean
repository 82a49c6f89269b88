import ContractAtlas.Contract.Limited
import ContractAtlas.Proofs.Contract.SourceUnit
import ContractAtlas.Proofs.Source.Calls

/-!
Extraction with only so much room for calls. Each step either does what it does with room without end
or ends the extraction (`addNodeOn_eq`), so going through a document does too (`foldlM_addNodeOn`). The
law of documents then holds of every document but those that take more calls than there is room for,
and each of these ends in one and the same failure (`extract_document`). There is room for whatever
does not nest too deep (`not_overflows_of_shallow`), but never for every document (`extract_nested`).
-/
namespace ContractAtlas
set_option autoImplicit false
open Source

variable {s : Stack}

/-! ## One node -/

def memberHolds (s : Stack) (raw : Json) : Bool := s.holds (memberCalls s.record raw)

/-- Whether there is room for a node of the source unit, and whether it is a definition. A definition
takes room only where none has been adopted. -/
def nodeHolds (s : Stack) (adopted : Bool) (raw : Json) : Bool :=
  match Node.ofJson raw with
  | .error _ => s.holds (warningCalls raw)
  | .ok (some (.contract c)) => adopted || c.members.all (memberHolds s)
  | .ok _ => true

theorem adoptOn_eq (d : Draft) (c : ContractNode) :
    d.adoptOn s c = if c.members.all (memberHolds s) then .ok (d.adopt c) else .error .tooDeep :=
  foldlM_guard Draft.addMember (fun _ _ => rfl) c.members (d.begin c)

theorem addNodeOn_eq (d : Draft) (raw : Json) :
    d.addNodeOn s raw =
      if nodeHolds s d.adopted raw then .ok (d.addNode raw) else .error .tooDeep := by
  unfold Draft.addNodeOn nodeHolds
  cases hread : Node.ofJson raw with
  | error violations => rfl
  | ok node =>
    cases node with
    | none => rfl
    | some node =>
      cases node with
      | contract c =>
        cases hadopted : d.adopted with
        | true => rfl
        | false =>
          have hnotes : d.note [] = d := by simp [Draft.note]
          have hnode : d.addNode raw = d.adopt c := by
            simp [Draft.addNode, readNode, hread, hnotes, hadopted]
          rw [hnode]
          exact adoptOn_eq d c
      | _ => rfl

/-- The well-formed definition that a raw node is, if it is one. -/
def definitionOf? (raw : Json) : Option ContractNode :=
  (Node.ofJson raw).toOption.join.bind Node.contract?

theorem addNode_adopted (d : Draft) (raw : Json) :
    (d.addNode raw).adopted = (d.adopted || (definitionOf? raw).isSome) := by
  have hstate := congrArg Prod.snd (addNode_state d raw)
  rw [readNode_fst] at hstate
  change (d.addNode raw).adopted = _ at hstate
  rw [hstate, definitionOf?]
  cases (Node.ofJson raw).toOption.join with
  | none => simp [Draft.state]
  | some node =>
    cases node with
    | contract c => cases hadopted : d.adopted <;> simp [Draft.enter, Draft.state, hadopted]
    | _ => simp [Draft.enter, Draft.state]

/-! ## All nodes -/

/-- The nodes of a source unit take more calls than there is room for: the warning about a malformed
one does, or a member of the first definition among them, if none has been adopted before. -/
inductive Overflows (s : Stack) (adopted : Bool) (nodes : List Json) : Prop
  | warning {raw : Json} {violations : List Schema.Violation} (hmem : raw ∈ nodes)
      (hraw : Node.ofJson raw = .error violations) (hdeep : s.room < warningCalls raw)
  | member {definition : ContractNode} {raw : Json} (hfree : adopted = false)
      (hfirst : ((parsed nodes).filterMap Node.contract?).head? = some definition)
      (hmem : raw ∈ definition.members) (hdeep : s.room < memberCalls s.record raw)

theorem holds_eq_false {calls : Nat} : s.holds calls = false ↔ s.room < calls := by
  rw [Stack.holds, decide_eq_false_iff_not, Nat.not_le]

theorem firstDefinition_cons (raw : Json) (rest : List Json) :
    ((parsed (raw :: rest)).filterMap Node.contract?).head? =
      (definitionOf? raw).or ((parsed rest).filterMap Node.contract?).head? := by
  rw [parsed_cons, readNode_fst, definitionOf?, List.filterMap_append, List.head?_append]
  cases (Node.ofJson raw).toOption.join with
  | none => rfl
  | some node => cases node <;> rfl

/-- Only a definition that is to be adopted, or a malformed node, can take too many calls. -/
theorem nodeHolds_eq_false {adopted : Bool} {raw : Json} : nodeHolds s adopted raw = false ↔
    (∃ violations, Node.ofJson raw = .error violations ∧ s.room < warningCalls raw) ∨
      adopted = false ∧ ∃ definition, definitionOf? raw = some definition ∧
        ∃ member ∈ definition.members, s.room < memberCalls s.record member := by
  unfold nodeHolds definitionOf?
  cases Node.ofJson raw with
  | error violations => simp [holds_eq_false, Except.toOption]
  | ok node =>
    cases node with
    | none => simp [Except.toOption]
    | some node => cases node <;> simp [Except.toOption, memberHolds, holds_eq_false]

theorem overflows_cons {adopted : Bool} {raw : Json} {rest : List Json} :
    Overflows s adopted (raw :: rest) ↔ nodeHolds s adopted raw = false ∨
      Overflows s (adopted || (definitionOf? raw).isSome) rest := by
  rw [nodeHolds_eq_false]
  constructor
  · rintro (⟨hmem, hraw, hdeep⟩ | ⟨hfree, hfirst, hmem, hdeep⟩)
    · cases hmem with
      | head => exact .inl (.inl ⟨_, hraw, hdeep⟩)
      | tail _ hmem => exact .inr (.warning hmem hraw hdeep)
    · rw [firstDefinition_cons] at hfirst
      cases hdefinition : definitionOf? raw with
      | none =>
        rw [hdefinition, Option.none_or] at hfirst
        exact .inr (.member (by rw [hfree]; rfl) hfirst hmem hdeep)
      | some definition =>
        rw [hdefinition, Option.some_or] at hfirst
        obtain rfl := Option.some.inj hfirst
        exact .inl (.inr ⟨hfree, _, rfl, _, hmem, hdeep⟩)
  · rintro ((⟨violations, hraw, hdeep⟩ | ⟨hfree, definition, hdefinition, member, hmem, hdeep⟩) | hrest)
    · exact .warning List.mem_cons_self hraw hdeep
    · refine .member hfree ?_ hmem hdeep
      rw [firstDefinition_cons, hdefinition, Option.some_or]
    · cases hrest with
      | warning hmem hraw hdeep => exact .warning (List.mem_cons_of_mem _ hmem) hraw hdeep
      | member hfree hfirst hmem hdeep =>
        obtain ⟨hadopted, hnone⟩ := Bool.or_eq_false_iff.mp hfree
        refine .member hadopted ?_ hmem hdeep
        rw [Option.isSome_eq_false_iff, Option.isNone_iff_eq_none] at hnone
        rw [firstDefinition_cons, hnone, Option.none_or]
        exact hfirst

/-- Going through nodes ends early exactly if one of them overflows; else it is the plain fold. -/
theorem foldlM_addNodeOn (raws : List Json) (d : Draft) :
    (Overflows s d.adopted raws → raws.foldlM (Draft.addNodeOn s) d = .error .tooDeep) ∧
      (¬Overflows s d.adopted raws →
        raws.foldlM (Draft.addNodeOn s) d = .ok (raws.foldl Draft.addNode d)) := by
  induction raws generalizing d with
  | nil =>
    refine ⟨?_, fun _ => rfl⟩
    rintro (⟨hmem, _, _⟩ | ⟨_, hfirst, _, _⟩)
    · cases hmem
    · cases hfirst
  | cons raw rest ih =>
    rw [List.foldlM_cons, addNodeOn_eq, overflows_cons, ← addNode_adopted]
    cases hholds : nodeHolds s d.adopted raw with
    | false => exact ⟨fun _ => rfl, fun h => absurd (.inl rfl) h⟩
    | true =>
      obtain ⟨herror, hok⟩ := ih (d.addNode raw)
      exact ⟨fun h => herror (h.resolve_left (by decide)), fun h => hok fun hrest => h (.inr hrest)⟩

/-! ## Documents -/

section Document

variable {path : Option String} {document : Json} {nodes : List Json}

theorem extract_of_noNodes (h : sourceNodes document = []) :
    extract s path document = .error (.document ⟨.noSyntaxTree, path⟩) := by
  rw [extract, h]
  rfl

theorem extract_of_overflows (hne : sourceNodes document ≠ [])
    (h : Overflows s false (sourceNodes document)) : extract s path document = .error .tooDeep := by
  have hfold := (foldlM_addNodeOn (sourceNodes document) (Draft.start document)).1 h
  rw [extract, if_neg (by simpa using hne), hfold]
  rfl

/-- Where there is room, extraction is what it is with room without end. -/
theorem extract_of_fits (hne : sourceNodes document ≠ [])
    (h : ¬Overflows s false (sourceNodes document)) {found : Contract × List Note}
    (hfound : extract? document = some found) : extract s path document = .ok found := by
  have hfold := (foldlM_addNodeOn (sourceNodes document) (Draft.start document)).2 h
  rw [extract?_eq_some hne] at hfound
  obtain rfl := Option.some.inj hfound
  rw [extract, if_neg (by simpa using hne), hfold]
  rfl

/-- Only a document without nodes has no syntax tree. -/
theorem extract_noSyntaxTree_iff :
    extract s path document = .error (.document ⟨.noSyntaxTree, path⟩) ↔
      ∀ nodes, TopLevel document nodes → nodes = [] := by
  rw [← extract?_eq_none_iff]
  constructor
  · intro h
    by_contra hsome
    obtain ⟨found, hfound⟩ := Option.ne_none_iff_exists'.mp hsome
    have hne : sourceNodes document ≠ [] := by
      rintro hnil
      simp [extract?, hnil] at hfound
    by_cases hdeep : Overflows s false (sourceNodes document)
    · rw [extract_of_overflows hne hdeep] at h
      cases h
    · rw [extract_of_fits hne hdeep hfound] at h
      cases h
  · intro h
    refine extract_of_noNodes ?_
    simpa [extract?] using h

end Document

/-! ## Enough room, and too little -/

/-- Nodes whose parts nest less than half as deep as there is room for calls are gone through. -/
theorem not_overflows_of_shallow (levels : Nat) {adopted : Bool} {nodes : List Json}
    (hroom : 2 * levels + (7 + s.record) ≤ s.room)
    (hnodes : ∀ raw ∈ nodes, (raw.field "id").levels ≤ levels)
    (hmembers : ∀ definition ∈ (parsed nodes).filterMap Node.contract?,
      ∀ raw ∈ definition.members, ShallowMember levels raw) : ¬Overflows s adopted nodes := by
  intro hover
  cases hover with
  | @warning raw _ hmem _ hdeep =>
    have hid := hnodes raw hmem
    have hshow := (raw.field "id").showCalls_le
    rw [warningCalls] at hdeep
    omega
  | @member definition raw _ hfirst hmem hdeep =>
    have hshallow := hmembers definition (List.mem_of_mem_head? hfirst) raw hmem
    have hcalls := memberCalls_le s.record hshallow
    omega

/-- A variable whose type is a mapping to a mapping, and so on. -/
def nestedMember (n : Nat) : Json :=
  rawNode "VariableDeclaration" [("name", .str "m"), ("typeName", nestedMapping (n + 1))]

def nestedUnit (n : Nat) : List Json :=
  [rawNode "ContractDefinition" [("name", .str "Deep"), ("nodes", .arr [nestedMember n])]]

def nestedDocument (n : Nat) : Json := .obj [("ast", .obj [("nodes", .arr (nestedUnit n))])]

theorem topLevel_nestedDocument (n : Nat) : TopLevel (nestedDocument n) (nestedUnit n) :=
  .artifact rfl rfl

theorem memberCalls_nestedMember (record n : Nat) : 2 * n < memberCalls record (nestedMember n) := by
  obtain ⟨v, hraw, htype⟩ : ∃ v, Node.ofJson (nestedMember n) = .ok (some (.declaration v)) ∧
      v.typeName = nestedMapping (n + 1) := ⟨_, rfl, rfl⟩
  have hcalls := TypeName.calls_nested record (n + 1)
  rw [memberCalls, hraw]
  change 2 * n < 2 + v.calls record
  rw [VariableNode.calls, htype, hcalls]
  omega

theorem overflows_nested {n : Nat} (h : s.room ≤ 2 * n) : Overflows s false (nestedUnit n) := by
  have hfirst : ((parsed (nestedUnit n)).filterMap Node.contract?).head? =
      some { name := "Deep", bases := [], members := [nestedMember n] } := rfl
  refine .member rfl hfirst (List.mem_singleton.mpr rfl) ?_
  exact Nat.lt_of_le_of_lt h (memberCalls_nestedMember s.record n)

/-- However much room there is, some document has a syntax tree and yet no contract. -/
theorem extract_nested (s : Stack) (path : Option String) :
    extract s path (nestedDocument s.room) = .error .tooDeep := by
  have hs := sourceNodes_eq_of_topLevel (topLevel_nestedDocument s.room)
  have hne : sourceNodes (nestedDocument s.room) ≠ [] := by
    rw [hs]
    exact List.cons_ne_nil _ _
  refine extract_of_overflows hne ?_
  rw [hs]
  exact overflows_nested (by omega)

/-! ## The law -/

/-- The law of documents. A document without nodes is reported as one without a syntax tree, and no
other is. Extraction from any other fails exactly where it takes more calls than there is room for;
else the contract has all imports in order, the last pragma, and from the first well-formed definition
the bases, the members and, where the document gives no name, the name; no other definition has a part
in it. -/
theorem extract_document (s : Stack) (path : Option String) (document : Json) :
    (extract s path document = .error (.document ⟨.noSyntaxTree, path⟩) ↔
      ∀ nodes, TopLevel document nodes → nodes = []) ∧
    ∀ nodes, TopLevel document nodes → nodes ≠ [] →
      (Overflows s false nodes → extract s path document = .error .tooDeep) ∧
      (¬Overflows s false nodes →
        let given := (document.field "contractName").textOrEmpty
        let pragma := (((parsed nodes).filterMap Node.pragma?).getLast?.map pragmaText).getD ""
        let imports := ((parsed nodes).filterMap Node.importDirective?).map ImportNode.decl
        ∃ c notes, extract s path document = .ok (c, notes) ∧
          match ((parsed nodes).filterMap Node.contract?).head? with
          | none => c = { name := given, pragma, imports }
          | some definition =>
            let name := if given ≠ "" then given else definition.name
            c = { name, pragma, imports, inherits := definition.bases : Contract }.withMembers
              (parsed definition.members)) := by
  refine ⟨extract_noSyntaxTree_iff, fun nodes hnodes hne => ?_⟩
  have hs := sourceNodes_eq_of_topLevel hnodes
  constructor
  · intro hdeep
    exact extract_of_overflows (by rwa [hs]) (by rwa [hs])
  · intro hfits
    obtain ⟨c, notes, hfound, hc⟩ := (extract?_document document).2 nodes hnodes hne
    exact ⟨c, notes, extract_of_fits (by rwa [hs]) (by rwa [hs]) hfound, hc⟩

/-- Room enough for one document, and too little for another. -/
def scantStack : Stack := { room := 20 }

theorem extract_document_vault :
    (¬Overflows scantStack false rawVault ∧
      ∃ c notes, extract scantStack none vaultDocument = .ok (c, notes) ∧ c.name = "Vault" ∧
        c.pragma = "pragma solidity^0.8.0;" ∧ c.enums = []) ∧
    Overflows scantStack false (nestedUnit 10) ∧
      extract scantStack none (nestedDocument 10) = .error .tooDeep := by
  have htop : TopLevel vaultDocument rawVault := .artifact rfl rfl
  have hfits : ¬Overflows scantStack false rawVault :=
    not_overflows_of_shallow 2 (by decide) (by decide) (by decide +kernel)
  have hdeep : Overflows scantStack false (nestedUnit 10) := overflows_nested (by decide)
  refine ⟨⟨hfits, ?_⟩, hdeep, ?_⟩
  · obtain ⟨c, notes, hc, hm⟩ :=
      ((extract_document scantStack none vaultDocument).2 rawVault htop (by decide)).2 hfits
    refine ⟨c, notes, hc, ?_⟩
    change c = _ at hm
    rw [hm]
    exact ⟨by decide, by decide, by decide +kernel⟩
  · have hnested := topLevel_nestedDocument 10
    exact ((extract_document scantStack none _).2 _ hnested (List.cons_ne_nil _ _)).1 hdeep

end ContractAtlas
