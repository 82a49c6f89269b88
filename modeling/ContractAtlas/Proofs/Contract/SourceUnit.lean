import ContractAtlas.Proofs.Contract.Members

/-!
What the nodes of a source unit make of a contract. Imports gather, the last pragma stays, and the
first well-formed definition is adopted for good (`foldl_enter_imports`, `foldl_enter_pragma`,
`foldl_enter_body`). From these come the two laws of extraction where there is always room: which
documents have a contract and what it consists of (`extract?_document`), and that its members are the
well-formed members of the adopted definition, each in the collection of its kind (`extract?_members`).
-/
namespace ContractAtlas
set_option autoImplicit false
open Source

/-! ## One node -/

/-- A contract that adopts a definition. -/
def Contract.adopting (c : Contract) (definition : ContractNode) : Contract :=
  { c with
    name := if c.name = "" then definition.name else c.name
    inherits := c.inherits ++ definition.bases }.withMembers (parsed definition.members)

theorem adopt_contract (d : Draft) (definition : ContractNode) :
    (d.adopt definition).contract = d.contract.adopting definition := by
  rw [Draft.adopt, foldl_addMember]
  rfl

theorem adopt_adopted (d : Draft) (definition : ContractNode) :
    (d.adopt definition).adopted = true := by
  rw [Draft.adopt, foldl_addMember_adopted]
  rfl

/-- What a node does to the contract and to whether a definition has been adopted. -/
def Draft.enter (s : Contract × Bool) : Node → Contract × Bool
  | .pragma literals => ({ s.1 with pragma := pragmaText literals }, s.2)
  | .importDirective i => ({ s.1 with imports := s.1.imports ++ [i.decl] }, s.2)
  | .contract definition => if s.2 then s else (s.1.adopting definition, true)
  | _ => s

def Draft.state (d : Draft) : Contract × Bool := (d.contract, d.adopted)

theorem addNode_state (d : Draft) (raw : Json) :
    (d.addNode raw).state = (readNode raw).1.toList.foldl Draft.enter d.state := by
  unfold Draft.addNode Draft.state
  cases hn : (readNode raw).1 with
  | none => simp [hn, Draft.note]
  | some node =>
    cases node with
    | contract definition =>
      by_cases ha : d.adopted = true
      · simp [hn, ha, Draft.note, Draft.enter]
      · simp [hn, ha, Draft.note, Draft.enter, adopt_contract, adopt_adopted]
    | _ => simp [hn, Draft.note, Draft.enter]

/-! ## All nodes -/

theorem foldl_addNode_state (raws : List Json) (d : Draft) :
    (raws.foldl Draft.addNode d).state = (parsed raws).foldl Draft.enter d.state := by
  induction raws generalizing d with
  | nil => rfl
  | cons raw raws ih => rw [List.foldl_cons, ih, addNode_state, parsed_cons, List.foldl_append]

theorem enter_imports (s : Contract × Bool) (node : Node) :
    (Draft.enter s node).1.imports =
      s.1.imports ++ (node.importDirective?.map ImportNode.decl).toList := by
  cases node with
  | contract definition =>
    cases h : s.2 <;> simp [Draft.enter, h, Contract.adopting, Contract.withMembers]
  | _ => simp [Draft.enter]

theorem enter_pragma (s : Contract × Bool) (node : Node) :
    some (Draft.enter s node).1.pragma = (node.pragma?.map pragmaText).or (some s.1.pragma) := by
  cases node with
  | contract definition =>
    cases h : s.2 <;> simp [Draft.enter, h, Contract.adopting, Contract.withMembers]
  | _ => simp [Draft.enter]

theorem foldl_enter_imports (nodes : List Node) (s : Contract × Bool) :
    (nodes.foldl Draft.enter s).1.imports =
      s.1.imports ++ (nodes.filterMap Node.importDirective?).map ImportNode.decl := by
  rw [foldl_gather Draft.enter (fun s => s.1.imports) enter_imports nodes s, ← List.map_filterMap]

theorem foldl_enter_pragma (nodes : List Node) (s : Contract × Bool) :
    (nodes.foldl Draft.enter s).1.pragma =
      ((nodes.filterMap Node.pragma?).getLast?.map pragmaText).getD s.1.pragma := by
  have h := foldl_last Draft.enter (fun s => some s.1.pragma) enter_pragma nodes s
  rw [← List.map_filterMap, List.getLast?_map, Option.or_some] at h
  exact Option.some.inj h

/-- A contract but for what comes from around its definition. -/
def Contract.body (c : Contract) : Contract := { c with pragma := "", imports := [] }

theorem foldl_enter_body_of_adopted (nodes : List Node) (s : Contract × Bool) (hs : s.2 = true) :
    (nodes.foldl Draft.enter s).1.body = s.1.body := by
  induction nodes generalizing s with
  | nil => rfl
  | cons node nodes ih =>
    rw [List.foldl_cons]
    cases node with
    | contract definition =>
      simp [Draft.enter, hs, ih s hs]
    | _ => exact ih _ hs

/-- The first definition is adopted, and no later one adds to it. -/
theorem foldl_enter_body (nodes : List Node) (c : Contract) :
    (nodes.foldl Draft.enter (c, false)).1.body =
      match (nodes.filterMap Node.contract?).head? with
      | none => c.body
      | some definition => c.body.adopting definition := by
  induction nodes generalizing c with
  | nil => rfl
  | cons node nodes ih =>
    rw [List.foldl_cons]
    cases node with
    | contract definition => exact foldl_enter_body_of_adopted nodes (c.adopting definition, true) rfl
    | _ => exact ih _

/-! ## Documents -/

/-- The nodes at the top of a document: those under `ast`, if that is an object, else those of the
document itself, if it is tagged as a source unit. -/
inductive TopLevel (document : Json) : List Json → Prop
  | artifact {fields : List (String × Json)} {nodes : List Json}
      (hast : document.field "ast" = .obj fields)
      (hnodes : (Json.obj fields).field "nodes" = .arr nodes) :
      TopLevel document nodes
  | unit {nodes : List Json} (hast : (document.field "ast").isObject = false)
      (htag : document.field "nodeType" = .str "SourceUnit")
      (hnodes : document.field "nodes" = .arr nodes) :
      TopLevel document nodes

theorem sourceNodes_eq_of_topLevel {document : Json} {nodes : List Json}
    (h : TopLevel document nodes) : sourceNodes document = nodes := by
  cases h with
  | artifact hast hnodes => simp [sourceNodes, hast, Json.isObject, hnodes, Json.items]
  | unit hast htag hnodes =>
    simp [sourceNodes, hast, Json.kind, htag, Json.textOrEmpty, Json.text?, hnodes, Json.items]

theorem topLevel_sourceNodes {document : Json} (h : sourceNodes document ≠ []) :
    TopLevel document (sourceNodes document) := by
  unfold sourceNodes at h ⊢
  split at h
  case isTrue hast =>
    rw [if_pos hast]
    have hobj := Json.eq_obj_of_isObject hast
    have harr := Json.eq_arr_of_items_ne_nil h
    exact .artifact hobj (hobj ▸ harr)
  case isFalse hast =>
    split at h
    case isTrue htag =>
      rw [if_neg hast, if_pos htag]
      have hkind : (document.field "nodeType").textOrEmpty = "SourceUnit" := htag
      have hne : (document.field "nodeType").textOrEmpty ≠ "" := by rw [hkind]; decide
      have hstr := Json.eq_str_of_textOrEmpty_ne_empty hne
      rw [hkind] at hstr
      exact .unit (by simpa using hast) hstr (Json.eq_arr_of_items_ne_nil h)
    case isFalse => exact absurd rfl h

/-- A document has a contract exactly if it has any nodes at its top. -/
theorem extract?_eq_none_iff (document : Json) :
    extract? document = none ↔ ∀ nodes, TopLevel document nodes → nodes = [] := by
  constructor
  · intro h nodes hnodes
    rw [← sourceNodes_eq_of_topLevel hnodes]
    simpa [extract?] using h
  · intro h
    have hs : sourceNodes document = [] := by
      by_cases hs : sourceNodes document = []
      · exact hs
      · exact h _ (topLevel_sourceNodes hs)
    simp [extract?, hs]

/-- The definition that a document's contract is read from: the first that is well-formed. -/
def definition? (document : Json) : Option ContractNode :=
  ((parsed (sourceNodes document)).filterMap Node.contract?).head?

/-- The contract in which only the name given by the document is known. -/
def titled (document : Json) : Contract :=
  { Contract.empty with name := (document.field "contractName").textOrEmpty }

/-- What the nodes of a document make of its contract, its three parts by themselves. -/
theorem draftOf_contract (document : Json) :
    (draftOf document).contract =
      let nodes := parsed (sourceNodes document)
      { ((definition? document).elim (titled document) (titled document).adopting) with
        pragma := ((nodes.filterMap Node.pragma?).getLast?.map pragmaText).getD ""
        imports := (nodes.filterMap Node.importDirective?).map ImportNode.decl } := by
  have hstate := foldl_addNode_state (sourceNodes document) ⟨titled document, false, []⟩
  have hc : (draftOf document).contract =
      ((parsed (sourceNodes document)).foldl Draft.enter (titled document, false)).1 :=
    congrArg Prod.fst hstate
  have himports := foldl_enter_imports (parsed (sourceNodes document)) (titled document, false)
  have hpragma := foldl_enter_pragma (parsed (sourceNodes document)) (titled document, false)
  have hbody := foldl_enter_body (parsed (sourceNodes document)) (titled document)
  rw [← hc] at himports hpragma hbody
  have split : ∀ c : Contract, c = { c.body with pragma := c.pragma, imports := c.imports } :=
    fun c => rfl
  rw [split (draftOf document).contract, himports, hpragma, hbody]
  unfold definition?
  cases ((parsed (sourceNodes document)).filterMap Node.contract?).head? with
  | none => rfl
  | some definition => rfl

theorem extract?_eq_some {document : Json} (h : sourceNodes document ≠ []) :
    extract? document = some ((draftOf document).contract, (draftOf document).notes) := by
  rw [extract?, if_neg (by simpa using h)]

theorem contract_of_extract? {document : Json} {c : Contract} {notes : List Note}
    (h : extract? document = some (c, notes)) : c = (draftOf document).contract := by
  unfold extract? at h
  split at h
  case isTrue => simp at h
  case isFalse =>
    have hpair := Option.some.inj h
    exact (congrArg Prod.fst hpair).symm

/-- The contract of a document with a definition, as far as its members go. -/
theorem members_of_extract? {document : Json} {c : Contract} {notes : List Note}
    {definition : ContractNode} (hc : extract? document = some (c, notes))
    (hd : definition? document = some definition) :
    c = Contract.withMembers ⟨c.name, c.pragma, c.imports, c.inherits, none, [], [], [], [], [], [], []⟩
      (parsed definition.members) := by
  rw [contract_of_extract? hc, draftOf_contract, hd]
  rfl

/-- A declaration counts as a mapping exactly if its type is read as one. -/
theorem type_of_isMapping {v : VariableNode} (h : v.isMapping = true) :
    v.type =
      .mapping (.ofJson (v.typeName.field "keyType")) (.ofJson (v.typeName.field "valueType")) := by
  have hkind : v.typeName.kind = "Mapping" := by simpa [VariableNode.isMapping] using h
  cases ht : v.typeName with
  | obj fields =>
    rw [ht] at hkind
    rw [VariableNode.type, ht, TypeName.ofJson, hkind]
    rfl
  | _ => simp [ht, Json.kind, Json.field, Json.get?, Json.fields, Json.textOrEmpty, Json.text?] at hkind

/-! ## The two laws -/

/-- The law of documents, room aside. Only a document without nodes has no contract. That of any other
has all its imports in order, its last pragma, and from the first well-formed definition the bases,
the members and, where the document gives no name, the name; no other definition has a part in it. -/
theorem extract?_document (document : Json) :
    (extract? document = none ↔ ∀ nodes, TopLevel document nodes → nodes = []) ∧
    ∀ nodes, TopLevel document nodes → nodes ≠ [] →
      let given := (document.field "contractName").textOrEmpty
      let pragma := (((parsed nodes).filterMap Node.pragma?).getLast?.map pragmaText).getD ""
      let imports := ((parsed nodes).filterMap Node.importDirective?).map ImportNode.decl
      ∃ c notes, extract? document = some (c, notes) ∧
        match ((parsed nodes).filterMap Node.contract?).head? with
        | none => c = { name := given, pragma, imports }
        | some definition =>
          let name := if given ≠ "" then given else definition.name
          c = { name, pragma, imports, inherits := definition.bases : Contract }.withMembers
            (parsed definition.members) := by
  refine ⟨extract?_eq_none_iff document, ?_⟩
  intro nodes hnodes hne given pragma imports
  have hs := sourceNodes_eq_of_topLevel hnodes
  refine ⟨_, _, extract?_eq_some (hs ▸ hne), ?_⟩
  rw [draftOf_contract, definition?, hs]
  cases ((parsed nodes).filterMap Node.contract?).head? with
  | none => rfl
  | some definition =>
    have hname : (if given = "" then definition.name else given) =
        if given ≠ "" then given else definition.name := by rw [ite_not]
    simp only [Option.elim, Contract.adopting, titled, Contract.empty, List.nil_append]
    rw [← hname]
    rfl

/-- A node of a kind with further fields. -/
def rawNode (kind : String) (fields : List (String × Json)) : Json :=
  .obj (("nodeType", .str kind) :: fields)

def rawVault : List Json := [
  rawNode "PragmaDirective" [("literals", .arr [.str "solidity"])],
  rawNode "ContractDefinition" [("name", .int 7)],
  rawNode "ContractDefinition" [("name", .str "Vault"), ("nodes", .arr [
    rawNode "VariableDeclaration" [("name", .str "held"), ("typeName", rawNode "Mapping" [
      ("keyType", rawNode "ElementaryTypeName" [("name", .str "address")])])],
    rawNode "FunctionDefinition" [("kind", .str "constructor"), ("visibility", .str "internal")],
    .int 3,
    rawNode "VariableDeclaration" [("name", .null), ("stateVariable", .str "maybe")],
    rawNode "ImportDirective" [],
    rawNode "EventDefinition" [("name", .str "Paid"), ("parameters", .arr [
      rawNode "VariableDeclaration" [("name", .str "to"), ("indexed", .bool true)]])],
    rawNode "FunctionDefinition" [("kind", .str "constructor"), ("visibility", .str "public")]])],
  rawNode "ContractDefinition" [("name", .str "Other"), ("nodes", .arr [rawNode "EnumDefinition" []])],
  rawNode "PragmaDirective" [("literals", .arr [.str "solidity", .str "^0.8.0"])]]

def vaultDocument : Json := .obj [("ast", .obj [("nodes", .arr rawVault)])]

/-- The members of a contract are those of a list of nodes, each in the collection of its kind. -/
structure Contract.Places (c : Contract) (members : List Node) : Prop where
  mappings : c.mappings =
    ((members.filterMap Node.declaration?).filter VariableNode.isMapping).map VariableNode.decl
  stateVariables : c.stateVariables =
    ((members.filterMap Node.declaration?).filter fun v => !v.isMapping).map VariableNode.decl
  functions : c.functions =
    ((members.filterMap Node.function?).filter fun f => f.kind ≠ "constructor").map FunctionNode.decl
  constructor : c.constructor =
    ((members.filterMap Node.function?).filter fun f => f.kind = "constructor").getLast?.map
      FunctionNode.decl
  events : c.events = (members.filterMap Node.event?).map SignatureNode.event
  modifiers : c.modifiers = (members.filterMap Node.modifier?).map SignatureNode.modifier
  structs : c.structs = (members.filterMap Node.struct?).map StructNode.decl
  enums : c.enums = (members.filterMap Node.enum?).map EnumNode.decl

theorem places_withMembers (name pragma : String) (imports : List ImportDecl) (inherits : List String)
    (members : List Node) :
    ({ name, pragma, imports, inherits } : Contract).withMembers members |>.Places members where
  mappings := List.nil_append _
  stateVariables := List.nil_append _
  functions := List.nil_append _
  constructor := Option.or_none.trans List.getLast?_map
  events := List.nil_append _
  modifiers := List.nil_append _
  structs := List.nil_append _
  enums := List.nil_append _

/-- The law of members. The contract of a document places the well-formed members of the adopted
definition. The type of each mapping is made of the types of its keys and values; each function,
event and modifier has one parameter per declaration in its list. -/
theorem extract?_members {document : Json} {c : Contract} {notes : List Note}
    {definition : ContractNode} (hc : extract? document = some (c, notes))
    (hd : definition? document = some definition) :
    let members := parsed definition.members
    let shown := fun v : VariableNode =>
      Parameter.mk v.name (TypeName.ofJson v.typeName).text v.indexed
    c.Places members ∧
    (∀ v ∈ c.mappings, ∃ node ∈ members.filterMap Node.declaration?, v = node.decl ∧
      v.type = "mapping(" ++ (TypeName.ofJson (node.typeName.field "keyType")).text ++ " => " ++
        (TypeName.ofJson (node.typeName.field "valueType")).text ++ ")") ∧
    (∀ f ∈ c.functions ++ c.constructor.toList, ∃ node ∈ members.filterMap Node.function?,
      f = node.decl ∧ f.parameters = node.parameters.map shown ∧
        f.returnParameters = node.returnParameters.map shown) ∧
    (∀ e ∈ c.events, ∃ node ∈ members.filterMap Node.event?,
      e = node.event ∧ e.parameters = node.parameters.map shown) ∧
    (∀ m ∈ c.modifiers, ∃ node ∈ members.filterMap Node.modifier?,
      m = node.modifier ∧ m.parameters = node.parameters.map shown) ∧
    (∀ s ∈ c.structs, ∃ node ∈ members.filterMap Node.struct?,
      s = node.decl ∧ s.members = node.members.map VariableNode.decl) ∧
    ∀ e ∈ c.enums, ∃ node ∈ members.filterMap Node.enum?,
      e = node.decl ∧
        e.values = (node.members.filter fun value => value.kind == "EnumValue").map (·.name) := by
  intro members shown
  have places : c.Places members := by
    rw [members_of_extract? hc hd]
    exact places_withMembers _ _ _ _ _
  refine ⟨places, ?_, ?_, ?_, ?_, ?_, ?_⟩
  · intro v hv
    rw [places.mappings, List.mem_map] at hv
    obtain ⟨node, hnode, rfl⟩ := hv
    obtain ⟨hmem, hmapping⟩ := List.mem_filter.mp hnode
    refine ⟨node, hmem, rfl, ?_⟩
    rw [VariableNode.decl, type_of_isMapping hmapping, TypeName.text]
  · intro f hf
    rw [places.functions, places.constructor, List.mem_append] at hf
    cases hf with
    | inl hf =>
      obtain ⟨node, hnode, rfl⟩ := List.mem_map.mp hf
      exact ⟨node, (List.mem_filter.mp hnode).1, rfl, rfl, rfl⟩
    | inr hf =>
      obtain ⟨node, hnode, rfl⟩ := Option.map_eq_some_iff.mp (Option.mem_toList.mp hf)
      exact ⟨node, (List.mem_filter.mp (List.mem_of_getLast? hnode)).1, rfl, rfl, rfl⟩
  · intro e he
    rw [places.events] at he
    obtain ⟨node, hnode, rfl⟩ := List.mem_map.mp he
    exact ⟨node, hnode, rfl, rfl⟩
  · intro m hm
    rw [places.modifiers] at hm
    obtain ⟨node, hnode, rfl⟩ := List.mem_map.mp hm
    exact ⟨node, hnode, rfl, rfl⟩
  · intro s hs
    rw [places.structs] at hs
    obtain ⟨node, hnode, rfl⟩ := List.mem_map.mp hs
    exact ⟨node, hnode, rfl, rfl⟩
  · intro e he
    rw [places.enums] at he
    obtain ⟨node, hnode, rfl⟩ := List.mem_map.mp he
    exact ⟨node, hnode, rfl, rfl⟩

theorem extract?_members_vault :
    ∃ c notes definition, extract? vaultDocument = some (c, notes) ∧
      definition? vaultDocument = some definition ∧ definition.members.length = 7 ∧
      c.mappings.map VariableDecl.name = ["held"] ∧ c.stateVariables.length = 0 ∧
      c.constructor.map FunctionDecl.visibility = some "public" ∧
      c.events.map (fun e => (e.name, e.parameters.length)) = [("Paid", 1)] := by
  obtain ⟨c, notes, hc⟩ : ∃ c notes, extract? vaultDocument = some (c, notes) :=
    ⟨_, _, extract?_eq_some (by decide)⟩
  obtain ⟨definition, hd⟩ : ∃ definition, definition? vaultDocument = some definition := ⟨_, rfl⟩
  have places := (extract?_members hc hd).1
  refine ⟨c, notes, definition, hc, hd, ?_⟩
  rw [places.mappings, places.stateVariables, places.constructor, places.events]
  obtain rfl := Option.some.inj hd
  decide +kernel

end ContractAtlas
