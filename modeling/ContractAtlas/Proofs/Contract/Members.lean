import ContractAtlas.Contract.Extraction
import ContractAtlas.Proofs.Fold

/-!
Where the members of a definition go. A typed node is looked at as one of its kinds (`declaration?`,
`function?`, ...); the fold that sorts members into a contract then adds to each collection the
members of its kinds, in order, and nothing else, and keeps the last constructor
(`foldl_receive`). Malformed nodes take no part (`parsed`).
-/
namespace ContractAtlas
set_option autoImplicit false
open Source

/-! ## Nodes by kind -/

namespace Source.Node

@[simp] def pragma? : Node → Option (List String)
  | .pragma literals => some literals
  | _ => none

@[simp] def importDirective? : Node → Option ImportNode
  | .importDirective i => some i
  | _ => none

@[simp] def contract? : Node → Option ContractNode
  | .contract c => some c
  | _ => none

@[simp] def declaration? : Node → Option VariableNode
  | .declaration v => some v
  | _ => none

@[simp] def function? : Node → Option FunctionNode
  | .function f => some f
  | _ => none

@[simp] def event? : Node → Option SignatureNode
  | .event s => some s
  | _ => none

@[simp] def modifier? : Node → Option SignatureNode
  | .modifier s => some s
  | _ => none

@[simp] def struct? : Node → Option StructNode
  | .struct s => some s
  | _ => none

@[simp] def enum? : Node → Option EnumNode
  | .enum e => some e
  | _ => none

end Source.Node

/-- The nodes of a known kind that are well-formed, in order. -/
def parsed (raws : List Json) : List Node :=
  raws.filterMap fun raw => (Node.ofJson raw).toOption.join

theorem readNode_fst (raw : Json) : (readNode raw).1 = (Node.ofJson raw).toOption.join := by
  rw [readNode]
  cases Node.ofJson raw with
  | ok node => rfl
  | error violations => rfl

theorem parsed_cons (raw : Json) (raws : List Json) :
    parsed (raw :: raws) = (readNode raw).1.toList ++ parsed raws := by
  rw [readNode_fst]
  cases h : (Node.ofJson raw).toOption.join with
  | none => simp [parsed, h]
  | some node => simp [parsed, h]

/-! ## One member -/

/-- Takes a node in where it belongs; a node that is no member changes nothing. -/
def Contract.receive (c : Contract) (node : Node) : Contract := (c.place? node).getD c

theorem addMember_of_placed {d : Draft} {raw : Json} {node : Node} {c : Contract}
    (hn : (readNode raw).1 = some node) (hc : d.contract.place? node = some c) :
    d.addMember raw =
      ⟨c, d.adopted, d.notes ++ (readNode raw).2 ++ node.unread.map Note.unreadable⟩ := by
  simp [Draft.addMember, Draft.note, hn, hc]

theorem addMember_of_unplaced {d : Draft} {raw : Json}
    (h : ∀ node, (readNode raw).1 = some node → d.contract.place? node = none) :
    d.addMember raw =
      ⟨d.contract, d.adopted, d.notes ++ (readNode raw).2 ++ [.skippedMember raw]⟩ := by
  cases hn : (readNode raw).1 with
  | none => simp [Draft.addMember, Draft.note, hn]
  | some node => simp [Draft.addMember, Draft.note, hn, h node hn]

theorem addMember_contract (d : Draft) (raw : Json) :
    (d.addMember raw).contract = (readNode raw).1.toList.foldl Contract.receive d.contract := by
  cases hn : (readNode raw).1 with
  | none =>
    rw [addMember_of_unplaced (by simp [hn])]
    rfl
  | some node =>
    cases hc : d.contract.place? node with
    | none =>
      rw [addMember_of_unplaced (by simp [hn, hc])]
      simp [Contract.receive, hc]
    | some c =>
      rw [addMember_of_placed hn hc]
      simp [Contract.receive, hc]

theorem addMember_adopted (d : Draft) (raw : Json) : (d.addMember raw).adopted = d.adopted := by
  by_cases h : ∃ node c, (readNode raw).1 = some node ∧ d.contract.place? node = some c
  · obtain ⟨node, c, hn, hc⟩ := h
    rw [addMember_of_placed hn hc]
  · rw [addMember_of_unplaced]
    intro node hn
    cases hc : d.contract.place? node with
    | none => rfl
    | some c => exact absurd ⟨node, c, hn, hc⟩ h

/-! ## All members -/

theorem foldl_addMember_contract (raws : List Json) (d : Draft) :
    (raws.foldl Draft.addMember d).contract = (parsed raws).foldl Contract.receive d.contract := by
  induction raws generalizing d with
  | nil => rfl
  | cons raw raws ih =>
    rw [List.foldl_cons, ih, addMember_contract, parsed_cons, List.foldl_append]

theorem foldl_addMember_adopted (raws : List Json) (d : Draft) :
    (raws.foldl Draft.addMember d).adopted = d.adopted :=
  foldl_keep Draft.addMember Draft.adopted addMember_adopted raws d

/-! ## Collections -/

/-- What a node adds to each collection of a contract. -/
theorem receive_eq (c : Contract) (node : Node) :
    c.receive node =
      { c with
        constructor :=
          ((node.function?.filter fun f => f.kind = "constructor").map FunctionNode.decl).or
            c.constructor
        stateVariables := c.stateVariables ++
          ((node.declaration?.filter fun v => !v.isMapping).map VariableNode.decl).toList
        mappings := c.mappings ++
          ((node.declaration?.filter VariableNode.isMapping).map VariableNode.decl).toList
        functions := c.functions ++
          ((node.function?.filter fun f => f.kind ≠ "constructor").map FunctionNode.decl).toList
        events := c.events ++ (node.event?.map SignatureNode.event).toList
        modifiers := c.modifiers ++ (node.modifier?.map SignatureNode.modifier).toList
        structs := c.structs ++ (node.struct?.map StructNode.decl).toList
        enums := c.enums ++ (node.enum?.map EnumNode.decl).toList } := by
  cases node with
  | declaration v =>
    by_cases h : v.isMapping = true
    · simp [Contract.receive, Contract.place?, Option.filter, h]
    · simp [Contract.receive, Contract.place?, Option.filter, h]
  | function f =>
    have hf : f.decl.isConstructor = (f.kind == "constructor") := rfl
    by_cases h : f.kind = "constructor"
    · simp [Contract.receive, Contract.place?, Option.filter, hf, h]
    · simp [Contract.receive, Contract.place?, Option.filter, hf, h]
  | _ => simp [Contract.receive, Contract.place?]

/-- A contract with members added, each collection by itself. -/
def Contract.withMembers (c : Contract) (members : List Node) : Contract :=
  let declarations := members.filterMap Node.declaration?
  let functions := members.filterMap Node.function?
  { c with
    constructor :=
      ((functions.filter fun f => f.kind = "constructor").map FunctionNode.decl).getLast?.or
        c.constructor
    stateVariables := c.stateVariables ++
      (declarations.filter fun v => !v.isMapping).map VariableNode.decl
    mappings := c.mappings ++
      (declarations.filter VariableNode.isMapping).map VariableNode.decl
    functions := c.functions ++
      (functions.filter fun f => f.kind ≠ "constructor").map FunctionNode.decl
    events := c.events ++ (members.filterMap Node.event?).map SignatureNode.event
    modifiers := c.modifiers ++ (members.filterMap Node.modifier?).map SignatureNode.modifier
    structs := c.structs ++ (members.filterMap Node.struct?).map StructNode.decl
    enums := c.enums ++ (members.filterMap Node.enum?).map EnumNode.decl }

attribute [ext] Contract

/-- A collection that takes in the nodes of a kind comes to hold all of them, in order. -/
theorem foldl_receive_kind {α β : Type} (get : Contract → List α) (kind? : Node → Option β) (f : β → α)
    (hstep : ∀ c node, get (c.receive node) = get c ++ ((kind? node).map f).toList)
    (members : List Node) (c : Contract) :
    get (members.foldl Contract.receive c) = get c ++ (members.filterMap kind?).map f := by
  rw [foldl_gather Contract.receive get hstep, ← List.map_filterMap]

/-- A collection that takes in some nodes of a kind comes to hold all of those. -/
theorem foldl_receive_some {α β : Type} (get : Contract → List α) (kind? : Node → Option β)
    (test : β → Bool) (f : β → α)
    (hstep : ∀ c node, get (c.receive node) = get c ++ (((kind? node).filter test).map f).toList)
    (members : List Node) (c : Contract) :
    get (members.foldl Contract.receive c) =
      get c ++ ((members.filterMap kind?).filter test).map f := by
  rw [foldl_gather Contract.receive get hstep, ← List.map_filterMap, ← List.filter_filterMap]

theorem foldl_receive (members : List Node) (c : Contract) :
    members.foldl Contract.receive c = c.withMembers members := by
  apply Contract.ext
  case name | pragma | imports | inherits =>
    exact foldl_keep Contract.receive _ (fun c node => by rw [receive_eq]) members c
  case constructor =>
    have h := foldl_last Contract.receive Contract.constructor (fun c node => by rw [receive_eq])
      members c
    rw [h, ← List.map_filterMap, ← List.filter_filterMap]
    rfl
  case stateVariables =>
    exact foldl_receive_some Contract.stateVariables Node.declaration? _ VariableNode.decl
      (fun c node => by rw [receive_eq]) members c
  case mappings =>
    exact foldl_receive_some Contract.mappings Node.declaration? _ VariableNode.decl
      (fun c node => by rw [receive_eq]) members c
  case functions =>
    exact foldl_receive_some Contract.functions Node.function? _ FunctionNode.decl
      (fun c node => by rw [receive_eq]) members c
  case events =>
    exact foldl_receive_kind Contract.events Node.event? SignatureNode.event
      (fun c node => by rw [receive_eq]) members c
  case modifiers =>
    exact foldl_receive_kind Contract.modifiers Node.modifier? SignatureNode.modifier
      (fun c node => by rw [receive_eq]) members c
  case structs =>
    exact foldl_receive_kind Contract.structs Node.struct? StructNode.decl
      (fun c node => by rw [receive_eq]) members c
  case enums =>
    exact foldl_receive_kind Contract.enums Node.enum? EnumNode.decl
      (fun c node => by rw [receive_eq]) members c

/-- The members of a definition, added to the draft they are read into. -/
theorem foldl_addMember (raws : List Json) (d : Draft) :
    (raws.foldl Draft.addMember d).contract = d.contract.withMembers (parsed raws) := by
  rw [foldl_addMember_contract, foldl_receive]

end ContractAtlas
