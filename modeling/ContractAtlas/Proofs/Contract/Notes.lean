import ContractAtlas.Proofs.Contract.SourceUnit

/-!
What an extraction leaves in the log. The notes on a document are those on its nodes, each by itself,
with those on the members of the definition that is adopted and one on each definition that is not
(`foldl_addNode_notes`). So contract and log balance: each node is shown by the contract or told of by
one record, and only a pragma or a constructor that a later one replaces leaves no trace
(`extract?_accounts`).
-/
namespace ContractAtlas
set_option autoImplicit false
open Source

/-! ## Remarks -/

/-- What the extraction has to say about a node. -/
inductive Remark where
  | malformed
  | ignoredDefinition
  | skippedNode
  | skippedMember
  deriving DecidableEq

namespace Remark

def level : Remark → Log.Level
  | .malformed => .warning
  | _ => .debug

def beginning : Remark → String
  | .malformed => "Skipping malformed "
  | .ignoredDefinition => "Ignoring additional contract definition: "
  | .skippedNode => "Skipping top-level node: "
  | .skippedMember => "Skipping contract member: "

/-- Whether a record of the log is this remark, by its level, its source and how its message begins. -/
def isMadeBy (remark : Remark) (r : Log.Record) : Bool :=
  r.level = remark.level && r.source = .extraction &&
    remark.beginning.toList.isPrefixOf r.message.toList

end Remark

def Note.remark? : Note → Option Remark
  | .unreadable _ => none
  | .malformed _ _ => some .malformed
  | .ignoredDefinition _ => some .ignoredDefinition
  | .skippedNode _ => some .skippedNode
  | .skippedMember _ => some .skippedMember

def Note.makes (remark : Remark) (note : Note) : Bool := note.remark? = some remark

/-- Remarks of one level do not begin alike. -/
theorem Remark.eq_of_prefix {remark other : Remark} (hlevel : remark.level = other.level)
    (h : remark.beginning.toList <+: other.beginning.toList) : remark = other := by
  revert hlevel h
  cases remark <;> cases other <;> decide +kernel

theorem record_of_remark {note : Note} {remark : Remark} (h : note.remark? = some remark) :
    ∃ rest, note.record = ⟨remark.level, .extraction, remark.beginning ++ rest⟩ := by
  cases note with
  | unreadable what => cases h
  | malformed raw violations =>
    cases h
    have hmessage : ∃ rest, (Note.malformed raw violations).message =
        "Skipping malformed " ++ rest := by
      unfold Note.message
      simp only [String.append_assoc]
      exact ⟨_, rfl⟩
    exact hmessage.imp fun rest h => congrArg (Log.Record.mk .warning .extraction) h
  | ignoredDefinition name =>
    cases h
    exact ⟨name, rfl⟩
  | skippedNode raw =>
    cases h
    exact ⟨raw.kindOr "<untyped>", rfl⟩
  | skippedMember raw =>
    cases h
    exact ⟨raw.kindOr "<untyped>", rfl⟩

theorem isMadeBy_record (remark : Remark) (note : Note) :
    remark.isMadeBy note.record = note.makes remark := by
  cases h : note.remark? with
  | none =>
    cases note with
    | unreadable what => simp [Remark.isMadeBy, Note.record, Unreadable.record, Note.makes, h]
    | _ => cases h
  | some other =>
    obtain ⟨rest, hrecord⟩ := record_of_remark h
    rw [hrecord, Remark.isMadeBy, Note.makes, h, Bool.eq_iff_iff]
    simp only [decide_true, Bool.and_true, Bool.and_eq_true, decide_eq_true_eq,
      List.isPrefixOf_iff_prefix, String.toList_append, Option.some.injEq]
    constructor
    · rintro ⟨hlevel, hprefix⟩
      obtain hle | hle := List.prefix_or_prefix_of_prefix hprefix (List.prefix_append _ _)
      · exact (Remark.eq_of_prefix hlevel.symm hle).symm
      · exact Remark.eq_of_prefix hlevel hle
    · rintro rfl
      exact ⟨rfl, List.prefix_append _ _⟩

theorem filter_makes_map {α : Type} {f : α → Note} {made : Option Remark}
    (hf : ∀ a, (f a).remark? = made) (remark : Remark) (xs : List α) :
    (xs.map f).filter (Note.makes remark) = if made = some remark then xs.map f else [] := by
  split
  case isTrue h =>
    rw [List.filter_eq_self, List.forall_mem_map]
    exact fun a _ => decide_eq_true ((hf a).trans h)
  case isFalse h =>
    rw [List.filter_eq_nil_iff, List.forall_mem_map]
    exact fun a _ made => h ((hf a).symm.trans (of_decide_eq_true made))

/-! ## Nodes that have no use -/

/-- A node of a known kind that does not fit the shape of its kind. -/
def Source.isMalformed (raw : Json) : Bool :=
  (kindOf? raw).any fun kind => (kind.shape.check raw).toOption.isNone

theorem Source.isMalformed_iff {raw : Json} :
    isMalformed raw = true ↔ ∃ violations, Node.ofJson raw = .error violations := by
  unfold isMalformed Node.ofJson
  cases kindOf? raw with
  | none => simp
  | some kind =>
    cases h : kind.shape.check raw with
    | ok record => simp [h, Except.toOption, Except.map]
    | error violations => simp [h, Except.toOption, Except.map]

theorem readNode_of_malformed {raw : Json} (h : isMalformed raw = true) :
    ∃ violations, readNode raw = (none, [.malformed raw violations]) := by
  obtain ⟨violations, hv⟩ := isMalformed_iff.mp h
  exact ⟨violations.length, by rw [readNode, hv]⟩

theorem readNode_snd_of_not_malformed {raw : Json} (h : isMalformed raw = false) :
    (readNode raw).2 = [] := by
  cases hv : Node.ofJson raw with
  | ok node => rw [readNode, hv]
  | error violations =>
    have hyes := isMalformed_iff.mpr ⟨violations, hv⟩
    rw [h] at hyes
    cases hyes

theorem filter_makes_readNode (remark : Remark) (raw : Json) :
    (readNode raw).2.filter (Note.makes remark) =
      if remark = .malformed then (readNode raw).2 else [] := by
  cases h : isMalformed raw with
  | true =>
    obtain ⟨violations, hread⟩ := readNode_of_malformed h
    rw [hread]
    cases remark <;> rfl
  | false => simp [readNode_snd_of_not_malformed h]

theorem length_readNode_snd (raw : Json) :
    (readNode raw).2.length = if isMalformed raw then 1 else 0 := by
  cases h : isMalformed raw with
  | true =>
    obtain ⟨violations, hread⟩ := readNode_of_malformed h
    rw [hread]
    rfl
  | false =>
    rw [readNode_snd_of_not_malformed h]
    rfl

/-- Nodes that have a use at the top of a document. -/
def Source.Node.fitsUnit : Node → Bool
  | .pragma _ | .importDirective _ | .contract _ => true
  | _ => false

/-- Nodes that have a use in a contract. -/
def Source.Node.fitsContract : Node → Bool
  | .declaration _ | .function _ | .event _ | .modifier _ | .struct _ | .enum _ => true
  | _ => false

/-- A node at the top of a document that is malformed, of an unknown kind, or out of place. -/
def isStrayNode (raw : Json) : Bool := !(readNode raw).1.any Node.fitsUnit

/-- The same of a member of a contract. -/
def isStrayMember (raw : Json) : Bool := !(readNode raw).1.any Node.fitsContract

theorem isStray_of_malformed {raw : Json} (h : isMalformed raw = true) :
    isStrayNode raw = true ∧ isStrayMember raw = true := by
  obtain ⟨violations, hread⟩ := readNode_of_malformed h
  simp [isStrayNode, isStrayMember, hread]

/-! ## The notes on the members of a definition -/

def memberNotes (raw : Json) : List Note :=
  (readNode raw).2 ++
    if isStrayMember raw then [.skippedMember raw]
    else ((readNode raw).1.elim [] Node.unread).map .unreadable

theorem place?_isSome (c : Contract) (node : Node) : (c.place? node).isSome = node.fitsContract := by
  cases node <;> rfl

theorem addMember_notes (d : Draft) (raw : Json) :
    (d.addMember raw).notes = d.notes ++ memberNotes raw := by
  cases hn : (readNode raw).1 with
  | none =>
    rw [addMember_of_unplaced (by simp [hn])]
    simp [memberNotes, isStrayMember, hn]
  | some node =>
    have hfits := place?_isSome d.contract node
    cases hc : d.contract.place? node with
    | none =>
      rw [addMember_of_unplaced (by simp [hn, hc])]
      rw [hc] at hfits
      simp [memberNotes, isStrayMember, hn, ← hfits]
    | some c =>
      rw [addMember_of_placed hn hc]
      rw [hc] at hfits
      simp [memberNotes, isStrayMember, hn, ← hfits]

theorem foldl_addMember_notes (raws : List Json) (d : Draft) :
    (raws.foldl Draft.addMember d).notes = d.notes ++ raws.flatMap memberNotes := by
  induction raws generalizing d with
  | nil => simp
  | cons raw raws ih =>
    rw [List.foldl_cons, ih, addMember_notes, List.flatMap_cons, List.append_assoc]

theorem adopt_notes (d : Draft) (definition : ContractNode) :
    (d.adopt definition).notes = d.notes ++ definition.members.flatMap memberNotes := by
  rw [Draft.adopt, foldl_addMember_notes]
  rfl

/-! ## The notes on the nodes of a document -/

def nodeNotes (raw : Json) : List Note :=
  (readNode raw).2 ++ if isStrayNode raw then [.skippedNode raw] else []

/-- How many definitions a draft can still adopt. -/
def Draft.room (d : Draft) : Nat := if d.adopted then 0 else 1

/-- The notes on definitions of which only so many are adopted. -/
def definitionNotes (room : Nat) (definitions : List ContractNode) : List Note :=
  (definitions.take room).flatMap (·.members.flatMap memberNotes) ++
    (definitions.drop room).map (.ignoredDefinition ·.name)

/-- The well-formed definitions among some nodes. -/
def definitions (raws : List Json) : List ContractNode := (parsed raws).filterMap Node.contract?

theorem definitions_cons (raw : Json) (raws : List Json) :
    definitions (raw :: raws) =
      ((readNode raw).1.bind Node.contract?).toList ++ definitions raws := by
  rw [definitions, parsed_cons, List.filterMap_append]
  cases (readNode raw).1 with
  | none => rfl
  | some node => cases node <;> rfl

theorem definitionNotes_cons (room : Nat) (definition : ContractNode)
    (definitions : List ContractNode) :
    definitionNotes room (definition :: definitions) =
      definitionNotes room [definition] ++ definitionNotes (room - 1) definitions := by
  cases room with
  | zero => rfl
  | succ room => simp [definitionNotes]

theorem addNode_notes_of_definition {d : Draft} {raw : Json} {definition : ContractNode}
    (h : (readNode raw).1.bind Node.contract? = some definition) :
    (d.addNode raw).notes = d.notes ++ nodeNotes raw ++ definitionNotes d.room [definition] ∧
      (d.addNode raw).room = 0 := by
  obtain ⟨node, hn, hnode⟩ := Option.bind_eq_some_iff.mp h
  cases node with
  | contract other =>
    obtain rfl := Option.some.inj hnode
    have hstray : isStrayNode raw = false := by simp [isStrayNode, hn, Node.fitsUnit]
    cases ha : d.adopted with
    | true =>
      simp [Draft.addNode, hn, ha, Draft.note, nodeNotes, hstray, Draft.room, definitionNotes]
    | false =>
      simp [Draft.addNode, hn, ha, Draft.note, nodeNotes, hstray, Draft.room, definitionNotes,
        adopt_notes, adopt_adopted]
  | _ => cases hnode

theorem addNode_notes_of_no_definition {d : Draft} {raw : Json}
    (h : (readNode raw).1.bind Node.contract? = none) :
    (d.addNode raw).notes = d.notes ++ nodeNotes raw ∧ (d.addNode raw).room = d.room := by
  cases hn : (readNode raw).1 with
  | none => simp [Draft.addNode, hn, Draft.note, nodeNotes, isStrayNode, Draft.room]
  | some node =>
    cases node with
    | contract definition => simp [hn] at h
    | _ =>
      simp [Draft.addNode, hn, Draft.note, nodeNotes, isStrayNode, Node.fitsUnit, Draft.room]

/-- The notes that a document's nodes leave: each node leaves its own, and each definition those of
its members or that it is ignored. -/
theorem foldl_addNode_notes (raws : List Json) (d : Draft) :
    (raws.foldl Draft.addNode d).notes.Perm
      (d.notes ++ raws.flatMap nodeNotes ++ definitionNotes d.room (definitions raws)) := by
  induction raws generalizing d with
  | nil => simp [definitions, parsed, definitionNotes]
  | cons raw raws ih =>
    rw [List.foldl_cons, List.flatMap_cons, definitions_cons]
    refine (ih (d.addNode raw)).trans ?_
    cases hd : (readNode raw).1.bind Node.contract? with
    | none =>
      obtain ⟨hnotes, hroom⟩ := addNode_notes_of_no_definition (d := d) hd
      rw [hnotes, hroom, List.append_assoc d.notes]
      rfl
    | some definition =>
      obtain ⟨hnotes, hroom⟩ := addNode_notes_of_definition (d := d) hd
      have hone : d.room - 1 = 0 := by
        unfold Draft.room
        split <;> rfl
      rw [hnotes, hroom, Option.toList_some, List.singleton_append,
        definitionNotes_cons _ _ (definitions raws), hone]
      simp only [List.append_assoc]
      -- the notes on the definition stand before those on the nodes behind it
      refine (List.Perm.append_left _ ?_).append_left _
      exact List.perm_append_comm_assoc _ _ _

/-! ## Notes by remark -/

theorem flatMap_ite_singleton {α β : Type} (test : α → Bool) (f : α → β) (xs : List α) :
    (xs.flatMap fun x => if test x then [f x] else []) = (xs.filter test).map f := by
  induction xs with
  | nil => rfl
  | cons x xs ih => cases h : test x <;> simp [h, ih]

/-- Of the notes on some nodes, those that make a remark: that a node is malformed, or the one that is
made of strays. -/
theorem filter_notes {stray : Json → Bool} {skipped : Json → Note} {others : Json → List Note}
    {own : Remark} (hown : own ≠ .malformed) (hskipped : ∀ raw, (skipped raw).remark? = some own)
    (hothers : ∀ raw, ∀ note ∈ others raw, note.remark? = none) (remark : Remark) (raws : List Json) :
    (raws.flatMap fun raw =>
        (readNode raw).2 ++ if stray raw then [skipped raw] else others raw).filter
        (Note.makes remark) =
      if remark = .malformed then raws.flatMap fun raw => (readNode raw).2
      else if remark = own then (raws.filter stray).map skipped else [] := by
  have hnone (raw : Json) : (others raw).filter (Note.makes remark) = [] := by
    rw [List.filter_eq_nil_iff]
    intro note hnote
    simp [Note.makes, hothers raw note hnote]
  have hstray (raw : Json) :
      (if stray raw then [skipped raw] else others raw).filter (Note.makes remark) =
        if remark = own ∧ stray raw then [skipped raw] else [] := by
    cases hs : stray raw with
    | true =>
      by_cases h : remark = own
      · simp [Note.makes, hskipped, h]
      · simp [Note.makes, hskipped, h, Ne.symm h]
    | false => simpa using hnone raw
  simp only [List.filter_flatMap, List.filter_append, filter_makes_readNode, hstray]
  by_cases hmalformed : remark = .malformed
  · subst hmalformed
    simp [hown.symm]
  · by_cases h : remark = own
    · simp [h, hown, flatMap_ite_singleton]
    · simp [h, hmalformed]

theorem filter_nodeNotes (remark : Remark) (raws : List Json) :
    (raws.flatMap nodeNotes).filter (Note.makes remark) =
      if remark = .malformed then raws.flatMap fun raw => (readNode raw).2
      else if remark = .skippedNode then (raws.filter isStrayNode).map .skippedNode else [] :=
  filter_notes (by decide) (fun _ => rfl) (fun _ _ hnote => absurd hnote List.not_mem_nil) remark raws

theorem filter_memberNotes (remark : Remark) (raws : List Json) :
    (raws.flatMap memberNotes).filter (Note.makes remark) =
      if remark = .malformed then raws.flatMap fun raw => (readNode raw).2
      else if remark = .skippedMember then (raws.filter isStrayMember).map .skippedMember else [] := by
  refine filter_notes (by decide) (fun _ => rfl) (fun raw note hnote => ?_) remark raws
  obtain ⟨what, -, rfl⟩ := List.mem_map.mp hnote
  rfl

theorem length_flatMap_readNode_snd (raws : List Json) :
    (raws.flatMap fun raw => (readNode raw).2).length = raws.countP isMalformed := by
  induction raws with
  | nil => rfl
  | cons raw raws ih =>
    rw [List.flatMap_cons, List.length_append, ih, length_readNode_snd, List.countP_cons]
    exact Nat.add_comm _ _

/-! ## Every node has a place -/

theorem length_eq_nodes (raws : List Json) :
    raws.length = ((parsed raws).filterMap Node.pragma?).length +
      ((parsed raws).filterMap Node.importDirective?).length + (definitions raws).length +
      raws.countP isStrayNode := by
  unfold definitions
  induction raws with
  | nil => rfl
  | cons raw raws ih =>
    rw [List.length_cons, List.countP_cons, parsed_cons, isStrayNode]
    cases (readNode raw).1 with
    | none => simp; omega
    | some node => cases node <;> simp [List.filterMap_cons, Node.fitsUnit] <;> omega

/-- The members that are constructors. -/
def constructors (members : List Node) : List FunctionNode :=
  (members.filterMap Node.function?).filter fun f => f.kind = "constructor"

theorem length_eq_members {c : Contract} {raws : List Json} (places : c.Places (parsed raws)) :
    raws.length = c.stateVariables.length + c.mappings.length + c.functions.length +
      c.events.length + c.modifiers.length + c.structs.length + c.enums.length +
      (constructors (parsed raws)).length + raws.countP isStrayMember := by
  rw [places.stateVariables, places.mappings, places.functions, places.events, places.modifiers,
    places.structs, places.enums]
  simp only [List.length_map, ne_eq, decide_not]
  clear places
  unfold constructors
  induction raws with
  | nil => rfl
  | cons raw raws ih =>
    rw [List.length_cons, List.countP_cons, parsed_cons, isStrayMember]
    cases (readNode raw).1 with
    | none => simp; omega
    | some node =>
      cases node with
      | declaration v =>
        cases h : v.isMapping <;> simp [List.filterMap_cons, Node.fitsContract, h] <;> omega
      | function f =>
        by_cases h : f.kind = "constructor" <;>
          simp [List.filterMap_cons, Node.fitsContract, h] <;> omega
      | _ => simp [List.filterMap_cons, Node.fitsContract]; omega

/-- The members that take part in an extraction. -/
def adoptedMembers (definition : Option ContractNode) : List Json :=
  definition.elim [] ContractNode.members

theorem places_of_extract? {document : Json} {c : Contract} {notes : List Note}
    (h : extract? document = some (c, notes)) :
    c.Places (parsed (adoptedMembers (definition? document))) := by
  cases hd : definition? document with
  | some definition =>
    rw [members_of_extract? h hd]
    exact places_withMembers _ _ _ _ _
  | none =>
    rw [contract_of_extract? h, draftOf_contract, hd]
    exact ⟨rfl, rfl, rfl, rfl, rfl, rfl, rfl, rfl⟩

/-! ## The balance -/

/-- The notes that are due for the nodes of a document and the members of its definition. -/
def Remark.due (raws : List Json) (definition : Option ContractNode) : Remark → List Note
  | .malformed => (raws ++ adoptedMembers definition).flatMap fun raw => (readNode raw).2
  | .ignoredDefinition => (definitions raws).tail.map (.ignoredDefinition ·.name)
  | .skippedNode => (raws.filter isStrayNode).map .skippedNode
  | .skippedMember => ((adoptedMembers definition).filter isStrayMember).map .skippedMember

theorem notes_of_extract? {document : Json} {c : Contract} {notes : List Note}
    (h : extract? document = some (c, notes)) :
    notes.Perm ((sourceNodes document).flatMap nodeNotes ++
      definitionNotes 1 (definitions (sourceNodes document))) := by
  unfold extract? at h
  split at h
  case isTrue => simp at h
  case isFalse =>
    obtain ⟨-, rfl⟩ := Prod.mk.inj (Option.some.inj h)
    exact foldl_addNode_notes (sourceNodes document) _

theorem filter_definitionNotes_one (remark : Remark) (definitions : List ContractNode) :
    (definitionNotes 1 definitions).filter (Note.makes remark) =
      match remark with
      | .malformed => (adoptedMembers definitions.head?).flatMap fun raw => (readNode raw).2
      | .ignoredDefinition => definitions.tail.map (.ignoredDefinition ·.name)
      | .skippedMember => ((adoptedMembers definitions.head?).filter isStrayMember).map .skippedMember
      | .skippedNode => [] := by
  have htake : (definitions.take 1).flatMap (·.members.flatMap memberNotes) =
      (adoptedMembers definitions.head?).flatMap memberNotes := by
    cases definitions <;> simp [adoptedMembers]
  have hignored (d : ContractNode) :
      (Note.ignoredDefinition d.name).remark? = some .ignoredDefinition := rfl
  rw [definitionNotes, htake, List.drop_one, List.filter_append, filter_memberNotes,
    filter_makes_map hignored]
  cases remark <;> simp

/-- The records of a log that make a remark are those that are due. -/
theorem filter_log {document : Json} {c : Contract} {notes : List Note}
    (h : extract? document = some (c, notes)) (remark : Remark) :
    ((notes.map Note.record).filter remark.isMadeBy).Perm
      ((remark.due (sourceNodes document) (definition? document)).map Note.record) := by
  have hmade : (notes.map Note.record).filter remark.isMadeBy =
      (notes.filter (Note.makes remark)).map Note.record := by
    rw [List.filter_map]
    exact congrArg _ (List.filter_congr fun note _ => isMadeBy_record remark note)
  rw [hmade]
  refine (((notes_of_extract? h).filter (Note.makes remark)).trans (.of_eq ?_)).map Note.record
  rw [List.filter_append, filter_nodeNotes, filter_definitionNotes_one]
  change _ = remark.due _ (definitions (sourceNodes document)).head?
  cases remark <;> simp [Remark.due]

theorem length_due_malformed (raws : List Json) (definition : Option ContractNode) :
    (Remark.malformed.due raws definition).length =
      raws.countP isMalformed + (adoptedMembers definition).countP isMalformed := by
  rw [Remark.due, List.flatMap_append, List.length_append, length_flatMap_readNode_snd,
    length_flatMap_readNode_snd]

theorem countP_of_due {log : List Log.Record} {remark : Remark} {due : List Note}
    (h : (log.filter remark.isMadeBy).Perm (due.map Note.record)) :
    log.countP remark.isMadeBy = due.length := by
  rw [List.countP_eq_length_filter, h.length_eq, List.length_map]

/-- What a contract shows of a node. -/
def Contract.Shows (c : Contract) : Node → Prop
  | .pragma literals => c.pragma = pragmaText literals
  | .importDirective i => i.decl ∈ c.imports
  | .contract _ => False
  | .declaration v => v.decl ∈ c.stateVariables ++ c.mappings
  | .function f => f.decl ∈ c.functions ++ c.constructor.toList
  | .event s => s.event ∈ c.events
  | .modifier s => s.modifier ∈ c.modifiers
  | .struct s => s.decl ∈ c.structs
  | .enum e => e.decl ∈ c.enums

theorem getLast?_or_mem_dropLast {α : Type} {a : α} {xs : List α} (h : a ∈ xs) :
    xs.getLast? = some a ∨ a ∈ xs.dropLast := by
  have hne : xs ≠ [] := List.ne_nil_of_mem h
  rw [← List.dropLast_concat_getLast hne, List.mem_append, List.mem_singleton] at h
  rw [List.getLast?_eq_some_getLast hne]
  exact h.symm.imp (fun hlast => congrArg some hlast.symm) id

/-- A member with a place is shown, but for a constructor before the last. -/
theorem Contract.Places.shows {c : Contract} {nodes : List Node} (places : c.Places nodes)
    {node : Node} (hmem : node ∈ nodes) (hfits : node.fitsContract = true) :
    c.Shows node ∨ ∃ f ∈ (constructors nodes).dropLast, node = .function f := by
  cases node with
  | declaration v =>
    left
    have hv : v ∈ nodes.filterMap Node.declaration? := List.mem_filterMap.mpr ⟨_, hmem, rfl⟩
    rw [Contract.Shows, places.stateVariables, places.mappings, ← List.map_append]
    refine List.mem_map_of_mem (List.mem_append.mpr ?_)
    cases h : v.isMapping with
    | true => exact .inr (List.mem_filter.mpr ⟨hv, h⟩)
    | false => exact .inl (List.mem_filter.mpr ⟨hv, by rw [h]; rfl⟩)
  | function f =>
    have hf : f ∈ nodes.filterMap Node.function? := List.mem_filterMap.mpr ⟨_, hmem, rfl⟩
    rw [Contract.Shows, places.functions, places.constructor, List.mem_append]
    by_cases h : f.kind = "constructor"
    · have hmade : f ∈ constructors nodes := List.mem_filter.mpr ⟨hf, decide_eq_true h⟩
      obtain hlast | hearlier := getLast?_or_mem_dropLast hmade
      · have hlast' : ((nodes.filterMap Node.function?).filter fun f => f.kind = "constructor").getLast? =
            some f := hlast
        exact .inl (.inr (by simp [hlast']))
      · exact .inr ⟨f, hearlier, rfl⟩
    · exact .inl (.inl (List.mem_map_of_mem (List.mem_filter.mpr ⟨hf, decide_eq_true h⟩)))
  | event s =>
    left
    rw [Contract.Shows, places.events]
    exact List.mem_map_of_mem (List.mem_filterMap.mpr ⟨_, hmem, rfl⟩)
  | modifier s =>
    left
    rw [Contract.Shows, places.modifiers]
    exact List.mem_map_of_mem (List.mem_filterMap.mpr ⟨_, hmem, rfl⟩)
  | struct s =>
    left
    rw [Contract.Shows, places.structs]
    exact List.mem_map_of_mem (List.mem_filterMap.mpr ⟨_, hmem, rfl⟩)
  | enum e =>
    left
    rw [Contract.Shows, places.enums]
    exact List.mem_map_of_mem (List.mem_filterMap.mpr ⟨_, hmem, rfl⟩)
  | _ => cases hfits

/-- How the nodes of a document, its definition, the contract read from them and the log balance. -/
structure Contract.Accounts (c : Contract) (raws : List Json) (definition : Option ContractNode)
    (log : List Log.Record) : Prop where
  nodes : raws.length = ((parsed raws).filterMap Node.pragma?).length + c.imports.length +
    definition.toList.length + log.countP Remark.ignoredDefinition.isMadeBy +
    log.countP Remark.skippedNode.isMadeBy
  members : (adoptedMembers definition).length = c.stateVariables.length + c.mappings.length +
    c.functions.length + c.events.length + c.modifiers.length + c.structs.length +
    c.enums.length + (constructors (parsed (adoptedMembers definition))).length +
    log.countP Remark.skippedMember.isMadeBy
  malformed : log.countP Remark.malformed.isMadeBy =
    raws.countP isMalformed + (adoptedMembers definition).countP isMalformed
  stray : ∀ raw, isMalformed raw → isStrayNode raw ∧ isStrayMember raw
  records : ∀ remark : Remark,
    (log.filter remark.isMadeBy).Perm ((remark.due raws definition).map Note.record)
  node_traced : ∀ raw ∈ raws, ∀ node, (readNode raw).1 = some node →
    c.Shows node ∨ (Note.skippedNode raw).record ∈ log ∨
      (∃ d, node = .contract d ∧
        (definition = some d ∨ (Note.ignoredDefinition d.name).record ∈ log)) ∨
      ∃ literals ∈ ((parsed raws).filterMap Node.pragma?).dropLast, node = .pragma literals
  member_traced : ∀ raw ∈ adoptedMembers definition, ∀ node, (readNode raw).1 = some node →
    c.Shows node ∨ (Note.skippedMember raw).record ∈ log ∨
      ∃ f ∈ (constructors (parsed (adoptedMembers definition))).dropLast, node = .function f

theorem mem_of_due {log : List Log.Record} {remark : Remark} {due : List Note} {note : Note}
    (h : (log.filter remark.isMadeBy).Perm (due.map Note.record)) (hnote : note ∈ due) :
    note.record ∈ log :=
  (List.mem_filter.mp (h.mem_iff.mpr (List.mem_map_of_mem hnote))).1

theorem mem_parsed {raws : List Json} {raw : Json} {node : Node} (hraw : raw ∈ raws)
    (hnode : (readNode raw).1 = some node) : node ∈ parsed raws :=
  List.mem_filterMap.mpr ⟨raw, hraw, (readNode_fst raw).symm.trans hnode⟩

theorem definitions_eq (document : Json) :
    definitions (sourceNodes document) =
      (definition? document).toList ++ (definitions (sourceNodes document)).tail := by
  unfold definition? definitions
  cases (parsed (sourceNodes document)).filterMap Node.contract? <;> rfl

section Extraction

variable {document : Json} {c : Contract} {notes : List Note}

theorem imports_of_extract? (h : extract? document = some (c, notes)) :
    c.imports =
      ((parsed (sourceNodes document)).filterMap Node.importDirective?).map ImportNode.decl := by
  rw [contract_of_extract? h, draftOf_contract]

theorem pragma_of_extract? (h : extract? document = some (c, notes)) :
    c.pragma =
      (((parsed (sourceNodes document)).filterMap Node.pragma?).getLast?.map pragmaText).getD "" := by
  rw [contract_of_extract? h, draftOf_contract]

theorem node_traced_of_extract? (h : extract? document = some (c, notes)) {raw : Json}
    (hraw : raw ∈ sourceNodes document) {node : Node} (hnode : (readNode raw).1 = some node) :
    c.Shows node ∨ (Note.skippedNode raw).record ∈ notes.map Note.record ∨
      (∃ d, node = .contract d ∧ (definition? document = some d ∨
        (Note.ignoredDefinition d.name).record ∈ notes.map Note.record)) ∨
      ∃ literals ∈ ((parsed (sourceNodes document)).filterMap Node.pragma?).dropLast,
        node = .pragma literals := by
  have hmem := mem_parsed hraw hnode
  cases node with
  | pragma literals =>
    have hliterals : literals ∈ (parsed (sourceNodes document)).filterMap Node.pragma? :=
      List.mem_filterMap.mpr ⟨_, hmem, rfl⟩
    obtain hlast | hearlier := getLast?_or_mem_dropLast hliterals
    · left
      rw [Contract.Shows, pragma_of_extract? h, hlast]
      rfl
    · exact .inr (.inr (.inr ⟨literals, hearlier, rfl⟩))
  | importDirective i =>
    left
    rw [Contract.Shows, imports_of_extract? h]
    exact List.mem_map_of_mem (List.mem_filterMap.mpr ⟨_, hmem, rfl⟩)
  | contract d =>
    have hd : d ∈ definitions (sourceNodes document) := List.mem_filterMap.mpr ⟨_, hmem, rfl⟩
    rw [definitions_eq, List.mem_append, Option.mem_toList] at hd
    refine .inr (.inr (.inl ⟨d, rfl, hd.imp id fun htail => ?_⟩))
    exact mem_of_due (filter_log h .ignoredDefinition) (List.mem_map_of_mem htail)
  | _ =>
    have hstray : isStrayNode raw = true := by simp [isStrayNode, hnode, Node.fitsUnit]
    exact .inr (.inl (mem_of_due (filter_log h .skippedNode)
      (List.mem_map_of_mem (List.mem_filter.mpr ⟨hraw, hstray⟩))))

theorem member_traced_of_extract? (h : extract? document = some (c, notes)) {raw : Json}
    (hraw : raw ∈ adoptedMembers (definition? document)) {node : Node}
    (hnode : (readNode raw).1 = some node) :
    c.Shows node ∨ (Note.skippedMember raw).record ∈ notes.map Note.record ∨
      ∃ f ∈ (constructors (parsed (adoptedMembers (definition? document)))).dropLast,
        node = .function f := by
  cases hfits : node.fitsContract with
  | true => exact ((places_of_extract? h).shows (mem_parsed hraw hnode) hfits).imp id .inr
  | false =>
    have hstray : isStrayMember raw = true := by simp [isStrayMember, hnode, hfits]
    exact .inr (.inl (mem_of_due (filter_log h .skippedMember)
      (List.mem_map_of_mem (List.mem_filter.mpr ⟨hraw, hstray⟩))))

end Extraction

/-- The balance of an extraction. Each node and each member is counted by the contract or by a record
of the log; each malformed one has a warning and one record that it is skipped. Only pragmas and
constructors are counted without either, and of these the last one stands in the contract. -/
theorem extract?_accounts {document : Json} {raws : List Json} {c : Contract} {notes : List Note}
    (htop : TopLevel document raws) (h : extract? document = some (c, notes)) :
    c.Accounts raws (definition? document) (notes.map Note.record) := by
  obtain rfl := sourceNodes_eq_of_topLevel htop
  have hrecords := filter_log h
  constructor
  case nodes =>
    rw [countP_of_due (hrecords _), countP_of_due (hrecords _), imports_of_extract? h,
      length_eq_nodes, definitions_eq]
    simp only [Remark.due, List.length_map, List.length_append, List.countP_eq_length_filter]
    omega
  case members =>
    rw [countP_of_due (hrecords _), length_eq_members (places_of_extract? h), Remark.due,
      List.length_map, List.countP_eq_length_filter]
  case malformed => rw [countP_of_due (hrecords _), length_due_malformed]
  case stray => exact fun raw => isStray_of_malformed
  case records => exact hrecords
  case node_traced => exact fun raw hraw node => node_traced_of_extract? h hraw
  case member_traced => exact fun raw hraw node => member_traced_of_extract? h hraw

theorem extract?_accounts_vault :
    ∃ c notes, TopLevel vaultDocument rawVault ∧ extract? vaultDocument = some (c, notes) ∧
      c.Accounts rawVault (definition? vaultDocument) (notes.map Note.record) ∧
      (notes.map Note.record).countP Remark.malformed.isMadeBy = 2 ∧
      (notes.map Note.record).countP Remark.skippedNode.isMadeBy = 1 ∧
      (notes.map Note.record).countP Remark.skippedMember.isMadeBy = 3 := by
  have htop : TopLevel vaultDocument rawVault := .artifact rfl rfl
  obtain ⟨c, notes, hc⟩ : ∃ c notes, extract? vaultDocument = some (c, notes) :=
    ⟨_, _, extract?_eq_some (by decide)⟩
  have balance := extract?_accounts htop hc
  refine ⟨c, notes, htop, hc, balance, balance.malformed.trans (by decide +kernel), ?_, ?_⟩
  · rw [countP_of_due (balance.records .skippedNode)]
    decide +kernel
  · rw [countP_of_due (balance.records .skippedMember)]
    decide +kernel

end ContractAtlas
