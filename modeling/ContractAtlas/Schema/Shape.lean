import ContractAtlas.Schema.Scalar

/-!
Shapes of records and the check of a JSON value against a shape. The check collects every violation,
field by field in the order of the shape, each with the place where it lies; a value without
violations comes back in standard form: a record holds exactly the fields of its shape, under their
own names and with defaults filled in, every scalar of its type.

A field may be given under its name in JSON or under its own, the former first. A field whose value is null
counts as not given. A record may also accept a bare list in place of an object that has the list as
its only field.
-/
namespace ContractAtlas.Schema
set_option autoImplicit false

/-! ## Shapes -/

/-- The two spellings of a field. -/
structure Key where
  jsonName : String
  name : String
  deriving DecidableEq

/-- A field that is spelled one way only. -/
def Key.plain (name : String) : Key := ⟨name, name⟩

/-- The object that a bare list stands for: the kind, and the field that holds the list. -/
structure Wrapper where
  kind : String
  field : String
  deriving DecidableEq

mutual

inductive Shape where
  | text
  | flag
  | whole
  | any
  | list (item : Shape)
  | record (wrapper : Option Wrapper) (fields : Fields)

/-- Fields in order, each with the value it has when it is not given. -/
inductive Fields where
  | nil
  | cons (key : Key) (default : Json) (shape : Shape) (rest : Fields)

end

def Fields.ofList : List (Key × Json × Shape) → Fields
  | [] => .nil
  | (key, default, shape) :: rest => .cons key default shape (ofList rest)

def Fields.defaults : Fields → List (String × Json)
  | .nil => []
  | .cons key default _ rest => (key.name, default) :: rest.defaults

/-- The record in which no field is given. -/
def Shape.blank : Shape → Json
  | .record _ fields => .obj fields.defaults
  | _ => .null

/-! ## Violations -/

inductive Place where
  | field (name : String)
  | index (i : Nat)
  deriving DecidableEq

structure Violation where
  path : List Place
  cause : Cause
  deriving DecidableEq

abbrev Checked (α : Type) := Except (List Violation) α

namespace Checked

def fail {α : Type} (cause : Cause) : Checked α := .error [⟨[], cause⟩]

def ofScalar {α : Type} (wrap : α → Json) : Except Cause α → Checked Json
  | .ok a => .ok (wrap a)
  | .error cause => fail cause

/-- Moves the violations of a part to the place of the part. -/
def inside {α : Type} (place : Place) : Checked α → Checked α
  | .ok a => .ok a
  | .error violations => .error (violations.map fun v => { v with path := place :: v.path })

/-- Both results, or the violations of both. -/
def both {α β : Type} : Checked α → Checked β → Checked (α × β)
  | .ok a, .ok b => .ok (a, b)
  | .ok _, .error ws => .error ws
  | .error vs, .ok _ => .error vs
  | .error vs, .error ws => .error (vs ++ ws)

/-- The results of all items, or the violations of all, the first item having index `i`. -/
def gather {α : Type} (i : Nat) : List (Checked α) → Checked (List α)
  | [] => .ok []
  | item :: rest => (both (item.inside (.index i)) (gather (i + 1) rest)).map fun (a, as) => a :: as

end Checked

/-! ## The check -/

def isGiven (field : String × Json) : Bool := !field.2.isNull

/-- The value given for a key and the spelling it was given under. -/
def Key.find? (key : Key) (given : List (String × Json)) : Option (String × Json) :=
  match given.lookup key.jsonName with
  | some json => some (key.jsonName, json)
  | none => (given.lookup key.name).map (key.name, ·)

/-- What stands for a bare list. -/
def Wrapper.apply (wrapper : Option Wrapper) (json : Json) : Json :=
  match wrapper, json with
  | some w, .arr items => .obj [("nodeType", .str w.kind), (w.field, .arr items)]
  | _, json => json

mutual

def Shape.check : Shape → Json → Checked Json
  | .text, json => Checked.ofScalar .str (text? json)
  | .flag, json => Checked.ofScalar .bool (flag? json)
  | .whole, json => Checked.ofScalar .int (whole? json)
  | .any, json => .ok json
  | .list item, json =>
    match json with
    | .arr items => (Checked.gather 0 (items.map fun json => item.check json)).map .arr
    | _ => Checked.fail .notList
  | .record wrapper fields, json =>
    match Wrapper.apply wrapper json with
    | .obj given => (fields.check (given.filter isGiven)).map .obj
    | _ => Checked.fail .notRecord

def Fields.check : Fields → (given : List (String × Json)) → Checked (List (String × Json))
  | .nil, _ => .ok []
  | .cons key default shape rest, given =>
    let first : Checked Json :=
      match key.find? given with
      | none => .ok default
      | some (label, json) => (shape.check json).inside (.field label)
    (Checked.both first (rest.check given)).map fun (json, fields) => (key.name, json) :: fields

end

end ContractAtlas.Schema
