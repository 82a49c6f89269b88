import ContractAtlas.Decimal.Binary64
import ContractAtlas.Yaml.Timestamp

/-!
YAML values. A mapping holds its entries in the order in which their keys first came, a set its keys.
Keys are told apart by what they stand for, so that a number and a truth value of the same worth are
one key.
-/
namespace ContractAtlas
set_option autoImplicit false

inductive Yaml where
  | null
  | bool (value : Bool)
  | int (value : Int)
  | float (value : Binary64)
  | str (value : String)
  | binary (octets : List UInt8)
  | timestamp (value : Yaml.Timestamp)
  | seq (items : List Yaml)
  | set (keys : List Yaml)
  | map (entries : List (Yaml × Yaml))

namespace Yaml

/-! ## Looking inside -/

def isNull : Yaml → Bool
  | .null => true
  | _ => false

/-- The value of the entry whose key is a text. -/
def get? (yaml : Yaml) (key : String) : Option Yaml :=
  match yaml with
  | .map entries =>
    (entries.find? fun (k, _) => match k with
      | .str s => s == key
      | _ => false).map (·.2)
  | _ => none

/-- Whether a value counts as true: all do but nothing, zero, and what is empty. -/
def isTruthy : Yaml → Bool
  | .null => false
  | .bool b => b
  | .int n => n ≠ 0
  | .float x => !x.isZero
  | .str s => s ≠ ""
  | .binary octets => !octets.isEmpty
  | .timestamp _ => true
  | .seq items => !items.isEmpty
  | .set keys => !keys.isEmpty
  | .map entries => !entries.isEmpty

/-- How messages call the type of a value. -/
def typeName : Yaml → String
  | .null => "NoneType"
  | .bool _ => "bool"
  | .int _ => "int"
  | .float _ => "float"
  | .str _ => "str"
  | .binary _ => "bytes"
  | .timestamp t => if t.time.isNone then "datetime.date" else "datetime.datetime"
  | .seq _ => "list"
  | .set _ => "set"
  | .map _ => "dict"

/-! ## Keys -/

/-- What a key stands for where keys are compared. -/
inductive KeyWorth where
  | null
  | whole (value : Int)
  | float (value : Binary64)
  | str (value : String)
  | binary (octets : List UInt8)
  | timestamp (value : Timestamp)
  deriving DecidableEq

/-- What a scalar stands for as a key; collections are no keys. -/
def worth? : Yaml → Option KeyWorth
  | .null => some .null
  | .bool b => some (.whole (if b then 1 else 0))
  | .int n => some (.whole n)
  | .float x => some (match x.toInt? with
    | some n => .whole n
    | none => .float x)
  | .str s => some (.str s)
  | .binary octets => some (.binary octets)
  | .timestamp t => some (.timestamp t)
  | .seq _ | .set _ | .map _ => none

/-- Sets an entry: a key that is there stays as it is, at its place, and takes the new value. -/
def setEntry (key value : Yaml) : List (Yaml × Yaml) → List (Yaml × Yaml)
  | [] => [(key, value)]
  | (k, v) :: rest =>
    if k.worth? = key.worth? then (k, value) :: rest else (k, v) :: setEntry key value rest

/-- The entries that a sequence of settings builds: the last value of a key wins. -/
def entriesOf (settings : List (Yaml × Yaml)) : List (Yaml × Yaml) :=
  settings.foldl (fun entries (key, value) => setEntry key value entries) []

end Yaml

end ContractAtlas
