import ContractAtlas.Decimal.Binary64

/-!
JSON values. An object is the list of its fields in order of first appearance; looking a key up
finds its first field. Integers and floats are different values. What lies inside a value is
smaller than the value (`sizeOf_field_lt`, `sizeOf_mem_items`), so recursion on a document may go
through any field of it.
-/
namespace ContractAtlas
set_option autoImplicit false

inductive Json where
  | null
  | bool (value : Bool)
  | int (value : Int)
  | float (value : Binary64)
  | str (value : String)
  | arr (items : List Json)
  | obj (fields : List (String × Json))
  deriving Inhabited

namespace Json

/-! ## Looking inside -/

def isNull : Json → Bool
  | .null => true
  | _ => false

def isObject : Json → Bool
  | .obj _ => true
  | _ => false

def fields : Json → List (String × Json)
  | .obj fields => fields
  | _ => []

def items : Json → List Json
  | .arr items => items
  | _ => []

def get? (json : Json) (key : String) : Option Json := json.fields.lookup key

/-- The value of a field; what is not there, or not in an object, is null. -/
def field (json : Json) (key : String) : Json := (json.get? key).getD .null

def text? : Json → Option String
  | .str s => some s
  | _ => none

/-- The text itself; anything that is no text counts as the empty text. -/
def textOrEmpty (json : Json) : String := json.text?.getD ""

@[simp] theorem isNull_iff {json : Json} : json.isNull = true ↔ json = .null := by
  cases json <;> simp [isNull]

@[simp] theorem field_obj (fs : List (String × Json)) (key : String) :
    (Json.obj fs).field key = (fs.lookup key).getD .null := rfl

theorem field_of_not_isObject {json : Json} (h : json.isObject = false) (key : String) :
    json.field key = .null := by
  cases json <;> first | rfl | simp [isObject] at h

theorem eq_obj_of_isObject {json : Json} (h : json.isObject = true) : json = .obj json.fields := by
  cases json <;> first | rfl | simp [isObject] at h

theorem eq_arr_of_items_ne_nil {json : Json} (h : json.items ≠ []) : json = .arr json.items := by
  cases json <;> first | rfl | simp [items] at h

theorem eq_str_of_textOrEmpty_ne_empty {json : Json} (h : json.textOrEmpty ≠ "") :
    json = .str json.textOrEmpty := by
  cases json <;> first | rfl | simp [textOrEmpty, text?] at h

/-! ## Size -/

theorem mem_of_lookup_eq_some {key : String} {value : Json} {fs : List (String × Json)}
    (h : fs.lookup key = some value) : (key, value) ∈ fs := by
  induction fs with
  | nil => simp at h
  | cons f fs ih =>
    obtain ⟨k, v⟩ := f
    rw [List.lookup_cons] at h
    by_cases hk : (key == k) = true
    · rw [hk] at h
      have hk' : key = k := by simpa using hk
      obtain rfl : v = value := by simpa using h
      simp [hk']
    · have hf : (key == k) = false := by simpa using hk
      rw [hf] at h
      exact List.mem_cons_of_mem _ (ih h)

theorem sizeOf_mem_fields {key : String} {value : Json} {fs : List (String × Json)}
    (h : (key, value) ∈ fs) : sizeOf value < sizeOf (Json.obj fs) := by
  have hm := List.sizeOf_lt_of_mem h
  have hp : sizeOf (key, value) = 1 + sizeOf key + sizeOf value := rfl
  have ho : sizeOf (Json.obj fs) = 1 + sizeOf fs := by simp
  omega

theorem sizeOf_field_lt (fs : List (String × Json)) (key : String) :
    sizeOf ((Json.obj fs).field key) < sizeOf (Json.obj fs) := by
  rw [field_obj]
  cases h : fs.lookup key with
  | none =>
    have ho : sizeOf (Json.obj fs) = 1 + sizeOf fs := by simp
    have hn : sizeOf Json.null = 1 := by simp
    have hl : 0 < sizeOf fs := by cases fs <;> simp +arith
    simp only [Option.getD_none]
    omega
  | some value =>
    exact sizeOf_mem_fields (mem_of_lookup_eq_some h)

theorem sizeOf_mem_items {json item : Json} (h : item ∈ json.items) :
    sizeOf item < sizeOf json := by
  cases json with
  | arr items =>
    have hm := List.sizeOf_lt_of_mem (show item ∈ items from h)
    have ha : sizeOf (Json.arr items) = 1 + sizeOf items := by simp
    omega
  | _ => simp [items] at h

/-! ## Building objects -/

/-- Sets a field: a key that is there keeps its place and takes the new value. -/
def setField (key : String) (value : Json) : List (String × Json) → List (String × Json)
  | [] => [(key, value)]
  | (k, v) :: rest => if k = key then (k, value) :: rest else (k, v) :: setField key value rest

/-- The object that a sequence of settings builds: the last value of a key wins. -/
def ofSettings (settings : List (String × Json)) : Json :=
  .obj (settings.foldl (fun fs (key, value) => setField key value fs) [])

end Json

end ContractAtlas
