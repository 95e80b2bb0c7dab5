import TextTemplate.Value.Basic

/-!
# Values of JSON documents

A JSON document becomes a value of the same shape. An object has no order of its own, so its members
are taken in the order of their names, and of members with one name the last counts.
-/

namespace TextTemplate

/-- A JSON document. An integer is one that 64 bits hold, with a sign or without. -/
inductive JsonDocument where
  | null
  | bool (b : Bool)
  | integer (n : Int)
  | float (x : Float)
  | string (s : String)
  | array (items : List JsonDocument)
  | object (members : List (String × JsonDocument))

/-- Puts a member into a list of members ordered by name, in the place of one with that name. -/
def insertSorted {α : Type} (name : String) (v : α) : List (String × α) → List (String × α)
  | [] => [(name, v)]
  | m :: ms =>
    if name = m.1 then (name, v) :: ms
    else if name < m.1 then (name, v) :: m :: ms
    else m :: insertSorted name v ms

/-- The members ordered by name; of members with one name, the last. -/
def sortMembers {α : Type} (members : List (String × α)) : List (String × α) :=
  members.foldl (fun ms m ↦ insertSorted m.1 m.2 ms) []

mutual

/-- The value that a document becomes. -/
def Value.ofJson : JsonDocument → Value
  | .null => .null
  | .bool b => .bool b
  | .integer n => .ofInt n
  | .float x => .float x
  | .string s => .str s
  | .array items => .list (Value.ofJsonItems items)
  | .object members =>
    .map (.ofList ((sortMembers (Value.ofJsonMembers members)).map fun m ↦ (.str m.1, m.2)))

/-- The values that documents become. -/
def Value.ofJsonItems : List JsonDocument → List Value
  | [] => []
  | j :: js => Value.ofJson j :: Value.ofJsonItems js

/-- The members of an object, each with the value that its document becomes. -/
def Value.ofJsonMembers : List (String × JsonDocument) → List (String × Value)
  | [] => []
  | (name, j) :: ms => (name, Value.ofJson j) :: Value.ofJsonMembers ms

end

/-! ## Arrays and members through `List.map` -/

theorem Value.ofJsonItems_eq_map (items : List JsonDocument) :
    Value.ofJsonItems items = items.map Value.ofJson := by
  induction items with
  | nil => rfl
  | cons j js ih => rw [Value.ofJsonItems, ih, List.map_cons]

theorem Value.ofJsonMembers_eq_map (members : List (String × JsonDocument)) :
    Value.ofJsonMembers members = members.map fun m ↦ (m.1, Value.ofJson m.2) := by
  induction members with
  | nil => rfl
  | cons m ms ih => rw [Value.ofJsonMembers, ih, List.map_cons]

theorem Value.ofJson_array (items : List JsonDocument) :
    Value.ofJson (.array items) = .list (items.map Value.ofJson) := by
  rw [Value.ofJson, Value.ofJsonItems_eq_map]

end TextTemplate
