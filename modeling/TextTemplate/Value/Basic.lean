import TextTemplate.OrderedMap
import TextTemplate.Settings

/-!
# Values

What a placeholder is resolved against. Four shapes can be entered by a selector: a map by its keys,
a list by an index, a typed object by the names it declares, and a dynamic record by whatever names
it answers to. The last two answer for themselves, so they hold functions.
-/

namespace TextTemplate

/-- A key of a map. -/
inductive Key where
  | str (s : String)
  | int (n : Int64)
  deriving DecidableEq, Repr

/-- Why a dynamic record gives no member. -/
inductive MemberError where
  | missing (name : String)
  | failed (message : String)
  deriving DecidableEq, Repr

/-- Why a dynamic record gives no member, in words. -/
def MemberError.message : MemberError → String
  | .missing name => "member '" ++ name ++ "' does not exist"
  | .failed message => "member lookup failed: " ++ message

mutual

/-- An argument of a template, or what a selector leads to. -/
inductive Value where
  | null
  | bool (b : Bool)
  | int (n : Int64)
  | float (x : Float)
  | str (s : String)
  | list (items : List Value)
  | map (m : OrderedMap Key Value)
  | object (o : TypedObject)
  | record (r : DynamicRecord)

/-- A value with a fixed set of named members. -/
structure TypedObject where
  typeName : String
  memberNames : List String
  /-- The member with exactly this name. -/
  member : String → Option Value
  /-- How the object itself is rendered. -/
  text : String

/-- A value that answers for its members when it is asked. -/
structure DynamicRecord where
  /-- The member with this name, names being compared as the case mode says. -/
  member : String → CaseSensitivity → Except MemberError Value
  /-- How the record itself is rendered. -/
  text : String

end

/-- A record with named fields. -/
abbrev Record := OrderedMap String Value

namespace Record

/-- The first field that has a name under a case mode. -/
def member (r : Record) (name : String) : CaseSensitivity → Except MemberError Value
  | .sensitive => (r.get? name).elim (.error (.missing name)) .ok
  | .insensitive =>
    (r.findFirst? (CaseSensitivity.insensitive.same name)).elim (.error (.missing name)) .ok

/-- A record as a value. -/
def toValue (r : Record) : Value := .record ⟨r.member, "Record"⟩

end Record

/-- The value of the first member that passes a test. -/
def findMember? (members : List (String × Value)) (test : String → Bool) : Option Value :=
  (members.find? fun m ↦ test m.1).map Prod.snd

namespace TypedObject

/-- An object with these members; it may declare other names than those, and has the name of its type
as its text unless it has one of its own. -/
def ofMembers (typeName : String) (members : List (String × Value))
    (names : Option (List String)) (text : Option String) : TypedObject :=
  { typeName
    memberNames := names.getD (members.map Prod.fst)
    member := fun name ↦ findMember? members (· == name)
    text := text.getD typeName }

end TypedObject

namespace DynamicRecord

/-- A record with these members. It says of any other name that it is missing, or fails with a
message that ends in the name. -/
def ofMembers (members : List (String × Value)) (failure : Option String) (text : Option String) :
    DynamicRecord :=
  { member := fun name case ↦
      match findMember? members (case.same name), failure with
      | some v, _ => .ok v
      | none, some message => .error (.failed (message ++ " " ++ name))
      | none, none => .error (.missing name)
    text := text.getD "Record" }

end DynamicRecord

namespace Value

/-- The word for the shape of a value. -/
def kind : Value → String
  | .null => "null"
  | .bool _ => "bool"
  | .int _ => "int"
  | .float _ => "float"
  | .str _ => "string"
  | .list _ => "list"
  | .map _ => "map"
  | .object _ => "object"
  | .record _ => "record"

/-- Whether a value is null. -/
def isNull : Value → Bool
  | .null => true
  | _ => false

/-- The text of a value that is a text. -/
def asStr? : Value → Option String
  | .str s => some s
  | _ => none

/-- The value of an integer: itself where 64 bits hold it, and the nearest double elsewhere. -/
def ofInt (n : Int) : Value :=
  if Int64.minValue.toInt ≤ n ∧ n ≤ Int64.maxValue.toInt then .int (Int64.ofInt n)
  else .float (Float.ofInt n)

/-- The value of what may be absent. -/
def ofOption (v : Option Value) : Value := v.getD .null

end Value

end TextTemplate
