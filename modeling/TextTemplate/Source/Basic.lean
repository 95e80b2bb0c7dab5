import TextTemplate.Error
import TextTemplate.Template.Basic
import TextTemplate.Value.Basic

/-!
# Value sources

A source is one way to follow a selector from a value. It first says whether the pair is its own and
then follows the selector, which may still lead nowhere. A chain asks its sources in order. "Not
mine" lets the next source try; an error ends the search, because the source that owns the pair has
spoken.
-/

namespace TextTemplate

/-- What following a selector gives. -/
inductive SourceOutcome where
  | resolved (v : Value)
  | notApplicable
  | error (kind : ResolutionErrorKind)

/-- The outcome of a look-up that may find nothing. -/
def SourceOutcome.ofFound : Option Value → SourceOutcome
  | some v => .resolved v
  | none => .notApplicable

/-- A source that a caller supplies. -/
structure CustomSource where
  name : String
  claims : Selector → Value → Bool
  resolve : Selector → Value → CaseSensitivity → SourceOutcome

/-- A way to follow selectors. -/
inductive ValueSource where
  /-- The named members of a typed object. -/
  | typedObject
  /-- The keys of a map. -/
  | mapping
  /-- The members of a dynamic record. -/
  | dynamicRecord
  /-- The positions of a list. -/
  | list
  | custom (source : CustomSource)

namespace ValueSource

/-! ## What a selector leads to in each shape of value -/

/-- The member of a typed object that a selector names. Without regard to case, it is the first
declared name that matches. -/
def findMember? (o : TypedObject) (s : Selector) : CaseSensitivity → Option Value
  | .sensitive => o.member s.text
  | .insensitive =>
    (o.memberNames.find? (CaseSensitivity.insensitive.same s.text)).bind o.member

/-- Whether a selector names a key without regard to case. -/
def keyMatches (s : Selector) : Key → Bool
  | .str k => CaseSensitivity.insensitive.same s.text k
  | .int n => s.index? == some n

/-- The value in a map that a selector leads to: by the text of the selector, or by the integer that
it denotes. Without regard to case, it is the first key that matches either way. -/
def findKey? (m : OrderedMap Key Value) (s : Selector) : CaseSensitivity → Option Value
  | .sensitive => (m.get? (.str s.text)).or (s.index?.bind fun n ↦ m.get? (.int n))
  | .insensitive => m.findFirst? (keyMatches s)

/-- The answer of a dynamic record; a missing member may still be found elsewhere. -/
def askRecord (r : DynamicRecord) (s : Selector) (case : CaseSensitivity) : SourceOutcome :=
  match r.member s.text case with
  | .ok v => .resolved v
  | .error (.missing _) => .notApplicable
  | .error (.failed message) => .error (.source message)

/-- The item of a list that a selector denotes. -/
def findItem (items : List Value) (s : Selector) : SourceOutcome :=
  match s.index? with
  | none => .notApplicable
  | some n =>
    if n < 0 then .error (.negativeIndex n)
    else match items[n.toInt.toNat]? with
      | some v => .resolved v
      | none => .error (.indexOutOfRange n items.length)

/-! ## Sources -/

/-- The name of a source. -/
def name : ValueSource → String
  | .typedObject => "TypedObject"
  | .mapping => "Mapping"
  | .dynamicRecord => "DynamicRecord"
  | .list => "List"
  | .custom source => source.name

/-- How a source is shown in a description of a chain. -/
def description : ValueSource → String
  | .custom source => "Custom(" ++ source.name ++ ")"
  | builtin => builtin.name

/-- Whether a selector and a value are a source's own. -/
def claims : ValueSource → Selector → Value → Bool
  | .typedObject, s, .object _ => s.kind == .name
  | .mapping, _, .map _ => true
  | .dynamicRecord, _, .record _ => true
  | .list, s, .list _ => s.index?.isSome
  | .custom source, s, v => source.claims s v
  | _, _, _ => false

/-- What a selector leads to when the pair is a source's own. -/
def follow : ValueSource → Selector → Value → CaseSensitivity → SourceOutcome
  | .typedObject, s, .object o, case => .ofFound (findMember? o s case)
  | .mapping, s, .map m, case => .ofFound (findKey? m s case)
  | .dynamicRecord, s, .record r, case => askRecord r s case
  | .list, s, .list items, _ => findItem items s
  | .custom source, s, v, case => source.resolve s v case
  | _, _, _, _ => .notApplicable

/-- Follows a selector from a value; a pair that is not the source's own is passed on. -/
def resolve (source : ValueSource) (s : Selector) (v : Value) (case : CaseSensitivity) :
    SourceOutcome :=
  if source.claims s v then source.follow s v case else .notApplicable

end ValueSource

/-- Sources in the order in which they are asked. -/
abbrev SourceChain := List ValueSource

namespace SourceChain

/-- The built-in sources. -/
def builtin : SourceChain := [.typedObject, .mapping, .dynamicRecord, .list]

/-- Asks one source after another, until one does not pass the pair on. -/
def resolve : SourceChain → Selector → Value → CaseSensitivity → SourceOutcome
  | [], _, _, _ => .notApplicable
  | source :: others, s, v, case =>
    match source.resolve s v case with
    | .notApplicable => resolve others s v case
    | outcome => outcome

end SourceChain

end TextTemplate
