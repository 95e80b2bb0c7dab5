import TextTemplate.Source.Basic
import TextTemplate.Value.Text

/-!
# Ready-made sources

Small custom sources, each of which shows one way in which a source may answer.
-/

namespace TextTemplate

namespace CustomSource

/-- Claims everything; a selector leads to its own text in angle brackets. -/
def fallback : CustomSource :=
  { name := "Fallback"
    claims := fun _ _ ↦ true
    resolve := fun s _ _ ↦ .resolved (.str ("<" ++ s.text ++ ">")) }

/-- Gives the variables of an environment to selectors behind a marker; no other variable exists. -/
def environment (marker : String) (known : List (String × String)) : CustomSource :=
  { name := "Environment"
    claims := fun _ v ↦ v.asStr? == some marker
    resolve := fun s _ case ↦
      match known.find? fun e ↦ case.same s.text e.1 with
      | some e => .resolved (.str e.2)
      | none => .error (.source ("unknown variable " ++ s.text)) }

/-- Claims everything and finds nothing. -/
def decline : CustomSource :=
  { name := "Decline"
    claims := fun _ _ ↦ true
    resolve := fun _ _ _ ↦ .notApplicable }

/-- The selector `kind` leads from any value to the word for its shape. -/
def kind : CustomSource :=
  { name := "Kind"
    claims := fun s _ ↦ s.kind == .name && s.text == "kind"
    resolve := fun _ v _ ↦ .resolved (.str v.kind) }

/-- Refuses every selector on null. -/
def strict : CustomSource :=
  { name := "Strict"
    claims := fun _ v ↦ v.isNull
    resolve := fun s _ _ ↦ .error (.source ("null has no " ++ s.text)) }

/-- The selector `Length` leads from a text to the number of its characters. -/
def length : CustomSource :=
  { name := "Length"
    claims := fun s v ↦ v.asStr?.isSome && s.index?.isNone
    resolve := fun s v case ↦
      if case.same s.text "Length" then .resolved (.ofInt v.text.length) else .notApplicable }

end CustomSource

/-- The built-in and the ready-made sources by name. -/
def ValueSource.stock : List (String × ValueSource) := [
  ("typed_object", .typedObject),
  ("mapping", .mapping),
  ("dynamic_record", .dynamicRecord),
  ("list", .list),
  ("fallback", .custom .fallback),
  ("environment", .custom (.environment "env" [("HOME", "/home/ada")])),
  ("decline", .custom .decline),
  ("kind", .custom .kind),
  ("strict", .custom .strict),
  ("length", .custom .length)]

end TextTemplate
