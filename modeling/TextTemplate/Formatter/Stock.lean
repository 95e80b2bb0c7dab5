import TextTemplate.Formatter.Basic

/-!
# Ready-made formatters

Small formatters, each of which shows one thing that a formatter may do with its call.
-/

namespace TextTemplate

namespace Formatter

open FormatterM

/-- The text of the value, with ASCII letters in capitals. -/
def upper : Formatter := fun call ↦ do
  write (call.value.text.map Char.toUpper)
  return true

/-- The items of a list with the options between them, or commas. Items are rendered with the
specifier if it has placeholders, and all of them before any is written. -/
def join : Formatter := fun call ↦
  match call.value with
  | .list items => do
    let parts ← items.mapM fun v ↦
      match call.nested? with
      | some t => renderText t v
      | none => return v.text
    write ((call.options.getD ", ").intercalate parts)
    return true
  | _ => return false

/-- An integer that is not negative; nothing else is accepted. -/
def strict : Formatter := fun call ↦
  match call.value with
  | .int n => do
    if n < 0 then fail "expected a non-negative int, got int"
    write call.value.text
    return true
  | v => fail ("expected a non-negative int, got " ++ v.kind)

/-- What the formatter was asked to do: the kind of the value, the options, the number of nodes of the
specifier, and the hint. -/
def echo : Formatter := fun call ↦ do
  let options := call.options.getD "-"
  let nodes := (call.format.map fun t ↦ t.length.repr).getD "-"
  write ("[" ++ call.value.kind ++ "|" ++ options ++ "|" ++ nodes ++ "|" ++ call.hint ++ "]")
  return true

/-- Writes something and then declines. -/
def hesitant : Formatter := fun _ ↦ do
  write "partial;"
  return false

/-- The rendered specifier in angle brackets. -/
def nest : Formatter := fun call ↦ do
  write "<"
  forM call.format fun t ↦ render t call.value
  write ">"
  return true

/-- The rendered specifier twice, with a slash between; nothing without a specifier. -/
def twice : Formatter := fun call ↦ do
  forM call.format fun t ↦ do
    render t call.value
    write "/"
    write (← renderText t call.value)
  return true

/-- Writes something and then gives up, with the options as its message. -/
def failing : Formatter := fun call ↦ do
  write "lost"
  fail (call.options.getD "failed")

/-- The ready-made formatters and the canonical one by name. -/
def stock : List (String × Formatter) := [
  ("upper", upper),
  ("join", join),
  ("strict", strict),
  ("echo", echo),
  ("partial", hesitant),
  ("nest", nest),
  ("twice", twice),
  ("fail", failing),
  ("default", canonical)]

end Formatter

end TextTemplate
