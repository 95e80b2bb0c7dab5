import TextTemplate.Error
import TextTemplate.Template.Basic
import TextTemplate.Value.Text

/-!
# Formatters

A formatter turns a resolved value into text. It may write, and it may have any template rendered
against any value, most often the specifier that it was handed, but it sees neither the settings nor
the arguments of the call. So a formatter is a *script* of such actions, and the renderer runs the
script. What a template of its own makes of a formatter is up to the formatter: nothing keeps it from
rendering a template that names the formatter again.

A formatter answers whether it took the value. One that declines leaves the value to be rendered as
if no formatter had been named.
-/

namespace TextTemplate

/-- Actions of a formatter, one after another, and the answer behind the last. -/
inductive Script (α : Type) where
  | done (a : α)
  /-- Adds to the output. -/
  | write (text : String) (next : Script α)
  /-- Renders a template against a value into the output. -/
  | render (t : Template) (v : Value) (next : Except ResolutionError Unit → Script α)
  /-- Renders a template against a value into a text of its own. -/
  | renderText (t : Template) (v : Value) (next : Except ResolutionError String → Script α)

namespace Script

/-- Goes on with another script where one is done. -/
def bind {α β : Type} : Script α → (α → Script β) → Script β
  | .done a, f => f a
  | .write text next, f => .write text (next.bind f)
  | .render t v next, f => .render t v fun r ↦ (next r).bind f
  | .renderText t v next, f => .renderText t v fun r ↦ (next r).bind f

instance : Monad Script where
  pure := .done
  bind := .bind

end Script

/-- Why a formatter gives up. -/
inductive FormatterError where
  | failed (message : String)
  /-- A template could not be rendered. -/
  | render (e : ResolutionError)
  deriving DecidableEq, Repr

/-- What a formatter is asked to do. -/
structure FormatCall where
  value : Value
  /-- The text in parentheses behind the name of the formatter. -/
  options : Option String
  /-- The specifier, without the name of the formatter. -/
  format : Option Template

namespace FormatCall

/-- The text of the specifier; empty if it has placeholders or there is none. -/
def hint (call : FormatCall) : String := (call.format.bind Template.plainText?).getD ""

/-- The specifier, if it has placeholders. -/
def nested? (call : FormatCall) : Option Template := call.format.filter Template.hasPlaceholders

end FormatCall

/-- A script that may give up. -/
abbrev FormatterM := ExceptT FormatterError Script

namespace FormatterM

/-- Adds to the output. -/
def write (text : String) : FormatterM Unit := ExceptT.mk (.write text (.done (.ok ())))

/-- Gives up with a message. -/
def fail {α : Type} (message : String) : FormatterM α := throw (.failed message)

/-- Renders a template against a value into the output, and gives up where that fails. -/
def render (t : Template) (v : Value) : FormatterM Unit :=
  ExceptT.mk (.render t v fun r ↦ .done (r.mapError .render))

/-- The text of a template rendered against a value; gives up where that fails. -/
def renderText (t : Template) (v : Value) : FormatterM String :=
  ExceptT.mk (.renderText t v fun r ↦ .done (r.mapError .render))

end FormatterM

/-- Renders a value, or declines it. -/
abbrev Formatter := FormatCall → FormatterM Bool

/-- The canonical text of a value under the hint, or the specifier rendered against the value. -/
def Formatter.canonical : Formatter := fun call ↦
  match call.nested? with
  | some t => do
    FormatterM.render t call.value
    return true
  | none => do
    FormatterM.write (call.value.textWithHint call.hint)
    return true

/-- Formatters by name, and the one for values without a named formatter. -/
structure FormatterRegistry where
  named : OrderedMap String Formatter := .empty
  default : Formatter := Formatter.canonical

namespace FormatterRegistry

/-- Registers a formatter; the empty name stands for the default one. -/
def add (r : FormatterRegistry) (name : String) (f : Formatter) : FormatterRegistry :=
  if name.isEmpty then { r with default := f } else { r with named := r.named.insert name f }

/-- Whether a name has a formatter. -/
def contains (r : FormatterRegistry) (name : String) : Bool := r.named.contains name

end FormatterRegistry

end TextTemplate
