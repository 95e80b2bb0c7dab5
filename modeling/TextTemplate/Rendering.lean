import TextTemplate.Formatter.Basic
import TextTemplate.Path

/-!
# Rendering

A placeholder is rendered on its own, so that its width is that of its whole text and a failed one
leaves nothing behind. Its value goes to the formatter that the format names; if there is none, or if
it declines, a specifier with placeholders is rendered against the value, and any other specifier is a
hint for the default formatter.

## Nesting

Specifiers are rendered inside of the render of a placeholder, and so are the templates that a
formatter brings along. The latter may be nested without end, where a machine would run out of stack.
So the functions here are told how to render what is nested, and `Renderer.nested` ties the knot up to
a depth that belongs to the renderer. Whether that depth was met is part of the outcome.
-/

namespace TextTemplate

/-! ## Output

A render only ever adds to its output: text, and the errors that it recovered from. What has been
added stays when the render fails afterwards; it is for the caller to drop it, and `isolated` is how
a caller does so. A render that would be nested too deep adds nothing but the mark that it was left
out. -/

/-- The text written so far, and the errors recovered from, in order. -/
structure Output where
  text : String := ""
  recovered : List ResolutionError := []
  /-- Whether a render was left out, for being nested too deep. -/
  cut : Bool := false

/-- Adds to an output, and may fail. -/
abbrev RenderM := ExceptT ResolutionError (StateM Output)

namespace RenderM

/-- Adds text. -/
def emit (text : String) : RenderM Unit :=
  modify fun out ↦ { out with text := out.text ++ text }

/-- Adds an error that is being recovered from. -/
def record (e : ResolutionError) : RenderM Unit :=
  modify fun out ↦ { out with recovered := out.recovered ++ [e] }

/-- Leaves a render out. -/
def leaveOut : RenderM Unit :=
  modify fun out ↦ { out with cut := true }

/-- The text of a render of its own. The text is dropped if the render fails; errors that it
recovered from are kept in either case. -/
def isolated (act : RenderM Unit) : StateM Output (Except ResolutionError String) := fun out ↦
  let (result, inner) := act.run.run { out with text := "" }
  (result.map fun _ ↦ inner.text, { inner with text := out.text })

end RenderM

/-! ## Alignment

A rendered text may be padded with spaces to a width, which is counted in characters. -/

/-- The greatest width that an alignment can ask for. -/
def maxAlignment : Nat := 4096

/-- The number of characters that an alignment asks for. -/
def alignmentWidth (width : Int32) : Nat := min width.toInt.natAbs maxAlignment

/-- A text padded to a width; the padding stands behind the text if the width is negative. -/
def align (text : String) : Option Int32 → String
  | none => text
  | some width =>
    let padding := String.ofList (List.replicate (alignmentWidth width - text.length) ' ')
    if width < 0 then text ++ padding else padding ++ text

/-! ## Renderers -/

/-- What rendering depends on beside the template and the arguments. -/
structure Renderer where
  settings : Settings := {}
  sources : SourceChain := SourceChain.builtin
  formatters : FormatterRegistry := {}
  /-- How deep renders may be nested; no stack holds as many as this. -/
  depth : Nat := 1000000

/-- How to render a template against a value inside of another render. -/
abbrev NestedRender := Template → Value → RenderM Unit

/-- Runs a script, given how to render templates. -/
def Script.run {α : Type} (inner : NestedRender) : Script α → StateM Output α
  | .done a => pure a
  | .write text next => do
    let _ ← (RenderM.emit text).run
    next.run inner
  | .render t v next => do
    let result ← (inner t v).run
    (next result).run inner
  | .renderText t v next => do
    let result ← RenderM.isolated (inner t v)
    (next result).run inner

/-- Runs a formatter. A failure of its own becomes an error through `fail`, and one of the rendering
that it asked for stays what it is. -/
def Formatter.run (f : Formatter) (fail : String → ResolutionError) (call : FormatCall)
    (inner : NestedRender) : RenderM Bool := ExceptT.mk do
  match ← (f call).run.run inner with
  | .ok claimed => return .ok claimed
  | .error (.failed message) => return .error (fail message)
  | .error (.render e) => return .error e

namespace Renderer

/-- Takes the configured action for a placeholder that failed. -/
def recover (r : Renderer) (p : Placeholder) (e : ResolutionError) : RenderM Unit :=
  match r.settings.errorAction with
  | .abort => throw e
  | .substitute => do
    RenderM.record e
    RenderM.emit r.settings.fallbackToken
  | .maintainTokens => do
    RenderM.record e
    RenderM.emit p.raw

/-- Puts a rendered placeholder into the output, or takes the configured action for one that
failed. -/
def place (r : Renderer) (p : Placeholder) : Except ResolutionError String → RenderM Unit
  | .ok text => RenderM.emit (align text p.alignment)
  | .error e => r.recover p e

/-- Follows the path of a placeholder. -/
def resolve (r : Renderer) (args : List Value) (selectors : List Selector) :
    Except PathFailure Trail :=
  Path.resolve r.sources r.settings.caseSensitivity args selectors

/-- Runs the default formatter. It takes every value, whatever it answers. -/
def runDefault (r : Renderer) (inner : NestedRender) (fail : String → String → ResolutionError)
    (call : FormatCall) : RenderM Unit :=
  (fun _ ↦ ()) <$> r.formatters.default.run (fail "default") call inner

/-- Renders a value with the formatter that a head names; says whether there is one that takes it. -/
def runHead (r : Renderer) (inner : NestedRender) (fail : String → String → ResolutionError)
    (v : Value) : Option FormatterHead → RenderM Bool
  | none => pure false
  | some head =>
    match r.formatters.named.get? head.name with
    | none => pure false
    | some f => f.run (fail head.name) ⟨v, head.options, some head.body⟩ inner

/-- Renders a value under a format, or under none. -/
def renderFormat (r : Renderer) (inner : NestedRender) (fail : String → String → ResolutionError)
    (v : Value) : Option Format → RenderM Unit
  | none => r.runDefault inner fail ⟨v, none, none⟩
  | some f => do
    let taken ← r.runHead inner fail v f.head
    if taken then pure ()
    else if Template.hasPlaceholders f.template then inner f.template v
    else r.runDefault inner fail ⟨v, none, some f.template⟩

/-- Renders a placeholder, without its alignment. -/
def renderPlaceholder (r : Renderer) (inner : NestedRender) (p : Placeholder) (args : List Value) :
    RenderM Unit :=
  match r.resolve args p.selectors with
  | .error f => throw (p.pathError f)
  | .ok t => r.renderFormat inner (p.formatterError t) t.current p.format

/-- Renders the nodes of a template against arguments. -/
def renderNodes (r : Renderer) (inner : NestedRender) : List Node → List Value → RenderM Unit
  | [], _ => pure ()
  | .literal l :: ns, args => do
    RenderM.emit l.text
    r.renderNodes inner ns args
  | .placeholder p :: ns, args => do
    let result ← ExceptT.lift (RenderM.isolated (r.renderPlaceholder inner p args))
    r.place p result
    r.renderNodes inner ns args

/-- Renders a template inside of another render, with room for so many more inside of it. -/
def nested (r : Renderer) : Nat → NestedRender
  | 0, _, _ => RenderM.leaveOut
  | depth + 1, t, v => r.renderNodes (r.nested depth) t [v]

/-- What a render gives: its text or the error that ended it, and the errors that it recovered
from. -/
structure Outcome where
  result : Except ResolutionError String
  recovered : List ResolutionError
  /-- Whether renders were nested too deep, so that some of them were left out. -/
  cut : Bool

/-- Renders a template against arguments. -/
def render (r : Renderer) (template : Template) (args : List Value) : Outcome :=
  let (result, out) := (r.renderNodes (r.nested r.depth) template args).run.run {}
  ⟨result.map fun _ ↦ out.text, out.recovered, out.cut⟩

end Renderer

end TextTemplate
