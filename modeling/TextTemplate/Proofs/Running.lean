import TextTemplate.Rendering

/-!
# Runs, one action at a time

A render is a run from one output to another, and so is a script. `RenderM.exec` and `Script.exec`
name such runs, and the equations here take them apart into the actions that they are made of, so
that nothing behind this file depends on how the monad of renders is built.
-/

namespace TextTemplate

namespace Output

/-- An output with text behind what was written. -/
def append (out : Output) (text : String) : Output := { out with text := out.text ++ text }

/-- An output with an error behind those that were recovered from. -/
def recovering (out : Output) (e : ResolutionError) : Output :=
  { out with recovered := out.recovered ++ [e] }

/-- An output with another text. -/
def withText (out : Output) (text : String) : Output := { out with text }

@[simp] theorem append_recovered (out : Output) (text : String) :
    (out.append text).recovered = out.recovered := rfl

@[simp] theorem recovering_recovered (out : Output) (e : ResolutionError) :
    (out.recovering e).recovered = out.recovered ++ [e] := rfl

/-- An output with everything that another one holds behind it. -/
def followedBy (out new : Output) : Output :=
  ⟨out.text ++ new.text, out.recovered ++ new.recovered, out.cut || new.cut⟩

theorem followedBy_empty (out : Output) : out.followedBy {} = out := by
  rw [followedBy, String.append_empty, List.append_nil, Bool.or_false]

theorem empty_followedBy (out : Output) : followedBy {} out = out := by
  rw [followedBy, String.empty_append, List.nil_append, Bool.false_or]

theorem followedBy_assoc (out new more : Output) :
    (out.followedBy new).followedBy more = out.followedBy (new.followedBy more) := by
  rw [followedBy, followedBy, followedBy, followedBy, String.append_assoc, List.append_assoc,
    Bool.or_assoc]

/-- What a render of its own has written is taken out again. -/
theorem withText_followedBy (out new : Output) :
    ((out.withText "").followedBy new).withText out.text = out.followedBy (new.withText "") := by
  have htext : out.text ++ "" = out.text := String.append_empty
  rw [followedBy, followedBy, withText, withText, withText, htext]

theorem text_followedBy (out new : Output) :
    ((out.withText "").followedBy new).text = new.text :=
  String.empty_append

end Output

/-! ## Renders -/

/-- What a render gives, and the output that it leaves, when it begins with an output. -/
def RenderM.exec {α : Type} (act : RenderM α) (out : Output) :
    Except ResolutionError α × Output := act.run.run out

namespace RenderM

variable {α β : Type}

@[simp] theorem exec_pure (a : α) (out : Output) : exec (pure a) out = (.ok a, out) := rfl

@[simp] theorem exec_throw (e : ResolutionError) (out : Output) :
    exec (throw e : RenderM α) out = (.error e, out) := rfl

@[simp] theorem exec_emit (text : String) (out : Output) :
    exec (emit text) out = (.ok (), out.append text) := rfl

@[simp] theorem exec_record (e : ResolutionError) (out : Output) :
    exec (record e) out = (.ok (), out.recovering e) := rfl

@[simp] theorem exec_leaveOut (out : Output) :
    exec leaveOut out = (.ok (), { out with cut := true }) := rfl

theorem exec_bind (act : RenderM α) (f : α → RenderM β) (out : Output) :
    exec (act >>= f) out = match exec act out with
      | (.ok a, next) => exec (f a) next
      | (.error e, next) => (.error e, next) := by
  unfold exec ExceptT.run StateT.run
  simp only [bind, ExceptT.bind, ExceptT.mk, StateT.bind]
  cases act out with
  | mk result next => cases result <;> rfl

/-- A run that begins without text, with its text as the result and not as output. -/
def execAlone (act : RenderM Unit) (out : Output) : Except ResolutionError String × Output :=
  let last := exec act (out.withText "")
  (last.1.map fun _ ↦ last.2.text, last.2.withText out.text)

theorem exec_isolated (act : RenderM Unit) (out : Output) :
    exec (ExceptT.lift (isolated act)) out =
      (.ok (execAlone act out).1, (execAlone act out).2) := rfl

end RenderM

/-! ## Scripts -/

/-- What a script answers, and the output that it leaves, when it begins with an output. -/
def Script.exec {α : Type} (inner : NestedRender) (s : Script α) (out : Output) : α × Output :=
  (s.run inner).run out

namespace Script

variable {α : Type} (inner : NestedRender) (out : Output)

@[simp] theorem exec_done (a : α) : (done a).exec inner out = (a, out) := rfl

@[simp] theorem exec_write (text : String) (next : Script α) :
    (write text next).exec inner out = next.exec inner (out.append text) := rfl

theorem exec_render (t : Template) (v : Value) (next : Except ResolutionError Unit → Script α) :
    (render t v next).exec inner out =
      (next ((inner t v).exec out).1).exec inner ((inner t v).exec out).2 := rfl

theorem exec_renderText (t : Template) (v : Value)
    (next : Except ResolutionError String → Script α) :
    (renderText t v next).exec inner out =
      (next ((inner t v).execAlone out).1).exec inner ((inner t v).execAlone out).2 := rfl

end Script

/-- The error that a formatter's giving up becomes. -/
def FormatterError.toResolution (fail : String → ResolutionError) : FormatterError → ResolutionError
  | .failed message => fail message
  | .render e => e

theorem Formatter.exec_run (f : Formatter) (fail : String → ResolutionError) (call : FormatCall)
    (inner : NestedRender) (out : Output) :
    (f.run fail call inner).exec out =
      (((f call).run.exec inner out).1.mapError (FormatterError.toResolution fail),
        ((f call).run.exec inner out).2) := by
  unfold Formatter.run RenderM.exec Script.exec ExceptT.run ExceptT.mk StateT.run
  simp only [bind, StateT.bind]
  cases Script.run inner (f call) out with
  | mk result next =>
    match result with
    | .ok claimed => rfl
    | .error (.failed message) => rfl
    | .error (.render e) => rfl

/-! ## Nodes -/

namespace Renderer

variable (r : Renderer) (inner : NestedRender) (args : List Value)

/-- A placeholder is rendered on its own and then put into the output. -/
def renderPlaced (p : Placeholder) : RenderM Unit := do
  let result ← ExceptT.lift (RenderM.isolated (r.renderPlaceholder inner p args))
  r.place p result

theorem renderNodes_nil : r.renderNodes inner [] args = pure () := by
  rw [renderNodes]

theorem renderNodes_literal (l : Literal) (ns : List Node) :
    r.renderNodes inner (.literal l :: ns) args =
      (do RenderM.emit l.text; r.renderNodes inner ns args) := by
  rw [renderNodes]

theorem renderNodes_placeholder (p : Placeholder) (ns : List Node) :
    r.renderNodes inner (.placeholder p :: ns) args =
      (do r.renderPlaced inner args p; r.renderNodes inner ns args) := by
  rw [renderNodes, renderPlaced, bind_assoc]

/-- What a run from the empty output comes to. -/
def Outcome.ofRun (last : Except ResolutionError Unit × Output) : Outcome :=
  ⟨last.1.map fun _ ↦ last.2.text, last.2.recovered, last.2.cut⟩

theorem render_eq (t : Template) :
    r.render t args = .ofRun ((r.renderNodes (r.nested r.depth) t args).exec {}) := rfl

end Renderer

end TextTemplate
