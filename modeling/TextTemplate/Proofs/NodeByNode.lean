import TextTemplate.Proofs.ErrorActions

/-!
# Rendering node by node

A render only adds to its output, and what it adds does not depend on what the output held before.
So the nodes of a template can be rendered one by one, and their texts put behind one another. This
holds for every formatter, since a formatter never sees the output that it writes to.

A placeholder that fails has written to an output of its own. That output is dropped, whatever it
held and however deep the failure was, so all that is left of the placeholder is what the action for
failed ones puts in its place.
-/

namespace TextTemplate

/-! ## Runs that add the same to every output -/

/-- A run that only adds to its output, and adds the same to every output. -/
def Additive {ρ : Type} (run : Output → ρ × Output) : Prop :=
  ∀ out, run out = ((run {}).1, out.followedBy (run {}).2)

namespace Additive

variable {ρ σ : Type}

theorem adding (a : ρ) (new : Output) : Additive fun out ↦ (a, out.followedBy new) := fun out ↦
  congrArg (fun more ↦ (a, out.followedBy more)) new.empty_followedBy.symm

theorem keeping (a : ρ) : Additive fun out ↦ (a, out) := fun out ↦
  congrArg (Prod.mk a) out.followedBy_empty.symm

theorem andThen {run : Output → ρ × Output} {next : ρ → Output → σ × Output} (h : Additive run)
    (hnext : ∀ a, Additive (next a)) : Additive fun out ↦ next (run out).1 (run out).2 := by
  intro out
  have hrun := h out
  show next (run out).1 (run out).2 =
    ((next (run {}).1 (run {}).2).1, out.followedBy (next (run {}).1 (run {}).2).2)
  generalize run {} = alone at hrun ⊢
  obtain ⟨a, new⟩ := alone
  rw [hrun]
  show next a (out.followedBy new) = ((next a new).1, out.followedBy (next a new).2)
  rw [hnext a (out.followedBy new), hnext a new, Output.followedBy_assoc]

theorem map {run : Output → ρ × Output} (h : Additive run) (g : ρ → σ) :
    Additive fun out ↦ (g (run out).1, (run out).2) := h.andThen fun a ↦ keeping (g a)

end Additive

namespace RenderM

variable {α β : Type}

theorem additive_pure (a : α) : Additive (exec (pure a)) := .keeping _

theorem additive_throw (e : ResolutionError) : Additive (exec (throw e : RenderM α)) := .keeping _

theorem additive_emit (text : String) : Additive (exec (emit text)) := by
  have hadding : exec (emit text) = fun out ↦ (.ok (), out.followedBy ⟨text, [], false⟩) := by
    funext out
    rw [exec_emit, Output.append, Output.followedBy, List.append_nil, Bool.or_false]
  rw [hadding]
  exact .adding _ _

theorem additive_record (e : ResolutionError) : Additive (exec (record e)) := by
  have hadding : exec (record e) = fun out ↦ (.ok (), out.followedBy ⟨"", [e], false⟩) := by
    funext out
    rw [exec_record, Output.recovering, Output.followedBy, String.append_empty, Bool.or_false]
  rw [hadding]
  exact .adding _ _

theorem additive_leaveOut : Additive (exec leaveOut) := by
  have hadding : exec leaveOut = fun out ↦ (.ok (), out.followedBy ⟨"", [], true⟩) := by
    funext out
    rw [exec_leaveOut, Output.followedBy, String.append_empty, List.append_nil, Bool.or_true]
  rw [hadding]
  exact .adding _ _

theorem additive_bind {act : RenderM α} {f : α → RenderM β} (h : Additive act.exec)
    (hf : ∀ a, Additive (f a).exec) : Additive (act >>= f).exec := by
  let next : Except ResolutionError α → Output → Except ResolutionError β × Output
    | .ok a => (f a).exec
    | .error e => fun out ↦ (.error e, out)
  have hnext : ∀ result, Additive (next result)
    | .ok a => hf a
    | .error e => .keeping _
  have hbind : (act >>= f).exec = fun out ↦ next (act.exec out).1 (act.exec out).2 := by
    funext out
    rw [exec_bind]
    obtain ⟨result, out'⟩ := act.exec out
    cases result <;> rfl
  rw [hbind]
  exact h.andThen hnext

/-- The property as a relation, of which the first render alone decides. -/
def AddsFirst (α : Type) (act _ : RenderM α) : Prop := Additive act.exec

theorem sequential_addsFirst : Sequential AddsFirst where
  pure := additive_pure
  bind := additive_bind

/-- A render of its own adds nothing to the text, and all else that it did. -/
theorem additive_execAlone {act : RenderM Unit} (h : Additive act.exec) :
    Additive act.execAlone := by
  intro out
  have hstart : Output.withText {} "" = {} := rfl
  rw [execAlone, execAlone, h (out.withText ""), hstart]
  simp only [Output.text_followedBy, Output.withText_followedBy]

end RenderM

/-- How nested templates are rendered, if the renders only add. -/
def NestedRender.Adds (inner : NestedRender) : Prop := ∀ t v, Additive (inner t v).exec

theorem Script.additive {α : Type} {inner : NestedRender} (hinner : inner.Adds) (s : Script α) :
    Additive (s.exec inner) := by
  induction s with
  | done a => exact .keeping a
  | write text next ih => exact (RenderM.additive_emit text).andThen fun _ ↦ ih
  | render t v next ih => exact (hinner t v).andThen ih
  | renderText t v next ih => exact (RenderM.additive_execAlone (hinner t v)).andThen ih

theorem Formatter.additive_run {inner : NestedRender} (hinner : inner.Adds) (f : Formatter)
    (fail : String → ResolutionError) (call : FormatCall) :
    Additive (f.run fail call inner).exec := by
  rw [funext (f.exec_run fail call inner)]
  exact (Script.additive hinner (f call).run).map _

namespace Renderer

variable {r : Renderer} {inner : NestedRender}

theorem additive_renderPlaceholder (hinner : inner.Adds) (p : Placeholder) (args : List Value) :
    Additive (r.renderPlaceholder inner p args).exec := by
  rw [renderPlaceholder]
  cases r.resolve args p.selectors with
  | error f => exact RenderM.additive_throw (p.pathError f)
  | ok t =>
    have hrelated : RenderM.AddsFirst Unit
        (r.renderFormat inner (p.formatterError t) t.current p.format)
        (r.renderFormat inner (p.formatterError t) t.current p.format) := by
      refine renderFormat_related RenderM.sequential_addsFirst rfl ?_ ?_ ?_
      · exact fun _ head g _ _ _ ↦ g.additive_run hinner _ _
      · exact r.formatters.default.additive_run hinner _ _
      · exact fun f _ ↦ hinner f.template t.current
    exact hrelated

theorem additive_place (p : Placeholder) (result : Except ResolutionError String) :
    Additive (r.place p result).exec := by
  cases result with
  | ok text => exact RenderM.additive_emit _
  | error e =>
    have hrelated : RenderM.AddsFirst Unit (r.recover p e) (r.recover p e) :=
      recover_related RenderM.sequential_addsFirst RenderM.additive_emit rfl
        (RenderM.additive_throw e) (RenderM.additive_record e)
    exact hrelated

theorem additive_renderPlaced (hinner : inner.Adds) (args : List Value) (p : Placeholder) :
    Additive (r.renderPlaced inner args p).exec := by
  rw [renderPlaced]
  refine RenderM.additive_bind ?_ (additive_place p)
  exact (RenderM.additive_execAlone (additive_renderPlaceholder hinner p args)).map _

theorem additive_renderNodes (hinner : inner.Adds) (t : Template) (args : List Value) :
    Additive (r.renderNodes inner t args).exec := by
  have hrelated : RenderM.AddsFirst Unit (r.renderNodes inner t args)
      (r.renderNodes inner t args) :=
    renderNodes_related RenderM.sequential_addsFirst RenderM.additive_emit fun p _ ↦
      additive_renderPlaced hinner args p
  exact hrelated

theorem adds_nested (r : Renderer) (depth : Nat) : NestedRender.Adds (r.nested depth) := by
  induction depth with
  | zero => exact fun _ _ ↦ RenderM.additive_leaveOut
  | succ depth ih => exact fun t v ↦ additive_renderNodes ih t [v]

/-! ## Templates behind one another -/

/-- Renders a template into an output: what it gives, and the output that it leaves. -/
def renderInto (r : Renderer) (t : Template) (args : List Value) (out : Output) :
    Except ResolutionError Unit × Output :=
  (r.renderNodes (r.nested r.depth) t args).exec out

theorem additive_renderInto (r : Renderer) (t : Template) (args : List Value) :
    Additive (r.renderInto t args) := additive_renderNodes (r.adds_nested r.depth) t args

/-- What two renders come to, one behind the other. The second one is not begun if the first one
fails. -/
def Outcome.andThen (first second : Outcome) : Outcome :=
  match first.result with
  | .error _ => first
  | .ok text => ⟨second.result.map (text ++ ·), first.recovered ++ second.recovered,
      first.cut || second.cut⟩

theorem renderNodes_append (inner : NestedRender) (xs ys : Template) (args : List Value) :
    r.renderNodes inner (xs ++ ys) args =
      (do r.renderNodes inner xs args; r.renderNodes inner ys args) := by
  induction xs with
  | nil => rw [List.nil_append, renderNodes_nil, pure_bind]
  | cons x xs ih =>
    cases x with
    | literal l =>
      rw [List.cons_append, renderNodes_literal, renderNodes_literal, ih, bind_assoc]
    | placeholder p =>
      rw [List.cons_append, renderNodes_placeholder, renderNodes_placeholder, ih, bind_assoc]

theorem renderInto_append (r : Renderer) (xs ys : Template) (args : List Value) (out : Output) :
    r.renderInto (xs ++ ys) args out = match r.renderInto xs args out with
      | (.ok _, next) => r.renderInto ys args next
      | (.error e, next) => (.error e, next) := by
  rw [renderInto, renderInto, renderNodes_append, RenderM.exec_bind]
  generalize (r.renderNodes (r.nested r.depth) xs args).exec out = first
  obtain ⟨result, next⟩ := first
  cases result <;> rfl

theorem render_eq_ofRun (r : Renderer) (t : Template) (args : List Value) :
    r.render t args = .ofRun (r.renderInto t args {}) := rfl

theorem render_append (r : Renderer) (xs ys : Template) (args : List Value) :
    r.render (xs ++ ys) args = (r.render xs args).andThen (r.render ys args) := by
  rw [render_eq_ofRun, render_eq_ofRun, render_eq_ofRun, renderInto_append]
  generalize r.renderInto xs args {} = first
  obtain ⟨result, out⟩ := first
  cases result with
  | error e => rfl
  | ok _ =>
    simp only
    rw [r.additive_renderInto ys args out]
    generalize r.renderInto ys args {} = second
    obtain ⟨result, new⟩ := second
    cases result <;> rfl

/-- A render into an output succeeds if it does from the beginning, and then adds what it gives. -/
theorem renderInto_eq_ok_iff {r : Renderer} {t : Template} {args : List Value}
    {out next : Output} :
    r.renderInto t args out = (.ok (), next) ↔
      ∃ text, (r.render t args).result = .ok text ∧
        next = out.followedBy ⟨text, (r.render t args).recovered, (r.render t args).cut⟩ := by
  rw [r.additive_renderInto t args out, render_eq_ofRun]
  generalize r.renderInto t args {} = alone
  obtain ⟨result, new⟩ := alone
  cases result with
  | error e => exact ⟨nofun, fun ⟨_, hok, _⟩ ↦ absurd hok nofun⟩
  | ok _ =>
    constructor
    · intro h
      exact ⟨new.text, rfl, (Prod.mk.inj h).2.symm⟩
    · rintro ⟨text, hok, rfl⟩
      obtain rfl := Except.ok.inj hok
      rfl

/-! ## The text of a node -/

/-- The text of a placeholder before it is brought to its width, or the error that it fails with. -/
def ownText (r : Renderer) (args : List Value) (p : Placeholder) : Except ResolutionError String :=
  ((r.renderPlaceholder (r.nested r.depth) p args).execAlone {}).1

/-- The text of a node where placeholders that fail are replaced. -/
def nodeText (r : Renderer) (args : List Value) : Node → String
  | .literal l => l.text
  | .placeholder p =>
    match r.ownText args p with
    | .ok text => align text p.alignment
    | .error _ => r.replacement p

theorem result_node (h : r.settings.errorAction ≠ .abort) (args : List Value) (n : Node) :
    (r.render [n] args).result = .ok (r.nodeText args n) := by
  cases n with
  | literal l =>
    rw [render_eq, renderNodes_literal, renderNodes_nil]
    exact congrArg Except.ok String.empty_append
  | placeholder p =>
    rw [render_eq, renderNodes_placeholder, renderNodes_nil, RenderM.exec_bind, exec_renderPlaced,
      nodeText, ownText]
    -- The output of the placeholder itself is gone, whether it failed or not.
    have htext : ((r.renderPlaceholder (r.nested r.depth) p args).execAlone {}).2.text = "" := rfl
    generalize (r.renderPlaceholder (r.nested r.depth) p args).execAlone {} = last at htext ⊢
    obtain ⟨result, out⟩ := last
    have hempty : ∀ text, out.text ++ text = text := fun text ↦ htext ▸ String.empty_append
    cases result with
    | ok text => exact congrArg Except.ok (hempty _)
    | error e =>
      rw [place, exec_recover h]
      exact congrArg Except.ok (hempty _)

/-- The texts of the nodes are put behind one another. -/
theorem result_nodes (h : r.settings.errorAction ≠ .abort) (args : List Value) (t : Template) :
    (r.render t args).result = .ok (String.join (t.map (r.nodeText args))) := by
  induction t with
  | nil =>
    rw [render_eq, renderNodes_nil, List.map_nil, String.join_nil]
    rfl
  | cons n ns ih =>
    rw [← List.singleton_append, render_append, Outcome.andThen, result_node h]
    simp only
    rw [ih, List.singleton_append, List.map_cons, String.join_cons]
    rfl

/-- **Rendering is compositional.** A render into an output succeeds exactly if the render on its
own gives a text, and then adds that text, with what was recovered from, and changes nothing else. A
template in two parts is rendered one part after the other, and fails with the error of the first
part that fails. Where placeholders that fail are replaced, the text is that of the nodes one behind
the other: literal text, the text of a placeholder at its width, or what replaces it. -/
theorem render_compositional (r : Renderer) (args : List Value) :
    (∀ t out next, r.renderInto t args out = (.ok (), next) ↔
        ∃ text, (r.render t args).result = .ok text ∧
          next = out.followedBy ⟨text, (r.render t args).recovered, (r.render t args).cut⟩) ∧
      (∀ xs ys, r.render (xs ++ ys) args = (r.render xs args).andThen (r.render ys args)) ∧
      (r.settings.errorAction ≠ .abort →
        ∀ t, (r.render t args).result = .ok (String.join (t.map (r.nodeText args)))) :=
  ⟨fun _ _ _ ↦ renderInto_eq_ok_iff, fun xs ys ↦ r.render_append xs ys args,
    fun h t ↦ result_nodes h args t⟩

/-- A placeholder with a width, whose formatter writes something before it fails. -/
def failingSample : Placeholder :=
  let format : Format := ⟨[.literal ⟨"fail:", ⟨6, 11⟩⟩], some ⟨"fail", none, []⟩, ⟨6, 11⟩⟩
  ⟨[.ofText "0" ⟨2, 3⟩ true], some 9, some format, "\x7b0,9:fail:\x7d", ⟨1, 12⟩⟩

/-- The token stands between the brackets, and the text that is there already stays. -/
theorem render_compositional_failingSample :
    let r := stocked.acting .substitute "?"
    let t : Template :=
      [.literal ⟨"[", ⟨0, 1⟩⟩, .placeholder failingSample, .literal ⟨"]", ⟨12, 13⟩⟩]
    (∃ e, r.ownText [.bool true] failingSample = .error e) ∧ r.settings.errorAction ≠ .abort ∧
      (r.render t [.bool true]).result = .ok "[?]" ∧
      ∃ next, r.renderInto t [.bool true] ⟨"a", [], false⟩ = (.ok (), next) ∧
        next.text = "a[?]" := by
  intro r t
  obtain ⟨hinto, _, hnodes⟩ := render_compositional r [.bool true]
  have haction : r.settings.errorAction ≠ .abort := nofun
  have hresult : (r.render t [.bool true]).result = .ok "[?]" := hnodes haction t
  exact ⟨⟨_, rfl⟩, haction, hresult, _, (hinto t _ _).mpr ⟨"[?]", hresult, rfl⟩, rfl⟩

end Renderer

end TextTemplate
