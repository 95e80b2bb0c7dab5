import TextTemplate.Proofs.Running

/-!
# Two renderers side by side

Much of what is said about rendering relates the renders of two renderers, or says something of one
that is kept by sequencing. All such arguments go through the same functions in the same way, so the
way is gone here once, for any relation that sequencing keeps. What remains to be shown of a
relation is what it makes of a formatter, of a placeholder that failed, and of what is nested.
-/

namespace TextTemplate

/-- A relation between renders that holds where nothing happens and that sequencing keeps. -/
structure RenderM.Sequential (R : (α : Type) → RenderM α → RenderM α → Prop) : Prop where
  pure : ∀ {α : Type} (a : α), R α (Pure.pure a) (Pure.pure a)
  bind : ∀ {α β : Type} {act act' : RenderM α} {f f' : α → RenderM β}, R α act act' →
    (∀ a, R β (f a) (f' a)) → R β (act >>= f) (act' >>= f')

variable {R : (α : Type) → RenderM α → RenderM α → Prop}

theorem RenderM.sequential_eq : Sequential fun _ act act' ↦ act' = act where
  pure _ := rfl
  bind h hf := by rw [h, funext hf]

theorem RenderM.Sequential.map (h : Sequential R) {α β : Type} {act act' : RenderM α}
    (hact : R α act act') (f : α → β) : R β (f <$> act) (f <$> act') := by
  rw [map_eq_pure_bind, map_eq_pure_bind]
  exact h.bind hact fun a ↦ h.pure (f a)

namespace Renderer

variable {r r' : Renderer} {inner inner' : NestedRender}
  {fail fail₂ : String → String → ResolutionError} {v v' : Value}

theorem runDefault_related (hR : RenderM.Sequential R) (hr : r'.formatters = r.formatters)
    {call call' : FormatCall}
    (hdefault : R Bool (r.formatters.default.run (fail "default") call inner)
      (r.formatters.default.run (fail₂ "default") call' inner')) :
    R Unit (r.runDefault inner fail call) (r'.runDefault inner' fail₂ call') := by
  rw [runDefault, runDefault, hr]
  exact hR.map hdefault _

theorem runHead_related (hR : RenderM.Sequential R) (hr : r'.formatters = r.formatters)
    {head? head?' : Option FormatterHead}
    (hheads : Option.Rel (fun head head' ↦ head'.name = head.name ∧
      ∀ f, r.formatters.named.get? head.name = some f →
        R Bool (f.run (fail head.name) ⟨v, head.options, some head.body⟩ inner)
          (f.run (fail₂ head.name) ⟨v', head'.options, some head'.body⟩ inner')) head? head?') :
    R Bool (r.runHead inner fail v head?) (r'.runHead inner' fail₂ v' head?') := by
  cases hheads with
  | none => exact hR.pure false
  | @some head head' hhead =>
    obtain ⟨hname, hnamed⟩ := hhead
    rw [runHead, runHead, hr, hname]
    cases hget : r.formatters.named.get? head.name with
    | none => exact hR.pure false
    | some f => exact hnamed f hget

/-- Values are rendered alike under two formats that name the same formatter, if formatters and
nested renders are alike. -/
theorem renderFormats_related (hR : RenderM.Sequential R) (hr : r'.formatters = r.formatters)
    {format format' : Option Format}
    (hformats : Option.Rel (fun f f' ↦
      Option.Rel (fun head head' ↦ head'.name = head.name ∧
        ∀ g, r.formatters.named.get? head.name = some g →
          R Bool (g.run (fail head.name) ⟨v, head.options, some head.body⟩ inner)
            (g.run (fail₂ head.name) ⟨v', head'.options, some head'.body⟩ inner')) f.head f'.head ∧
      Template.hasPlaceholders f'.template = Template.hasPlaceholders f.template ∧
      R Unit (inner f.template v) (inner' f'.template v')) format format')
    (hdefault : R Bool
      (r.formatters.default.run (fail "default") ⟨v, none, format.map Format.template⟩ inner)
      (r.formatters.default.run (fail₂ "default") ⟨v', none, format'.map Format.template⟩ inner')) :
    R Unit (r.renderFormat inner fail v format) (r'.renderFormat inner' fail₂ v' format') := by
  cases hformats with
  | none => exact runDefault_related hR hr hdefault
  | @some f f' hf =>
    obtain ⟨hheads, hnested, hinner⟩ := hf
    rw [renderFormat, renderFormat, hnested]
    refine hR.bind (runHead_related hR hr hheads) fun taken ↦ ?_
    by_cases htaken : taken = true
    · rw [if_pos htaken, if_pos htaken]
      exact hR.pure ()
    · rw [if_neg htaken, if_neg htaken]
      by_cases hplaceholders : Template.hasPlaceholders f.template = true
      · rw [if_pos hplaceholders, if_pos hplaceholders]
        exact hinner
      · rw [if_neg hplaceholders, if_neg hplaceholders]
        exact runDefault_related hR hr hdefault

/-- Values are rendered alike under a format if formatters and nested renders are alike. -/
theorem renderFormat_related (hR : RenderM.Sequential R) (hr : r'.formatters = r.formatters)
    {format : Option Format}
    (hnamed : ∀ f head g, format = some f → f.head = some head →
      r.formatters.named.get? head.name = some g →
      R Bool (g.run (fail head.name) ⟨v, head.options, some head.body⟩ inner)
        (g.run (fail₂ head.name) ⟨v, head.options, some head.body⟩ inner'))
    (hdefault : R Bool
      (r.formatters.default.run (fail "default") ⟨v, none, format.map Format.template⟩ inner)
      (r.formatters.default.run (fail₂ "default") ⟨v, none, format.map Format.template⟩ inner'))
    (hinner : ∀ f, format = some f → R Unit (inner f.template v) (inner' f.template v)) :
    R Unit (r.renderFormat inner fail v format) (r'.renderFormat inner' fail₂ v format) := by
  refine renderFormats_related hR hr ?_ hdefault
  cases format with
  | none => exact .none
  | some f =>
    refine .some ⟨?_, rfl, hinner f rfl⟩
    cases hhead : f.head with
    | none => exact .none
    | some head => exact .some ⟨rfl, fun g ↦ hnamed f head g rfl hhead⟩

/-- Failed placeholders with the same text are recovered from alike if their errors are. -/
theorem recover_related (hR : RenderM.Sequential R)
    (hemit : ∀ text, R Unit (RenderM.emit text) (RenderM.emit text)) {p p' : Placeholder}
    (hraw : p'.raw = p.raw) {e e' : ResolutionError} (hthrow : R Unit (throw e) (throw e'))
    (hrecord : R Unit (RenderM.record e) (RenderM.record e')) :
    R Unit (r.recover p e) (r.recover p' e') := by
  rw [recover, recover, hraw]
  cases r.settings.errorAction with
  | abort => exact hthrow
  | substitute => exact hR.bind hrecord fun _ ↦ hemit _
  | maintainTokens => exact hR.bind hrecord fun _ ↦ hemit _

/-- The nodes of a template are rendered alike if its placeholders are. -/
theorem renderNodes_related (hR : RenderM.Sequential R)
    (hemit : ∀ text, R Unit (RenderM.emit text) (RenderM.emit text)) {args args' : List Value}
    {ns : List Node}
    (hplaced : ∀ p, .placeholder p ∈ ns →
      R Unit (r.renderPlaced inner args p) (r'.renderPlaced inner' args' p)) :
    R Unit (r.renderNodes inner ns args) (r'.renderNodes inner' ns args') := by
  induction ns with
  | nil =>
    rw [renderNodes_nil, renderNodes_nil]
    exact hR.pure ()
  | cons n ns ih =>
    have hns := ih fun p hp ↦ hplaced p (List.mem_cons_of_mem n hp)
    cases n with
    | literal l =>
      rw [renderNodes_literal, renderNodes_literal]
      exact hR.bind (hemit l.text) fun _ ↦ hns
    | placeholder p =>
      rw [renderNodes_placeholder, renderNodes_placeholder]
      exact hR.bind (hplaced p List.mem_cons_self) fun _ ↦ hns

/-! ## What a render depends on -/

/-- Renderers that render the same where nothing fails. -/
structure Agrees (r r' : Renderer) : Prop where
  sources : r'.sources = r.sources
  formatters : r'.formatters = r.formatters
  depth : r'.depth = r.depth
  caseSensitivity : r'.settings.caseSensitivity = r.settings.caseSensitivity

theorem Agrees.resolve {r r' : Renderer} (h : r.Agrees r') (args : List Value)
    (selectors : List Selector) : r'.resolve args selectors = r.resolve args selectors := by
  rw [Renderer.resolve, Renderer.resolve, h.sources, h.caseSensitivity]

/-- Renderers that differ at most in settings that are not about rendering. -/
structure Alike (r r' : Renderer) : Prop extends r.Agrees r' where
  errorAction : r'.settings.errorAction = r.settings.errorAction
  fallbackToken : r'.settings.fallbackToken = r.settings.fallbackToken

namespace Alike

variable {r r' : Renderer} (h : r.Alike r')

include h

theorem place (p : Placeholder) (result : Except ResolutionError String) :
    r'.place p result = r.place p result := by
  cases result with
  | ok text => rfl
  | error e =>
    rw [Renderer.place, Renderer.place, recover, recover, h.errorAction, h.fallbackToken]

theorem renderFormat (inner : NestedRender) (fail : String → String → ResolutionError) (v : Value)
    (format : Option Format) :
    r'.renderFormat inner fail v format = r.renderFormat inner fail v format := by
  refine renderFormat_related RenderM.sequential_eq h.formatters ?_ rfl ?_
  · exact fun _ _ _ _ _ _ ↦ rfl
  · exact fun _ _ ↦ rfl

theorem renderPlaceholder (inner : NestedRender) (p : Placeholder) (args : List Value) :
    r'.renderPlaceholder inner p args = r.renderPlaceholder inner p args := by
  rw [Renderer.renderPlaceholder, Renderer.renderPlaceholder, h.resolve]
  cases r.resolve args p.selectors with
  | error f => rfl
  | ok t => exact h.renderFormat inner (p.formatterError t) t.current p.format

theorem renderNodes (inner : NestedRender) (ns : List Node) (args : List Value) :
    r'.renderNodes inner ns args = r.renderNodes inner ns args := by
  refine renderNodes_related RenderM.sequential_eq (fun _ ↦ rfl) fun p _ ↦ ?_
  rw [renderPlaced, renderPlaced, h.renderPlaceholder, funext (h.place p)]

theorem nested (depth : Nat) : r'.nested depth = r.nested depth := by
  induction depth with
  | zero => rfl
  | succ depth ih =>
    funext t v
    rw [Renderer.nested, Renderer.nested, ih, h.renderNodes]

theorem render (t : Template) (args : List Value) : r'.render t args = r.render t args := by
  rw [render_eq, render_eq, h.depth, h.nested, h.renderNodes]

end Alike

end Renderer

end TextTemplate
