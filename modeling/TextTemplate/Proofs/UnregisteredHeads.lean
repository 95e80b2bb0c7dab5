import TextTemplate.Proofs.Declining
import TextTemplate.Proofs.Places

/-!
# Heads that name no formatter

A template inside of a format can be rendered in three ways: by the formatter that the head of the
format names, by the renderer itself, or by the default formatter. Which way is taken makes no
difference where the formatter is the canonical one, which renders the specifier that it is handed
and answers with the error of that render.

A head that names no formatter is as good as none. This is so at every depth, provided that
formatters do not look at the heads in the specifiers that they are handed, since these are the only
ones who could tell. `Formatter.IgnoresHeads` asks that of a formatter: where specifiers differ in
such heads only, the templates that it has rendered do, and all else is the same.
-/

namespace TextTemplate

/-! ## Templates without unknown heads -/

mutual

/-- A template without the heads whose names are not known, at any depth. -/
def Template.dropHeads (known : String → Bool) : List Node → List Node
  | [] => []
  | .literal l :: ns => .literal l :: Template.dropHeads known ns
  | .placeholder p :: ns =>
    .placeholder (Placeholder.dropHeads known p) :: Template.dropHeads known ns

/-- A placeholder without the unknown heads in its format. -/
def Placeholder.dropHeads (known : String → Bool) : Placeholder → Placeholder
  | ⟨selectors, width, format, raw, span⟩ =>
    ⟨selectors, width, Format.dropHeads? known format, raw, span⟩

/-- A format, if there is one, without the unknown heads in it. -/
def Format.dropHeads? (known : String → Bool) : Option Format → Option Format
  | none => none
  | some ⟨template, head, span⟩ =>
    some ⟨Template.dropHeads known template, FormatterHead.dropHeads? known head, span⟩

/-- A head, if there is one and its name is known, without the unknown heads behind it. -/
def FormatterHead.dropHeads? (known : String → Bool) : Option FormatterHead → Option FormatterHead
  | none => none
  | some ⟨name, options, body⟩ =>
    if known name then some ⟨name, options, Template.dropHeads known body⟩ else none

end

section

variable {known : String → Bool}

mutual

theorem Template.dropHeads_dropHeads : ∀ ns : List Node,
    Template.dropHeads known (Template.dropHeads known ns) = Template.dropHeads known ns
  | [] => rfl
  | .literal l :: ns => by simp only [Template.dropHeads, Template.dropHeads_dropHeads ns]
  | .placeholder p :: ns => by
    simp only [Template.dropHeads, Template.dropHeads_dropHeads ns,
      Placeholder.dropHeads_dropHeads p]

theorem Placeholder.dropHeads_dropHeads : ∀ p : Placeholder,
    Placeholder.dropHeads known (Placeholder.dropHeads known p) = Placeholder.dropHeads known p
  | ⟨selectors, width, format, raw, span⟩ => by
    simp only [Placeholder.dropHeads, Format.dropHeads?_dropHeads? format]

theorem Format.dropHeads?_dropHeads? : ∀ format : Option Format,
    Format.dropHeads? known (Format.dropHeads? known format) = Format.dropHeads? known format
  | none => rfl
  | some ⟨template, head, span⟩ => by
    simp only [Format.dropHeads?, Template.dropHeads_dropHeads template,
      FormatterHead.dropHeads?_dropHeads? head]

theorem FormatterHead.dropHeads?_dropHeads? : ∀ head : Option FormatterHead,
    FormatterHead.dropHeads? known (FormatterHead.dropHeads? known head) =
      FormatterHead.dropHeads? known head
  | none => rfl
  | some ⟨name, options, body⟩ => by
    by_cases hname : known name = true
    · simp only [FormatterHead.dropHeads?, if_pos hname, Template.dropHeads_dropHeads body]
    · simp only [FormatterHead.dropHeads?, if_neg hname]

end

theorem Template.hasPlaceholders_dropHeads (t : Template) :
    Template.hasPlaceholders (Template.dropHeads known t) = t.hasPlaceholders := by
  induction t with
  | nil => rfl
  | cons n ns ih =>
    cases n with
    | literal l => exact ih
    | placeholder p => rfl

theorem Template.literalText_dropHeads (t : Template) :
    Template.literalText (Template.dropHeads known t) = t.literalText := by
  have hmap : (Template.dropHeads known t).map Node.literalText = t.map Node.literalText := by
    induction t with
    | nil => rfl
    | cons n ns ih =>
      cases n with
      | literal l => exact congrArg (l.text :: ·) ih
      | placeholder p => exact congrArg ("" :: ·) ih
  rw [literalText, hmap, literalText]

end

/-! ## Formatters that do not look at heads -/

/-- Templates that differ at most in heads whose names are not known. -/
def Template.SameButHeads (known : String → Bool) (t t' : Template) : Prop :=
  Template.dropHeads known t' = Template.dropHeads known t

namespace Template.SameButHeads

variable {known : String → Bool} {t t' : Template}

theorem dropHeads (t : Template) : SameButHeads known t (Template.dropHeads known t) :=
  Template.dropHeads_dropHeads t

theorem hasPlaceholders (h : SameButHeads known t t') :
    t'.hasPlaceholders = t.hasPlaceholders := by
  have hplaceholders := congrArg Template.hasPlaceholders h
  rwa [hasPlaceholders_dropHeads, hasPlaceholders_dropHeads] at hplaceholders

theorem plainText? (h : SameButHeads known t t') : t'.plainText? = t.plainText? := by
  have htext := congrArg Template.literalText h
  rw [literalText_dropHeads, literalText_dropHeads] at htext
  rw [Template.plainText?, Template.plainText?, h.hasPlaceholders, htext]

end Template.SameButHeads

/-- Scripts that differ at most in unknown heads of the templates that they have rendered. -/
inductive Script.SameButHeads (known : String → Bool) {α : Type} : Script α → Script α → Prop
  | done (a : α) : SameButHeads known (.done a) (.done a)
  | write {text : String} {next next' : Script α} :
      SameButHeads known next next' → SameButHeads known (.write text next) (.write text next')
  | render {t t' : Template} {v : Value} {next next' : Except ResolutionError Unit → Script α} :
      t.SameButHeads known t' → (∀ result, SameButHeads known (next result) (next' result)) →
      SameButHeads known (.render t v next) (.render t' v next')
  | renderText {t t' : Template} {v : Value}
      {next next' : Except ResolutionError String → Script α} :
      t.SameButHeads known t' → (∀ result, SameButHeads known (next result) (next' result)) →
      SameButHeads known (.renderText t v next) (.renderText t' v next')

theorem Script.SameButHeads.refl {known : String → Bool} {α : Type} (s : Script α) :
    SameButHeads known s s := by
  induction s with
  | done a => exact .done a
  | write text next ih => exact .write ih
  | render t v next ih => exact .render rfl ih
  | renderText t v next ih => exact .renderText rfl ih

/-- A formatter does the same for specifiers that differ in unknown heads. -/
def Formatter.IgnoresHeads (known : String → Bool) (f : Formatter) : Prop :=
  ∀ (v : Value) (options : Option String) (t t' : Option Template),
    Option.Rel (Template.SameButHeads known) t t' →
      Script.SameButHeads known (f ⟨v, options, t⟩).run (f ⟨v, options, t'⟩).run

namespace Formatter

variable {known : String → Bool}

theorem ignoresHeads_canonical : canonical.IgnoresHeads known := by
  intro v options t t' ht
  rw [canonical_run, canonical_run]
  cases ht with
  | none => exact .refl _
  | @some t t' ht =>
    rw [Option.filter_some, Option.filter_some, Option.bind_some, Option.bind_some,
      ht.hasPlaceholders, ht.plainText?]
    by_cases hnested : t.hasPlaceholders = true
    · rw [if_pos hnested, if_pos hnested]
      exact .render ht fun result ↦ .refl _
    · rw [if_neg hnested, if_neg hnested]
      exact .refl _

theorem ignoresHeads_nest : nest.IgnoresHeads known := by
  intro v options t t' ht
  cases ht with
  | none => exact .refl _
  | some ht => exact .write (.render ht fun result ↦ .refl _)

end Formatter

/-! ## Rendering without unknown heads -/

/-- What is nested is rendered the same without the unknown heads in it. -/
def NestedRender.IgnoresHeads (known : String → Bool) (inner : NestedRender) : Prop :=
  ∀ t v, inner (Template.dropHeads known t) v = inner t v

section

variable {known : String → Bool} {inner : NestedRender}

theorem NestedRender.IgnoresHeads.congr (h : inner.IgnoresHeads known) {t t' : Template}
    (ht : t.SameButHeads known t') (v : Value) : inner t' v = inner t v := by
  rw [← h t', ht, h]

theorem Script.exec_sameButHeads (hinner : inner.IgnoresHeads known) {α : Type} {s s' : Script α}
    (h : s.SameButHeads known s') (out : Output) : s'.exec inner out = s.exec inner out := by
  induction h generalizing out with
  | done a => rfl
  | write _ ih => exact ih _
  | render ht _ ih =>
    rw [exec_render, exec_render, hinner.congr ht]
    exact ih _ _
  | renderText ht _ ih =>
    rw [exec_renderText, exec_renderText, hinner.congr ht]
    exact ih _ _

theorem Formatter.run_ignoresHeads (hinner : inner.IgnoresHeads known) {f : Formatter}
    (hf : f.IgnoresHeads known) (fail : String → ResolutionError) (v : Value)
    (options : Option String) {t t' : Option Template}
    (ht : Option.Rel (Template.SameButHeads known) t t') :
    f.run fail ⟨v, options, t'⟩ inner = f.run fail ⟨v, options, t⟩ inner := by
  funext out
  show (f.run fail ⟨v, options, t'⟩ inner).exec out = (f.run fail ⟨v, options, t⟩ inner).exec out
  rw [exec_run, exec_run, Script.exec_sameButHeads hinner (hf v options t t' ht)]

end

namespace Renderer

/-- No formatter of a renderer looks at heads that name none of them. -/
abbrev IgnoresHeads (r : Renderer) : Prop :=
  r.formatters.All (Formatter.IgnoresHeads r.formatters.contains)

variable {r : Renderer} {inner : NestedRender}

section

variable (h : r.IgnoresHeads) (hinner : inner.IgnoresHeads r.formatters.contains)

include h hinner

theorem runHead_dropHeads (fail : String → String → ResolutionError) (v : Value)
    (head? : Option FormatterHead) :
    r.runHead inner fail v (FormatterHead.dropHeads? r.formatters.contains head?) =
      r.runHead inner fail v head? := by
  match head? with
  | none => rfl
  | some ⟨name, options, body⟩ =>
    rw [FormatterHead.dropHeads?]
    by_cases hname : r.formatters.contains name = true
    · rw [if_pos hname, runHead, runHead]
      cases hget : r.formatters.named.get? name with
      | none => rfl
      | some f =>
        exact Formatter.run_ignoresHeads hinner (h.named hget) _ v options (.some (.dropHeads body))
    · have hnone : r.formatters.named.get? name = none := by
        rwa [FormatterRegistry.contains, OrderedMap.contains, Option.not_isSome_iff_eq_none]
          at hname
      rw [if_neg hname, runHead, runHead, hnone]

theorem renderFormat_dropHeads (fail : String → String → ResolutionError) (v : Value)
    (format : Option Format) :
    r.renderFormat inner fail v (Format.dropHeads? r.formatters.contains format) =
      r.renderFormat inner fail v format := by
  match format with
  | none => rfl
  | some ⟨template, head, span⟩ =>
    have hdefault : r.runDefault inner fail
        ⟨v, none, some (Template.dropHeads r.formatters.contains template)⟩ =
          r.runDefault inner fail ⟨v, none, some template⟩ := by
      rw [runDefault, runDefault]
      exact congrArg _ (Formatter.run_ignoresHeads hinner h.default _ v none
        (.some (.dropHeads template)))
    rw [Format.dropHeads?, renderFormat, renderFormat, runHead_dropHeads h hinner,
      Template.hasPlaceholders_dropHeads, hinner template v, hdefault]

theorem renderPlaced_dropHeads (args : List Value) (p : Placeholder) :
    r.renderPlaced inner args (Placeholder.dropHeads r.formatters.contains p) =
      r.renderPlaced inner args p := by
  obtain ⟨selectors, width, format, raw, span⟩ := p
  have hplaceholder : r.renderPlaceholder inner
      (Placeholder.dropHeads r.formatters.contains ⟨selectors, width, format, raw, span⟩) args =
        r.renderPlaceholder inner ⟨selectors, width, format, raw, span⟩ args := by
    rw [renderPlaceholder, renderPlaceholder, Placeholder.dropHeads]
    cases r.resolve args selectors with
    | error f => rfl
    | ok t => exact renderFormat_dropHeads h hinner _ t.current format
  -- The width, the text and the place of a placeholder are what they were.
  have hplace : r.place
      (Placeholder.dropHeads r.formatters.contains ⟨selectors, width, format, raw, span⟩) =
        r.place ⟨selectors, width, format, raw, span⟩ := by
    funext result
    cases result <;> rfl
  rw [renderPlaced, renderPlaced, hplaceholder, hplace]

theorem renderNodes_dropHeads (ns : List Node) (args : List Value) :
    r.renderNodes inner (Template.dropHeads r.formatters.contains ns) args =
      r.renderNodes inner ns args := by
  induction ns with
  | nil => rfl
  | cons n ns ih =>
    cases n with
    | literal l => rw [Template.dropHeads, renderNodes_literal, renderNodes_literal, ih]
    | placeholder p =>
      rw [Template.dropHeads, renderNodes_placeholder, renderNodes_placeholder, ih,
        renderPlaced_dropHeads h hinner]

end

/-- Unknown heads make no difference at any depth of nesting. -/
theorem ignoresHeads_nested (h : r.IgnoresHeads) (depth : Nat) :
    (r.nested depth).IgnoresHeads r.formatters.contains := by
  induction depth with
  | zero => exact fun _ _ ↦ rfl
  | succ depth ih =>
    intro t v
    rw [nested, nested]
    exact renderNodes_dropHeads h ih t [v]

theorem render_dropHeads (h : r.IgnoresHeads) (t : Template) (args : List Value) :
    r.render (Template.dropHeads r.formatters.contains t) args = r.render t args := by
  rw [render_eq, render_eq, renderNodes_dropHeads h (ignoresHeads_nested h r.depth)]

/-! ## The canonical formatter and the renderer -/

/-- What the canonical formatter makes of a value: the specifier rendered against it, or its text
under the hint. -/
def renderCanonical (inner : NestedRender) (v : Value) (t : Template) : RenderM Unit :=
  if t.hasPlaceholders then inner t v else RenderM.emit (v.textWithHint (t.plainText?.getD ""))

theorem canonical_run_eq (fail : String → ResolutionError) (v : Value) (options : Option String)
    (t : Template) (inner : NestedRender) :
    Formatter.canonical.run fail ⟨v, options, some t⟩ inner =
      (do renderCanonical inner v t; return true) := by
  funext out
  show (Formatter.canonical.run fail ⟨v, options, some t⟩ inner).exec out =
    (renderCanonical inner v t >>= fun _ ↦ pure true).exec out
  rw [Formatter.exec_run, Formatter.canonical_run, RenderM.exec_bind, renderCanonical,
    Option.filter_some]
  by_cases hnested : t.hasPlaceholders = true
  · rw [if_pos hnested, if_pos hnested]
    simp only
    rw [Script.exec_render]
    generalize (inner t v).exec out = last
    obtain ⟨result, next⟩ := last
    cases result <;> rfl
  · rw [if_neg hnested, if_neg hnested]
    rfl

/-- The default formatter has no other errors than those of the specifier. -/
theorem runDefault_eq (hdefault : r.formatters.default = .canonical)
    (fail : String → String → ResolutionError) (v : Value) (options : Option String)
    (t : Template) : r.runDefault inner fail ⟨v, options, some t⟩ = renderCanonical inner v t := by
  rw [runDefault, hdefault, canonical_run_eq, map_eq_pure_bind, bind_assoc]
  simp only [pure_bind]
  exact bind_pure_unit

/-- Without a head, the renderer does what the canonical formatter does. -/
theorem renderFormat_eq_of_headless (hdefault : r.formatters.default = .canonical)
    (fail : String → String → ResolutionError) (v : Value) (t : Template) (span : Span) :
    r.renderFormat inner fail v (some ⟨t, none, span⟩) = renderCanonical inner v t := by
  have hheadless : r.renderFormat inner fail v (some ⟨t, none, span⟩) =
      if t.hasPlaceholders then inner t v else r.runDefault inner fail ⟨v, none, some t⟩ :=
    renderFormat_headless r inner fail v ⟨t, none, span⟩
  rw [hheadless, runDefault_eq hdefault, renderCanonical]
  by_cases hnested : t.hasPlaceholders = true
  · rw [if_pos hnested, if_pos hnested]
  · rw [if_neg hnested, if_neg hnested]

theorem renderFormat_of_canonical {f : Format} {head : FormatterHead} (hhead : f.head = some head)
    (hnamed : r.formatters.named.get? head.name = some .canonical)
    (fail : String → String → ResolutionError) (v : Value) :
    r.renderFormat inner fail v (some f) = renderCanonical inner v head.body := by
  rw [renderFormat, hhead, runHead, hnamed]
  simp only
  rw [canonical_run_eq, bind_assoc]
  simp only [pure_bind, if_true]
  exact bind_pure_unit

/-- **The ways of rendering agree.** Let the default formatter be the canonical one, and let no
formatter look at the heads in the specifiers that it is handed. Then a render is the same without
the heads that name no formatter, at whatever depth they stand. A format whose head names the
canonical formatter is rendered like the body of the head under no head, whatever the value. And a
specifier with placeholders is rendered against the value, whether the renderer does so itself or
the default formatter. -/
theorem routes_agree (hdefault : r.formatters.default = .canonical)
    (hnamed : ∀ name f, r.formatters.named.get? name = some f →
      f.IgnoresHeads r.formatters.contains) :
    (∀ t args, r.render (Template.dropHeads r.formatters.contains t) args = r.render t args) ∧
    (∀ f head, f.head = some head → r.formatters.named.get? head.name = some .canonical →
      ∀ inner fail v span, r.renderFormat inner fail v (some f) =
        r.renderFormat inner fail v (some ⟨head.body, none, span⟩)) ∧
    ∀ t, Template.hasPlaceholders t = true → ∀ inner fail v options span,
      r.renderFormat inner fail v (some ⟨t, none, span⟩) = inner t v ∧
        r.runDefault inner fail ⟨v, options, some t⟩ = inner t v := by
  have h : r.IgnoresHeads :=
    ⟨fun hget ↦ hnamed _ _ hget, hdefault ▸ Formatter.ignoresHeads_canonical⟩
  refine ⟨fun t args ↦ render_dropHeads h t args, ?_, ?_⟩
  · intro f head hhead hget inner fail v span
    rw [renderFormat_of_canonical hhead hget, renderFormat_eq_of_headless hdefault]
  · intro t hnested inner fail v options span
    have hcanonical : renderCanonical inner v t = inner t v := if_pos hnested
    rw [renderFormat_eq_of_headless hdefault, runDefault_eq hdefault, hcanonical]
    exact ⟨rfl, rfl⟩

/-- A specifier in which a head names no formatter, inside of one whose head does. -/
def unknownHeadSample : Template :=
  let b : Placeholder := ⟨[.ofText "b" ⟨18, 19⟩ true], none, none, "\x7bb\x7d", ⟨17, 20⟩⟩
  let lower : Format := .ofTemplate [.literal ⟨"lower:", ⟨11, 17⟩⟩, .placeholder b] ⟨11, 20⟩
  let a : Placeholder :=
    ⟨[.ofText "a" ⟨9, 10⟩ true], none, some lower, "\x7ba:lower:\x7bb\x7d\x7d", ⟨8, 21⟩⟩
  let nest : Format := .ofTemplate [.literal ⟨"nest:", ⟨3, 8⟩⟩, .placeholder a] ⟨3, 21⟩
  [.placeholder ⟨[.ofText "0" ⟨1, 2⟩ true], none, some nest,
    "\x7b0:nest:\x7ba:lower:\x7bb\x7d\x7d\x7d", ⟨0, 22⟩⟩]

/-- The canonical formatter under a name of its own, beside another formatter. -/
def nestingRenderer : Renderer :=
  { formatters := (FormatterRegistry.add {} "nest" .nest).add "default" .canonical }

theorem routes_agree_unknownHeadSample :
    let r := nestingRenderer
    let v : Value := .map ⟨[(.str "a", .map ⟨[(.str "b", .str "x")]⟩)]⟩
    let name : Placeholder := ⟨[.ofText "a" ⟨0, 1⟩ true], none, none, "\x7ba\x7d", ⟨0, 3⟩⟩
    let fail : String → String → ResolutionError := fun _ message ↦
      ⟨.notFound, message, ⟨0, 0⟩, "", 0, []⟩
    r.formatters.contains "lower" = false ∧
      (r.render (Template.dropHeads r.formatters.contains unknownHeadSample) [v]).result =
        .ok "<lower:x>" ∧
      r.renderFormat (r.nested 1) fail v
          (some (.ofTemplate [.literal ⟨"default:", ⟨0, 8⟩⟩, .placeholder name] ⟨0, 11⟩)) =
        r.renderFormat (r.nested 1) fail v (some ⟨[.placeholder name], none, ⟨0, 3⟩⟩) ∧
      r.runDefault (r.nested 1) fail ⟨v, none, some [.placeholder name]⟩ =
        r.nested 1 [.placeholder name] v := by
  intro r v name fail
  have hinitial : FormatterRegistry.All (Formatter.IgnoresHeads r.formatters.contains) {} :=
    ⟨nofun, Formatter.ignoresHeads_canonical⟩
  have hnest : FormatterRegistry.All (Formatter.IgnoresHeads r.formatters.contains)
      (FormatterRegistry.add {} "nest" .nest) := hinitial.add Formatter.ignoresHeads_nest
  have h : r.IgnoresHeads :=
    @FormatterRegistry.All.add _ _ "default" _ hnest Formatter.ignoresHeads_canonical
  have hhead : (Format.ofTemplate [.literal ⟨"default:", ⟨0, 8⟩⟩, .placeholder name] ⟨0, 11⟩).head =
      some ⟨"default", none, [.placeholder name]⟩ := rfl
  obtain ⟨hdrop, hcanonical, hroute⟩ :=
    routes_agree (r := r) rfl fun _ _ hget ↦ h.named hget
  refine ⟨rfl, ?_, hcanonical _ _ hhead rfl (r.nested 1) fail v _, ?_⟩
  · rw [hdrop]
    rfl
  · exact (hroute [.placeholder name] rfl (r.nested 1) fail v none default).2

end Renderer

end TextTemplate
