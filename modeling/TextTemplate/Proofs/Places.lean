import TextTemplate.Proofs.ChainedPaths
import TextTemplate.Proofs.ErrorActions

/-!
# Places do not matter for rendering

A template is full of spans, which say where its parts stand in the text that it was read from. A
render hands them on to the errors that it reports and has no other use for them. So templates that
differ in their spans only render to the same text, and the errors of the two renders differ in
their spans only.

## What a render may look at

Sources are given selectors, and formatters are given specifiers, so either could look at the spans
in them. The built-in ones do not. What is asked of a formatter is that it writes the same scripts
for specifiers that differ in their spans only, if errors that do so are told to it.

## Adding alike

Two renders are compared by what they *add* to whatever was written before, and they may begin with
different outputs. This makes the comparison hold for two places of one template just as well as for
two templates: what stands in front of a node has no part in what the node is rendered to.
-/

namespace TextTemplate

/-! ## Templates at other places -/

/-- A segment with another span. -/
def Selector.mapSpan (f : Span → Span) (s : Selector) : Selector := { s with span := f s.span }

mutual

/-- A template with a function applied to all of its spans. -/
def Template.mapSpans (f : Span → Span) : List Node → List Node
  | [] => []
  | .literal l :: ns => .literal { l with span := f l.span } :: Template.mapSpans f ns
  | .placeholder p :: ns => .placeholder (Placeholder.mapSpans f p) :: Template.mapSpans f ns

/-- A placeholder with a function applied to all of its spans. -/
def Placeholder.mapSpans (f : Span → Span) : Placeholder → Placeholder
  | ⟨selectors, width, format, raw, span⟩ =>
    ⟨selectors.map (Selector.mapSpan f), width, Format.mapSpans? f format, raw, f span⟩

/-- A format, if there is one, with a function applied to all of its spans. -/
def Format.mapSpans? (f : Span → Span) : Option Format → Option Format
  | none => none
  | some ⟨template, head, span⟩ =>
    some ⟨Template.mapSpans f template, FormatterHead.mapSpans? f head, f span⟩

/-- A head, if there is one, with a function applied to all of its spans. -/
def FormatterHead.mapSpans? (f : Span → Span) : Option FormatterHead → Option FormatterHead
  | none => none
  | some ⟨name, options, body⟩ => some ⟨name, options, Template.mapSpans f body⟩

end

/-- A template without its spans. -/
def Template.placeless (t : Template) : Template := Template.mapSpans (fun _ ↦ default) t

mutual

theorem Template.mapSpans_id : ∀ ns : List Node, Template.mapSpans id ns = ns
  | [] => rfl
  | .literal l :: ns => by rw [Template.mapSpans, Template.mapSpans_id ns]; rfl
  | .placeholder p :: ns => by
    rw [Template.mapSpans, Template.mapSpans_id ns, Placeholder.mapSpans_id p]

theorem Placeholder.mapSpans_id : ∀ p : Placeholder, Placeholder.mapSpans id p = p
  | ⟨selectors, width, format, raw, span⟩ => by
    have hselectors : selectors.map (Selector.mapSpan id) = selectors := List.map_id selectors
    rw [Placeholder.mapSpans, Format.mapSpans?_id format, hselectors]
    rfl

theorem Format.mapSpans?_id : ∀ format : Option Format, Format.mapSpans? id format = format
  | none => rfl
  | some ⟨template, head, span⟩ => by
    rw [Format.mapSpans?, Template.mapSpans_id template, FormatterHead.mapSpans?_id head]
    rfl

theorem FormatterHead.mapSpans?_id : ∀ head : Option FormatterHead,
    FormatterHead.mapSpans? id head = head
  | none => rfl
  | some ⟨name, options, body⟩ => by
    rw [FormatterHead.mapSpans?, Template.mapSpans_id body]

end

section

variable (f g : Span → Span)

mutual

theorem Template.mapSpans_mapSpans : ∀ ns : List Node,
    Template.mapSpans f (Template.mapSpans g ns) = Template.mapSpans (f ∘ g) ns
  | [] => rfl
  | .literal l :: ns => by
    simp only [Template.mapSpans, Template.mapSpans_mapSpans ns, Function.comp]
  | .placeholder p :: ns => by
    simp only [Template.mapSpans, Template.mapSpans_mapSpans ns, Placeholder.mapSpans_mapSpans p]

theorem Placeholder.mapSpans_mapSpans : ∀ p : Placeholder,
    Placeholder.mapSpans f (Placeholder.mapSpans g p) = Placeholder.mapSpans (f ∘ g) p
  | ⟨selectors, width, format, raw, span⟩ => by
    simp only [Placeholder.mapSpans, Format.mapSpans?_mapSpans? format, List.map_map]
    rfl

theorem Format.mapSpans?_mapSpans? : ∀ format : Option Format,
    Format.mapSpans? f (Format.mapSpans? g format) = Format.mapSpans? (f ∘ g) format
  | none => rfl
  | some ⟨template, head, span⟩ => by
    simp only [Format.mapSpans?, Template.mapSpans_mapSpans template,
      FormatterHead.mapSpans?_mapSpans? head, Function.comp]

theorem FormatterHead.mapSpans?_mapSpans? : ∀ head : Option FormatterHead,
    FormatterHead.mapSpans? f (FormatterHead.mapSpans? g head) =
      FormatterHead.mapSpans? (f ∘ g) head
  | none => rfl
  | some ⟨name, options, body⟩ => by
    simp only [FormatterHead.mapSpans?, Template.mapSpans_mapSpans body]

end

/-- Without its spans, a template is the same wherever it was. -/
theorem Template.placeless_mapSpans (t : Template) :
    Template.placeless (Template.mapSpans f t) = t.placeless := by
  rw [Template.placeless, Template.mapSpans_mapSpans]
  rfl

theorem Template.hasPlaceholders_mapSpans (t : Template) :
    Template.hasPlaceholders (Template.mapSpans f t) = t.hasPlaceholders := by
  induction t with
  | nil => rfl
  | cons n ns ih =>
    cases n with
    | literal l => exact ih
    | placeholder p => rfl

theorem Template.literalText_mapSpans (t : Template) :
    Template.literalText (Template.mapSpans f t) = t.literalText := by
  have hmap : (Template.mapSpans f t).map Node.literalText = t.map Node.literalText := by
    induction t with
    | nil => rfl
    | cons n ns ih =>
      cases n with
      | literal l => rw [Template.mapSpans, List.map_cons, List.map_cons, ih]; rfl
      | placeholder p => rw [Template.mapSpans, List.map_cons, List.map_cons, ih]; rfl
  rw [literalText, hmap, literalText]

theorem Selector.content_mapSpan (s : Selector) : (s.mapSpan f).content = s.content := rfl

/-- A path leads to the same value wherever its selectors stand. -/
theorem Renderer.resolve_mapSpan {r : Renderer} (h : r.sources.IgnoresSpans) (args : List Value)
    (ss : List Selector) : r.resolve args (ss.map (Selector.mapSpan f)) = r.resolve args ss := by
  have hcontent : (ss.map (Selector.mapSpan f)).map Selector.content = ss.map Selector.content := by
    rw [List.map_map]
    exact List.map_congr_left fun s _ ↦ s.content_mapSpan f
  rw [Renderer.resolve, Renderer.resolve, ← Path.resolve_content h args (ss.map _), hcontent,
    Path.resolve_content h]

end

/-! ## What does not depend on places -/

/-- An error without its span. -/
def ResolutionError.placeless (e : ResolutionError) : ResolutionError := { e with span := default }

/-- A result, without the span of an error. -/
def resultPlaceless {α : Type} (result : Except ResolutionError α) : Except ResolutionError α :=
  result.mapError ResolutionError.placeless

/-- An output, without the spans of the errors that were recovered from. -/
def Output.placeless (out : Output) : Output :=
  { out with recovered := out.recovered.map ResolutionError.placeless }

/-- Why a formatter gives up, without a span. -/
def FormatterError.placeless : FormatterError → FormatterError
  | .failed message => .failed message
  | .render e => .render e.placeless

/-- Two scripts that differ at most in the spans of the templates that they have rendered, and that
go on so if they are told of errors which differ in their spans. -/
inductive Script.SameButPlaces {α : Type} :
    Script (Except FormatterError α) → Script (Except FormatterError α) → Prop
  | done {a a' : Except FormatterError α} :
      a'.mapError FormatterError.placeless = a.mapError FormatterError.placeless →
      SameButPlaces (.done a) (.done a')
  | write {text : String} {next next' : Script (Except FormatterError α)} :
      SameButPlaces next next' → SameButPlaces (.write text next) (.write text next')
  | render {t t' : Template} {v : Value}
      {next next' : Except ResolutionError Unit → Script (Except FormatterError α)} :
      t'.placeless = t.placeless →
      (∀ result result', resultPlaceless result' = resultPlaceless result →
        SameButPlaces (next result) (next' result')) →
      SameButPlaces (.render t v next) (.render t' v next')
  | renderText {t t' : Template} {v : Value}
      {next next' : Except ResolutionError String → Script (Except FormatterError α)} :
      t'.placeless = t.placeless →
      (∀ result result', resultPlaceless result' = resultPlaceless result →
        SameButPlaces (next result) (next' result')) →
      SameButPlaces (.renderText t v next) (.renderText t' v next')

/-- A formatter does the same for specifiers that differ in their spans. -/
def Formatter.IgnoresPlaces (f : Formatter) : Prop :=
  ∀ (v : Value) (options : Option String) (t t' : Option Template),
    t'.map Template.placeless = t.map Template.placeless →
      Script.SameButPlaces (f ⟨v, options, t⟩).run (f ⟨v, options, t'⟩).run

/-- Every formatter of a registry does the same for specifiers that differ in their spans. -/
abbrev FormatterRegistry.IgnorePlaces (r : FormatterRegistry) : Prop :=
  r.All Formatter.IgnoresPlaces

theorem Template.hasPlaceholders_of_placeless {t t' : Template}
    (h : t'.placeless = t.placeless) : t'.hasPlaceholders = t.hasPlaceholders := by
  have hplaceholders := congrArg Template.hasPlaceholders h
  rwa [placeless, placeless, hasPlaceholders_mapSpans, hasPlaceholders_mapSpans] at hplaceholders

theorem Template.plainText?_of_placeless {t t' : Template} (h : t'.placeless = t.placeless) :
    t'.plainText? = t.plainText? := by
  have htext := congrArg Template.literalText h
  rw [placeless, placeless, literalText_mapSpans, literalText_mapSpans] at htext
  rw [plainText?, plainText?, hasPlaceholders_of_placeless h, htext]

/-- The canonical formatter renders the specifier or writes a text under the hint. -/
theorem Formatter.canonical_run (v : Value) (options : Option String) (t : Option Template) :
    (canonical ⟨v, options, t⟩).run = match t.filter Template.hasPlaceholders with
      | some t => .render t v fun result ↦ .done ((result.mapError .render).map fun _ ↦ true)
      | none =>
        .write (v.textWithHint ((t.bind Template.plainText?).getD "")) (.done (.ok true)) := by
  unfold canonical FormatCall.nested?
  cases t.filter Template.hasPlaceholders with
  | none => rfl
  | some t =>
    refine congrArg (Script.render t v) (funext fun result ↦ ?_)
    cases result <;> rfl

theorem Formatter.ignoresPlaces_canonical : canonical.IgnoresPlaces := by
  intro v options t t' ht
  rw [canonical_run, canonical_run]
  match t, t', ht with
  | none, none, _ => exact .write (.done rfl)
  | some t, some t', ht =>
    have hsame : t'.placeless = t.placeless := Option.some.inj ht
    rw [Option.filter_some, Option.filter_some, Option.bind_some, Option.bind_some,
      Template.hasPlaceholders_of_placeless hsame, Template.plainText?_of_placeless hsame]
    by_cases hnested : t.hasPlaceholders = true
    · rw [if_pos hnested, if_pos hnested]
      refine .render hsame fun result result' hresult ↦ .done ?_
      match result, result', hresult with
      | .ok _, .ok _, _ => rfl
      | .error e, .error e', hresult =>
        have he : e'.placeless = e.placeless := Except.error.inj hresult
        exact congrArg (fun e ↦ Except.error (FormatterError.render e)) he
    · rw [if_neg hnested, if_neg hnested]
      exact .write (.done rfl)

theorem FormatterRegistry.ignorePlaces_initial : IgnorePlaces {} :=
  ⟨nofun, Formatter.ignoresPlaces_canonical⟩

/-! ## Renders that add alike -/

namespace Output

/-- Texts are the same where all else is but places. -/
theorem text_of_placeless {out out' : Output} (h : out'.placeless = out.placeless) :
    out'.text = out.text := by
  have htext : ∀ out : Output, out.placeless.text = out.text := fun _ ↦ rfl
  rw [← htext out', h, htext]

theorem placeless_withText (out : Output) (text : String) :
    (out.withText text).placeless = out.placeless.withText text := rfl

theorem placeless_followedBy (out new : Output) :
    (out.followedBy new).placeless = out.placeless.followedBy new.placeless := by
  rw [followedBy, placeless, List.map_append]
  rfl

end Output

/-- Two runs, each from an output of its own, that add the same but for places and have results for
which a relation holds. -/
def AddedAlike {ρ : Type} (Q : ρ → ρ → Prop) (out out' : Output) (last last' : ρ × Output) : Prop :=
  ∃ new new', last.2 = out.followedBy new ∧ last'.2 = out'.followedBy new' ∧
    new'.placeless = new.placeless ∧ Q last.1 last'.1

theorem AddedAlike.trans {ρ σ : Type} {Q : ρ → ρ → Prop} {Q' : σ → σ → Prop} {out out' : Output}
    {mid mid' : ρ × Output} {last last' : σ × Output} (h : AddedAlike Q out out' mid mid')
    (h' : AddedAlike Q' mid.2 mid'.2 last last') : AddedAlike Q' out out' last last' := by
  obtain ⟨new, new', hnew, hnew', hsame, _⟩ := h
  obtain ⟨more, more', hmore, hmore', hsame', hlast⟩ := h'
  refine ⟨new.followedBy more, new'.followedBy more', ?_, ?_, ?_, hlast⟩
  · rw [hmore, hnew, Output.followedBy_assoc]
  · rw [hmore', hnew', Output.followedBy_assoc]
  · rw [Output.placeless_followedBy, Output.placeless_followedBy, hsame, hsame']

/-- Results that are equal but for the span of an error. -/
def ResultsSameButPlaces {α : Type} (result result' : Except ResolutionError α) : Prop :=
  resultPlaceless result' = resultPlaceless result

theorem AddedAlike.results {ρ : Type} {Q : ρ → ρ → Prop} {out out' : Output}
    {last last' : ρ × Output} (h : AddedAlike Q out out' last last') : Q last.1 last'.1 := by
  obtain ⟨_, _, _, _, _, hlast⟩ := h
  exact hlast

theorem AddedAlike.map {ρ σ : Type} {Q : ρ → ρ → Prop} {Q' : σ → σ → Prop} {out out' : Output}
    {last last' : ρ × Output} {g g' : ρ → σ} (h : AddedAlike Q out out' last last')
    (hg : ∀ a a', Q a a' → Q' (g a) (g' a')) :
    AddedAlike Q' out out' (g last.1, last.2) (g' last'.1, last'.2) := by
  obtain ⟨new, new', hnew, hnew', hsame, hlast⟩ := h
  exact ⟨new, new', hnew, hnew', hsame, hg _ _ hlast⟩

theorem ResultsSameButPlaces.map {α β : Type} {result result' : Except ResolutionError α}
    (h : ResultsSameButPlaces result result') (f : α → β) :
    ResultsSameButPlaces (result.map f) (result'.map f) := by
  cases result with
  | ok a =>
    cases result' with
    | ok a' =>
      obtain rfl : a' = a := Except.ok.inj h
      rfl
    | error e' => cases h
  | error e =>
    cases result' with
    | ok a' => cases h
    | error e' => exact congrArg Except.error (Except.error.inj h)

/-- Two renders that add the same but for places, whatever they begin with. -/
def RenderM.AddAlike (α : Type) (act act' : RenderM α) : Prop :=
  ∀ out out', AddedAlike ResultsSameButPlaces out out' (act.exec out) (act'.exec out')

namespace RenderM

theorem addedAlike_refl {ρ : Type} {Q : ρ → ρ → Prop} {a a' : ρ} (h : Q a a') (out out' : Output) :
    AddedAlike Q out out' (a, out) (a', out') :=
  ⟨{}, {}, out.followedBy_empty.symm, out'.followedBy_empty.symm, rfl, h⟩

theorem AddAlike.symm {α : Type} {act act' : RenderM α} (h : AddAlike α act act') :
    AddAlike α act' act := by
  intro out out'
  obtain ⟨new, new', hnew, hnew', hsame, hresult⟩ := h out' out
  exact ⟨new', new, hnew', hnew, hsame.symm, hresult.symm⟩

theorem AddAlike.trans {α : Type} {act act' act'' : RenderM α} (h : AddAlike α act act')
    (h' : AddAlike α act' act'') : AddAlike α act act'' := by
  intro out out''
  obtain ⟨new, mid, hnew, hmid, hsame, hresult⟩ := h out {}
  obtain ⟨mid', new'', hmid', hnew'', hsame', hresult'⟩ := h' {} out''
  obtain rfl : mid' = mid := by
    rw [← mid'.empty_followedBy, ← hmid', hmid, mid.empty_followedBy]
  exact ⟨new, new'', hnew, hnew'', hsame'.trans hsame, hresult'.trans hresult⟩

theorem addAlike_throw {α : Type} {e e' : ResolutionError} (h : e'.placeless = e.placeless) :
    AddAlike α (throw e) (throw e') := fun out out' ↦
  addedAlike_refl (congrArg Except.error h) out out'

theorem addAlike_emit (text : String) : AddAlike Unit (emit text) (emit text) := by
  intro out out'
  refine ⟨⟨text, [], false⟩, ⟨text, [], false⟩, ?_, ?_, rfl, rfl⟩
  · rw [exec_emit, Output.followedBy, List.append_nil, Bool.or_false]; rfl
  · rw [exec_emit, Output.followedBy, List.append_nil, Bool.or_false]; rfl

theorem addAlike_record {e e' : ResolutionError} (h : e'.placeless = e.placeless) :
    AddAlike Unit (record e) (record e') := by
  intro out out'
  refine ⟨⟨"", [e], false⟩, ⟨"", [e'], false⟩, ?_, ?_, ?_, rfl⟩
  · rw [exec_record, Output.followedBy, String.append_empty, Bool.or_false]; rfl
  · rw [exec_record, Output.followedBy, String.append_empty, Bool.or_false]; rfl
  · rw [Output.placeless, Output.placeless, List.map_singleton, List.map_singleton, h]

theorem addAlike_leaveOut : AddAlike Unit leaveOut leaveOut := by
  intro out out'
  refine ⟨⟨"", [], true⟩, ⟨"", [], true⟩, ?_, ?_, rfl, rfl⟩
  · rw [exec_leaveOut, Output.followedBy, String.append_empty, List.append_nil, Bool.or_true]
  · rw [exec_leaveOut, Output.followedBy, String.append_empty, List.append_nil, Bool.or_true]

theorem sequential_addAlike : Sequential AddAlike where
  pure a := fun out out' ↦ addedAlike_refl rfl out out'
  bind {α β act act' f f'} h hf := by
    intro out out'
    rw [exec_bind, exec_bind]
    have hact := h out out'
    generalize act.exec out = last at hact ⊢
    generalize act'.exec out' = last' at hact ⊢
    obtain ⟨result, next⟩ := last
    obtain ⟨result', next'⟩ := last'
    obtain ⟨_, _, _, _, _, hresult⟩ := id hact
    match result, result', hresult with
    | .ok a, .ok a', hresult =>
      obtain rfl : a' = a := Except.ok.inj hresult
      exact hact.trans (hf a' next next')
    | .error e, .error e', hresult =>
      have herror : (AddedAlike ResultsSameButPlaces next next'
        ((.error e : Except ResolutionError β), next) (.error e', next')) :=
        addedAlike_refl (congrArg Except.error (Except.error.inj hresult)) next next'
      exact hact.trans herror
    | .ok a, .error e', hresult => exact absurd hresult nofun
    | .error e, .ok a', hresult => exact absurd hresult nofun

/-- Of a render of its own the text goes into the result, and the rest is added as before. -/
theorem AddAlike.execAlone {act act' : RenderM Unit} (h : AddAlike Unit act act')
    (out out' : Output) :
    AddedAlike ResultsSameButPlaces out out' (act.execAlone out) (act'.execAlone out') := by
  obtain ⟨new, new', hnew, hnew', hsame, hresult⟩ := h (out.withText "") (out'.withText "")
  have htext := Output.text_of_placeless hsame
  have hsilent : (new'.withText "").placeless = (new.withText "").placeless := by
    rw [Output.placeless_withText, hsame, Output.placeless_withText]
  refine ⟨new.withText "", new'.withText "", ?_, ?_, ?_, ?_⟩
  · rw [RenderM.execAlone, hnew, Output.withText_followedBy]
  · rw [RenderM.execAlone, hnew', Output.withText_followedBy]
  · exact hsilent
  · rw [RenderM.execAlone, RenderM.execAlone, hnew, hnew', Output.text_followedBy,
      Output.text_followedBy, htext]
    exact hresult.map fun _ ↦ new.text

end RenderM

/-! ## Renders of a template at two places -/

/-- What is nested is rendered alike if it differs in its spans only. -/
def NestedRender.Alike (inner inner' : NestedRender) : Prop :=
  ∀ (t t' : Template) (v : Value), t'.placeless = t.placeless →
    RenderM.AddAlike Unit (inner t v) (inner' t' v)

section

variable {inner inner' : NestedRender}

theorem Script.SameButPlaces.exec {α : Type} (h : NestedRender.Alike inner inner')
    {s s' : Script (Except FormatterError α)} (hs : SameButPlaces s s') (out out' : Output) :
    AddedAlike
      (fun a a' ↦ a'.mapError FormatterError.placeless = a.mapError FormatterError.placeless)
      out out' (s.exec inner out) (s'.exec inner' out') := by
  induction hs generalizing out out' with
  | done ha => exact RenderM.addedAlike_refl ha out out'
  | @write text next next' _ ih => exact (RenderM.addAlike_emit text out out').trans (ih _ _)
  | @render t t' v next next' ht _ ih =>
    have hrun := h t t' v ht out out'
    exact hrun.trans (ih _ _ hrun.results _ _)
  | @renderText t t' v next next' ht _ ih =>
    have hrun := (h t t' v ht).execAlone out out'
    exact hrun.trans (ih _ _ hrun.results _ _)

theorem Formatter.IgnoresPlaces.addAlike_run (h : NestedRender.Alike inner inner') {f : Formatter}
    (hf : f.IgnoresPlaces) {fail fail' : String → ResolutionError}
    (hfail : ∀ message, (fail' message).placeless = (fail message).placeless) (v : Value)
    (options : Option String) {t t' : Option Template}
    (ht : t'.map Template.placeless = t.map Template.placeless) :
    RenderM.AddAlike Bool (f.run fail ⟨v, options, t⟩ inner)
      (f.run fail' ⟨v, options, t'⟩ inner') := by
  intro out out'
  rw [Formatter.exec_run, Formatter.exec_run]
  refine ((hf v options t t' ht).exec h out out').map fun a a' ha ↦ ?_
  match a, a', ha with
  | .ok _, .ok _, ha => exact congrArg Except.ok (Except.ok.inj ha)
  | .error (.failed m), .error (.failed m'), ha =>
    obtain rfl : m' = m := FormatterError.failed.inj (Except.error.inj ha)
    exact congrArg Except.error (hfail m')
  | .error (.render e), .error (.render e'), ha =>
    exact congrArg Except.error (FormatterError.render.inj (Except.error.inj ha))

end

namespace Renderer

variable {r : Renderer} {inner inner' : NestedRender}

section

variable (hf : r.formatters.IgnorePlaces) (hinner : NestedRender.Alike inner inner')
  (f : Span → Span)

include hf hinner

section

variable {fail fail' : String → String → ResolutionError}
  (hfail : ∀ name message, (fail' name message).placeless = (fail name message).placeless)
  (v : Value)

include hfail

theorem addAlike_renderFormat (format : Option Format) :
    RenderM.AddAlike Unit (r.renderFormat inner fail v format)
      (r.renderFormat inner' fail' v (Format.mapSpans? f format)) := by
  have htemplate := Template.placeless_mapSpans f
  refine renderFormats_related RenderM.sequential_addAlike rfl ?_ ?_
  · match format with
    | none => exact .none
    | some ⟨template, head, span⟩ =>
      have hnested := Template.hasPlaceholders_mapSpans f template
      refine .some ⟨?_, hnested, hinner _ _ v (htemplate template)⟩
      match head with
      | none => exact .none
      | some ⟨name, options, body⟩ =>
        refine .some ⟨rfl, fun g hget ↦ ?_⟩
        have hbody := congrArg some (htemplate body)
        exact (hf.named hget).addAlike_run hinner (hfail name) v options hbody
  · refine hf.default.addAlike_run hinner (hfail "default") v none ?_
    match format with
    | none => rfl
    | some ⟨template, head, span⟩ => exact congrArg some (htemplate template)

end

variable (hs : r.sources.IgnoresSpans) (args : List Value)

include hs

theorem addAlike_renderPlaceholder (p : Placeholder) :
    RenderM.AddAlike Unit (r.renderPlaceholder inner p args)
      (r.renderPlaceholder inner' (p.mapSpans f) args) := by
  obtain ⟨selectors, width, format, raw, span⟩ := p
  rw [Placeholder.mapSpans, renderPlaceholder, renderPlaceholder, resolve_mapSpan f hs]
  cases r.resolve args selectors with
  | error failure => exact RenderM.addAlike_throw rfl
  | ok t =>
    refine addAlike_renderFormat hf hinner f (fun name message ↦ ?_) t.current format
    rw [Placeholder.formatterError, Placeholder.formatterError]
    rfl

omit hf hinner hs in
/-- What a failed placeholder leaves does not depend on its place, apart from its error. -/
theorem addAlike_place (p : Placeholder) {result result' : Except ResolutionError String}
    (h : ResultsSameButPlaces result result') :
    RenderM.AddAlike Unit (r.place p result) (r.place (p.mapSpans f) result') := by
  obtain ⟨selectors, width, format, raw, span⟩ := p
  rw [Placeholder.mapSpans]
  match result, result', h with
  | .ok text, .ok text', h =>
    obtain rfl : text' = text := Except.ok.inj h
    exact RenderM.addAlike_emit _
  | .error e, .error e', h =>
    have he : e'.placeless = e.placeless := Except.error.inj h
    exact recover_related RenderM.sequential_addAlike RenderM.addAlike_emit rfl
      (RenderM.addAlike_throw he) (RenderM.addAlike_record he)

theorem addAlike_renderPlaced (p : Placeholder) :
    RenderM.AddAlike Unit (r.renderPlaced inner args p)
      (r.renderPlaced inner' args (p.mapSpans f)) := by
  intro out out'
  rw [exec_renderPlaced, exec_renderPlaced]
  have hrun := (addAlike_renderPlaceholder hf hinner f hs args p).execAlone out out'
  exact hrun.trans (addAlike_place f p hrun.results _ _)

theorem addAlike_mapSpans (t : Template) :
    RenderM.AddAlike Unit (r.renderNodes inner t args)
      (r.renderNodes inner' (Template.mapSpans f t) args) := by
  induction t with
  | nil =>
    rw [Template.mapSpans, renderNodes_nil, renderNodes_nil]
    exact RenderM.sequential_addAlike.pure ()
  | cons n ns ih =>
    cases n with
    | literal l =>
      rw [Template.mapSpans, renderNodes_literal, renderNodes_literal]
      exact RenderM.sequential_addAlike.bind (RenderM.addAlike_emit l.text) fun _ ↦ ih
    | placeholder p =>
      rw [Template.mapSpans, renderNodes_placeholder, renderNodes_placeholder]
      exact RenderM.sequential_addAlike.bind (addAlike_renderPlaced hf hinner f hs args p)
        fun _ ↦ ih

end

/-- Templates that differ in their spans only are rendered alike, where what is nested is. -/
theorem addAlike_renderNodes (hf : r.formatters.IgnorePlaces)
    (hinner : NestedRender.Alike inner inner) (hs : r.sources.IgnoresSpans) (args : List Value)
    {t t' : Template} (h : t'.placeless = t.placeless) :
    RenderM.AddAlike Unit (r.renderNodes inner t args) (r.renderNodes inner t' args) := by
  -- The two meet in the template without spans.
  have ht := addAlike_mapSpans hf hinner (fun _ ↦ default) hs args t
  have ht' := addAlike_mapSpans hf hinner (fun _ ↦ default) hs args t'
  rw [← Template.placeless, h] at ht'
  exact ht.trans ht'.symm

theorem alike_nested (hf : r.formatters.IgnorePlaces) (hs : r.sources.IgnoresSpans) (depth : Nat) :
    NestedRender.Alike (r.nested depth) (r.nested depth) := by
  induction depth with
  | zero => exact fun _ _ _ _ ↦ RenderM.addAlike_leaveOut
  | succ depth ih => exact fun _ _ v h ↦ addAlike_renderNodes hf ih hs [v] h

/-- An outcome, without the spans of errors. -/
def Outcome.placeless (o : Outcome) : Outcome :=
  ⟨resultPlaceless o.result, o.recovered.map ResolutionError.placeless, o.cut⟩

/-- **Places do not matter.** Templates that differ in their spans only are rendered to the same
text, and to errors that differ in their spans only. -/
theorem render_placeless (hf : r.formatters.IgnorePlaces) (hs : r.sources.IgnoresSpans)
    (args : List Value) {t t' : Template} (h : t'.placeless = t.placeless) :
    (r.render t' args).placeless = (r.render t args).placeless := by
  have hnested := alike_nested hf hs r.depth
  obtain ⟨new, new', hnew, hnew', hsame, hresult⟩ :=
    addAlike_renderNodes hf hnested hs args h {} {}
  rw [Output.empty_followedBy] at hnew hnew'
  rw [render_eq, render_eq]
  generalize (r.renderNodes (r.nested r.depth) t args).exec {} = last at hnew hresult ⊢
  generalize (r.renderNodes (r.nested r.depth) t' args).exec {} = last' at hnew' hresult ⊢
  obtain ⟨result, out⟩ := last
  obtain ⟨result', out'⟩ := last'
  obtain rfl : out = new := hnew
  obtain rfl : out' = new' := hnew'
  have htext := Output.text_of_placeless hsame
  have htexts : ResultsSameButPlaces (result.map fun _ ↦ out.text)
      (result'.map fun _ ↦ out'.text) := by
    rw [htext]
    exact hresult.map fun _ ↦ out.text
  have hrecovered := congrArg (fun out : Output ↦ out.recovered) hsame
  have hcut := congrArg (fun out : Output ↦ out.cut) hsame
  simp only [Outcome.placeless, Outcome.ofRun, Outcome.mk.injEq]
  exact ⟨htexts, hrecovered, hcut⟩

end Renderer

end TextTemplate
