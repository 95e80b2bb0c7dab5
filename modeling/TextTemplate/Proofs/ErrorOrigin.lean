import TextTemplate.Proofs.ErrorActions
import TextTemplate.Proofs.FormatterErrors
import TextTemplate.Proofs.PathFailures
import TextTemplate.Proofs.Printing
import TextTemplate.Proofs.Relating
import TextTemplate.Proofs.Spans

/-!
# Where an error comes from

An error that a render ends with, or recovers from, is about a placeholder of the template, and it
says how far the path of that placeholder was followed. The placeholder may stand deep inside of
specifiers, and the error may have come through formatters on its way out.

## The invariant

That an error is about a placeholder of a template is a property of the error alone, so it is kept
wherever the error travels. `RenderM.Raises` says of a render that all of its errors have a
property. It is closed under sequencing, and a formatter that relays has it where what is nested has
it.

What is said of the error of a placeholder is left open on the way, `Renderer.Blames`: that it has
the span of the placeholder holds for every renderer, and that it names a selector takes sources
that leave formatters out of their answers.
-/

namespace TextTemplate

/-! ## Placeholders of a template -/

/-- A placeholder stands in a template: at its top level, in a specifier, or in what is left of a
specifier behind the name of a formatter. -/
inductive Template.Contains : Template → Placeholder → Prop
  | here {t : Template} {p : Placeholder} : .placeholder p ∈ t → Contains t p
  | specifier {t : Template} {p q : Placeholder} {f : Format} : .placeholder q ∈ t →
      q.format = some f → Contains f.template p → Contains t p
  | body {t : Template} {p q : Placeholder} {f : Format} {head : FormatterHead} :
      .placeholder q ∈ t → q.format = some f → f.head = some head → Contains head.body p →
      Contains t p

namespace Template

theorem mem_bodyOf {first : Literal} {rest : List Char} {others : Template} {p : Placeholder}
    (h : .placeholder p ∈ FormatterHead.bodyOf first rest others) : .placeholder p ∈ others := by
  unfold FormatterHead.bodyOf at h
  split at h
  · exact h
  · rcases List.mem_cons.mp h with h | h
    · exact absurd h nofun
    · exact h

/-- The name of a formatter takes no placeholder away from a specifier. -/
theorem mem_of_extract? {t : Template} {head : FormatterHead} {p : Placeholder}
    (h : FormatterHead.extract? t = some head) (hp : .placeholder p ∈ head.body) :
    .placeholder p ∈ t := by
  unfold FormatterHead.extract? at h
  split at h
  · obtain ⟨⟨name, options, rest⟩, _, rfl⟩ := Option.map_eq_some_iff.mp h
    exact List.mem_cons_of_mem _ (mem_bodyOf hp)
  · exact absurd h nofun

/-! ## Their slices -/

variable {mode : EscapeMode} {source : List Char}

theorem slice?_of_rebuilds {p : Placeholder} (h : Placeholder.Rebuilds mode source p) :
    p.span.slice? source = some p.raw.toList := by
  obtain ⟨selectors, width, format, raw, span⟩ := p
  exact h.1

theorem rebuilds_of_mem {t : Template} {start stop : Nat} {p : Placeholder}
    (h : Rebuilds mode source t start stop) (hp : .placeholder p ∈ t) :
    Placeholder.Rebuilds mode source p := by
  induction t generalizing start with
  | nil => exact absurd hp List.not_mem_nil
  | cons n ns ih =>
    cases n with
    | literal l =>
      rcases List.mem_cons.mp hp with hp | hp
      · exact absurd hp nofun
      · exact ih h.2.2.2.2 hp
    | placeholder q =>
      rcases List.mem_cons.mp hp with hp | hp
      · cases hp
        exact h.2.1
      · exact ih h.2.2 hp

theorem wellFormed_of_mem {t : Template} {p : Placeholder} (h : WellFormed t)
    (hp : .placeholder p ∈ t) : Placeholder.WellFormed p := by
  induction t with
  | nil => exact absurd hp List.not_mem_nil
  | cons n ns ih =>
    cases n with
    | literal l =>
      rcases List.mem_cons.mp hp with hp | hp
      · exact absurd hp nofun
      · exact ih h.2.2 hp
    | placeholder q =>
      rcases List.mem_cons.mp hp with hp | hp
      · cases hp
        exact h.1
      · exact ih h.2 hp

theorem rebuilds_format {p : Placeholder} {f : Format} (h : Placeholder.Rebuilds mode source p)
    (hf : p.format = some f) : ∃ start stop, Rebuilds mode source f.template start stop := by
  obtain ⟨selectors, width, format, raw, span⟩ := p
  obtain ⟨template, head, place⟩ := f
  obtain rfl : format = some ⟨template, head, place⟩ := hf
  obtain ⟨_, _, _, _, _, ⟨_, _, htemplate⟩, _⟩ := h
  exact ⟨_, _, htemplate⟩

theorem wellFormed_format {p : Placeholder} {f : Format} (h : Placeholder.WellFormed p)
    (hf : p.format = some f) :
    WellFormed f.template ∧ f.head = FormatterHead.extract? f.template := by
  obtain ⟨selectors, width, format, raw, span⟩ := p
  obtain ⟨template, head, place⟩ := f
  obtain rfl : format = some ⟨template, head, place⟩ := hf
  exact h.2

/-- The placeholders at the top level of a template rebuild the source, and they are well formed. -/
def HoldsRead (mode : EscapeMode) (source : List Char) (t : Template) : Prop :=
  ∀ p, .placeholder p ∈ t → Placeholder.Rebuilds mode source p ∧ Placeholder.WellFormed p

theorem HoldsRead.format {t : Template} {p : Placeholder} {f : Format}
    (h : HoldsRead mode source t) (hp : .placeholder p ∈ t) (hf : p.format = some f) :
    HoldsRead mode source f.template ∧ f.head = FormatterHead.extract? f.template := by
  obtain ⟨hrebuilds, hwf⟩ := h p hp
  obtain ⟨_, _, hspecifier⟩ := rebuilds_format hrebuilds hf
  obtain ⟨hspecifierWf, hhead⟩ := wellFormed_format hwf hf
  exact ⟨fun q hq ↦ ⟨rebuilds_of_mem hspecifier hq, wellFormed_of_mem hspecifierWf hq⟩, hhead⟩

theorem Contains.rebuilds {t : Template} {p : Placeholder} (h : t.Contains p)
    (ht : HoldsRead mode source t) : Placeholder.Rebuilds mode source p := by
  induction h with
  | here hp => exact (ht _ hp).1
  | specifier hq hf _ ih => exact ih (ht.format hq hf).1
  | body hq hf hhead _ ih =>
    -- The literal in front of a body is cut down, but its placeholders are those of the specifier.
    obtain ⟨hspecifier, hextract⟩ := ht.format hq hf
    rw [hhead] at hextract
    exact ih fun r hr ↦ hspecifier r (mem_of_extract? hextract.symm hr)

/-- Every placeholder of a template that was read rebuilds the source. -/
theorem Contains.rebuilds_source {source : String} {t : Template} {p : Placeholder}
    (h : t.Contains p) (hparse : Template.parse mode source = .ok t) :
    Placeholder.Rebuilds mode source.toList p := by
  have hrebuilds := Template.rebuilds_source hparse
  obtain ⟨ps, _, hps, rfl⟩ := parse_eq_ok_iff.mp hparse
  exact h.rebuilds fun q hq ↦ ⟨rebuilds_of_mem hrebuilds hq, wellFormed_of_mem hps.wellFormed hq⟩

/-- Every placeholder of a template that was read is its slice of the source. -/
theorem slice?_of_parse {source : String} {t : Template} {p : Placeholder}
    (hparse : Template.parse mode source = .ok t) (h : t.Contains p) :
    p.span.slice? source.toList = some p.raw.toList :=
  slice?_of_rebuilds (h.rebuilds_source hparse)

end Template

/-! ## Errors of a placeholder -/

/-- An error names the placeholder, the selectors of it that were followed, and the one that failed.
Where a formatter failed, all of them were followed. -/
structure ResolutionError.IsAbout (e : ResolutionError) (p : Placeholder) : Prop where
  placeholder : e.placeholder = p.raw
  span : e.span = p.span
  resolved : e.resolved = (p.selectors.take e.depth).map Selector.text
  selector : e.kind.isFormatter = false →
    ∃ h : e.depth < p.selectors.length, e.selector = p.selectors[e.depth].text
  formatter : e.kind.isFormatter = true → e.depth = p.selectors.length ∧ e.selector = ""

/-- Something is said of an error and a placeholder of a template. -/
def ResolutionError.Concerns (About : ResolutionError → Placeholder → Prop) (t : Template)
    (e : ResolutionError) : Prop :=
  ∃ p, t.Contains p ∧ About e p

/-- Something is said of a placeholder and every error that a renderer makes for it: where its path
leads nowhere, and where a formatter fails at the end of its path. -/
structure Renderer.Blames (r : Renderer) (About : ResolutionError → Placeholder → Prop) : Prop where
  path : ∀ (p : Placeholder) args f, r.resolve args p.selectors = .error f → About (p.pathError f) p
  formatter : ∀ (p : Placeholder) args trail, r.resolve args p.selectors = .ok trail →
    ∀ name message, About (p.formatterError trail name message) p

theorem Placeholder.isAbout_formatterError {p : Placeholder} {t : Trail}
    (ht : t.Covers p.selectors) (hdepth : t.depth = p.selectors.length) (name message : String) :
    (p.formatterError t name message).IsAbout p :=
  ⟨rfl, rfl, ht.resolved, nofun, fun _ ↦ ⟨hdepth, rfl⟩⟩

theorem Placeholder.isAbout_pathError {p : Placeholder} {f : PathFailure}
    (h : f.Names (fun kind ↦ kind.isFormatter = false) p.selectors) : (p.pathError f).IsAbout p :=
  ⟨rfl, rfl, h.resolved, fun _ ↦ h.selector, fun hkind ↦ absurd (h.kind.symm.trans hkind) nofun⟩

theorem Renderer.blames_isAbout {r : Renderer} (hsources : r.sources.BlamesNoFormatter) :
    r.Blames ResolutionError.IsAbout := by
  constructor
  · intro p args f hresult
    have hpath := covers_of_resolve hsources.failIn p.selectors args
    rw [hresult] at hpath
    exact Placeholder.isAbout_pathError hpath
  · intro p args trail hresult name message
    have hpath := covers_of_resolve hsources.failIn p.selectors args
    rw [hresult] at hpath
    exact Placeholder.isAbout_formatterError hpath.1 hpath.2 name message

/-- The span of an error is that of its placeholder, whatever the sources answer. -/
theorem Renderer.blames_span (r : Renderer) : r.Blames fun e p ↦ e.span = p.span :=
  ⟨fun _ _ _ _ ↦ rfl, fun _ _ _ _ _ _ ↦ rfl⟩

/-! ## Renders whose errors have a property -/

theorem eq_error_of_map {ε α β : Type} {f : α → β} {result : Except ε α} {e : ε}
    (h : result.map f = .error e) : result = .error e := by
  cases result with
  | error e' => exact congrArg Except.error (Except.error.inj h)
  | ok a => exact absurd h nofun

/-- Every error that was recovered from has the property. -/
def Output.Reports (P : ResolutionError → Prop) (out : Output) : Prop := ∀ e ∈ out.recovered, P e

/-- Every error that a render ends with or recovers from has the property. -/
def RenderM.Raises {α : Type} (P : ResolutionError → Prop) (act : RenderM α) : Prop :=
  ∀ out : Output, out.Reports P →
    (act.exec out).2.Reports P ∧ ∀ e, (act.exec out).1 = .error e → P e

namespace RenderM

variable {P : ResolutionError → Prop} {α β : Type}

theorem raises_pure (a : α) : Raises P (pure a) := fun _ hout ↦ ⟨hout, nofun⟩

theorem raises_throw {e : ResolutionError} (he : P e) : Raises P (throw e : RenderM α) := by
  refine fun out hout ↦ ⟨hout, fun e' h ↦ ?_⟩
  cases h
  exact he

theorem raises_emit (text : String) : Raises P (emit text) := fun _ hout ↦ ⟨hout, nofun⟩

theorem raises_leaveOut : Raises P leaveOut := fun _ hout ↦ ⟨hout, nofun⟩

theorem raises_record {e : ResolutionError} (he : P e) : Raises P (record e) := by
  refine fun out hout ↦ ⟨fun e' h ↦ ?_, nofun⟩
  rw [exec_record, Output.recovering_recovered, List.mem_append, List.mem_singleton] at h
  rcases h with h | rfl
  · exact hout e' h
  · exact he

theorem Raises.bind {act : RenderM α} {f : α → RenderM β} (h : Raises P act)
    (hf : ∀ a, Raises P (f a)) : Raises P (act >>= f) := by
  intro out hout
  obtain ⟨hreports, herror⟩ := h out hout
  rw [exec_bind]
  generalize act.exec out = last at hreports herror ⊢
  obtain ⟨result, next⟩ := last
  cases result with
  | ok a => exact hf a next hreports
  | error e =>
    refine ⟨hreports, fun e' he ↦ ?_⟩
    cases he
    exact herror e rfl

/-- The property as a relation, of which the first render alone decides. -/
def RaisesFirst (P : ResolutionError → Prop) (α : Type) (act _ : RenderM α) : Prop := Raises P act

theorem sequential_raisesFirst : Sequential (RaisesFirst P) where
  pure := raises_pure
  bind h hf := Raises.bind h hf

/-- A render of its own keeps what it recovered from. -/
theorem Raises.execAlone {act : RenderM Unit} (h : Raises P act) {out : Output}
    (hout : out.Reports P) :
    (act.execAlone out).2.Reports P ∧ ∀ e, (act.execAlone out).1 = .error e → P e := by
  obtain ⟨hreports, herror⟩ := h (out.withText "") hout
  exact ⟨hreports, fun e he ↦ herror e (eq_error_of_map he)⟩

end RenderM

/-! ## Formatters -/

section

variable {P : ResolutionError → Prop} {inner : NestedRender} {specifier : Option Template}

/-- A script that relays gives up with an error that has the property, if what it has rendered
raises none but such errors. -/
theorem Script.raises_of_relays {α : Type}
    (hinner : ∀ t v, specifier = some t → (inner t v).Raises P)
    {s : Script (Except FormatterError α)} {told : List ResolutionError}
    (hs : s.Relays specifier told) (htold : ∀ e ∈ told, P e) {out : Output}
    (hout : out.Reports P) :
    (s.exec inner out).2.Reports P ∧ ∀ e, (s.exec inner out).1 = .error (.render e) → P e := by
  induction s generalizing told out with
  | done a => exact ⟨hout, fun e he ↦ htold e (hs e he)⟩
  | write text next ih => exact ih hs htold hout
  | render t v next ih =>
    obtain ⟨ht, herror, hok⟩ := hs
    obtain ⟨hreports, hraised⟩ := hinner t v ht out hout
    rw [exec_render]
    cases hresult : ((inner t v).exec out).1 with
    | ok u => exact ih _ (hok u) htold hreports
    | error e =>
      -- The script may keep the error and give up with it later, so it counts as told from here on.
      refine ih _ (herror e) ?_ hreports
      exact List.forall_mem_cons.mpr ⟨hraised e hresult, htold⟩
  | renderText t v next ih =>
    obtain ⟨ht, herror, hok⟩ := hs
    obtain ⟨hreports, hraised⟩ := (hinner t v ht).execAlone hout
    rw [exec_renderText]
    cases hresult : ((inner t v).execAlone out).1 with
    | ok text => exact ih _ (hok text) htold hreports
    | error e =>
      refine ih _ (herror e) ?_ hreports
      exact List.forall_mem_cons.mpr ⟨hraised e hresult, htold⟩

theorem Formatter.raises_run {f : Formatter} (hf : f.Relays) {fail : String → ResolutionError}
    (hfail : ∀ message, P (fail message)) {call : FormatCall}
    (hinner : ∀ t v, call.format = some t → (inner t v).Raises P) :
    (f.run fail call inner).Raises P := by
  intro out hout
  obtain ⟨hreports, herror⟩ :=
    Script.raises_of_relays hinner (hf call) (fun _ h ↦ absurd h List.not_mem_nil) hout
  rw [Formatter.exec_run]
  refine ⟨hreports, fun e he ↦ ?_⟩
  cases hanswer : ((f call).run.exec inner out).1 with
  | ok taken =>
    rw [hanswer] at he
    exact absurd he nofun
  | error e' =>
    rw [hanswer] at he
    cases he
    cases e' with
    | failed message => exact hfail message
    | render e' => exact herror e' hanswer

end

/-! ## Renderers -/

section

variable {About : ResolutionError → Placeholder → Prop} {t : Template} {p : Placeholder}
  {f : Format} {e : ResolutionError}

/-- What concerns a placeholder inside of a specifier concerns one of the whole template. -/
theorem ResolutionError.Concerns.of_specifier (h : e.Concerns About f.template)
    (hp : .placeholder p ∈ t) (hf : p.format = some f) : e.Concerns About t := by
  obtain ⟨q, hq, he⟩ := h
  exact ⟨q, .specifier hp hf hq, he⟩

theorem ResolutionError.Concerns.of_body {head : FormatterHead} (h : e.Concerns About head.body)
    (hp : .placeholder p ∈ t) (hf : p.format = some f) (hhead : f.head = some head) :
    e.Concerns About t := by
  obtain ⟨q, hq, he⟩ := h
  exact ⟨q, .body hp hf hhead hq, he⟩

end

/-- What is nested raises errors with the property, if those that concern its template have it. -/
def NestedRender.Raises (About : ResolutionError → Placeholder → Prop) (P : ResolutionError → Prop)
    (inner : NestedRender) : Prop :=
  ∀ t v, (∀ e : ResolutionError, e.Concerns About t → P e) → (inner t v).Raises P

namespace Renderer

variable {r : Renderer} {About : ResolutionError → Placeholder → Prop} {P : ResolutionError → Prop}
  {inner : NestedRender} {t : Template}

theorem raises_recover {p : Placeholder} {e : ResolutionError} (he : P e) :
    (r.recover p e).Raises P := by
  unfold recover
  split
  · exact RenderM.raises_throw he
  · exact (RenderM.raises_record he).bind fun _ ↦ RenderM.raises_emit _
  · exact (RenderM.raises_record he).bind fun _ ↦ RenderM.raises_emit _

theorem raises_renderFormat (hformatters : r.formatters.All Formatter.Relays)
    (hinner : NestedRender.Raises About P inner)
    (hP : ∀ e : ResolutionError, e.Concerns About t → P e) {p : Placeholder}
    (hp : .placeholder p ∈ t) {trail : Trail}
    (hfail : ∀ name message, P (p.formatterError trail name message)) :
    (r.renderFormat inner (p.formatterError trail) trail.current p.format).Raises P := by
  have htemplate : ∀ t' v', p.format.map Format.template = some t' → (inner t' v').Raises P := by
    intro t' v' ht'
    obtain ⟨f, hf, rfl⟩ := Option.map_eq_some_iff.mp ht'
    exact hinner _ v' fun e he ↦ hP e (he.of_specifier hp hf)
  have hrelated : RenderM.RaisesFirst P Unit
      (r.renderFormat inner (p.formatterError trail) trail.current p.format)
      (r.renderFormat inner (p.formatterError trail) trail.current p.format) := by
    refine renderFormat_related RenderM.sequential_raisesFirst rfl ?_ ?_ ?_
    · intro f head g hf hhead hget
      refine Formatter.raises_run (hformatters.named hget) (hfail head.name) fun t' v' ht' ↦ ?_
      obtain rfl := Option.some.inj ht'
      exact hinner _ v' fun e he ↦ hP e (he.of_body hp hf hhead)
    · exact Formatter.raises_run hformatters.default (hfail "default") htemplate
    · intro f hf
      exact htemplate f.template trail.current (Option.map_eq_some_iff.mpr ⟨f, hf, rfl⟩)
  exact hrelated

theorem raises_renderPlaceholder (hblames : r.Blames About)
    (hformatters : r.formatters.All Formatter.Relays) (hinner : NestedRender.Raises About P inner)
    (hP : ∀ e : ResolutionError, e.Concerns About t → P e) {p : Placeholder}
    (hp : .placeholder p ∈ t) (args : List Value) :
    (r.renderPlaceholder inner p args).Raises P := by
  rw [renderPlaceholder]
  cases hresult : r.resolve args p.selectors with
  | error f => exact RenderM.raises_throw (hP _ ⟨p, .here hp, hblames.path p args f hresult⟩)
  | ok trail =>
    refine raises_renderFormat hformatters hinner hP hp fun name message ↦ ?_
    exact hP _ ⟨p, .here hp, hblames.formatter p args trail hresult name message⟩

theorem raises_renderPlaced {p : Placeholder} {args : List Value}
    (h : (r.renderPlaceholder inner p args).Raises P) : (r.renderPlaced inner args p).Raises P := by
  intro out hout
  obtain ⟨hreports, herror⟩ := h.execAlone hout
  rw [exec_renderPlaced]
  cases hresult : ((r.renderPlaceholder inner p args).execAlone out).1 with
  | ok text => exact RenderM.raises_emit _ _ hreports
  | error e => exact raises_recover (herror e hresult) _ hreports

theorem raises_renderNodes (hblames : r.Blames About)
    (hformatters : r.formatters.All Formatter.Relays) (hinner : NestedRender.Raises About P inner)
    (hP : ∀ e : ResolutionError, e.Concerns About t → P e) (args : List Value) :
    (r.renderNodes inner t args).Raises P := by
  have hrelated : RenderM.RaisesFirst P Unit (r.renderNodes inner t args)
      (r.renderNodes inner t args) := by
    refine renderNodes_related RenderM.sequential_raisesFirst RenderM.raises_emit fun p hp ↦ ?_
    exact raises_renderPlaced (raises_renderPlaceholder hblames hformatters hinner hP hp args)
  exact hrelated

theorem raises_nested (hblames : r.Blames About)
    (hformatters : r.formatters.All Formatter.Relays) (depth : Nat) :
    NestedRender.Raises About P (r.nested depth) := by
  induction depth with
  | zero => exact fun _ _ _ ↦ RenderM.raises_leaveOut
  | succ depth ih => exact fun _ v hP ↦ raises_renderNodes hblames hformatters ih hP [v]

/-- Every error of a render concerns the template that is rendered. -/
theorem concerns_of_render (hblames : r.Blames About)
    (hformatters : r.formatters.All Formatter.Relays) (t : Template) (args : List Value)
    {e : ResolutionError}
    (he : (r.render t args).result = .error e ∨ e ∈ (r.render t args).recovered) :
    e.Concerns About t := by
  have hraises := raises_renderNodes (P := ResolutionError.Concerns About t) hblames hformatters
    (raises_nested hblames hformatters r.depth) (fun _ h ↦ h) args
  obtain ⟨hreports, herror⟩ := hraises {} fun _ h ↦ absurd h List.not_mem_nil
  rcases he with he | he
  · exact herror e (eq_error_of_map he)
  · exact hreports e he

/-- **Errors name what failed.** Let a text be read and rendered, with sources that leave formatters
out of their answers and formatters that relay. An error that the render ends with, or recovers
from, is about a placeholder of the template: it holds the text of the placeholder, which is its
slice of the source, the selectors that were followed, and the one that failed. -/
theorem errors_name_placeholders {mode : EscapeMode} {source : String} {t : Template}
    (hparse : Template.parse mode source = .ok t) (hsources : r.sources.BlamesNoFormatter)
    (hformatters : r.formatters.All Formatter.Relays) (args : List Value) (e : ResolutionError)
    (he : (r.render t args).result = .error e ∨ e ∈ (r.render t args).recovered) :
    ∃ p, t.Contains p ∧ e.IsAbout p ∧ p.span.slice? source.toList = some p.raw.toList := by
  obtain ⟨p, hp, habout⟩ :=
    concerns_of_render (blames_isAbout hsources) hformatters t args he
  exact ⟨p, hp, habout, Template.slice?_of_parse hparse hp⟩

/-- A placeholder that stands behind the name of a formatter is blamed. -/
theorem errors_name_placeholders_missingSample :
    Template.parse .doubledBrace "\x7b0:nest:\x7bx\x7d\x7d" = .ok missingSample ∧
      stocked.sources.BlamesNoFormatter ∧ stocked.formatters.All Formatter.Relays ∧
      (stocked.render missingSample [.bool true]).result =
        .error ⟨.notFound, "\x7bx\x7d", ⟨8, 11⟩, "x", 0, []⟩ ∧
      ∃ p, Template.Contains missingSample p ∧
        ResolutionError.IsAbout ⟨.notFound, "\x7bx\x7d", ⟨8, 11⟩, "x", 0, []⟩ p ∧
        p.span.slice? "\x7b0:nest:\x7bx\x7d\x7d".toList = some p.raw.toList := by
  have hparse : Template.parse .doubledBrace "\x7b0:nest:\x7bx\x7d\x7d" = .ok missingSample := rfl
  have hsources : stocked.sources.BlamesNoFormatter := SourceChain.blamesNoFormatter_builtin
  have hformatters : stocked.formatters.All Formatter.Relays :=
    (FormatterRegistry.assembled_initial.addAll Formatter.assembled_stock).imp fun _ h ↦ h.relays
  have hresult : (stocked.render missingSample [.bool true]).result =
      .error ⟨.notFound, "\x7bx\x7d", ⟨8, 11⟩, "x", 0, []⟩ := rfl
  exact ⟨hparse, hsources, hformatters, hresult,
    errors_name_placeholders hparse hsources hformatters [.bool true] _ (Or.inl hresult)⟩

end Renderer

end TextTemplate
