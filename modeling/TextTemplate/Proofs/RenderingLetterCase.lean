import TextTemplate.Proofs.IgnoringCase

/-!
# Rendering without regard to letter case

Where case does not count, templates that differ in the case of their selectors only are rendered to
the same text, or fail at the same position. The two renders meet the same placeholders, position by
position, and reach the same values, so they write the same up to the first error; and since they
stop there, this is all that is to be shown.
-/

namespace TextTemplate

/-! ## Renders -/

/-- Renders that leave the same output, with results that are the same but for letter case. -/
def RenderM.Recased (S : Placeholder → Placeholder → Prop) (α : Type) (act act' : RenderM α) :
    Prop :=
  ∀ out, (act'.exec out).2 = (act.exec out).2 ∧
    ResultsAlike (ResolutionError.Recased S) (act.exec out).1 (act'.exec out).1

namespace RenderM

variable {S : Placeholder → Placeholder → Prop}

theorem recased_throw {e e' : ResolutionError} (h : e.Recased S e') :
    Recased S Unit (throw e) (throw e') := fun _ ↦ ⟨rfl, .error h⟩

theorem recased_emit (text : String) : Recased S Unit (emit text) (emit text) :=
  fun _ ↦ ⟨rfl, .ok ()⟩

theorem recased_leaveOut : Recased S Unit leaveOut leaveOut := fun _ ↦ ⟨rfl, .ok ()⟩

theorem sequential_recased : Sequential (Recased S) where
  pure a := fun _ ↦ ⟨rfl, .ok a⟩
  bind {α β act act' f f'} h hf := by
    intro out
    obtain ⟨hout, hresult⟩ := h out
    rw [exec_bind, exec_bind]
    generalize act.exec out = last at hout hresult ⊢
    generalize act'.exec out = last' at hout hresult ⊢
    obtain ⟨result, next⟩ := last
    obtain ⟨result', next'⟩ := last'
    obtain rfl : next' = next := hout
    cases hresult with
    | ok a => exact hf a next'
    | error he => exact ⟨rfl, .error he⟩

theorem Recased.execAlone {act act' : RenderM Unit} (h : Recased S Unit act act')
    (out : Output) :
    (act'.execAlone out).2 = (act.execAlone out).2 ∧
      ResultsAlike (ResolutionError.Recased S) (act.execAlone out).1 (act'.execAlone out).1 := by
  obtain ⟨hout, hresult⟩ := h (out.withText "")
  rw [RenderM.execAlone, RenderM.execAlone, hout]
  exact ⟨rfl, hresult.map _⟩

end RenderM

/-- What is nested does not depend on letter case. -/
def NestedRender.IgnoresCase (S : Placeholder → Placeholder → Prop) (inner : NestedRender) :
    Prop :=
  ∀ t t' v, Template.Recased S t t' → Value.ComparesNames v →
    RenderM.Recased S Unit (inner t v) (inner t' v)

theorem Script.exec_recased {α : Type} {S : Placeholder → Placeholder → Prop}
    {inner : NestedRender} (hinner : inner.IgnoresCase S)
    {s s' : Script (Except FormatterError α)} (h : Script.Recased S s s') (out : Output) :
    (s'.exec inner out).2 = (s.exec inner out).2 ∧
      ResultsAlike (FormatterError.Recased S) (s.exec inner out).1 (s'.exec inner out).1 := by
  induction h generalizing out with
  | done ha => exact ⟨rfl, ha⟩
  | write _ ih => exact ih _
  | render ht hv _ ih =>
    obtain ⟨hout, hresult⟩ := hinner _ _ _ ht hv out
    rw [exec_render, exec_render, hout]
    exact ih _ _ hresult _
  | renderText ht hv _ ih =>
    obtain ⟨hout, hresult⟩ := (hinner _ _ _ ht hv).execAlone out
    rw [exec_renderText, exec_renderText, hout]
    exact ih _ _ hresult _

/-- A renderer to which letter case means nothing: its sources are those that are there from the
beginning, it stops at the first error, and its formatters make nothing of the case of selectors. -/
structure Renderer.IgnoresCase (own : Placeholder → Prop) (r : Renderer) : Prop where
  sources : r.sources = .builtin
  insensitive : r.settings.caseSensitivity = .insensitive
  aborts : r.settings.errorAction = .abort
  formatters : r.formatters.All (Formatter.IgnoresCase own)

section

variable {own : Placeholder → Prop} {S : Placeholder → Placeholder → Prop}
  (hown : ∀ p, own p → S p p) {inner : NestedRender} (hinner : inner.IgnoresCase S)

include hown hinner

theorem Formatter.recased_run {f : Formatter} (hf : f.IgnoresCase own)
    {fail fail' : String → ResolutionError}
    (hfail : ∀ message, (fail message).Recased S (fail' message)) {call call' : FormatCall}
    (hcall : call.Recased S call') :
    RenderM.Recased S Bool (f.run fail call inner) (f.run fail' call' inner) := by
  intro out
  obtain ⟨hout, hanswer⟩ := Script.exec_recased hinner (hf S hown call call' hcall) out
  rw [Formatter.exec_run, Formatter.exec_run]
  refine ⟨hout, ?_⟩
  generalize ((f call).run.exec inner out).1 = answer at hanswer ⊢
  generalize ((f call').run.exec inner out).1 = answer' at hanswer ⊢
  cases hanswer with
  | ok taken => exact .ok taken
  | error he =>
    cases he with
    | failed message => exact .error (hfail message)
    | render he => exact .error he

namespace Renderer

variable {r : Renderer} (h : r.IgnoresCase own)

include h

theorem recased_renderFormat {fail fail' : String → String → ResolutionError}
    (hfail : ∀ name message, (fail name message).Recased S (fail' name message)) {v : Value}
    (hv : v.ComparesNames) {format format' : Option Format}
    (hformat : Format.Variant? (Placeholder.Recased S) format format') :
    RenderM.Recased S Unit (r.renderFormat inner fail v format)
      (r.renderFormat inner fail' v format') := by
  have hspecifier : Option.Rel (Template.Recased S) (format.map Format.template)
      (format'.map Format.template) := by
    cases hformat with
    | none => exact .none
    | some htemplate _ => exact .some htemplate
  refine renderFormats_related RenderM.sequential_recased rfl ?_ ?_
  · cases hformat with
    | none => exact .none
    | @some f f' htemplate hhead =>
      refine .some ⟨?_, htemplate.hasPlaceholders, hinner _ _ v htemplate hv⟩
      generalize f.head = head at hhead ⊢
      generalize f'.head = head' at hhead ⊢
      cases hhead with
      | none => exact .none
      | some hname hoptions hbody =>
        refine .some ⟨hname, fun g hget ↦ ?_⟩
        exact Formatter.recased_run hown hinner (h.formatters.named hget) (hfail _)
          ⟨rfl, hoptions, .some hbody, hv⟩
  · exact Formatter.recased_run hown hinner h.formatters.default (hfail "default")
      ⟨rfl, rfl, hspecifier, hv⟩

theorem recased_renderPlaceholder {p p' : Placeholder} (hp : p.Recased S p')
    (hformat : Format.Variant? (Placeholder.Recased S) p.format p'.format) {args : List Value}
    (hargs : ∀ v ∈ args, v.ComparesNames) :
    RenderM.Recased S Unit (r.renderPlaceholder inner p args)
      (r.renderPlaceholder inner p' args) := by
  have hpath := Path.recased_resolve hp.selectors hargs
  rw [renderPlaceholder, renderPlaceholder, Renderer.resolve, Renderer.resolve, h.sources,
    h.insensitive]
  generalize Path.resolve .builtin .insensitive args p.selectors = result at hpath ⊢
  generalize Path.resolve .builtin .insensitive args p'.selectors = result' at hpath ⊢
  cases hpath with
  | failed hdepth hkind =>
    exact RenderM.recased_throw ⟨hdepth, hkind, p, p', hp.taken, ⟨rfl, rfl⟩, rfl, rfl⟩
  | reached ht hv =>
    simp only [ht.current]
    refine recased_renderFormat hown hinner h (fun name message ↦ ?_) hv hformat
    exact ⟨ht.depth, .refl _, p, p', hp.taken, ⟨rfl, rfl⟩, rfl, rfl⟩

/-- An error stays what it is on its way out, and a text is brought to the same width. -/
theorem recased_renderPlaced {p p' : Placeholder} (hp : p.Recased S p')
    (hwidth : p'.alignment = p.alignment)
    (hformat : Format.Variant? (Placeholder.Recased S) p.format p'.format) {args : List Value}
    (hargs : ∀ v ∈ args, v.ComparesNames) :
    RenderM.Recased S Unit (r.renderPlaced inner args p) (r.renderPlaced inner args p') := by
  intro out
  obtain ⟨hout, hresult⟩ :=
    (recased_renderPlaceholder hown hinner h hp hformat hargs).execAlone out
  rw [exec_renderPlaced, exec_renderPlaced, hout]
  generalize ((r.renderPlaceholder inner p args).execAlone out).1 = result at hresult ⊢
  generalize ((r.renderPlaceholder inner p' args).execAlone out).1 = result' at hresult ⊢
  cases hresult with
  | ok text =>
    rw [place, place, hwidth]
    exact RenderM.recased_emit _ _
  | error he =>
    rw [place, place, recover_of_abort h.aborts, recover_of_abort h.aborts]
    exact RenderM.recased_throw he _

theorem recased_renderNodes {args : List Value} (hargs : ∀ v ∈ args, v.ComparesNames) :
    ∀ {ns ns' : List Node}, Template.Recased S ns ns' →
      RenderM.Recased S Unit (r.renderNodes inner ns args) (r.renderNodes inner ns' args)
  | _, _, .nil => by
    rw [renderNodes_nil]
    exact RenderM.sequential_recased.pure ()
  | _, _, .literal htext hns => by
    rw [renderNodes_literal, renderNodes_literal, htext]
    exact RenderM.sequential_recased.bind (RenderM.recased_emit _) fun _ ↦
      recased_renderNodes hargs hns
  | _, _, .placeholder hp hwidth hformat hns => by
    rw [renderNodes_placeholder, renderNodes_placeholder]
    exact RenderM.sequential_recased.bind
      (recased_renderPlaced hown hinner h hp hwidth hformat hargs) fun _ ↦
        recased_renderNodes hargs hns

end Renderer

end

namespace Renderer

variable {own : Placeholder → Prop} {r : Renderer}

theorem ignoresCase_nested (h : r.IgnoresCase own) {S : Placeholder → Placeholder → Prop}
    (hown : ∀ p, own p → S p p) (depth : Nat) : NestedRender.IgnoresCase S (r.nested depth) := by
  induction depth with
  | zero => exact fun _ _ _ _ _ ↦ RenderM.recased_leaveOut
  | succ depth ih =>
    intro t t' v ht hv
    exact recased_renderNodes hown ih h (List.forall_mem_singleton.mpr hv) ht

end Renderer

/-! ## Templates that were read -/

/-- Templates that are equal, up to spans and raw text, except that corresponding selectors may be
any that are the same without regard to case. -/
def Template.SameButCase (t t' : Template) : Prop :=
  Template.Variant (fun p p' ↦ List.Forall₂
    (fun s s' ↦ CaseSensitivity.insensitive.same s.text s'.text = true) p.selectors p'.selectors)
    t t'

/-- Two placeholders stand at the same position of two templates, or they are one placeholder of a
template that a formatter brings along. -/
def Template.SamePlace (own : Placeholder → Prop) (t t' : Template) (p p' : Placeholder) : Prop :=
  Template.Corresponding t t' p p' ∨ own p ∧ p' = p

theorem Selector.WellFormed.recased {leading : Bool} {s s' : Selector} (hs : s.WellFormed leading)
    (hs' : s'.WellFormed leading)
    (h : CaseSensitivity.insensitive.same s.text s'.text = true) : s.Recased s' := by
  refine ⟨?_, h⟩
  rw [hs.kind, hs'.kind, Selector.ofText, Selector.ofText, CaseSensitivity.integer?_eq_of_same h]

theorem Selector.recased_of_wellFormed {leading : Bool} {ss ss' : List Selector}
    (h : List.Forall₂ (fun s s' ↦ CaseSensitivity.insensitive.same s.text s'.text = true) ss ss')
    (hss : ∀ s ∈ ss, s.WellFormed leading) (hss' : ∀ s ∈ ss', s.WellFormed leading) :
    List.Forall₂ Recased ss ss' := by
  induction h with
  | nil => exact .nil
  | cons htext _ ih =>
    obtain ⟨hs, hss⟩ := List.forall_mem_cons.mp hss
    obtain ⟨hs', hss'⟩ := List.forall_mem_cons.mp hss'
    exact .cons (hs.recased hs' htext) (ih hss hss')

/-- Paths that were read and differ in letter case only have integers at the same places. -/
theorem Selector.WellFormedPath.recased {ss ss' : List Selector} (hss : WellFormedPath ss)
    (hss' : WellFormedPath ss')
    (h : List.Forall₂ (fun s s' ↦ CaseSensitivity.insensitive.same s.text s'.text = true) ss ss') :
    List.Forall₂ Recased ss ss' := by
  cases h with
  | nil => exact .nil
  | cons hfirst hrest =>
    exact .cons (hss.1.recased hss'.1 hfirst) (recased_of_wellFormed hrest hss.2 hss'.2)

theorem Template.SameButCase.recased {t t' : Template} (h : t.SameButCase t')
    {mode mode' : EscapeMode} {source source' : String}
    (hparse : Template.parse mode source = .ok t)
    (hparse' : Template.parse mode' source' = .ok t') {S : Placeholder → Placeholder → Prop}
    (hS : ∀ p p', Template.Corresponding t t' p p' → S p p') : t.Recased S t' := by
  refine h.imp fun p p' hplaces htexts ↦ ⟨?_, hS p p' hplaces⟩
  obtain ⟨hp, hp'⟩ := hplaces.contains
  exact (hp.wellFormedPath hparse).recased (hp'.wellFormedPath hparse') htexts

namespace Renderer

/-- **Letter case cannot be seen.** Names are compared by an equivalence in either case mode, and
names that are the same where case counts are the same where it does not. Let two texts be read to
templates that are the same but for the case of selectors, and be rendered where case does not
count, against arguments whose records compare names, by formatters that make nothing of the case of
selectors. The two renders give the same text, or both fail, as deep in the paths of placeholders
that stand at the same position of the two templates, or in a template that a formatter brought
along. -/
theorem render_insensitive :
    (∀ case, Equivalence fun a b ↦ CaseSensitivity.same case a b = true) ∧
      (∀ a b, CaseSensitivity.sensitive.same a b = true →
        CaseSensitivity.insensitive.same a b = true) ∧
      ∀ (own : Placeholder → Prop) (r : Renderer) (mode mode' : EscapeMode)
        (source source' : String) (t t' : Template) (args : List Value), r.IgnoresCase own →
        Template.parse mode source = .ok t → Template.parse mode' source' = .ok t' →
        t.SameButCase t' → (∀ v ∈ args, v.ComparesNames) →
          ResultsAlike (ResolutionError.Recased (Template.SamePlace own t t'))
              (r.render t args).result (r.render t' args).result ∧
            (r.render t' args).cut = (r.render t args).cut := by
  refine ⟨CaseSensitivity.equivalence_same, fun _ _ ↦ CaseSensitivity.same_insensitive, ?_⟩
  intro own r mode mode' source source' t t' args h hparse hparse' hcase hargs
  have ht : t.Recased (Template.SamePlace own t t') t' :=
    hcase.recased hparse hparse' fun _ _ ↦ Or.inl
  have hown : ∀ p, own p → Template.SamePlace own t t' p p := fun p hp ↦ Or.inr ⟨hp, rfl⟩
  have hnested := ignoresCase_nested h hown r.depth
  obtain ⟨hout, hresult⟩ := recased_renderNodes hown hnested h hargs ht {}
  rw [render_eq, render_eq, Outcome.ofRun, Outcome.ofRun, hout]
  exact ⟨hresult.map _, rfl⟩

/-- A renderer that knows every ready-made formatter, to which letter case means nothing. -/
def caseless : Renderer :=
  { stocked with settings := { errorAction := .abort, caseSensitivity := .insensitive } }

theorem ignoresCase_caseless (own : Placeholder → Prop) : caseless.IgnoresCase own where
  sources := rfl
  insensitive := rfl
  aborts := rfl
  formatters := FormatterRegistry.All.addAll ⟨nofun, Formatter.ignoresCase_canonical⟩
    Formatter.ignoresCase_stock

/-- A formatter renders its specifier, in which a name is missing, against a record. -/
def nickSample (user nick : String) : Template :=
  let missing : Placeholder :=
    ⟨[.ofText nick ⟨12, 16⟩ true], none, none, "\x7b" ++ nick ++ "\x7d", ⟨11, 17⟩⟩
  let specifier : Template := [.literal ⟨"nest:", ⟨6, 11⟩⟩, .placeholder missing]
  let format : Format := ⟨specifier, some ⟨"nest", none, [.placeholder missing]⟩, ⟨6, 17⟩⟩
  let raw := "\x7b" ++ user ++ ":nest:\x7b" ++ nick ++ "\x7d\x7d"
  [.placeholder ⟨[.ofText user ⟨1, 5⟩ true], none, some format, raw, ⟨0, 18⟩⟩]

/-- A record with a record in it. -/
def userSample : Value :=
  Record.toValue (.ofList [("user", Record.toValue (.ofList [("name", .str "Ada")]))])

theorem comparesNames_userSample : userSample.ComparesNames := by
  have htext : (Value.str "Ada").ComparesNames := fun _ hr ↦ absurd hr nofun
  have hname := Value.comparesNames_toValue (r := .ofList [("name", .str "Ada")])
    (List.forall_mem_singleton.mpr htext)
  exact Value.comparesNames_toValue (List.forall_mem_singleton.mpr hname)

/-- Both renders fail at the placeholder in the specifier, which the data has no value for. -/
theorem render_insensitive_nickSample :
    let t := nickSample "User" "Nick"
    let t' := nickSample "uSER" "nICK"
    caseless.IgnoresCase (fun _ ↦ False) ∧
      Template.parse .doubledBrace "\x7bUser:nest:\x7bNick\x7d\x7d" = .ok t ∧
      Template.parse .doubledBrace "\x7buSER:nest:\x7bnICK\x7d\x7d" = .ok t' ∧
      t.SameButCase t' ∧ (∀ v ∈ [userSample], v.ComparesNames) ∧
      ∃ e e', (caseless.render t [userSample]).result = .error e ∧
        (caseless.render t' [userSample]).result = .error e' ∧
        e.placeholder = "\x7bNick\x7d" ∧ e'.depth = 0 ∧
        ∃ p p', t.Corresponding t' p p' ∧ e.StandsAt p ∧ e'.StandsAt p' := by
  intro t t'
  have h := ignoresCase_caseless fun _ ↦ False
  have hparse : Template.parse .doubledBrace "\x7bUser:nest:\x7bNick\x7d\x7d" = .ok t := rfl
  have hparse' : Template.parse .doubledBrace "\x7buSER:nest:\x7bnICK\x7d\x7d" = .ok t' := rfl
  have hcase : t.SameButCase t' := by
    refine .placeholder (.cons rfl .nil) rfl (.some (.literal rfl ?_) (.some rfl rfl ?_)) .nil
    · exact .placeholder (.cons rfl .nil) rfl .none .nil
    · exact .placeholder (.cons rfl .nil) rfl .none .nil
  have hargs : ∀ v ∈ [userSample], v.ComparesNames :=
    List.forall_mem_singleton.mpr comparesNames_userSample
  have herror : (caseless.render t [userSample]).result =
      .error ⟨.notFound, "\x7bNick\x7d", ⟨11, 17⟩, "Nick", 0, []⟩ := rfl
  obtain ⟨_, _, hrender⟩ := render_insensitive
  obtain ⟨hresult, _⟩ := hrender _ caseless _ _ _ _ t t' _ h hparse hparse' hcase hargs
  rw [herror] at hresult
  generalize hsecond : (caseless.render t' [userSample]).result = result at hresult
  cases hresult with
  | error he =>
    obtain ⟨p, p', hplace | ⟨hown, _⟩, hp, hp'⟩ := he.place
    · exact ⟨h, hparse, hparse', hcase, hargs, _, _, herror, rfl, rfl, he.depth, p, p', hplace, hp,
        hp'⟩
    · exact hown.elim

end Renderer

end TextTemplate
