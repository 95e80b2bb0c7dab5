import TextTemplate.Proofs.Cache
import TextTemplate.Proofs.ErrorOrigin
import TextTemplate.Proofs.Places
import TextTemplate.Proofs.Shapes

/-!
# Rendering data that is alike

Where the default formatter renders a value, the shape of the value may show: a map is written with
its entries, an object as whatever text it has. So data that is alike is rendered to the same text
only if what the formatter is handed has no shape to show. `Template.Leaf` says which values these
are, and `Value.IsPlain` which of them are alike to nothing but themselves. What fails does not
depend on them.

## One induction for two relations

That the text is the same and that the same placeholders fail are shown at once, for any relation
between renders with the properties of `RenderM.Compares`. Equality is one for plain leaves, and
`RenderM.FailAlike` for any.
-/

namespace TextTemplate

/-! ## Leaves -/

namespace Value

/-- A value with no values in it. -/
def IsScalar : Value → Prop
  | .null | .bool _ | .int _ | .float _ | .str _ => True
  | _ => False

/-- A scalar, or a list of scalars. -/
def IsPlain : Value → Prop
  | .list items => ∀ item ∈ items, item.IsScalar
  | v => v.IsScalar

theorem Alike.eq_of_isScalar {v v' : Value} (h : v.Alike v') (hv : v.IsScalar) : v' = v := by
  cases h with
  | refl v => rfl
  | list _ => exact hv.elim
  | map _ _ => exact hv.elim
  | @held _ _ shape _ _ _ _ _ => cases shape <;> exact hv.elim

/-- A plain value is alike to itself only. -/
theorem Alike.eq_of_isPlain {v v' : Value} (h : v.Alike v') (hv : v.IsPlain) : v' = v := by
  cases h with
  | refl v => rfl
  | map _ _ => exact hv.elim
  | @held _ _ shape _ _ _ _ _ => cases shape <;> exact hv.elim
  | @list items items' hitems =>
    have hsame : items' = items := by
      induction hitems with
      | nil => rfl
      | cons hitem _ ih =>
        obtain ⟨hscalar, hscalars⟩ := List.forall_mem_cons.mp hv
        rw [hitem.eq_of_isScalar hscalar, ih hscalars]
    rw [hsame]

end Value

/-- The specifier of a placeholder, if it has placeholders. -/
def Placeholder.nested? (p : Placeholder) : Option Template :=
  (p.format.map Format.template).filter Template.hasPlaceholders

/-- The text of the specifier of a placeholder, if there is one without placeholders. -/
def Placeholder.hint (p : Placeholder) : String :=
  ((p.format.map Format.template).bind Template.plainText?).getD ""

/-- The values that are reached where a template is rendered and that are written by the default
formatter, if no other one is registered. -/
inductive Template.Leaf (case : CaseSensitivity) : Template → List Value → Value → Prop
  | value {t : Template} {p : Placeholder} {args : List Value} {trail : Trail} :
      .placeholder p ∈ t → Path.resolve .builtin case args p.selectors = .ok trail →
      p.nested? = none → Leaf case t args trail.current
  | nested {t specifier : Template} {p : Placeholder} {args : List Value} {trail : Trail}
      {v : Value} : .placeholder p ∈ t →
      Path.resolve .builtin case args p.selectors = .ok trail → p.nested? = some specifier →
      Leaf case specifier [trail.current] v → Leaf case t args v

/-- Every selector in a template that is taken for an integer is spelled as one. -/
def Template.IsSpelled (t : Template) : Prop :=
  ∀ p, t.Contains p → ∀ s ∈ p.selectors, s.IsSpelled

theorem Template.IsSpelled.nested {t specifier : Template} {p : Placeholder} (h : t.IsSpelled)
    (hp : .placeholder p ∈ t) (hnested : p.nested? = some specifier) : specifier.IsSpelled := by
  obtain ⟨hformat, _⟩ := Option.filter_eq_some_iff.mp hnested
  obtain ⟨f, hf, rfl⟩ := Option.map_eq_some_iff.mp hformat
  exact fun q hq ↦ h q (.specifier hp hf hq)

/-! ## Renders to be compared -/

/-- A placeholder is rendered on its own and then put into the output. -/
def Renderer.placeAlone (r : Renderer) (p : Placeholder) (act : RenderM Unit) : RenderM Unit := do
  let result ← ExceptT.lift (RenderM.isolated act)
  r.place p result

/-- A relation by which renders of data that is alike can be compared, if a condition holds for the
leaves. -/
structure RenderM.Compares (R : (α : Type) → RenderM α → RenderM α → Prop) (P : Value → Prop) :
    Prop extends RenderM.Sequential R where
  throw (e : ResolutionError) : R Unit (MonadExcept.throw e) (MonadExcept.throw e)
  emit (text : String) : R Unit (RenderM.emit text) (RenderM.emit text)
  leaveOut : R Unit RenderM.leaveOut RenderM.leaveOut
  leaf {v v' : Value} (hint : String) : v.Alike v' → P v →
    R Unit (RenderM.emit (v.textWithHint hint)) (RenderM.emit (v'.textWithHint hint))
  placed {act act' : RenderM Unit} (r : Renderer) (p : Placeholder) : R Unit act act' →
    R Unit (r.placeAlone p act) (r.placeAlone p act')

theorem RenderM.compares_eq : Compares (fun _ act act' ↦ act' = act) Value.IsPlain where
  toSequential := sequential_eq
  throw _ := rfl
  emit _ := rfl
  leaveOut := rfl
  leaf hint h hv := by rw [h.eq_of_isPlain hv]
  placed r p h := congrArg (r.placeAlone p) h

/-- Renders that fail with the same error or not at all, and that recover from the same errors, if
they begin with outputs that differ in their texts only. What they write may differ. -/
def RenderM.FailAlike (α : Type) (act act' : RenderM α) : Prop :=
  ∀ out out', out'.withText "" = out.withText "" →
    (act'.exec out').1 = (act.exec out).1 ∧
      (act'.exec out').2.withText "" = (act.exec out).2.withText ""

namespace RenderM

theorem failAlike_emit (text text' : String) : FailAlike Unit (emit text) (emit text') :=
  fun _ _ hout ↦ ⟨rfl, hout⟩

theorem failAlike_throw (e : ResolutionError) : FailAlike Unit (throw e) (throw e) :=
  fun _ _ hout ↦ ⟨rfl, hout⟩

theorem failAlike_record (e : ResolutionError) : FailAlike Unit (record e) (record e) :=
  fun _ _ hout ↦ ⟨rfl, congrArg (Output.recovering · e) hout⟩

theorem failAlike_leaveOut : FailAlike Unit leaveOut leaveOut :=
  fun _ _ hout ↦ ⟨rfl, congrArg (fun out : Output ↦ { out with cut := true }) hout⟩

theorem sequential_failAlike : Sequential FailAlike where
  pure a := fun _ _ hout ↦ ⟨rfl, hout⟩
  bind {α β act act' f f'} h hf := by
    intro out out' hout
    obtain ⟨hresult, hnext⟩ := h out out' hout
    rw [exec_bind, exec_bind]
    generalize act.exec out = last at hresult hnext ⊢
    generalize act'.exec out' = last' at hresult hnext ⊢
    obtain ⟨result, next⟩ := last
    obtain ⟨result', next'⟩ := last'
    obtain rfl : result' = result := hresult
    cases result' with
    | ok a => exact hf a next next' hnext
    | error e => exact ⟨rfl, hnext⟩

theorem failAlike_place (r : Renderer) (p : Placeholder)
    {result result' : Except ResolutionError String}
    (h : result'.map (fun _ ↦ ()) = result.map fun _ ↦ ()) :
    FailAlike Unit (r.place p result) (r.place p result') := by
  match result, result', h with
  | .ok text, .ok text', _ => exact failAlike_emit _ _
  | .error e, .error e', h =>
    obtain rfl : e' = e := Except.error.inj h
    exact Renderer.recover_related sequential_failAlike (fun text ↦ failAlike_emit text text) rfl
      (failAlike_throw e') (failAlike_record e')

theorem failAlike_placeAlone (r : Renderer) (p : Placeholder) {act act' : RenderM Unit}
    (h : FailAlike Unit act act') :
    FailAlike Unit (r.placeAlone p act) (r.placeAlone p act') := by
  intro out out' hout
  have hstart : (out'.withText "").withText "" = (out.withText "").withText "" := hout
  obtain ⟨hresult, hnext⟩ := h _ _ hstart
  rw [Renderer.placeAlone, Renderer.placeAlone, exec_bind, exec_bind, exec_isolated, exec_isolated]
  refine failAlike_place r p ?_ _ _ hnext
  rw [execAlone, execAlone, hresult]
  cases (act.exec (out.withText "")).1 <;> rfl

/-- Where all that counts are failures, any leaf will do. -/
theorem compares_failAlike : Compares FailAlike fun _ ↦ True where
  toSequential := sequential_failAlike
  throw := failAlike_throw
  emit text := failAlike_emit text text
  leaveOut := failAlike_leaveOut
  leaf _ _ _ := failAlike_emit _ _
  placed r p h := failAlike_placeAlone r p h

end RenderM

/-! ## Renderers -/

/-- A renderer with the sources and formatters that are there from the beginning. -/
structure Renderer.IsBuiltin (r : Renderer) : Prop where
  sources : r.sources = .builtin
  formatters : r.formatters = {}

namespace Renderer

variable {r : Renderer}

namespace IsBuiltin

variable (h : r.IsBuiltin)

include h

theorem runDefault (inner : NestedRender) (fail : String → String → ResolutionError) (v : Value)
    {t? : Option Template} (hnested : t?.filter Template.hasPlaceholders = none) :
    r.runDefault inner fail ⟨v, none, t?⟩ =
      RenderM.emit (v.textWithHint ((t?.bind Template.plainText?).getD "")) := by
  funext out
  have hwrite : (Formatter.canonical.run (fail "default") ⟨v, none, t?⟩ inner).exec out =
      (.ok true, out.append (v.textWithHint ((t?.bind Template.plainText?).getD ""))) := by
    rw [Formatter.exec_run, Formatter.canonical_run, hnested]
    rfl
  have hrun : (r.runDefault inner fail ⟨v, none, t?⟩).exec out =
      (RenderM.emit (v.textWithHint ((t?.bind Template.plainText?).getD ""))).exec out := by
    rw [Renderer.runDefault, h.formatters, map_eq_pure_bind, RenderM.exec_bind, hwrite]
    rfl
  exact hrun

/-- Without other formatters, a value is rendered under a specifier with placeholders, or else
written by the default formatter. -/
theorem renderFormat (inner : NestedRender) (fail : String → String → ResolutionError) (v : Value)
    (p : Placeholder) :
    (∀ specifier, p.nested? = some specifier →
        r.renderFormat inner fail v p.format = inner specifier v) ∧
      (p.nested? = none →
        r.renderFormat inner fail v p.format = RenderM.emit (v.textWithHint p.hint)) := by
  have hhead : ∀ head, r.runHead inner fail v head = pure false := by
    intro head
    cases head with
    | none => rfl
    | some head => rw [runHead, h.formatters]; rfl
  rw [Placeholder.nested?, Placeholder.hint]
  cases p.format with
  | none =>
    refine ⟨fun specifier hspecifier ↦ ?_, fun hnested ↦ h.runDefault inner fail v hnested⟩
    cases hspecifier
  | some f =>
    rw [Renderer.renderFormat, hhead, pure_bind, if_neg Bool.false_ne_true, Option.map_some,
      Option.filter_some]
    by_cases hnested : Template.hasPlaceholders f.template = true
    · rw [if_pos hnested, if_pos hnested]
      refine ⟨fun specifier hspecifier ↦ ?_, fun hnone ↦ ?_⟩
      · rw [Option.some.inj hspecifier]
      · cases hnone
    · rw [if_neg hnested, if_neg hnested]
      refine ⟨fun specifier hspecifier ↦ ?_, fun _ ↦ h.runDefault inner fail v ?_⟩
      · cases hspecifier
      · rw [Option.filter_some, if_neg hnested]

end IsBuiltin

section

variable {R : (α : Type) → RenderM α → RenderM α → Prop} {P : Value → Prop}
  (hR : RenderM.Compares R P) (h : r.IsBuiltin) {inner : NestedRender}
  (hinner : ∀ (t : Template) (v v' : Value), v.Alike v' → t.IsSpelled →
    (∀ leaf, t.Leaf r.settings.caseSensitivity [v] leaf → P leaf) →
      R Unit (inner t v) (inner t v'))
  {args args' : List Value} (hargs : List.Forall₂ Value.Alike args args') {t : Template}
  (ht : t.IsSpelled)
  (hleaves : ∀ leaf, t.Leaf r.settings.caseSensitivity args leaf → P leaf)

include hR h hinner hargs ht hleaves

theorem related_renderPlaceholder {p : Placeholder} (hp : .placeholder p ∈ t) :
    R Unit (r.renderPlaceholder inner p args) (r.renderPlaceholder inner p args') := by
  have hpath : Path.Alike (r.resolve args p.selectors) (r.resolve args' p.selectors) := by
    rw [Renderer.resolve, Renderer.resolve, h.sources]
    exact Path.alike_resolve (ht p (.here hp)) hargs
  have hreached : ∀ trail, r.resolve args p.selectors = .ok trail →
      Path.resolve .builtin r.settings.caseSensitivity args p.selectors = .ok trail := by
    intro trail htrail
    rwa [Renderer.resolve, h.sources] at htrail
  rw [renderPlaceholder, renderPlaceholder]
  generalize r.resolve args p.selectors = result at hpath hreached ⊢
  generalize r.resolve args' p.selectors = result' at hpath ⊢
  cases hpath with
  | failed f => exact hR.throw (p.pathError f)
  | @reached trail trail' htrail =>
    have hresolve := hreached trail rfl
    have hfail : p.formatterError trail' = p.formatterError trail := by
      funext name message
      rw [Placeholder.formatterError, Placeholder.formatterError, Trail.fail, Trail.fail,
        htrail.depth, htrail.resolved]
    simp only [hfail]
    obtain ⟨hnested, hvalue⟩ := h.renderFormat inner (p.formatterError trail) trail.current p
    obtain ⟨hnested', hvalue'⟩ := h.renderFormat inner (p.formatterError trail) trail'.current p
    cases hspecifier : p.nested? with
    | none =>
      rw [hvalue hspecifier, hvalue' hspecifier]
      exact hR.leaf p.hint htrail.current (hleaves _ (.value hp hresolve hspecifier))
    | some specifier =>
      rw [hnested specifier hspecifier, hnested' specifier hspecifier]
      refine hinner specifier _ _ htrail.current (ht.nested hp hspecifier) fun leaf hleaf ↦ ?_
      exact hleaves leaf (.nested hp hresolve hspecifier hleaf)

theorem related_renderNodes :
    R Unit (r.renderNodes inner t args) (r.renderNodes inner t args') := by
  refine renderNodes_related hR.toSequential hR.emit fun p hp ↦ hR.placed r p ?_
  exact related_renderPlaceholder hR h hinner hargs ht hleaves hp

end

theorem related_nested {R : (α : Type) → RenderM α → RenderM α → Prop} {P : Value → Prop}
    (hR : RenderM.Compares R P) (h : r.IsBuiltin) (depth : Nat) (t : Template) {v v' : Value}
    (hv : v.Alike v') (ht : t.IsSpelled)
    (hleaves : ∀ leaf, t.Leaf r.settings.caseSensitivity [v] leaf → P leaf) :
    R Unit (r.nested depth t v) (r.nested depth t v') := by
  induction depth generalizing t v v' with
  | zero => exact hR.leaveOut
  | succ depth ih =>
    have hinner : ∀ (t : Template) (v v' : Value), v.Alike v' → t.IsSpelled →
        (∀ leaf, t.Leaf r.settings.caseSensitivity [v] leaf → P leaf) →
          R Unit (r.nested depth t v) (r.nested depth t v') := fun t _ _ hv ht ↦ ih t hv ht
    exact related_renderNodes hR h hinner (.cons hv .nil) ht hleaves

theorem related_render {R : (α : Type) → RenderM α → RenderM α → Prop} {P : Value → Prop}
    (hR : RenderM.Compares R P) (h : r.IsBuiltin) {args args' : List Value}
    (hargs : List.Forall₂ Value.Alike args args') {t : Template} (ht : t.IsSpelled)
    (hleaves : ∀ leaf, t.Leaf r.settings.caseSensitivity args leaf → P leaf) :
    R Unit (r.renderNodes (r.nested r.depth) t args) (r.renderNodes (r.nested r.depth) t args') :=
  related_renderNodes hR h (fun t _ _ hv ht ↦ related_nested hR h r.depth t hv ht) hargs ht hleaves

section

variable (h : r.IsBuiltin) {args args' : List Value}
  (hargs : List.Forall₂ Value.Alike args args') {t : Template} (ht : t.IsSpelled)

include h hargs ht

/-- What fails in data that is alike is the same, whatever is written. -/
theorem errors_alike :
    (∀ e, (r.render t args').result = .error e ↔ (r.render t args).result = .error e) ∧
      (r.render t args').recovered = (r.render t args).recovered := by
  have hrun := related_render RenderM.compares_failAlike h hargs ht fun _ _ ↦ trivial
  obtain ⟨hresult, hout⟩ := hrun {} {} rfl
  have herror : ∀ args e, (r.render t args).result = .error e ↔
      ((r.renderNodes (r.nested r.depth) t args).exec {}).1 = .error e := by
    intro args e
    rw [render_eq, Outcome.ofRun]
    refine ⟨eq_error_of_map, fun he ↦ ?_⟩
    simp only [he]
    rfl
  have hrecovered := congrArg (fun out : Output ↦ out.recovered) hout
  refine ⟨fun e ↦ ?_, hrecovered⟩
  rw [herror, herror, hresult]

/-- Where all leaves are plain, data that is alike is rendered to the same text. -/
theorem render_eq_of_alike
    (hleaves : ∀ v, t.Leaf r.settings.caseSensitivity args v → v.IsPlain) :
    r.render t args' = r.render t args := by
  have hrun := related_render RenderM.compares_eq h hargs ht hleaves
  rw [render_eq, render_eq, hrun]

end

end Renderer

/-! ## Templates that are read -/

/-- A selector that reading yields is spelled as what it is taken for. -/
theorem Selector.WellFormed.isSpelled {leading : Bool} {s : Selector} (h : s.WellFormed leading) :
    s.IsSpelled := by
  intro hkind
  rw [h.kind] at hkind
  exact isSpelled_ofText s.text s.span leading hkind

theorem Selector.WellFormedPath.isSpelled {selectors : List Selector}
    (h : WellFormedPath selectors) : ∀ s ∈ selectors, s.IsSpelled := by
  cases selectors with
  | nil => exact h.elim
  | cons s ss =>
    obtain ⟨hs, hss⟩ := h
    exact List.forall_mem_cons.mpr ⟨hs.isSpelled, fun s' hs' ↦ (hss s' hs').isSpelled⟩

namespace Template

theorem Contains.wellFormed {t : Template} {p : Placeholder} (h : t.Contains p)
    (ht : ∀ q, .placeholder q ∈ t → Placeholder.WellFormed q) : Placeholder.WellFormed p := by
  induction h with
  | here hp => exact ht _ hp
  | specifier hq hf _ ih =>
    obtain ⟨hspecifier, _⟩ := wellFormed_format (ht _ hq) hf
    exact ih fun r hr ↦ wellFormed_of_mem hspecifier hr
  | body hq hf hhead _ ih =>
    obtain ⟨hspecifier, hextract⟩ := wellFormed_format (ht _ hq) hf
    rw [hhead] at hextract
    exact ih fun r hr ↦ wellFormed_of_mem hspecifier (mem_of_extract? hextract.symm hr)

theorem Contains.wellFormedPath {mode : EscapeMode} {source : String} {t : Template}
    {p : Placeholder} (hp : t.Contains p) (h : Template.parse mode source = .ok t) :
    Selector.WellFormedPath p.selectors := by
  obtain ⟨ps, _, hps, rfl⟩ := parse_eq_ok_iff.mp h
  have hwf := hp.wellFormed fun q hq ↦ wellFormed_of_mem hps.wellFormed hq
  obtain ⟨selectors, width, format, raw, span⟩ := p
  exact hwf.1

theorem isSpelled_of_parse {mode : EscapeMode} {source : String} {t : Template}
    (h : Template.parse mode source = .ok t) : t.IsSpelled := fun _ hp ↦
  (hp.wellFormedPath h).isSpelled

end Template

/-- A call without an engine renders the template that the text is. -/
theorem format_eq_render (source : String) (args : List Value) (settings : Settings) :
    format source args settings = match Template.parse settings.escapeMode source with
      | .error error => .error (.malformed error)
      | .ok t =>
        ((Engine.new settings.switchedOff).renderer.render t args).result.mapError .unresolved := by
  have hempty : (Engine.new settings.switchedOff).Faithful := Engine.faithful_of_empty rfl
  have hformat := congrArg Answer.result (Engine.format_eq hempty source args)
  refine hformat.trans ?_
  have hmode : (Engine.new settings.switchedOff).settings.escapeMode = settings.escapeMode := rfl
  rw [hmode]
  cases Template.parse settings.escapeMode source <;> rfl

/-- **The shape of data does not matter.** Let the arguments of two calls be alike. Then every path
leads to values that are alike, or fails at the same selector for the same reason. The errors that a
render with built-in sources and formatters ends with, or recovers from, are the same, and so is its
text if every value that the default formatter writes is a scalar or a list of scalars. -/
theorem Value.render_alike (case : CaseSensitivity) {args args' : List Value}
    (hargs : List.Forall₂ Value.Alike args args') :
    (∀ selectors : List Selector, (∀ s ∈ selectors, s.IsSpelled) →
      Path.Alike (Path.resolve .builtin case args selectors)
        (Path.resolve .builtin case args' selectors)) ∧
      (∀ (r : Renderer) (t : Template), r.IsBuiltin → r.settings.caseSensitivity = case →
        t.IsSpelled →
          (∀ e, (r.render t args').result = .error e ↔ (r.render t args).result = .error e) ∧
            (r.render t args').recovered = (r.render t args).recovered ∧
            ((∀ v, t.Leaf case args v → v.IsPlain) → r.render t args' = r.render t args)) ∧
      ∀ (settings : Settings) (source : String), settings.caseSensitivity = case →
        (∀ t v, Template.parse settings.escapeMode source = .ok t → t.Leaf case args v →
          v.IsPlain) →
        format source args' settings = format source args settings := by
  refine ⟨fun selectors hselectors ↦ Path.alike_resolve hselectors hargs, ?_, ?_⟩
  · rintro r t h rfl ht
    obtain ⟨herrors, hrecovered⟩ := Renderer.errors_alike h hargs ht
    exact ⟨herrors, hrecovered, Renderer.render_eq_of_alike h hargs ht⟩
  · rintro settings source rfl hleaves
    rw [format_eq_render, format_eq_render]
    cases hparse : Template.parse settings.escapeMode source with
    | error e => rfl
    | ok t =>
      have hbuiltin : (Engine.new settings.switchedOff).renderer.IsBuiltin := ⟨rfl, rfl⟩
      have hrender := Renderer.render_eq_of_alike hbuiltin hargs
        (Template.isSpelled_of_parse hparse) fun v ↦ hleaves t v hparse
      simp only [hrender]

/-- The members of a city, with a name that comes twice. -/
def citySample : List (String × Value) :=
  [("Name", .str "?"), ("Zip", .int 150), ("Name", .str "Oslo")]

/-- A city in a record, inside of an address that is an object. -/
def addressSample : Value :=
  (Shape.object "Address" "").hold [("City", Shape.record.hold citySample)]

/-- The same city in an object, inside of an address that is a map. -/
def addressMapSample : Value :=
  Shape.map.hold [("City", (Shape.object "City" "").hold citySample)]

/-- A path through both, without regard to case. -/
theorem Value.render_alike_citySample :
    List.Forall₂ Value.Alike [addressSample] [addressMapSample] ∧
      format "\x7bcity.name\x7d" [addressMapSample] { caseSensitivity := .insensitive } =
        format "\x7bcity.name\x7d" [addressSample] { caseSensitivity := .insensitive } := by
  have hcity : ∀ m ∈ citySample, Selector.integer? m.1 = none := by
    intro m hm
    simp only [citySample, List.mem_cons, List.not_mem_nil, or_false] at hm
    rcases hm with rfl | rfl | rfl <;> rfl
  have hlower : (Shape.record.hold citySample).Alike
      ((Shape.object "City" "").hold citySample) :=
    .held rfl (List.forall₂_same.mpr fun v _ ↦ .refl v) trivial hcity
  have haddress : addressSample.Alike addressMapSample := by
    refine .held rfl (.cons hlower .nil) ?_ trivial
    intro m hm
    obtain rfl := List.mem_singleton.mp hm
    rfl
  have hargs : List.Forall₂ Value.Alike [addressSample] [addressMapSample] := .cons haddress .nil
  let p : Placeholder := ⟨[.ofText "city" ⟨1, 5⟩ true, .ofText "name" ⟨6, 10⟩ false], none, none,
    "\x7bcity.name\x7d", ⟨0, 11⟩⟩
  have hread : Template.parse .doubledBrace "\x7bcity.name\x7d" = .ok [.placeholder p] := rfl
  have hpath : Path.resolve .builtin .insensitive [addressSample] p.selectors =
      .ok ⟨.str "Oslo", 2, ["city", "name"]⟩ := rfl
  -- The only leaf is the name that the path leads to.
  have hleaves : ∀ t v, Template.parse .doubledBrace "\x7bcity.name\x7d" = .ok t →
      t.Leaf .insensitive [addressSample] v → v.IsPlain := by
    intro t v hparse hleaf
    obtain rfl := Except.ok.inj (hparse.symm.trans hread)
    cases hleaf with
    | value hp hresolve _ =>
      obtain rfl := Node.placeholder.inj (List.mem_singleton.mp hp)
      obtain rfl := Except.ok.inj (hresolve.symm.trans hpath)
      trivial
    | nested hp _ hnested _ =>
      obtain rfl := Node.placeholder.inj (List.mem_singleton.mp hp)
      exact absurd hnested nofun
  obtain ⟨_, _, hformat⟩ := Value.render_alike .insensitive hargs
  exact ⟨hargs, hformat { caseSensitivity := .insensitive } "\x7bcity.name\x7d" rfl hleaves⟩

end TextTemplate
