import TextTemplate.Proofs.Cache
import TextTemplate.Proofs.Chaining
import TextTemplate.Proofs.NodeByNode

/-!
# Formatters that decline

A formatter that declines a value leaves it to be rendered as if no formatter had been named. But it
may have written before it answers, or had templates rendered, and both go into the output of the
placeholder, which is the one that the value is then rendered into. So what it wrote stays, in front
of what the placeholder gives without it.

How much that is can be said once for all outputs, since no formatter sees what was written before
it: this is `Script.additive`, and it is why `Declines` looks at a run from the empty output alone.
-/

namespace TextTemplate

/-- A format without the formatter that it names. The name is still the front of the specifier. -/
def Format.headless (f : Format) : Format := { f with head := none }

/-- A placeholder without the formatter that its format names. -/
def Placeholder.headless (p : Placeholder) : Placeholder :=
  { p with format := p.format.map Format.headless }

namespace Renderer

/-- The formatter that a format names is registered and declines a value, and has by then added this
to the empty output. -/
def Declines (r : Renderer) (inner : NestedRender) (f : Format) (v : Value) (written : Output) :
    Prop :=
  ∃ head g, f.head = some head ∧ r.formatters.named.get? head.name = some g ∧
    (g ⟨v, head.options, some head.body⟩).run.exec inner {} = (.ok false, written)

variable {r : Renderer} {inner : NestedRender} {f : Format} {v : Value} {written : Output}

/-! ## Without the formatter -/

/-- Without a formatter, the specifier is rendered if it has placeholders, and is a hint otherwise. -/
theorem renderFormat_headless (r : Renderer) (inner : NestedRender)
    (fail : String → String → ResolutionError) (v : Value) (f : Format) :
    r.renderFormat inner fail v (some f.headless) =
      if Template.hasPlaceholders f.template then inner f.template v
      else r.runDefault inner fail ⟨v, none, some f.template⟩ := by
  rw [renderFormat, Format.headless, runHead, pure_bind]
  rfl

/-! ## Behind the formatter -/

theorem exec_runHead_of_declines (hinner : inner.Adds) (h : r.Declines inner f v written)
    (fail : String → String → ResolutionError) (out : Output) :
    (r.runHead inner fail v f.head).exec out = (.ok false, out.followedBy written) := by
  obtain ⟨head, g, hhead, hnamed, hrun⟩ := h
  have hout := Script.additive hinner (g ⟨v, head.options, some head.body⟩).run out
  rw [hrun] at hout
  rw [hhead, runHead, hnamed]
  simp only
  rw [Formatter.exec_run, hout]
  rfl

/-- The value is rendered as without the formatter, behind what the formatter wrote. -/
theorem exec_renderFormat_of_declines (hinner : inner.Adds) (h : r.Declines inner f v written)
    (fail : String → String → ResolutionError) (out : Output) :
    (r.renderFormat inner fail v (some f)).exec out =
      (r.renderFormat inner fail v (some f.headless)).exec (out.followedBy written) := by
  rw [renderFormat_headless, renderFormat, RenderM.exec_bind,
    exec_runHead_of_declines hinner h fail out]
  rfl

theorem exec_renderPlaceholder_of_declines (hinner : inner.Adds) {args : List Value}
    {p : Placeholder} {t : Trail} (hresolve : r.resolve args p.selectors = .ok t)
    (hformat : p.format = some f) (h : r.Declines inner f t.current written) (out : Output) :
    (r.renderPlaceholder inner p args).exec out =
      (r.renderPlaceholder inner p.headless args).exec (out.followedBy written) := by
  have hheadless : p.headless.format = some f.headless := by
    rw [Placeholder.headless, hformat, Option.map_some]
  have hresolve' : r.resolve args p.headless.selectors = .ok t := hresolve
  rw [renderPlaceholder_of_ok hresolve, renderPlaceholder_of_ok hresolve', hformat, hheadless]
  exact exec_renderFormat_of_declines hinner h (p.formatterError t) out

/-- **Declining formatters leave what they wrote.** Let a placeholder lead to a value, and let the
formatter that its format names decline that value. Then the placeholder fails as it does without the
formatter, or its text is what the formatter wrote and then the text that it has without the
formatter. The formatter leaves no trace if and only if it wrote nothing. -/
theorem ownText_of_declines {args : List Value} {p : Placeholder} {t : Trail}
    (hresolve : r.resolve args p.selectors = .ok t) (hformat : p.format = some f)
    (h : r.Declines (r.nested r.depth) f t.current written) :
    r.ownText args p = (r.ownText args p.headless).map (written.text ++ ·) ∧
      ∀ text, r.ownText args p.headless = .ok text →
        (r.ownText args p = .ok text ↔ written.text = "") := by
  have hinner := r.adds_nested r.depth
  have hstart : Output.withText {} "" = {} := rfl
  have hbehind : r.ownText args p = (r.ownText args p.headless).map (written.text ++ ·) := by
    rw [ownText, ownText, RenderM.execAlone, RenderM.execAlone, hstart,
      exec_renderPlaceholder_of_declines hinner hresolve hformat h,
      additive_renderPlaceholder hinner p.headless args, Output.empty_followedBy]
    generalize (r.renderPlaceholder (r.nested r.depth) p.headless args).exec {} = last
    obtain ⟨result, new⟩ := last
    cases result <;> rfl
  refine ⟨hbehind, fun text htext ↦ ?_⟩
  rw [hbehind, htext]
  constructor
  · intro hsame
    have hchars := congrArg String.toList (Except.ok.inj hsame)
    rw [String.toList_append] at hchars
    exact String.toList_eq_nil_iff.mp (List.append_left_eq_self.mp hchars)
  · intro hempty
    rw [hempty]
    exact congrArg Except.ok String.empty_append

/-- A placeholder whose format names a formatter that writes and then declines. -/
def hesitantSample (specifier : Template) (raw : String) (stop : Nat) : Placeholder :=
  ⟨[.ofText "0" ⟨1, 2⟩ true], none, some (.ofTemplate specifier ⟨3, stop - 1⟩), raw, ⟨0, stop⟩⟩

/-- Where the specifier has placeholders, it is rendered behind what was written, name and all. -/
theorem ownText_of_declines_nestedSample :
    let inner : Placeholder := ⟨[.ofText "a" ⟨12, 13⟩ true], none, none, "\x7ba\x7d", ⟨11, 14⟩⟩
    let specifier : Template := [.literal ⟨"partial:", ⟨3, 11⟩⟩, .placeholder inner]
    let p := hesitantSample specifier "\x7b0:partial:\x7ba\x7d\x7d" 15
    let arg : Value := .map ⟨[(.str "a", .str "y")]⟩
    Template.parse .doubledBrace "\x7b0:partial:\x7ba\x7d\x7d" = .ok [.placeholder p] ∧
      stocked.resolve [arg] p.selectors = .ok ⟨arg, 1, ["0"]⟩ ∧
      stocked.Declines (stocked.nested stocked.depth) (.ofTemplate specifier ⟨3, 14⟩) arg
        ⟨"partial;", [], false⟩ ∧
      stocked.ownText [arg] p.headless = .ok "partial:y" ∧
      stocked.ownText [arg] p = .ok "partial;partial:y" := by
  intro inner specifier p arg
  have hresolve : stocked.resolve [arg] p.selectors = .ok ⟨arg, 1, ["0"]⟩ := rfl
  have hdeclines : stocked.Declines (stocked.nested stocked.depth) (.ofTemplate specifier ⟨3, 14⟩)
      arg ⟨"partial;", [], false⟩ := ⟨_, .hesitant, rfl, rfl, rfl⟩
  have hheadless : stocked.ownText [arg] p.headless = .ok "partial:y" := rfl
  obtain ⟨hbehind, _⟩ := ownText_of_declines hresolve rfl hdeclines
  refine ⟨rfl, hresolve, hdeclines, hheadless, ?_⟩
  rw [hbehind, hheadless]
  rfl

/-- The text is rendered behind what was written, where without the formatter it stands alone. -/
theorem format_hesitantSample :
    let p := hesitantSample [.literal ⟨"partial:x", ⟨3, 12⟩⟩] "\x7b0:partial:x\x7d" 13
    let e := (Engine.new {}).addFormatter "partial" .hesitant
    Template.parse .doubledBrace "\x7b0:partial:x\x7d" = .ok [.placeholder p] ∧
      e.renderer.Declines (e.renderer.nested e.renderer.depth)
        (.ofTemplate [.literal ⟨"partial:x", ⟨3, 12⟩⟩] ⟨3, 12⟩) (.str "v") ⟨"partial;", [], false⟩ ∧
      e.renderer.ownText [.str "v"] p.headless = .ok "v" ∧
      (e.format "\x7b0:partial:x\x7d" [.str "v"]).1.result = .ok "partial;v" := by
  intro p e
  have hparse : Template.parse .doubledBrace "\x7b0:partial:x\x7d" = .ok [.placeholder p] := rfl
  have hfaithful : e.Faithful := Engine.faithful_of_empty rfl
  have hmode : e.settings.escapeMode = .doubledBrace := rfl
  refine ⟨hparse, ⟨_, .hesitant, rfl, rfl, rfl⟩, rfl, ?_⟩
  rw [Engine.format_eq hfaithful, hmode, hparse]
  rfl

end Renderer

end TextTemplate
