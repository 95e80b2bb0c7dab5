import TextTemplate.Proofs.EscapeModes
import TextTemplate.Proofs.ExtraArguments
import TextTemplate.Proofs.LiteralTemplates
import TextTemplate.Proofs.NodeByNode

/-!
# Templates that are kept

Without arguments there is nothing that a path could start at, so every placeholder fails in front
of its first selector. Where failed placeholders are kept as they were read, what comes out is the
text that the template was read from, but for the escapes in its literals.

This takes both halves of the development. The renderer says that the output is `keptText`: the
literals and the placeholders as the template holds them. The spans say that the source is cut into
the slices of the nodes, and how each slice goes with what its node holds. `Decodes` puts the two
texts side by side, slice by slice.
-/

namespace TextTemplate

/-! ## Source and kept text -/

/-- The text of a node whose placeholders are kept as they were read. -/
def Node.keptText : Node → String
  | .literal l => l.text
  | .placeholder p => p.raw

namespace Template

/-- The text of a template whose placeholders are kept as they were read. -/
def keptText (t : Template) : String := String.join (t.map Node.keptText)

theorem keptText_cons (n : Node) (ns : Template) :
    keptText (n :: ns) = n.keptText ++ keptText ns := by
  rw [keptText, keptText, List.map_cons, String.join_cons]

/-- The first text is made of the slices of the nodes. The second one is the same, except that the
slices of literals are decoded. -/
inductive Decodes (mode : EscapeMode) (source : List Char) :
    Template → List Char → List Char → Prop
  | nil : Decodes mode source [] [] []
  | literal {l : Literal} {ns : Template} {text decoded cs ds : List Char} :
      l.span.slice? source = some text → decode mode text = some decoded →
      Decodes mode source ns cs ds →
      Decodes mode source (.literal l :: ns) (text ++ cs) (decoded ++ ds)
  | placeholder {p : Placeholder} {ns : Template} {text cs ds : List Char} :
      p.span.slice? source = some text → Decodes mode source ns cs ds →
      Decodes mode source (.placeholder p :: ns) (text ++ cs) (text ++ ds)

variable {mode : EscapeMode}

/-- Nodes that lie side by side to the end of a text cut it into their slices. -/
theorem decodes_of_rebuilds {t : Template} {before rest : List Char}
    (h : Rebuilds mode (before ++ rest) t (byteWidth before) (byteWidth (before ++ rest))) :
    Decodes mode (before ++ rest) t rest t.keptText.toList := by
  induction t generalizing before rest with
  | nil =>
    have hwidth : byteWidth before = byteWidth before + byteWidth rest := by
      rw [← byteWidth_append]
      exact h
    obtain rfl : rest = [] := by
      cases rest with
      | nil => rfl
      | cons c rest =>
        have hpos := c.utf8Size_pos
        rw [byteWidth_cons] at hwidth
        omega
    exact .nil
  | cons n ns ih =>
    -- Behind the slice of the first node, what is left of the text is cut by the others.
    have hbehind : ∀ {span : Span} {text : List Char}, span.start = byteWidth before →
        span.slice? (before ++ rest) = some text →
        Rebuilds mode (before ++ rest) ns span.stop (byteWidth (before ++ rest)) →
        ∃ behind, rest = text ++ behind ∧
          Decodes mode (before ++ rest) ns behind (keptText ns).toList := by
      intro span text hstart hslice hns
      obtain ⟨behind, rfl, hstop⟩ := Span.slice?_behind hstart hslice
      rw [hstop, ← List.append_assoc] at hns
      have hdecodes := ih hns
      rw [List.append_assoc] at hdecodes
      exact ⟨behind, rfl, hdecodes⟩
    rw [keptText_cons, String.toList_append]
    cases n with
    | literal l =>
      obtain ⟨hstart, _, _, hliteral, hns⟩ := h
      obtain ⟨text, hslice, hdecode⟩ := Option.bind_eq_some_iff.mp hliteral
      obtain ⟨behind, rfl, hdecodes⟩ := hbehind hstart hslice hns
      exact .literal hslice hdecode hdecodes
    | placeholder p =>
      obtain ⟨hstart, hp, hns⟩ := h
      have hslice := slice?_of_rebuilds hp
      obtain ⟨behind, rfl, hdecodes⟩ := hbehind hstart hslice hns
      exact .placeholder hslice hdecodes

theorem decodes_of_parse {source : String} {t : Template} (h : parse mode source = .ok t) :
    Decodes mode source.toList t source.toList t.keptText.toList := by
  have hrebuilds : Rebuilds mode ([] ++ source.toList) t (byteWidth [])
      (byteWidth ([] ++ source.toList)) := by
    rw [List.nil_append, byteWidth_toList]
    exact rebuilds_source h
  exact decodes_of_rebuilds hrebuilds

end Template

/-! ## Texts without escapes -/

/-- A text without escapes spells itself. -/
theorem Parser.Spells.eq_of_not_hasEscape {mode : EscapeMode} {cs ds : List Char}
    (h : Spells mode cs ds) (hescape : ¬HasEscape mode cs) : ds = cs := by
  induction h with
  | nil => rfl
  | @cons unit cs ds c hunit _ ih =>
    rw [ih fun hrest ↦ hescape (hrest.mono (List.suffix_append unit cs).isInfix)]
    have hfront : ¬HasEscape mode unit := fun hfront ↦
      hescape (hfront.mono (List.prefix_append unit cs).isInfix)
    cases hunit with
    | plain _ _ => rfl
    | doubled hbrace =>
      have hc : c = '{' ∨ c = '}' := by simpa [isBrace] using hbrace
      rcases hc with rfl | rfl
      · exact absurd (Or.inl List.infix_rfl) hfront
      · exact absurd (Or.inr List.infix_rfl) hfront
    | escaped _ => exact absurd List.mem_cons_self hfront

theorem Template.Decodes.eq_of_not_hasEscape {mode : EscapeMode} {source cs ds : List Char}
    {t : Template} (h : Decodes mode source t cs ds)
    (hescape : ∀ l, .literal l ∈ t → ∀ text, l.span.slice? source = some text →
      ¬HasEscape mode text) : ds = cs := by
  induction h with
  | nil => rfl
  | literal hslice hdecode _ ih =>
    have hspells := Parser.decode_eq_some_iff.mp hdecode
    rw [hspells.eq_of_not_hasEscape (hescape _ List.mem_cons_self _ hslice),
      ih fun l hl ↦ hescape l (List.mem_cons_of_mem _ hl)]
  | placeholder _ _ ih => rw [ih fun l hl ↦ hescape l (List.mem_cons_of_mem _ hl)]

/-! ## Renders without arguments -/

/-- The error of a placeholder that found nothing at the front of its path. -/
def Placeholder.unfoundError (p : Placeholder) : ResolutionError where
  kind := .notFound
  placeholder := p.raw
  span := p.span
  selector := (p.selectors.map Selector.text).headD ""
  depth := 0
  resolved := []

namespace Renderer

variable {r : Renderer} {p : Placeholder}

theorem renderPlaceholder_without_arguments (inner : NestedRender) (hp : p.selectors ≠ []) :
    r.renderPlaceholder inner p [] = throw p.unfoundError := by
  obtain ⟨first, others, hselectors⟩ := List.exists_cons_of_ne_nil hp
  have hargument : Path.argument? [] first = none := by
    unfold Path.argument?
    split <;> rfl
  have hnowhere : r.resolve [] p.selectors = .error (Path.nowhere first) := by
    rw [hselectors, resolve, Path.resolve, Path.root, hargument]
    rfl
  rw [renderPlaceholder_of_error hnowhere, Placeholder.unfoundError, hselectors]
  rfl

theorem ownText_without_arguments (hp : p.selectors ≠ []) :
    r.ownText [] p = .error p.unfoundError := by
  rw [ownText, renderPlaceholder_without_arguments _ hp]
  rfl

/-- A literal is written, and a placeholder is recorded and kept. -/
theorem render_node_without_arguments (hkeep : r.settings.errorAction = .maintainTokens) {n : Node}
    (hn : ∀ p, n = .placeholder p → p.selectors ≠ []) :
    r.render [n] [] =
      ⟨.ok n.keptText, (Template.placeholders [n]).map Placeholder.unfoundError, false⟩ := by
  cases n with
  | literal l =>
    rw [render_eq, renderNodes_literal, renderNodes_nil]
    calc Outcome.ofRun ((RenderM.emit l.text).exec {})
      _ = ⟨.ok ("" ++ l.text), [], false⟩ := rfl
      _ = ⟨.ok l.text, [], false⟩ := by rw [String.empty_append]
  | placeholder p =>
    have hthrow := renderPlaceholder_without_arguments (r := r) (r.nested r.depth) (hn p rfl)
    have habort : r.settings.errorAction ≠ .abort := hkeep ▸ nofun
    have hraw : r.replacement p = p.raw := by rw [replacement, hkeep]
    rw [render_singleton, exec_renderPlaced, hthrow]
    calc Outcome.ofRun ((r.recover p p.unfoundError).exec {})
      _ = ⟨.ok ("" ++ p.raw), [p.unfoundError], false⟩ := by
          rw [exec_recover habort, hraw]
          rfl
      _ = ⟨.ok p.raw, [p.unfoundError], false⟩ := by rw [String.empty_append]

theorem render_without_arguments (hkeep : r.settings.errorAction = .maintainTokens) {t : Template}
    (ht : ∀ p, .placeholder p ∈ t → p.selectors ≠ []) :
    r.render t [] = ⟨.ok t.keptText, t.placeholders.map Placeholder.unfoundError, false⟩ := by
  induction t with
  | nil =>
    rw [render_eq, renderNodes_nil]
    rfl
  | cons n ns ih =>
    have hn : ∀ p, n = .placeholder p → p.selectors ≠ [] := fun p hp ↦
      ht p (hp ▸ List.mem_cons_self)
    have hns := ih fun p hp ↦ ht p (List.mem_cons_of_mem _ hp)
    have hplaceholders : Template.placeholders (n :: ns) =
        Template.placeholders [n] ++ Template.placeholders ns :=
      List.filterMap_append (l := [n])
    rw [← List.singleton_append, render_append, render_node_without_arguments hkeep hn, hns,
      List.singleton_append, Template.keptText_cons, hplaceholders, List.map_append]
    rfl

end Renderer

theorem Engine.formatTemplate_without_arguments {e : Engine}
    (hkeep : e.settings.errorAction = .maintainTokens) {t : Template}
    (ht : ∀ p, .placeholder p ∈ t → p.selectors ≠ []) :
    e.formatTemplate t [] = ⟨.ok t.keptText, match e.observer with
      | some name => t.placeholders.map fun p ↦ (name, p.unfoundError)
      | none => []⟩ := by
  rw [formatTemplate, Renderer.render_without_arguments hkeep ht]
  cases e.observer with
  | none => rfl
  | some name => exact congrArg (Answer.mk _) List.map_map

/-- **Kept tokens give the template back.** Let an engine, after any operations, keep the
placeholders that fail, and let it be asked for a text that is a template, without arguments. Then
every placeholder at the top level fails in front of its first selector, the observer is told of
these errors and of no others, in the order of the template, and the result is the text with its
top-level literals decoded. If there is no escape in these, the result is the text. -/
theorem Engine.format_without_arguments (settings : Settings) (sources : SourceChain)
    (ops : List Operation) {source : String} {t : Template} :
    let e := (withSources settings sources).after ops
    let mode := e.settings.escapeMode
    Template.parse mode source = .ok t → e.settings.errorAction = .maintainTokens →
      (∀ p, .placeholder p ∈ t → e.renderer.ownText [] p = .error p.unfoundError) ∧
      (∀ name, e.observer = some name → (e.format source []).1.observed =
        t.placeholders.map fun p ↦ (name, p.unfoundError)) ∧
      (∃ text, (e.format source []).1.result = .ok text ∧
        Template.Decodes mode source.toList t source.toList text.toList) ∧
      ((∀ l, .literal l ∈ t → ∀ text, l.span.slice? source.toList = some text →
          ¬HasEscape mode text) →
        (e.format source []).1.result = .ok source) := by
  intro e mode hparse hkeep
  have hfaithful : e.Faithful := Faithful.after (faithful_of_empty rfl) ops
  have hpath : ∀ p, .placeholder p ∈ t → p.selectors ≠ [] := fun p hp ↦
    ((Template.Contains.here hp).wellFormedPath hparse).ne_nil
  have hrender := formatTemplate_without_arguments hkeep hpath
  have hformat : (e.format source []).1 =
      ⟨(e.formatTemplate t []).result.mapError .unresolved, (e.formatTemplate t []).observed⟩ := by
    rw [format_eq hfaithful, hparse]
  have hresult : (e.format source []).1.result = .ok t.keptText := by
    rw [hformat, hrender]
    rfl
  have hdecodes := Template.decodes_of_parse hparse
  refine ⟨fun p hp ↦ Renderer.ownText_without_arguments (hpath p hp), fun name hname ↦ ?_,
    ⟨t.keptText, hresult, hdecodes⟩, fun hescape ↦ ?_⟩
  · rw [hformat, hrender, hname]
  · have hsource : t.keptText = source :=
      String.toList_injective (hdecodes.eq_of_not_hasEscape hescape)
    rw [hresult, hsource]

/-- A literal with an escape, or without one, and a placeholder with a width and a placeholder in its
format. -/
def Template.keptSample (text : String) (width : Nat) : Template :=
  let path : List Selector := [.ofText "a" ⟨width + 1, width + 2⟩ true]
  let inner : Placeholder :=
    ⟨[.ofText "c" ⟨width + 8, width + 9⟩ true], none, none, "\x7bc\x7d", ⟨width + 7, width + 10⟩⟩
  let format : Format :=
    .ofTemplate [.literal ⟨"\x7d", ⟨width + 5, width + 7⟩⟩, .placeholder inner] ⟨width + 5, width + 10⟩
  [.literal ⟨text, ⟨0, width⟩⟩,
    .placeholder ⟨path, some 5, some format, "\x7ba,5:\\\x7d\x7bc\x7d\x7d", ⟨width, width + 11⟩⟩]

/-- An escape outside of placeholders is decoded, and one inside of them is kept. -/
theorem Engine.format_without_arguments_keptSample :
    let ops : List Operation :=
      [.setEscapeMode .backslash, .setErrorAction .maintainTokens, .observe "log"]
    let e := (withSources {} []).after ops
    Template.parse e.settings.escapeMode "\\\x7b\x7ba,5:\\\x7d\x7bc\x7d\x7d" =
        .ok (Template.keptSample "\x7b" 2) ∧
      Template.parse e.settings.escapeMode "é\x7ba,5:\\\x7d\x7bc\x7d\x7d" =
        .ok (Template.keptSample "é" 2) ∧
      e.settings.errorAction = .maintainTokens ∧
      (∃ text, (e.format "\\\x7b\x7ba,5:\\\x7d\x7bc\x7d\x7d" []).1.result = .ok text ∧
        Template.Decodes .backslash "\\\x7b\x7ba,5:\\\x7d\x7bc\x7d\x7d".toList
          (Template.keptSample "\x7b" 2) "\\\x7b\x7ba,5:\\\x7d\x7bc\x7d\x7d".toList text.toList) ∧
      (e.format "é\x7ba,5:\\\x7d\x7bc\x7d\x7d" []).1.result =
        .ok "é\x7ba,5:\\\x7d\x7bc\x7d\x7d" ∧
      (e.format "é\x7ba,5:\\\x7d\x7bc\x7d\x7d" []).1.observed =
        [("log", ⟨.notFound, "\x7ba,5:\\\x7d\x7bc\x7d\x7d", ⟨2, 13⟩, "a", 0, []⟩)] := by
  intro ops e
  have hescaped : Template.parse .backslash "\\\x7b\x7ba,5:\\\x7d\x7bc\x7d\x7d" =
      .ok (Template.keptSample "\x7b" 2) := rfl
  have hplain : Template.parse .backslash "é\x7ba,5:\\\x7d\x7bc\x7d\x7d" =
      .ok (Template.keptSample "é" 2) := rfl
  obtain ⟨_, _, hdecoded, _⟩ := format_without_arguments {} [] ops hescaped rfl
  obtain ⟨_, hobserved, _, hresult⟩ := format_without_arguments {} [] ops hplain rfl
  refine ⟨hescaped, hplain, rfl, hdecoded, hresult ?_, hobserved "log" rfl⟩
  -- Its only literal is the letter in front.
  intro l hl text hslice hescape
  obtain rfl : l = ⟨"é", ⟨0, 2⟩⟩ := by
    rcases List.mem_cons.mp hl with hl | hl
    · exact Node.literal.inj hl
    · exact absurd (List.mem_singleton.mp hl) nofun
  obtain rfl : text = ['é'] := (Option.some.inj hslice).symm
  exact absurd (List.mem_singleton.mp hescape) (by decide)

end TextTemplate
