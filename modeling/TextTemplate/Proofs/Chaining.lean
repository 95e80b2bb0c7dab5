import TextTemplate.Proofs.ChainedPaths
import TextTemplate.Proofs.Depth

/-!
# Nested placeholders and chained paths

A placeholder in the specifier of another one starts from the value of the outer one, so nesting
them says the same as chaining their paths. The widths and formats belong to the inner placeholder
in the one form and to the only placeholder in the other.

## The comparison

An outer placeholder that does nothing but hold an inner one renders as the inner one does against
its value, one level deeper; this is so for every action on errors. What is left is to compare the
inner placeholder with the chained one, each at the top of a template. They lead to the same value
by `Path.resolve_pathOf_append`, and the same value is rendered under the same format on behalf of
both. So their errors can differ in the placeholder that they name only, unless they come from
inside of the format and are the same.
-/

namespace TextTemplate

/-! ## A path in two placeholders -/

/-- A placeholder whose path is chained of two, and two placeholders with a part of the path each,
the inner one of which is the whole specifier of the outer one. -/
structure Placeholder.Splits (p q : List String) (chained outer inner : Placeholder) : Prop where
  chained_path : chained.selectors.map Selector.content = Selector.pathOf (p ++ q)
  outer_path : outer.selectors.map Selector.content = Selector.pathOf p
  inner_path : inner.selectors.map Selector.content = Selector.pathOf q
  outer_ne_nil : p ≠ []
  inner_ne_nil : q ≠ []
  inner_ne_zero : ∀ text ∈ q.head?, Selector.integer? text ≠ some 0
  alignment : inner.alignment = chained.alignment
  format : inner.format = chained.format
  outer_alignment : outer.alignment = none
  outer_format : ∃ span, outer.format = some (.ofTemplate [.placeholder inner] span)

namespace Renderer

/-- How an error of the nested form and one of the chained form go together: a part of the path
leads nowhere, a formatter refuses the value, or the error comes from inside of the format. The
number is what the nested form lacks in depth. -/
inductive SplitError (r : Renderer) (args : List Value) (chained outer inner : Placeholder) :
    Nat → ResolutionError → ResolutionError → Prop
  | front {f : PathFailure} : r.resolve args outer.selectors = .error f →
      SplitError r args chained outer inner 0 (outer.pathError f) (chained.pathError f)
  | back {t : Trail} {f : PathFailure} : r.resolve args outer.selectors = .ok t →
      r.resolve [t.current] inner.selectors = .error f →
      SplitError r args chained outer inner outer.selectors.length (inner.pathError f)
        (chained.pathError (f.behind t))
  | formatter {t u : Trail} {name message : String} : r.resolve args outer.selectors = .ok t →
      r.resolve [t.current] inner.selectors = .ok u →
      SplitError r args chained outer inner outer.selectors.length
        (inner.formatterError u name message) (chained.formatterError (u.behind t) name message)
  | within {t u : Trail} {e : ResolutionError} : r.resolve args outer.selectors = .ok t →
      r.resolve [t.current] inner.selectors = .ok u → SplitError r args chained outer inner 0 e e

/-! ## Templates of one placeholder -/

variable {r : Renderer} {args : List Value}

theorem renderNodes_singleton (inner : NestedRender) (p : Placeholder) :
    r.renderNodes inner [.placeholder p] args = r.renderPlaced inner args p := by
  rw [renderNodes_placeholder, renderNodes_nil]
  exact bind_pure_unit

theorem render_singleton (p : Placeholder) :
    r.render [.placeholder p] args =
      .ofRun ((r.renderPlaced (r.nested r.depth) args p).exec {}) := by
  rw [render_eq, renderNodes_singleton]

theorem renderPlaceholder_of_error {inner : NestedRender} {p : Placeholder} {f : PathFailure}
    (h : r.resolve args p.selectors = .error f) :
    r.renderPlaceholder inner p args = throw (p.pathError f) := by
  rw [renderPlaceholder, h]

theorem renderPlaceholder_of_ok {inner : NestedRender} {p : Placeholder} {t : Trail}
    (h : r.resolve args p.selectors = .ok t) :
    r.renderPlaceholder inner p args =
      r.renderFormat inner (p.formatterError t) t.current p.format := by
  rw [renderPlaceholder, h]

/-- Putting a result into the output neither makes nor takes back a cut. -/
theorem cut_place (p : Placeholder) (result : Except ResolutionError String) (out : Output) :
    ((r.place p result).exec out).2.cut = out.cut := by
  cases result with
  | ok text => rfl
  | error e =>
    rw [place, recover]
    split <;> rfl

theorem result_append {out : Output} (hout : out.text = "") (text : String) :
    (Outcome.ofRun (.ok (), out.append text)).result = .ok text := by
  rw [Outcome.ofRun, Output.append, hout, String.empty_append]
  rfl

/-- A renderer that aborts gives the text of the placeholder, or its error. -/
theorem result_place_of_abort (h : r.settings.errorAction = .abort) (p : Placeholder)
    (result : Except ResolutionError String) {out : Output} (hout : out.text = "") :
    (Outcome.ofRun ((r.place p result).exec out)).result = result.map (align · p.alignment) := by
  cases result with
  | ok text => exact result_append hout _
  | error e =>
    rw [place, recover_of_abort h]
    rfl

/-- The text that is substituted for a result. -/
def textOr (token : String) (width : Option Int32) : Except ResolutionError String → String
  | .ok text => align text width
  | .error _ => token

/-- A renderer that substitutes gives the text of the placeholder, or its token. -/
theorem result_place_of_substitute (h : r.settings.errorAction = .substitute) (p : Placeholder)
    (result : Except ResolutionError String) {out : Output} (hout : out.text = "") :
    (Outcome.ofRun ((r.place p result).exec out)).result =
      .ok (textOr r.settings.fallbackToken p.alignment result) := by
  cases result with
  | ok text => exact result_append hout _
  | error e =>
    have hrecover : (r.place p (.error e)).exec out =
        (.ok (), (out.recovering e).append r.settings.fallbackToken) := by
      rw [place, recover, h]
      rfl
    rw [hrecover]
    exact result_append hout _

/-! ## The outer placeholder -/

/-- A specifier that is a placeholder is rendered against the value. -/
theorem renderFormat_placeholder (inner : NestedRender)
    (fail : String → String → ResolutionError) (v : Value) (p : Placeholder) (span : Span) :
    r.renderFormat inner fail v (some (.ofTemplate [.placeholder p] span)) =
      inner [.placeholder p] v := rfl

/-- What an aborted or a lenient render of its own leaves to be put in place is what it left. -/
theorem ofRun_place_execAlone {act : RenderM Unit} {p : Placeholder} (hp : p.alignment = none)
    (hact : r.settings.errorAction = .abort ∨ (act.exec {}).1 = .ok ()) :
    Outcome.ofRun ((r.place p (act.execAlone {}).1).exec (act.execAlone {}).2) =
      .ofRun (act.exec {}) := by
  rw [RenderM.execAlone]
  have hstart : Output.withText {} "" = {} := rfl
  rw [hstart]
  generalize act.exec {} = last at hact ⊢
  obtain ⟨result, out⟩ := last
  cases result with
  | ok u =>
    -- Without a width the text is put back as it was taken out.
    have htext : "" ++ align out.text p.alignment = out.text := by
      rw [hp, String.empty_append]
      rfl
    have hrun : (r.place p (.ok out.text)).exec (out.withText "") = (.ok (), out) := by
      rw [place, RenderM.exec_emit, Output.append, Output.withText, htext]
    exact congrArg Outcome.ofRun hrun
  | error e =>
    rcases hact with haborts | hok
    · have hthrow : r.place p (.error e) = throw e := recover_of_abort haborts p e
      exact congrArg (fun act : RenderM Unit ↦ Outcome.ofRun (act.exec (out.withText ""))) hthrow
    · cases hok

section

variable {outer inner : Placeholder} {t : Trail}

/-- An outer placeholder renders as the inner one does against its value, one level deeper. -/
theorem render_outer {d : Nat} (hdepth : r.depth = d + 1) (halignment : outer.alignment = none)
    (hformat : ∃ span, outer.format = some (.ofTemplate [.placeholder inner] span))
    (ht : r.resolve args outer.selectors = .ok t) :
    r.render [.placeholder outer] args =
      .ofRun ((r.renderPlaced (r.nested d) [t.current] inner).exec {}) := by
  obtain ⟨span, hformat⟩ := hformat
  have hplaceholder : r.renderPlaceholder (r.nested (d + 1)) outer args =
      r.renderPlaced (r.nested d) [t.current] inner := by
    rw [renderPlaceholder_of_ok ht, hformat, renderFormat_placeholder, nested,
      renderNodes_singleton]
  rw [render_singleton, exec_renderPlaced, hdepth, hplaceholder]
  refine ofRun_place_execAlone halignment ?_
  by_cases haction : r.settings.errorAction = .abort
  · exact Or.inl haction
  · rw [← renderNodes_singleton]
    exact Or.inr (exec_renderNodes_of_ne_abort haction (r.nested d) _ [t.current] {})

theorem cut_render_outer (hdepth : r.depth = 0)
    (hformat : ∃ span, outer.format = some (.ofTemplate [.placeholder inner] span))
    (ht : r.resolve args outer.selectors = .ok t) :
    (r.render [.placeholder outer] args).cut = true := by
  obtain ⟨span, hformat⟩ := hformat
  have hplaceholder : r.renderPlaceholder (r.nested 0) outer args = RenderM.leaveOut := by
    rw [renderPlaceholder_of_ok ht, hformat, renderFormat_placeholder, nested]
  rw [render_singleton, exec_renderPlaced, hdepth, hplaceholder]
  exact cut_place outer _ _

end

/-! ## The comparison -/

section

variable {p q : List String} {chained outer inner : Placeholder}

theorem SplitError.matches {n : Nat} {e e' : ResolutionError}
    (he : SplitError r args chained outer inner n e e') :
    e'.kind = e.kind ∧ e'.selector = e.selector ∧ e'.depth = n + e.depth := by
  have hdepth : ∀ {t}, r.resolve args outer.selectors = .ok t →
      t.depth = outer.selectors.length := by
    intro t ht
    have hcovers := covers_of_resolve r.sources.failIn_any outer.selectors args
    rw [ht] at hcovers
    exact hcovers.2
  cases he with
  | front _ => exact ⟨rfl, rfl, (Nat.zero_add _).symm⟩
  | back ht _ => exact ⟨rfl, rfl, congrArg (· + _) (hdepth ht)⟩
  | formatter ht _ => exact ⟨rfl, rfl, congrArg (· + _) (hdepth ht)⟩
  | within _ _ => exact ⟨rfl, rfl, (Nat.zero_add _).symm⟩

/-- The chained path is followed by following the two parts. -/
theorem resolve_of_splits (h : Placeholder.Splits p q chained outer inner)
    (hsources : r.sources.IgnoresSpans) :
    r.resolve args chained.selectors = (do
      let t ← r.resolve args outer.selectors
      Path.behind t (r.resolve [t.current] inner.selectors)) := by
  have hcontent : ∀ args selectors, r.resolve args selectors =
      r.resolve args (selectors.map Selector.content) := fun args selectors ↦
    (Path.resolve_content hsources args selectors).symm
  have hinner : ∀ v, r.resolve [v] inner.selectors = r.resolve [v] (Selector.pathOf q) := by
    intro v
    rw [hcontent, h.inner_path]
  rw [hcontent args chained.selectors, hcontent args outer.selectors, h.chained_path, h.outer_path]
  simp only [hinner]
  exact Path.resolve_pathOf_append args h.outer_ne_nil h.inner_ne_nil h.inner_ne_zero

/-- On behalf of both placeholders, the same value is rendered under the same format. -/
theorem follows_of_splits (h : Placeholder.Splits p q chained outer inner) {t u : Trail}
    (ht : r.resolve args outer.selectors = .ok t)
    (hu : r.resolve [t.current] inner.selectors = .ok u) (d : Nat) :
    RenderM.Follows (fun e e' ↦ ∃ n, SplitError r args chained outer inner n e e') Unit
      (r.renderFormat (r.nested d) (inner.formatterError u) u.current inner.format)
      (r.renderFormat (r.nested (d + 1)) (chained.formatterError (u.behind t)) u.current
        chained.format) := by
  rw [h.format]
  refine follows_renderFormat (fun e ↦ ⟨0, .within ht hu⟩) rfl ?_ ?_ u.current chained.format
  · exact follows_nested r.depth (Nat.le_succ d)
  · exact fun name message ↦ ⟨_, .formatter ht hu⟩

/-- What the nested form puts in place of the inner placeholder is like what the chained form puts
in place. -/
theorem alike_of_splits (h : Placeholder.Splits p q chained outer inner)
    (hsources : r.sources.IgnoresSpans) (haction : r.settings.errorAction ≠ .maintainTokens)
    (hcut : (r.render [.placeholder outer] args).cut = false) :
    ∃ last : Except ResolutionError String × Output, last.2.text = "" ∧
      r.render [.placeholder outer] args = .ofRun ((r.place inner last.1).exec last.2) ∧
      ResultsAlike (fun e e' ↦ ∃ n, SplitError r args chained outer inner n e e') last.1
        ((r.renderPlaceholder (r.nested r.depth) chained args).execAlone {}).1 := by
  have hresolve : r.resolve args chained.selectors = _ := resolve_of_splits h hsources
  cases hfront : r.resolve args outer.selectors with
  | error f =>
    rw [hfront] at hresolve
    -- The inner placeholder is not reached, and neither action looks at which one failed.
    have hplace : r.place outer (.error (outer.pathError f)) =
        r.place inner (.error (outer.pathError f)) := by
      rw [place, place, recover, recover]
      split
      · rfl
      · rfl
      · exact absurd ‹_› haction
    refine ⟨(.error (outer.pathError f), {}), rfl, ?_, ?_⟩
    · rw [render_singleton, exec_renderPlaced, renderPlaceholder_of_error hfront, ← hplace]
      rfl
    · rw [renderPlaceholder_of_error hresolve]
      exact .error ⟨0, .front hfront⟩
  | ok t =>
    rw [hfront] at hresolve
    cases hdepth : r.depth with
    | zero =>
      have hleft := cut_render_outer hdepth h.outer_format hfront
      exact absurd hleft (Bool.eq_false_iff.mp hcut)
    | succ d =>
      -- What stands inside of the format has one level less left in the nested form.
      have houter := render_outer hdepth h.outer_alignment h.outer_format hfront
      rw [exec_renderPlaced] at houter
      refine ⟨(r.renderPlaceholder (r.nested d) inner [t.current]).execAlone {}, rfl, houter, ?_⟩
      cases hback : r.resolve [t.current] inner.selectors with
      | error f =>
        have hchained : r.resolve args chained.selectors = .error (f.behind t) := by
          rw [hresolve]
          exact congrArg (Path.behind t) hback
        rw [renderPlaceholder_of_error hback, renderPlaceholder_of_error hchained]
        exact .error ⟨_, .back hfront hback⟩
      | ok u =>
        have hchained : r.resolve args chained.selectors = .ok (u.behind t) := by
          rw [hresolve]
          exact congrArg (Path.behind t) hback
        rw [houter, Outcome.ofRun, cut_place] at hcut
        rw [renderPlaceholder_of_ok hback] at hcut ⊢
        rw [renderPlaceholder_of_ok hchained]
        exact ((follows_of_splits h hfront hback d).execAlone hcut).alike

/-- Where a token is put in place of errors, both forms come to the same text. -/
theorem results_of_substitute (h : Placeholder.Splits p q chained outer inner)
    (hsources : r.sources.IgnoresSpans) (haction : r.settings.errorAction = .substitute)
    (hcut : (r.render [.placeholder outer] args).cut = false) :
    ∃ text, (r.render [.placeholder outer] args).result = .ok text ∧
      (r.render [.placeholder chained] args).result = .ok text := by
  have hkeeps : r.settings.errorAction ≠ .maintainTokens := by
    rw [haction]
    exact nofun
  obtain ⟨last, htext, houter, halike⟩ := alike_of_splits h hsources hkeeps hcut
  rw [houter, render_singleton, exec_renderPlaced, result_place_of_substitute haction inner _ htext,
    result_place_of_substitute haction chained _ rfl, h.alignment]
  refine ⟨_, rfl, congrArg Except.ok ?_⟩
  generalize last.1 = result at halike ⊢
  generalize (RenderM.execAlone _ {}).1 = result' at halike ⊢
  cases halike with
  | ok text => rfl
  | error _ => rfl

/-- Where errors abort, both forms come to the same text, or to errors that go together. -/
theorem results_of_abort (h : Placeholder.Splits p q chained outer inner)
    (hsources : r.sources.IgnoresSpans) (haction : r.settings.errorAction = .abort)
    (hcut : (r.render [.placeholder outer] args).cut = false) :
    (∃ text, (r.render [.placeholder outer] args).result = .ok text ∧
        (r.render [.placeholder chained] args).result = .ok text) ∨
      ∃ n e e', (r.render [.placeholder outer] args).result = .error e ∧
        (r.render [.placeholder chained] args).result = .error e' ∧
        SplitError r args chained outer inner n e e' := by
  have hkeeps : r.settings.errorAction ≠ .maintainTokens := by
    rw [haction]
    exact nofun
  obtain ⟨last, htext, houter, halike⟩ := alike_of_splits h hsources hkeeps hcut
  rw [houter, render_singleton, exec_renderPlaced, result_place_of_abort haction inner _ htext,
    result_place_of_abort haction chained _ rfl, h.alignment]
  generalize last.1 = result at halike ⊢
  generalize (RenderM.execAlone _ {}).1 = result' at halike ⊢
  cases halike with
  | ok text => exact Or.inl ⟨_, rfl, rfl⟩
  | error he =>
    obtain ⟨n, he⟩ := he
    exact Or.inr ⟨n, _, _, rfl, rfl, he⟩

/-- The action on errors has no part in where a path leads. -/
theorem SplitError.of_acting {action : ErrorAction} {token : String} {n : Nat}
    {e e' : ResolutionError}
    (h : SplitError (r.acting action token) args chained outer inner n e e') :
    SplitError r args chained outer inner n e e' := by
  cases h with
  | front hf => exact .front hf
  | back hv hf => exact .back hv hf
  | formatter hv hw => exact .formatter hv hw
  | within hv hw => exact .within hv hw

/-- **Nested equals chained.** A placeholder whose path is chained of two, and a placeholder with
the first part whose specifier is a placeholder with the second, are rendered by the same renderer,
with room for the nested form. If errors are substituted, both forms give the same text. If the
render aborts, both give the same text, or both give an error of the same kind at the same selector:
an error within the format is the same error, and one behind the first part of the path is less deep
in the nested form, by the length of that part. -/
theorem render_chained (r : Renderer) (hsources : r.sources.IgnoresSpans)
    (h : Placeholder.Splits p q chained outer inner) (token : String) (args : List Value) :
    let substitute t := (r.acting .substitute token).render t args
    let abort t := (r.acting .abort token).render t args
    ((substitute [.placeholder outer]).cut = false → ∃ text,
      (substitute [.placeholder outer]).result = .ok text ∧
        (substitute [.placeholder chained]).result = .ok text) ∧
    ((abort [.placeholder outer]).cut = false →
      (∃ text, (abort [.placeholder outer]).result = .ok text ∧
        (abort [.placeholder chained]).result = .ok text) ∨
      ∃ n e e', (abort [.placeholder outer]).result = .error e ∧
        (abort [.placeholder chained]).result = .error e' ∧
        SplitError r args chained outer inner n e e' ∧
        e'.kind = e.kind ∧ e'.selector = e.selector ∧ e'.depth = n + e.depth) := by
  intro substitute abort
  constructor
  · have hsubstitute : (r.acting .substitute token).settings.errorAction = .substitute := rfl
    have hignores : (r.acting .substitute token).sources.IgnoresSpans := hsources
    exact results_of_substitute h hignores hsubstitute
  · intro hcut
    have habort : (r.acting .abort token).settings.errorAction = .abort := rfl
    have hignores : (r.acting .abort token).sources.IgnoresSpans := hsources
    rcases results_of_abort h hignores habort hcut with hok | ⟨n, e, e', he, he', hsplit⟩
    · exact Or.inl hok
    · exact Or.inr ⟨n, e, e', he, he', hsplit.of_acting, hsplit.matches⟩

end

/-! ## A sample -/

/-- The second item of a list, at a path of two segments. -/
def chainedSample : Placeholder :=
  ⟨[.ofText "user" ⟨1, 5⟩ true, .ofText "1" ⟨6, 7⟩ false], some 5, none, "\x7buser.1,5\x7d",
    ⟨0, 10⟩⟩

/-- The second item of a list, where the number might be the index of an argument. -/
def innerSample : Placeholder := ⟨[.ofText "1" ⟨7, 8⟩ true], some 5, none, "\x7b1,5\x7d", ⟨6, 11⟩⟩

/-- A list, with a placeholder for its item. -/
def outerSample : Placeholder :=
  ⟨[.ofText "user" ⟨1, 5⟩ true], none, some (.ofTemplate [.placeholder innerSample] ⟨6, 11⟩),
    "\x7buser:\x7b1,5\x7d\x7d", ⟨0, 12⟩⟩

theorem splits_sample :
    Placeholder.Splits ["user"] ["1"] chainedSample outerSample innerSample where
  chained_path := rfl
  outer_path := rfl
  inner_path := rfl
  outer_ne_nil := List.cons_ne_nil _ _
  inner_ne_nil := List.cons_ne_nil _ _
  inner_ne_zero := by
    intro text htext
    cases htext
    decide
  alignment := rfl
  format := rfl
  outer_alignment := rfl
  outer_format := ⟨_, rfl⟩

/-- Both forms are read from their texts, and both fail at the number, which is out of range. -/
theorem render_chained_sample :
    let abort t := (stocked.acting .abort "").render t [.map ⟨[(.str "user", .list [.str "x"])]⟩]
    let e : ResolutionError := ⟨.indexOutOfRange 1 1, "\x7b1,5\x7d", ⟨6, 11⟩, "1", 0, []⟩
    let e' : ResolutionError :=
      ⟨.indexOutOfRange 1 1, "\x7buser.1,5\x7d", ⟨0, 10⟩, "1", 1, ["user"]⟩
    Template.parse .backslash "\x7buser:\x7b1,5\x7d\x7d" = .ok [.placeholder outerSample] ∧
      Template.parse .backslash "\x7buser.1,5\x7d" = .ok [.placeholder chainedSample] ∧
      stocked.sources.IgnoresSpans ∧
      Placeholder.Splits ["user"] ["1"] chainedSample outerSample innerSample ∧
      (abort [.placeholder outerSample]).cut = false ∧
      (abort [.placeholder outerSample]).result = .error e ∧
      (abort [.placeholder chainedSample]).result = .error e' ∧
      ∃ n, SplitError stocked [.map ⟨[(.str "user", .list [.str "x"])]⟩] chainedSample outerSample
        innerSample n e e' ∧ e'.depth = n + e.depth := by
  intro abort e e'
  have hsources : stocked.sources.IgnoresSpans := SourceChain.ignoresSpans_builtin
  have hcut : (abort [.placeholder outerSample]).cut = false := rfl
  have hnested : (abort [.placeholder outerSample]).result = .error e := rfl
  have hchained : (abort [.placeholder chainedSample]).result = .error e' := rfl
  refine ⟨rfl, rfl, hsources, splits_sample, hcut, hnested, hchained, ?_⟩
  rcases (render_chained stocked hsources splits_sample "" _).2 hcut with
    ⟨text, htext, _⟩ | ⟨n, d, d', hd, hd', hsplit, _, _, hdepth⟩
  · exact absurd (hnested.symm.trans htext) nofun
  · obtain rfl := Except.error.inj (hnested.symm.trans hd)
    obtain rfl := Except.error.inj (hchained.symm.trans hd')
    exact ⟨n, hsplit, hdepth⟩

end Renderer

end TextTemplate
