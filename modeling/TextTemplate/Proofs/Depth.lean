import TextTemplate.Proofs.ErrorActions
import TextTemplate.Proofs.Relating

/-!
# How deep a render is nested

A renderer nests renders up to a depth that is its own, and leaves out what would be deeper. Where
nothing was left out the depth has no part in the outcome: a renderer that is allowed to go deeper
gives the same. So an outcome that is not cut is one that every machine with enough room gives.

## Following a run

The comparison is between a run and another one that may go deeper. It has to bear with runs that do
leave something out, because a run is not known to be uncut before its end. The mark of a cut is
never taken back, so a run without it at its end had none on its way. `RenderM.Follows` says this
together with the comparison, which is then closed under sequencing. Errors are compared up to a
relation, since the same value may be rendered on behalf of different placeholders.
-/

namespace TextTemplate

/-! ## Runs that are not cut -/

/-- Two results that are alike, where errors are alike if the relation holds of them. -/
inductive ResultsAlike {ε α : Type} (E : ε → ε → Prop) : Except ε α → Except ε α → Prop
  | ok (a : α) : ResultsAlike E (.ok a) (.ok a)
  | error {e e' : ε} : E e e' → ResultsAlike E (.error e) (.error e')

namespace ResultsAlike

variable {ε α β : Type} {E : ε → ε → Prop} {result result' : Except ε α}

theorem refl (hE : ∀ e, E e e) (result : Except ε α) : ResultsAlike E result result := by
  cases result with
  | ok a => exact .ok a
  | error e => exact .error (hE e)

theorem map (h : ResultsAlike E result result') (f : α → β) :
    ResultsAlike E (result.map f) (result'.map f) := by
  cases h with
  | ok a => exact .ok (f a)
  | error he => exact .error he

theorem eq (h : ResultsAlike Eq result result') : result' = result := by
  cases h with
  | ok a => rfl
  | error he => rw [he]

end ResultsAlike

/-- A run in which nothing was left out, and one that leaves the same output with a result that is
alike. -/
structure Continues {α : Type} (E : ResolutionError → ResolutionError → Prop) (out : Output)
    (last last' : Except ResolutionError α × Output) : Prop where
  uncut : out.cut = false
  output : last'.2 = last.2
  alike : ResultsAlike E last.1 last'.1

/-- The second render does what the first one does, wherever nothing is left out of the first. -/
def RenderM.Follows (E : ResolutionError → ResolutionError → Prop) (α : Type)
    (act act' : RenderM α) : Prop :=
  ∀ out, (act.exec out).2.cut = false → Continues E out (act.exec out) (act'.exec out)

namespace RenderM

variable {E : ResolutionError → ResolutionError → Prop} {α : Type}

theorem follows_throw {e e' : ResolutionError} (he : E e e') :
    Follows E α (throw e) (throw e') := fun _ hcut ↦ ⟨hcut, rfl, .error he⟩

theorem follows_emit (text : String) : Follows E Unit (emit text) (emit text) := fun _ hcut ↦
  ⟨hcut, rfl, .ok ()⟩

theorem follows_record (e : ResolutionError) : Follows E Unit (record e) (record e) := fun _ hcut ↦
  ⟨hcut, rfl, .ok ()⟩

/-- A render that is left out may be anything. -/
theorem leaveOut_follows (act : RenderM Unit) : Follows E Unit leaveOut act := fun _ hcut ↦
  absurd hcut nofun

theorem sequential_follows : Sequential (Follows E) where
  pure a := fun _ hcut ↦ ⟨hcut, rfl, .ok a⟩
  bind {α β act act' f f'} h hf := by
    intro out hcut
    rw [exec_bind] at hcut ⊢
    rw [exec_bind]
    have hact := h out
    generalize act.exec out = last at hcut hact ⊢
    generalize act'.exec out = last' at hact ⊢
    obtain ⟨result, next⟩ := last
    obtain ⟨result', next'⟩ := last'
    cases result with
    | ok a =>
      -- There is no cut at the end, so there was none in the middle.
      have hrest := hf a next hcut
      obtain ⟨huncut, rfl, halike⟩ := hact hrest.uncut
      cases halike with
      | ok => exact ⟨huncut, hrest.output, hrest.alike⟩
    | error e =>
      obtain ⟨huncut, rfl, halike⟩ := hact hcut
      cases halike with
      | error he => exact ⟨huncut, rfl, .error he⟩

theorem Follows.execAlone {act act' : RenderM Unit} (h : Follows E Unit act act') {out : Output}
    (hcut : (act.execAlone out).2.cut = false) :
    Continues E out (act.execAlone out) (act'.execAlone out) := by
  obtain ⟨huncut, houtput, halike⟩ := h (out.withText "") hcut
  rw [RenderM.execAlone, RenderM.execAlone, houtput]
  exact ⟨huncut, rfl, halike.map _⟩

theorem Follows.isolated {act act' : RenderM Unit} (h : Follows Eq Unit act act') :
    Follows Eq (Except ResolutionError String) (ExceptT.lift (isolated act))
      (ExceptT.lift (isolated act')) := by
  intro out hcut
  rw [exec_isolated] at hcut ⊢
  rw [exec_isolated]
  obtain ⟨huncut, houtput, halike⟩ := h.execAlone hcut
  rw [halike.eq]
  exact ⟨huncut, houtput, .ok _⟩

end RenderM

/-! ## Formatters -/

/-- The second way to render what is nested follows the first. -/
def NestedRender.Follows (inner inner' : NestedRender) : Prop :=
  ∀ t v, RenderM.Follows Eq Unit (inner t v) (inner' t v)

/-- A script learns of the results of what it has rendered, which are equal. -/
theorem Script.exec_of_follows {α : Type} {inner inner' : NestedRender}
    (hinner : inner.Follows inner') (s : Script α) {out : Output}
    (hcut : (s.exec inner out).2.cut = false) :
    out.cut = false ∧ s.exec inner' out = s.exec inner out := by
  induction s generalizing out with
  | done a => exact ⟨hcut, rfl⟩
  | write text next ih => exact ih hcut
  | render t v next ih =>
    rw [exec_render] at hcut ⊢
    rw [exec_render]
    obtain ⟨hnext, hrest⟩ := ih _ hcut
    have hrun := hinner t v out hnext
    rw [hrun.output, hrun.alike.eq, hrest]
    exact ⟨hrun.uncut, rfl⟩
  | renderText t v next ih =>
    rw [exec_renderText] at hcut ⊢
    rw [exec_renderText]
    obtain ⟨hnext, hrest⟩ := ih _ hcut
    have hrun := (hinner t v).execAlone hnext
    rw [hrun.output, hrun.alike.eq, hrest]
    exact ⟨hrun.uncut, rfl⟩

theorem Formatter.follows_run {E : ResolutionError → ResolutionError → Prop} (hE : ∀ e, E e e)
    {inner inner' : NestedRender} (hinner : inner.Follows inner') (f : Formatter)
    {fail fail' : String → ResolutionError} (hfail : ∀ message, E (fail message) (fail' message))
    (call : FormatCall) :
    RenderM.Follows E Bool (f.run fail call inner) (f.run fail' call inner') := by
  intro out hcut
  rw [Formatter.exec_run] at hcut ⊢
  rw [Formatter.exec_run]
  obtain ⟨huncut, hscript⟩ := Script.exec_of_follows hinner (f call).run hcut
  rw [hscript]
  refine ⟨huncut, rfl, ?_⟩
  cases ((f call).run.exec inner out).1 with
  | ok taken => exact .ok taken
  | error e =>
    cases e with
    | failed message => exact .error (hfail message)
    | render e => exact .error (hE e)

/-! ## Renderers -/

namespace Renderer

variable {r r' : Renderer} {inner inner' : NestedRender}

theorem follows_renderFormat {E : ResolutionError → ResolutionError → Prop} (hE : ∀ e, E e e)
    (hr : r'.formatters = r.formatters) (hinner : inner.Follows inner')
    {fail fail' : String → String → ResolutionError}
    (hfail : ∀ name message, E (fail name message) (fail' name message)) (v : Value)
    (format : Option Format) :
    RenderM.Follows E Unit (r.renderFormat inner fail v format)
      (r'.renderFormat inner' fail' v format) := by
  refine renderFormat_related RenderM.sequential_follows hr ?_ ?_ ?_
  · exact fun _ head g _ _ _ ↦ Formatter.follows_run hE hinner g (hfail head.name) _
  · exact Formatter.follows_run hE hinner r.formatters.default (hfail "default") _
  · intro f _ out hcut
    obtain ⟨huncut, houtput, halike⟩ := hinner f.template v out hcut
    refine ⟨huncut, houtput, ?_⟩
    rw [halike.eq]
    exact .refl hE _

theorem follows_place (p : Placeholder) (result : Except ResolutionError String) :
    RenderM.Follows Eq Unit (r.place p result) (r.place p result) := by
  have hrecover : ∀ e text, RenderM.Follows Eq Unit
      (do RenderM.record e; RenderM.emit text) (do RenderM.record e; RenderM.emit text) :=
    fun e text ↦ RenderM.sequential_follows.bind (RenderM.follows_record e) fun _ ↦
      RenderM.follows_emit text
  cases result with
  | ok text => exact RenderM.follows_emit _
  | error e =>
    rw [place, recover]
    split
    · exact RenderM.follows_throw rfl
    · exact hrecover e _
    · exact hrecover e _

/-- The same renderer with another depth. -/
def withDepth (r : Renderer) (depth : Nat) : Renderer := { r with depth }

theorem follows_renderNodes (depth : Nat) (hinner : inner.Follows inner') (ns : List Node)
    (args : List Value) :
    RenderM.Follows Eq Unit (r.renderNodes inner ns args)
      ((r.withDepth depth).renderNodes inner' ns args) := by
  refine renderNodes_related RenderM.sequential_follows RenderM.follows_emit fun p _ ↦ ?_
  have hplaceholder : RenderM.Follows Eq Unit (r.renderPlaceholder inner p args)
      ((r.withDepth depth).renderPlaceholder inner' p args) := by
    have hresolve : (r.withDepth depth).resolve args p.selectors = r.resolve args p.selectors := rfl
    rw [renderPlaceholder, renderPlaceholder, hresolve]
    cases r.resolve args p.selectors with
    | error f => exact RenderM.follows_throw rfl
    | ok t =>
      exact follows_renderFormat (fun _ ↦ rfl) rfl hinner (fun _ _ ↦ rfl) t.current p.format
  refine RenderM.sequential_follows.bind hplaceholder.isolated fun result ↦ ?_
  have hplace : (r.withDepth depth).place p result = r.place p result := by
    cases result with
    | ok text => rfl
    | error e => rfl
  rw [hplace]
  exact follows_place p result

theorem follows_nested (depth : Nat) {n m : Nat} (hnm : n ≤ m) :
    (r.nested n).Follows ((r.withDepth depth).nested m) := by
  induction n generalizing m with
  | zero => exact fun _ _ ↦ RenderM.leaveOut_follows _
  | succ n ih =>
    obtain ⟨m, rfl⟩ := Nat.exists_eq_add_of_le' (Nat.le_trans n.succ_pos hnm)
    exact fun t v ↦ follows_renderNodes depth (ih (Nat.le_of_succ_le_succ hnm)) t [v]

/-- **The depth has no part in an outcome that is not cut.** A renderer that may go deeper gives the
same. -/
theorem render_withDepth {depth : Nat} (hdepth : r.depth ≤ depth) {t : Template}
    {args : List Value} (hcut : (r.render t args).cut = false) :
    (r.withDepth depth).render t args = r.render t args := by
  have hnested : (r.nested r.depth).Follows ((r.withDepth depth).nested depth) :=
    follows_nested depth hdepth
  obtain ⟨_, houtput, halike⟩ := follows_renderNodes depth hnested t args {} hcut
  have hrun := Prod.ext halike.eq houtput
  rw [render_eq, render_eq]
  exact congrArg Outcome.ofRun hrun

end Renderer

end TextTemplate
