import TextTemplate.Proofs.FormatterErrors
import TextTemplate.Proofs.Relating

/-!
# Aborting and recovering

The same template is rendered twice, once by a *strict* renderer, which gives up at the first error,
and once by a *lenient* one, which recovers from every error and records it. The strict run gives
the text of the lenient one where nothing was recorded, and the first recorded error otherwise.

## The coupling

Up to the first error the two runs are equal, output and all. Behind it they have nothing in common:
the lenient run goes on, while in the strict one the error travels outwards. All that is kept of the
lenient run from then on is that it takes back no record, and all that is kept of the strict run is
that the error reaches the caller. Formatters are on its way, and this is where they are asked to
hand errors back.
-/

namespace TextTemplate

/-! ## What a run does to the records -/

/-- A run that leaves the records alone. -/
def RenderM.Quiet {α : Type} (act : RenderM α) : Prop :=
  ∀ out, (act.exec out).2.recovered = out.recovered

/-- A run that only adds to the records. -/
def RenderM.Adds {α : Type} (act : RenderM α) : Prop :=
  ∀ out, ∃ new, (act.exec out).2.recovered = out.recovered ++ new

theorem RenderM.Quiet.execAlone {act : RenderM Unit} (h : act.Quiet) (out : Output) :
    (act.execAlone out).2.recovered = out.recovered := h (out.withText "")

namespace Script

variable {α : Type}

theorem exec_recovered_of_quiet {inner : NestedRender} (hinner : ∀ t v, (inner t v).Quiet)
    (s : Script α) (out : Output) : (s.exec inner out).2.recovered = out.recovered := by
  induction s generalizing out with
  | done a => rfl
  | write text next ih => rw [exec_write, ih, Output.append_recovered]
  | render t v next ih => rw [exec_render, ih, hinner]
  | renderText t v next ih => rw [exec_renderText, ih, (hinner t v).execAlone]

/-- A script whose paths all end alike answers alike. -/
theorem exec_eq_of_endsWith (inner : NestedRender) {s : Script α} {a : α} (h : s.EndsWith a)
    (out : Output) : (s.exec inner out).1 = a := by
  induction s generalizing out with
  | done b => exact h
  | write text next ih => exact ih h _
  | render t v next ih => exact ih _ (h _) _
  | renderText t v next ih => exact ih _ (h _) _

end Script

/-! ## The coupling of two runs -/

/-- Two runs from one output, the strict one first: they are one run, which records nothing, or the
strict run gives up with the first error that the lenient one records. -/
inductive Coupled {α : Type} (failure : ResolutionError → α) (out : Output) :
    α × Output → α × Output → Prop
  | same {last : α × Output} : last.2.recovered = out.recovered → Coupled failure out last last
  | parted {strict lenient : α × Output} {e : ResolutionError} {new : List ResolutionError} :
      strict.1 = failure e → strict.2.recovered = out.recovered →
      lenient.2.recovered = out.recovered ++ e :: new → Coupled failure out strict lenient

namespace Coupled

variable {α β : Type} {failure : ResolutionError → α} {out : Output} {strict lenient : α × Output}

theorem quiet (h : Coupled failure out strict lenient) : strict.2.recovered = out.recovered := by
  cases h with
  | same h => exact h
  | parted _ h _ => exact h

theorem adds (h : Coupled failure out strict lenient) :
    ∃ new, lenient.2.recovered = out.recovered ++ new := by
  cases h with
  | same h => exact ⟨[], by rw [h, List.append_nil]⟩
  | parted _ _ h => exact ⟨_, h⟩

/-- Once the runs have parted, the lenient one may add what it likes. -/
theorem parted_append {mid : Output} {e : ResolutionError} {new more : List ResolutionError}
    (he : strict.1 = failure e) (hstrict : strict.2.recovered = out.recovered)
    (hmid : mid.recovered = out.recovered ++ e :: new)
    (hmore : lenient.2.recovered = mid.recovered ++ more) :
    Coupled failure out strict lenient := by
  rw [hmid, List.append_assoc, List.cons_append] at hmore
  exact .parted he hstrict hmore

/-- Where a coupling begins matters for its records only. -/
theorem rebase {out' : Output} (h : Coupled failure out' strict lenient)
    (hout : out'.recovered = out.recovered) : Coupled failure out strict lenient := by
  cases h with
  | same h => exact .same (h.trans hout)
  | parted he hstrict hlenient => exact .parted he (hstrict.trans hout) (hout ▸ hlenient)

theorem map (h : Coupled failure out strict lenient) (g : α → β) :
    Coupled (g ∘ failure) out (g strict.1, strict.2) (g lenient.1, lenient.2) := by
  cases h with
  | same h => exact .same h
  | parted he hstrict hlenient => exact .parted (congrArg g he) hstrict hlenient

end Coupled

/-- A strict render and a lenient one that are coupled wherever they begin. -/
def RenderM.Couples {α : Type} (strict lenient : RenderM α) : Prop :=
  ∀ out, Coupled .error out (strict.exec out) (lenient.exec out)

namespace RenderM

variable {α β : Type}

theorem couples_pure (a : α) : Couples (pure a) (pure a) := fun _ ↦ .same rfl

theorem couples_throw (e : ResolutionError) : Couples (throw e : RenderM α) (throw e) := fun _ ↦
  .same rfl

theorem couples_emit (text : String) : Couples (emit text) (emit text) := fun _ ↦ .same rfl

theorem couples_leaveOut : Couples leaveOut leaveOut := fun _ ↦ .same rfl

theorem Couples.quiet {strict lenient : RenderM α} (h : Couples strict lenient) : strict.Quiet :=
  fun out ↦ (h out).quiet

theorem Couples.adds {strict lenient : RenderM α} (h : Couples strict lenient) : lenient.Adds :=
  fun out ↦ (h out).adds

theorem Couples.bind {strict lenient : RenderM α} {f g : α → RenderM β}
    (h : Couples strict lenient) (hf : ∀ a, Couples (f a) (g a)) :
    Couples (strict >>= f) (lenient >>= g) := by
  intro out
  rw [exec_bind, exec_bind]
  generalize hs : strict.exec out = s
  generalize hl : lenient.exec out = l
  have hout := h out
  rw [hs, hl] at hout
  obtain ⟨result, next⟩ := s
  obtain ⟨result', next'⟩ := l
  cases hout with
  | same hsame =>
    cases result with
    | ok a => exact (hf a next).rebase hsame
    | error e => exact .same hsame
  | @parted _ e new he hstrict hlenient =>
    obtain rfl : result = .error e := he
    -- The strict run is over; whatever the lenient one goes on to do, it keeps its first record.
    cases result' with
    | ok a =>
      obtain ⟨more, hmore⟩ := (hf a).adds next'
      exact .parted_append rfl hstrict hlenient hmore
    | error e' => exact .parted rfl hstrict hlenient

/-- The coupling as a relation that sequencing keeps. -/
theorem sequential_couples : Sequential fun _ strict lenient ↦ Couples strict lenient where
  pure := couples_pure
  bind h hf := h.bind hf

/-- The text of a render of its own is dropped where it fails, and its records are kept. -/
theorem Couples.execAlone {strict lenient : RenderM Unit} (h : Couples strict lenient)
    (out : Output) :
    Coupled .error out (strict.execAlone out) (lenient.execAlone out) := by
  have hrun := h (out.withText "")
  rw [RenderM.execAlone, RenderM.execAlone]
  generalize strict.exec (out.withText "") = s at hrun ⊢
  generalize lenient.exec (out.withText "") = l at hrun ⊢
  cases hrun with
  | same hsame => exact .same hsame
  | @parted _ e new he hstrict hlenient =>
    rw [he]
    exact .parted rfl hstrict hlenient

end RenderM

/-! ## Formatters -/

/-- How a strict renderer and a lenient one render what is nested: the two are coupled, and the
lenient one always comes to an end without an error. -/
structure NestedRender.Couples (strict lenient : NestedRender) : Prop where
  couples : ∀ t v, (strict t v).Couples (lenient t v)
  succeeds : ∀ t v out, ((lenient t v).exec out).1 = .ok ()

section

variable {strict lenient : NestedRender}

/-- A script that was told of the end of a render, and goes on. -/
theorem Script.coupled_next {α ρ : Type} (h : NestedRender.Couples strict lenient) {out : Output}
    {next : Except ResolutionError ρ → Script (Except FormatterError α)}
    (herror : ∀ e, (next (.error e)).EndsWith (.error (.render e)))
    (hnext : ∀ a out', Coupled (fun e ↦ .error (.render e)) out'
      ((next (.ok a)).exec strict out') ((next (.ok a)).exec lenient out'))
    {s l : Except ResolutionError ρ × Output} (hrun : Coupled .error out s l)
    (hl : ∃ a, l.1 = .ok a) :
    Coupled (fun e ↦ .error (.render e)) out
      ((next s.1).exec strict s.2) ((next l.1).exec lenient l.2) := by
  obtain ⟨a, ha⟩ := hl
  cases hrun with
  | same hsame =>
    rw [ha]
    exact (hnext a _).rebase hsame
  | @parted _ e new he hstrict hlenient =>
    -- The strict script was told of the error, and all that is left to it is to hand it back.
    have hquiet := exec_recovered_of_quiet (fun t v ↦ (h.couples t v).quiet) (next (.error e)) s.2
    have hanswer := exec_eq_of_endsWith strict (herror e) s.2
    obtain ⟨more, hmore⟩ := (hnext a l.2).adds
    rw [ha, he]
    exact .parted_append hanswer (hquiet.trans hstrict) hlenient hmore

theorem Script.coupled {α : Type} (h : NestedRender.Couples strict lenient)
    {s : Script (Except FormatterError α)} (hs : s.HandsBack) (out : Output) :
    Coupled (fun e ↦ .error (.render e)) out (s.exec strict out) (s.exec lenient out) := by
  induction s generalizing out with
  | done a => exact .same rfl
  | write text next ih => exact (ih hs (out.append text)).rebase (Output.append_recovered out text)
  | render t v next ih =>
    rw [exec_render, exec_render]
    refine coupled_next h hs.1 (fun a ↦ ih _ (hs.2 a)) (h.couples t v out) ?_
    exact ⟨(), h.succeeds t v out⟩
  | renderText t v next ih =>
    rw [exec_renderText, exec_renderText]
    refine coupled_next h hs.1 (fun a ↦ ih _ (hs.2 a)) ((h.couples t v).execAlone out) ?_
    rw [RenderM.execAlone, h.succeeds]
    exact ⟨_, rfl⟩

theorem Formatter.couples_run (h : NestedRender.Couples strict lenient) {f : Formatter}
    (hf : f.HandsBack) (fail : String → ResolutionError) (call : FormatCall) :
    (f.run fail call strict).Couples (f.run fail call lenient) := by
  intro out
  rw [Formatter.exec_run, Formatter.exec_run]
  exact (Script.coupled h (hf call) out).map (Except.mapError (FormatterError.toResolution fail))

end

/-! ## Renderers -/

/-- A strict renderer and a lenient one that differ in what they do about errors only. -/
structure Renderer.Counterparts (strict lenient : Renderer) : Prop extends
    strict.Agrees lenient where
  aborts : strict.settings.errorAction = .abort
  recovers : lenient.settings.errorAction ≠ .abort

namespace Renderer

/-- A strict renderer passes an error on. -/
theorem recover_of_abort {r : Renderer} (h : r.settings.errorAction = .abort) (p : Placeholder)
    (e : ResolutionError) : r.recover p e = throw e := by
  rw [recover, h]

/-- What stands in the place of a placeholder that failed: nothing, if the render fails with it. -/
def replacement (r : Renderer) (p : Placeholder) : String :=
  match r.settings.errorAction with
  | .abort => ""
  | .substitute => r.settings.fallbackToken
  | .maintainTokens => p.raw

/-- A lenient renderer records an error and writes something in place of the placeholder. -/
theorem exec_recover {r : Renderer} (h : r.settings.errorAction ≠ .abort) (p : Placeholder)
    (e : ResolutionError) (out : Output) :
    (r.recover p e).exec out = (.ok (), (out.recovering e).append (r.replacement p)) := by
  rw [recover, replacement]
  cases haction : r.settings.errorAction with
  | abort => exact absurd haction h
  | substitute => rfl
  | maintainTokens => rfl

theorem exec_renderPlaced (r : Renderer) (inner : NestedRender) (args : List Value)
    (p : Placeholder) (out : Output) :
    (r.renderPlaced inner args p).exec out =
      (r.place p ((r.renderPlaceholder inner p args).execAlone out).1).exec
        ((r.renderPlaceholder inner p args).execAlone out).2 := by
  rw [renderPlaced, RenderM.exec_bind, RenderM.exec_isolated]

/-- A lenient renderer comes to an end without an error, whatever happens inside of it. -/
theorem exec_renderNodes_of_ne_abort {r : Renderer} (h : r.settings.errorAction ≠ .abort)
    (inner : NestedRender) (ns : List Node) (args : List Value) (out : Output) :
    ((r.renderNodes inner ns args).exec out).1 = .ok () := by
  induction ns generalizing out with
  | nil => rw [renderNodes_nil, RenderM.exec_pure]
  | cons n ns ih =>
    cases n with
    | literal l =>
      rw [renderNodes_literal, RenderM.exec_bind, RenderM.exec_emit]
      exact ih _
    | placeholder p =>
      rw [renderNodes_placeholder, RenderM.exec_bind, exec_renderPlaced]
      cases ((r.renderPlaceholder inner p args).execAlone out).1 with
      | ok text => exact ih _
      | error e =>
        rw [place, exec_recover h]
        exact ih _

section

variable {strict lenient : Renderer} {inner inner' : NestedRender}

theorem couples_renderFormat (hinner : NestedRender.Couples inner inner')
    (h : Counterparts strict lenient) (hf : strict.formatters.HandsBack)
    (fail : String → String → ResolutionError) (v : Value) (format : Option Format) :
    (strict.renderFormat inner fail v format).Couples
      (lenient.renderFormat inner' fail v format) := by
  refine renderFormat_related RenderM.sequential_couples h.formatters ?_ ?_ ?_
  · exact fun _ head _ _ _ hget ↦ Formatter.couples_run hinner (hf.named hget) (fail head.name) _
  · exact Formatter.couples_run hinner hf.default (fail "default") _
  · exact fun f _ ↦ hinner.couples f.template v

theorem couples_renderPlaceholder (hinner : NestedRender.Couples inner inner')
    (h : Counterparts strict lenient) (hf : strict.formatters.HandsBack) (p : Placeholder)
    (args : List Value) :
    (strict.renderPlaceholder inner p args).Couples (lenient.renderPlaceholder inner' p args) := by
  rw [renderPlaceholder, renderPlaceholder, h.resolve]
  cases strict.resolve args p.selectors with
  | error f => exact RenderM.couples_throw (p.pathError f)
  | ok t => exact couples_renderFormat hinner h hf (p.formatterError t) t.current p.format

/-- Here the runs part: an error of the placeholder itself is thrown by the one and recorded by the
other. -/
theorem couples_renderPlaced (hinner : NestedRender.Couples inner inner')
    (h : Counterparts strict lenient) (hf : strict.formatters.HandsBack) (args : List Value)
    (p : Placeholder) :
    (strict.renderPlaced inner args p).Couples (lenient.renderPlaced inner' args p) := by
  intro out
  rw [exec_renderPlaced, exec_renderPlaced]
  have hrun := (couples_renderPlaceholder hinner h hf p args).execAlone out
  generalize (strict.renderPlaceholder inner p args).execAlone out = s at hrun ⊢
  generalize (lenient.renderPlaceholder inner' p args).execAlone out = l at hrun ⊢
  obtain ⟨result, next⟩ := s
  obtain ⟨result', next'⟩ := l
  cases hrun with
  | same hsame =>
    cases result with
    | ok text => exact .same hsame
    | error e =>
      -- The runs were one so far, so this is the first error that is recorded.
      rw [place, place, recover_of_abort h.aborts, exec_recover h.recovers]
      have hrecords : ((next.recovering e).append (lenient.replacement p)).recovered =
          out.recovered ++ [e] := by
        rw [Output.append_recovered, Output.recovering_recovered, hsame]
      exact .parted rfl hsame hrecords
  | @parted _ e new he hs hl =>
    obtain rfl : result = .error e := he
    -- An inner error was recorded already; one of the placeholder itself only comes behind it.
    rw [place, recover_of_abort h.aborts]
    cases result' with
    | ok text => exact .parted rfl hs hl
    | error e' =>
      rw [place, exec_recover h.recovers]
      exact .parted_append rfl hs hl (Output.recovering_recovered next' e')

theorem couples_renderNodes (hinner : NestedRender.Couples inner inner')
    (h : Counterparts strict lenient) (hf : strict.formatters.HandsBack) (ns : List Node)
    (args : List Value) :
    (strict.renderNodes inner ns args).Couples (lenient.renderNodes inner' ns args) :=
  renderNodes_related RenderM.sequential_couples RenderM.couples_emit fun p _ ↦
    couples_renderPlaced hinner h hf args p

/-- The coupling holds at every depth of nesting. -/
theorem couples_nested (h : Counterparts strict lenient) (hf : strict.formatters.HandsBack)
    (depth : Nat) : NestedRender.Couples (strict.nested depth) (lenient.nested depth) := by
  induction depth with
  | zero => exact ⟨fun _ _ ↦ RenderM.couples_leaveOut, fun _ _ _ ↦ rfl⟩
  | succ depth ih =>
    refine ⟨fun t v ↦ couples_renderNodes ih h hf t [v], fun t v out ↦ ?_⟩
    exact exec_renderNodes_of_ne_abort h.recovers (lenient.nested depth) t [v] out

/-- A strict renderer records nothing; it gives the text of its lenient counterpart where that one
records nothing either, and the first error that is recorded otherwise. -/
theorem render_of_counterparts (h : Counterparts strict lenient)
    (hf : strict.formatters.HandsBack) (t : Template) (args : List Value) :
    (∃ text, (lenient.render t args).result = .ok text) ∧
      (strict.render t args).recovered = [] ∧
      (((lenient.render t args).recovered = [] ∧
          (strict.render t args).result = (lenient.render t args).result) ∨
        ∃ e new, (lenient.render t args).recovered = e :: new ∧
          (strict.render t args).result = .error e) := by
  have hok := exec_renderNodes_of_ne_abort h.recovers (lenient.nested lenient.depth) t args {}
  have hrun := couples_renderNodes (couples_nested h hf strict.depth) h hf t args {}
  rw [h.depth] at hok
  rw [render_eq, render_eq, h.depth]
  generalize (strict.renderNodes (strict.nested strict.depth) t args).exec {} = s at hrun ⊢
  generalize (lenient.renderNodes (lenient.nested strict.depth) t args).exec {} = l at hok hrun ⊢
  refine ⟨⟨l.2.text, by rw [Outcome.ofRun, hok]; rfl⟩, hrun.quiet, ?_⟩
  cases hrun with
  | same hsame => exact Or.inl ⟨hsame, rfl⟩
  | @parted _ e new he _ hl =>
    refine Or.inr ⟨e, new, hl, ?_⟩
    rw [Outcome.ofRun, he]
    rfl

end

/-- A renderer with this action for placeholders that fail, and this fallback token. -/
def acting (r : Renderer) (action : ErrorAction) (token : String) : Renderer :=
  { r with settings := { r.settings with errorAction := action, fallbackToken := token } }

/-- **Error actions simulate one another.** The same template is rendered once under the action that
aborts and once under one that does not. The latter render always gives a text. The former recovers
from nothing; it gives that text where the latter recovered from nothing, and otherwise it fails
with the first error that the latter recovered from. -/
theorem render_abort (r : Renderer) (hf : r.formatters.HandsBack) (token token' : String)
    {action : ErrorAction} (haction : action ≠ .abort) (t : Template) (args : List Value) :
    let strict := (r.acting .abort token).render t args
    let lenient := (r.acting action token').render t args
    (∃ text, lenient.result = .ok text) ∧ strict.recovered = [] ∧
      (∀ text, strict.result = .ok text ↔ lenient.recovered = [] ∧ lenient.result = .ok text) ∧
      ∀ e, strict.result = .error e ↔ lenient.recovered.head? = some e := by
  intro strict lenient
  have hcounterparts : Counterparts (r.acting .abort token) (r.acting action token') :=
    ⟨⟨rfl, rfl, rfl, rfl⟩, rfl, haction⟩
  obtain ⟨⟨text, htext⟩, hquiet, hcases⟩ := render_of_counterparts hcounterparts hf t args
  refine ⟨⟨text, htext⟩, hquiet, ?_⟩
  rcases hcases with ⟨hnone, hresult⟩ | ⟨e, new, hsome, hresult⟩
  · refine ⟨fun text' ↦ ?_, fun e ↦ ?_⟩
    · rw [hnone, hresult, and_iff_right rfl]
    · rw [hnone, hresult, htext]
      exact ⟨nofun, nofun⟩
  · refine ⟨fun text' ↦ ?_, fun e' ↦ ?_⟩
    · rw [hsome, hresult]
      exact ⟨nofun, fun h ↦ absurd h.1 (List.cons_ne_nil e new)⟩
    · rw [hsome, hresult, List.head?_cons, Except.error.injEq, Option.some.injEq]

/-- A renderer that knows every ready-made formatter. -/
def stocked : Renderer :=
  { formatters := Formatter.stock.foldl (fun r entry ↦ r.add entry.1 entry.2) {} }

/-- A formatter renders its specifier, in which a name is missing. -/
def missingSample : Template :=
  let missing : Placeholder := ⟨[.ofText "x" ⟨9, 10⟩ true], none, none, "\x7bx\x7d", ⟨8, 11⟩⟩
  let specifier : Template := [.literal ⟨"nest:", ⟨3, 8⟩⟩, .placeholder missing]
  let format : Format := ⟨specifier, some ⟨"nest", none, [.placeholder missing]⟩, ⟨3, 11⟩⟩
  let path : List Selector := [.ofText "0" ⟨1, 2⟩ true]
  [.placeholder ⟨path, none, some format, "\x7b0:nest:\x7bx\x7d\x7d", ⟨0, 12⟩⟩]

/-- The error of the inner placeholder is what the outer render fails with. -/
theorem render_abort_missingSample :
    stocked.formatters.HandsBack ∧ ErrorAction.substitute ≠ .abort ∧
      ((stocked.acting .abort "").render missingSample [.bool true]).result =
        .error ⟨.notFound, "\x7bx\x7d", ⟨8, 11⟩, "x", 0, []⟩ := by
  have hf : stocked.formatters.HandsBack :=
    FormatterRegistry.handsBack_initial.addAll Formatter.handsBack_stock
  have haction : ErrorAction.substitute ≠ .abort := nofun
  obtain ⟨_, _, _, herror⟩ :=
    render_abort stocked hf "" "?" haction missingSample [.bool true]
  exact ⟨hf, haction, (herror _).mpr rfl⟩

end Renderer

end TextTemplate
