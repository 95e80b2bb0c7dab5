import TextTemplate.Proofs.Correspondence
import TextTemplate.Proofs.Depth
import TextTemplate.Proofs.LetterCase

/-!
# Formatters that make nothing of letter case

A formatter is handed specifiers and is told of errors, so it sees the selectors in them and could
let their letter case decide what it writes. One that *ignores case* does not: where specifiers and
errors differ in letter case only, it writes scripts that do. None of the ready-made formatters
looks at a selector, so they are all of this kind.

## Which placeholders are taken for one another

Errors of two renders have in common where their placeholders stand. What this means is left open
here: `S` is any relation between placeholders, and a formatter may not depend on it. The templates
that a formatter brings along are the same in both renders, so all that is asked of `S` is that it
takes their placeholders, its `own`, for themselves.
-/

namespace TextTemplate

/-! ## Errors -/

/-- An error says of a placeholder that it failed. -/
structure ResolutionError.StandsAt (e : ResolutionError) (p : Placeholder) : Prop where
  placeholder : e.placeholder = p.raw
  span : e.span = p.span

/-- Errors of placeholders that are taken for one another, as deep in their paths, and for reasons
that are the same but for the message of a source. -/
structure ResolutionError.Recased (S : Placeholder → Placeholder → Prop) (e e' : ResolutionError) :
    Prop where
  depth : e'.depth = e.depth
  kind : e.kind.Alike e'.kind
  place : ∃ p p', S p p' ∧ e.StandsAt p ∧ e'.StandsAt p'

/-- Formatters that give up alike. -/
inductive FormatterError.Recased (S : Placeholder → Placeholder → Prop) :
    FormatterError → FormatterError → Prop
  | failed (message : String) : Recased S (.failed message) (.failed message)
  | render {e e' : ResolutionError} : e.Recased S e' → Recased S (.render e) (.render e')

theorem FormatterError.Recased.mapError {α : Type} {S : Placeholder → Placeholder → Prop}
    {result result' : Except ResolutionError α}
    (h : ResultsAlike (ResolutionError.Recased S) result result') :
    ResultsAlike (FormatterError.Recased S) (result.mapError .render)
      (result'.mapError .render) := by
  cases h with
  | ok a => exact .ok a
  | error he => exact .error (.render he)

/-! ## Templates -/

/-- Placeholders that are taken for one another and whose selectors differ in letter case only. -/
structure Placeholder.Recased (S : Placeholder → Placeholder → Prop) (p p' : Placeholder) :
    Prop where
  selectors : List.Forall₂ Selector.Recased p.selectors p'.selectors
  taken : S p p'

/-- Templates that differ in the letter case of their selectors only. -/
abbrev Template.Recased (S : Placeholder → Placeholder → Prop) (t t' : Template) : Prop :=
  Template.Variant (Placeholder.Recased S) t t'

/-! ## Formatters -/

/-- Scripts that have templates rendered which differ in letter case only, against the same values,
and that go on so if they are told of results which do. -/
inductive Script.Recased {α : Type} (S : Placeholder → Placeholder → Prop) :
    Script (Except FormatterError α) → Script (Except FormatterError α) → Prop
  | done {a a' : Except FormatterError α} : ResultsAlike (FormatterError.Recased S) a a' →
      Recased S (.done a) (.done a')
  | write {text : String} {next next' : Script (Except FormatterError α)} :
      Recased S next next' → Recased S (.write text next) (.write text next')
  | render {t t' : Template} {v : Value}
      {next next' : Except ResolutionError Unit → Script (Except FormatterError α)} :
      t.Recased S t' → v.ComparesNames →
      (∀ result result', ResultsAlike (ResolutionError.Recased S) result result' →
        Recased S (next result) (next' result')) →
      Recased S (.render t v next) (.render t' v next')
  | renderText {t t' : Template} {v : Value}
      {next next' : Except ResolutionError String → Script (Except FormatterError α)} :
      t.Recased S t' → v.ComparesNames →
      (∀ result result', ResultsAlike (ResolutionError.Recased S) result result' →
        Recased S (next result) (next' result')) →
      Recased S (.renderText t v next) (.renderText t' v next')

/-- Calls that differ in the letter case of selectors in the specifier only. -/
structure FormatCall.Recased (S : Placeholder → Placeholder → Prop) (call call' : FormatCall) :
    Prop where
  value : call'.value = call.value
  options : call'.options = call.options
  format : Option.Rel (Template.Recased S) call.format call'.format
  comparesNames : call.value.ComparesNames

/-- Scripts that may give up and differ in letter case only. -/
abbrev FormatterM.Recased {α : Type} (S : Placeholder → Placeholder → Prop)
    (act act' : FormatterM α) : Prop :=
  Script.Recased S act.run act'.run

/-- A formatter does the same whatever the letter case of selectors. The placeholders of the
templates that it brings along are its `own`. -/
def Formatter.IgnoresCase (own : Placeholder → Prop) (f : Formatter) : Prop :=
  ∀ S : Placeholder → Placeholder → Prop, (∀ p, own p → S p p) →
    ∀ call call' : FormatCall, call.Recased S call' → FormatterM.Recased S (f call) (f call')

namespace FormatCall.Recased

variable {S : Placeholder → Placeholder → Prop} {call call' : FormatCall}

theorem hint (h : call.Recased S call') : call'.hint = call.hint := by
  have hformat := h.format
  rw [FormatCall.hint, FormatCall.hint]
  generalize call.format = format at hformat ⊢
  generalize call'.format = format' at hformat ⊢
  cases hformat with
  | none => rfl
  | some ht => exact congrArg (Option.getD · "") ht.plainText?

theorem nested? (h : call.Recased S call') :
    Option.Rel (Template.Recased S) call.nested? call'.nested? := by
  have hformat := h.format
  rw [FormatCall.nested?, FormatCall.nested?]
  generalize call.format = format at hformat ⊢
  generalize call'.format = format' at hformat ⊢
  cases hformat with
  | none => exact .none
  | @some t t' ht =>
    rw [Option.filter_some, Option.filter_some, ht.hasPlaceholders]
    by_cases hnested : Template.hasPlaceholders t = true
    · rw [if_pos hnested, if_pos hnested]
      exact .some ht
    · rw [if_neg hnested, if_neg hnested]
      exact .none

end FormatCall.Recased

namespace FormatterM

variable {S : Placeholder → Placeholder → Prop} {α β : Type}

theorem recased_pure (a : α) : Recased S (pure a) (pure a) := .done (.ok a)

theorem recased_fail (message : String) :
    Recased S (fail message : FormatterM α) (fail message) := .done (.error (.failed message))

theorem recased_write (text : String) : Recased S (write text) (write text) :=
  .write (.done (.ok ()))

theorem recased_render {t t' : Template} (h : t.Recased S t') {v : Value}
    (hv : v.ComparesNames) : Recased S (render t v) (render t' v) :=
  .render h hv fun _ _ hresult ↦ .done (FormatterError.Recased.mapError hresult)

theorem recased_renderText {t t' : Template} (h : t.Recased S t') {v : Value}
    (hv : v.ComparesNames) : Recased S (renderText t v) (renderText t' v) :=
  .renderText h hv fun _ _ hresult ↦ .done (FormatterError.Recased.mapError hresult)

theorem Recased.bind {act act' : FormatterM α} {f f' : α → FormatterM β}
    (h : Recased S act act') (hf : ∀ a, Recased S (f a) (f' a)) :
    Recased S (act >>= f) (act' >>= f') := by
  have hscript : ∀ s s' : Script (Except FormatterError α), Script.Recased S s s' →
      Script.Recased S (s.bind (ExceptT.bindCont f)) (s'.bind (ExceptT.bindCont f')) := by
    intro s s' hs
    induction hs with
    | done ha =>
      cases ha with
      | ok a => exact hf a
      | error he => exact .done (.error he)
    | write _ ih => exact .write ih
    | render ht hv _ ih => exact .render ht hv ih
    | renderText ht hv _ ih => exact .renderText ht hv ih
  exact hscript _ _ h

theorem recased_mapM {f f' : α → FormatterM β} {as : List α}
    (hf : ∀ a ∈ as, Recased S (f a) (f' a)) : Recased S (as.mapM f) (as.mapM f') := by
  have hloop : ∀ bs, Recased S (List.mapM.loop f as bs) (List.mapM.loop f' as bs) := by
    induction as with
    | nil => exact fun bs ↦ recased_pure bs.reverse
    | cons a as ih =>
      obtain ⟨ha, has⟩ := List.forall_mem_cons.mp hf
      exact fun bs ↦ ha.bind fun b ↦ ih has (b :: bs)
  exact hloop []

/-- What is done with a specifier, if there is one. -/
theorem recased_forM {specifier specifier' : Option Template}
    (h : Option.Rel (Template.Recased S) specifier specifier')
    {f f' : Template → FormatterM PUnit} (hf : ∀ t t', t.Recased S t' → Recased S (f t) (f' t')) :
    Recased S (forM specifier f) (forM specifier' f') := by
  cases h with
  | none => exact recased_pure _
  | some ht => exact hf _ _ ht

theorem Recased.andTake {act act' : FormatterM α} (h : Recased S act act') :
    Recased S (do let _ ← act; return true) (do let _ ← act'; return true) :=
  h.bind fun _ ↦ recased_pure true

end FormatterM

namespace Formatter

open FormatterM

variable {own : Placeholder → Prop}

theorem ignoresCase_canonical : canonical.IgnoresCase own := by
  intro S _ call call' h
  have hnested := h.nested?
  rw [canonical, canonical, h.value, h.hint]
  generalize call.nested? = nested at hnested ⊢
  generalize call'.nested? = nested' at hnested ⊢
  cases hnested with
  | none => exact (recased_write _).andTake
  | some ht => exact (recased_render ht h.comparesNames).andTake

theorem ignoresCase_upper : upper.IgnoresCase own := by
  intro S _ call call' h
  rw [upper, upper, h.value]
  exact (recased_write _).andTake

theorem ignoresCase_join : join.IgnoresCase own := by
  intro S _ call call' h
  have hnested := h.nested?
  have hnames := h.comparesNames
  rw [join, join, h.value, h.options]
  generalize call.nested? = nested at hnested ⊢
  generalize call'.nested? = nested' at hnested ⊢
  generalize call.value = v at hnames ⊢
  split
  · refine (recased_mapM fun item hitem ↦ ?_).bind fun parts ↦ (recased_write _).andTake
    cases hnested with
    | none => exact recased_pure item.text
    | some ht => exact recased_renderText ht fun r hr ↦ hnames r (.item hitem hr)
  · exact recased_pure false

theorem ignoresCase_strict : strict.IgnoresCase own := by
  intro S _ call call' h
  rw [strict, strict, h.value]
  split
  · simp only
    split
    · exact (recased_fail _).bind fun _ ↦ (recased_write _).andTake
    · exact (recased_write _).andTake
  · exact recased_fail _

theorem ignoresCase_echo : echo.IgnoresCase own := by
  intro S _ call call' h
  have hnodes : (call'.format.map fun t ↦ t.length.repr) =
      call.format.map fun t ↦ t.length.repr := by
    have hformat := h.format
    generalize call.format = format at hformat ⊢
    generalize call'.format = format' at hformat ⊢
    cases hformat with
    | none => rfl
    | some ht => exact congrArg (fun n ↦ some n.repr) ht.length
  rw [echo, echo, h.value, h.options, h.hint, hnodes]
  exact (recased_write _).andTake

theorem ignoresCase_hesitant : hesitant.IgnoresCase own := fun _ _ _ _ _ ↦
  (recased_write "partial;").bind fun _ ↦ recased_pure false

theorem ignoresCase_nest : nest.IgnoresCase own := by
  intro S _ call call' h
  rw [nest, nest, h.value]
  refine (recased_write "<").bind fun _ ↦ (recased_forM h.format fun t t' ht ↦ ?_).bind fun _ ↦
    (recased_write ">").andTake
  exact recased_render ht h.comparesNames

theorem ignoresCase_twice : twice.IgnoresCase own := by
  intro S _ call call' h
  rw [twice, twice, h.value]
  refine (recased_forM h.format fun t t' ht ↦ ?_).andTake
  refine (recased_render ht h.comparesNames).bind fun _ ↦ (recased_write "/").bind fun _ ↦ ?_
  exact (recased_renderText ht h.comparesNames).bind fun text ↦ recased_write text

theorem ignoresCase_failing : failing.IgnoresCase own := by
  intro S _ call call' h
  rw [failing, failing, h.options]
  exact (recased_write "lost").bind fun _ ↦ recased_fail _

theorem ignoresCase_stock : ∀ entry ∈ stock, entry.2.IgnoresCase own := by
  simp only [stock, List.forall_mem_cons, List.not_mem_nil, false_implies, implies_true, and_true]
  exact ⟨ignoresCase_upper, ignoresCase_join, ignoresCase_strict, ignoresCase_echo,
    ignoresCase_hesitant, ignoresCase_nest, ignoresCase_twice, ignoresCase_failing,
    ignoresCase_canonical⟩

end Formatter

end TextTemplate
