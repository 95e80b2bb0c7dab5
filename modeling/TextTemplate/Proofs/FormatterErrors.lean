import TextTemplate.Formatter.Stock

/-!
# Formatters and the errors that they are told of

A script may do as it likes with the errors of the rendering that it asks for, and it may have any
template rendered. Formatters are rarely written that freely: most of them are sequences of the
operations of `FormatterM`, and the only template they render is the specifier that they were handed.
What holds of each operation and is kept by sequencing therefore holds of all of these at once, so
`Formatter.assembled_stock` is the one place where the ready-made formatters are looked at one by one.

Two such properties are used elsewhere. A formatter that *hands back* errors drops none of them, and
one that *relays* them makes up none.
-/

namespace TextTemplate

/-! ## Formatters made of operations -/

namespace FormatterM

/-- An action that is made of operations and has no template rendered but the specifier. -/
inductive Assembled (specifier : Option Template) : {α : Type} → FormatterM α → Prop
  | pure {α : Type} (a : α) : Assembled specifier (Pure.pure a)
  | fail {α : Type} (message : String) : Assembled specifier (FormatterM.fail message (α := α))
  | write (text : String) : Assembled specifier (FormatterM.write text)
  | render {t : Template} (h : specifier = some t) (v : Value) :
      Assembled specifier (FormatterM.render t v)
  | renderText {t : Template} (h : specifier = some t) (v : Value) :
      Assembled specifier (FormatterM.renderText t v)
  | bind {α β : Type} {act : FormatterM α} {f : α → FormatterM β} (h : Assembled specifier act)
      (hf : ∀ a, Assembled specifier (f a)) : Assembled specifier (act >>= f)

variable {specifier : Option Template} {α β : Type}

theorem assembled_mapM {f : α → FormatterM β} (hf : ∀ a, Assembled specifier (f a))
    (as : List α) : Assembled specifier (as.mapM f) := by
  have hloop : ∀ bs, Assembled specifier (List.mapM.loop f as bs) := by
    induction as with
    | nil => exact fun bs ↦ .pure bs.reverse
    | cons a as ih => exact fun bs ↦ (hf a).bind fun b ↦ ih (b :: bs)
  exact hloop []

/-- What is done with the specifier, if there is one. -/
theorem assembled_forM {f : Template → FormatterM PUnit}
    (hf : ∀ t, specifier = some t → Assembled specifier (f t)) :
    Assembled specifier (forM specifier f) := by
  cases specifier with
  | none => exact .pure _
  | some t => exact hf t rfl

/-- Many operations end with taking the value. -/
theorem Assembled.andTake {act : FormatterM α} (h : Assembled specifier act) :
    Assembled specifier (do let _ ← act; return true) := h.bind fun _ ↦ .pure true

end FormatterM

theorem FormatCall.format_of_nested? {call : FormatCall} {t : Template}
    (h : call.nested? = some t) : call.format = some t := (Option.filter_eq_some_iff.mp h).1

namespace Formatter

/-- A formatter that is made of operations, whatever it is called with. -/
def Assembled (f : Formatter) : Prop := ∀ call, FormatterM.Assembled call.format (f call)

open FormatterM.Assembled

theorem assembled_canonical : canonical.Assembled := by
  intro call
  unfold canonical
  split
  · rename_i t hnested
    exact (render (FormatCall.format_of_nested? hnested) call.value).andTake
  · exact (write _).andTake

theorem assembled_upper : upper.Assembled := fun _ ↦ (write _).andTake

theorem assembled_join : join.Assembled := by
  intro call
  unfold join
  split
  · refine bind (FormatterM.assembled_mapM ?_ _) fun parts ↦ (write _).andTake
    intro v
    split
    · rename_i t hnested
      exact renderText (FormatCall.format_of_nested? hnested) v
    · exact pure v.text
  · exact pure false

theorem assembled_strict : strict.Assembled := by
  intro call
  unfold strict
  split
  · have hwrite : FormatterM.Assembled call.format
        (do FormatterM.write call.value.text; return true) := (write _).andTake
    simp only
    split
    · exact (fail _).bind fun _ ↦ hwrite
    · exact hwrite
  · exact fail _

theorem assembled_echo : echo.Assembled := fun _ ↦ (write _).andTake

theorem assembled_hesitant : hesitant.Assembled := fun _ ↦ (write _).bind fun _ ↦ pure false

theorem assembled_nest : nest.Assembled := by
  intro call
  refine (write "<").bind fun _ ↦ bind (FormatterM.assembled_forM fun t ht ↦ ?_) fun _ ↦
    (write ">").andTake
  exact render ht call.value

theorem assembled_twice : twice.Assembled := by
  intro call
  refine andTake (FormatterM.assembled_forM fun t ht ↦ ?_)
  refine (render ht call.value).bind fun _ ↦ (write "/").bind fun _ ↦ ?_
  exact (renderText ht call.value).bind fun text ↦ write text

theorem assembled_failing : failing.Assembled := fun _ ↦ (write _).bind fun _ ↦ fail _

theorem assembled_stock : ∀ entry ∈ stock, entry.2.Assembled := by
  simp only [stock, List.forall_mem_cons, List.not_mem_nil, false_implies, implies_true, and_true]
  exact ⟨assembled_upper, assembled_join, assembled_strict, assembled_echo, assembled_hesitant,
    assembled_nest, assembled_twice, assembled_failing, assembled_canonical⟩

end Formatter

/-! ### Registries -/

namespace FormatterRegistry

/-- Something that holds of every formatter of a registry. -/
structure All (P : Formatter → Prop) (r : FormatterRegistry) : Prop where
  named : ∀ {name f}, r.named.get? name = some f → P f
  default : P r.default

variable {P Q : Formatter → Prop} {r : FormatterRegistry}

theorem All.imp (h : r.All P) (himp : ∀ f, P f → Q f) : r.All Q :=
  ⟨fun hget ↦ himp _ (h.named hget), himp _ h.default⟩

theorem All.add {name : String} {f : Formatter} (h : r.All P) (hf : P f) :
    (r.add name f).All P := by
  unfold FormatterRegistry.add
  split
  · exact ⟨h.named, hf⟩
  · refine ⟨fun {name' f'} hget ↦ ?_, h.default⟩
    by_cases hname : name' = name
    · subst hname
      rw [OrderedMap.get?_insert_self] at hget
      exact Option.some.inj hget ▸ hf
    · rw [OrderedMap.get?_insert_of_ne _ _ hname] at hget
      exact h.named hget

theorem All.addAll {entries : List (String × Formatter)} (h : r.All P)
    (hentries : ∀ entry ∈ entries, P entry.2) :
    (entries.foldl (fun r entry ↦ r.add entry.1 entry.2) r).All P := by
  induction entries generalizing r with
  | nil => exact h
  | cons entry entries ih =>
    rw [List.forall_mem_cons] at hentries
    exact ih (h.add hentries.1) hentries.2

theorem assembled_initial : All Formatter.Assembled {} := ⟨nofun, Formatter.assembled_canonical⟩

end FormatterRegistry

/-! ## Formatters that hand errors back

A formatter learns of each error of the rendering that it asks for, and it is free to drop it. One
that *hands back* does not: whatever else it still does, the error is its answer. Formatters that
are made of the operations of `FormatterM` are of this kind, since none of these catches an error. -/

namespace Script

variable {α β : Type}

/-- Every path through a script ends with the given answer. -/
def EndsWith (a : α) : Script α → Prop
  | .done b => b = a
  | .write _ next => next.EndsWith a
  | .render _ _ next => ∀ r, (next r).EndsWith a
  | .renderText _ _ next => ∀ r, (next r).EndsWith a

/-- The first error of rendering that the script is told of is what it gives up with. -/
def HandsBack : Script (Except FormatterError α) → Prop
  | .done _ => True
  | .write _ next => next.HandsBack
  | .render _ _ next =>
    (∀ e, (next (.error e)).EndsWith (.error (.render e))) ∧ ∀ u, (next (.ok u)).HandsBack
  | .renderText _ _ next =>
    (∀ e, (next (.error e)).EndsWith (.error (.render e))) ∧ ∀ text, (next (.ok text)).HandsBack

theorem EndsWith.bind {s : Script α} {f : α → Script β} {a : α} {b : β} (h : s.EndsWith a)
    (hf : (f a).EndsWith b) : (s.bind f).EndsWith b := by
  induction s with
  | done a' =>
    obtain rfl : a' = a := h
    exact hf
  | write text next ih => exact ih h
  | render t v next ih => exact fun r ↦ ih r (h r)
  | renderText t v next ih => exact fun r ↦ ih r (h r)

end Script

namespace FormatterM

variable {α β : Type}

/-- A script that may give up hands errors back. -/
abbrev HandsBack (act : FormatterM α) : Prop := act.run.HandsBack

theorem handsBack_pure (a : α) : HandsBack (pure a) := trivial

theorem handsBack_fail (message : String) : HandsBack (fail message : FormatterM α) := trivial

theorem handsBack_write (text : String) : HandsBack (write text) := trivial

theorem handsBack_render (t : Template) (v : Value) : HandsBack (render t v) :=
  ⟨fun _ ↦ rfl, fun _ ↦ trivial⟩

theorem handsBack_renderText (t : Template) (v : Value) : HandsBack (renderText t v) :=
  ⟨fun _ ↦ rfl, fun _ ↦ trivial⟩

/-- Sequencing drops no error, since giving up is what it passes on. -/
theorem HandsBack.bind {act : FormatterM α} {f : α → FormatterM β} (h : HandsBack act)
    (hf : ∀ a, HandsBack (f a)) : HandsBack (act >>= f) := by
  have hscript : ∀ s : Script (Except FormatterError α), s.HandsBack →
      (s.bind (ExceptT.bindCont f)).HandsBack := by
    intro s hs
    induction s with
    | done a =>
      cases a with
      | ok a => exact hf a
      | error e => exact trivial
    | write text next ih => exact ih hs
    | render t v next ih =>
      -- A path that ends with the error never reaches the continuation.
      refine ⟨fun e ↦ ?_, fun u ↦ ih _ (hs.2 u)⟩
      exact (hs.1 e).bind rfl
    | renderText t v next ih =>
      refine ⟨fun e ↦ ?_, fun text ↦ ih _ (hs.2 text)⟩
      exact (hs.1 e).bind rfl
  exact hscript act h

theorem Assembled.handsBack {specifier : Option Template} {act : FormatterM α}
    (h : Assembled specifier act) : HandsBack act := by
  induction h with
  | pure a => exact handsBack_pure a
  | fail message => exact handsBack_fail message
  | write text => exact handsBack_write text
  | render _ v => exact handsBack_render _ v
  | renderText _ v => exact handsBack_renderText _ v
  | bind _ _ ih ihf => exact ih.bind ihf

end FormatterM

/-- A formatter hands errors back, whatever it is called with. -/
def Formatter.HandsBack (f : Formatter) : Prop := ∀ call, FormatterM.HandsBack (f call)

theorem Formatter.Assembled.handsBack {f : Formatter} (h : f.Assembled) : f.HandsBack :=
  fun call ↦ (h call).handsBack

theorem Formatter.handsBack_stock : ∀ entry ∈ stock, entry.2.HandsBack := fun entry h ↦
  (assembled_stock entry h).handsBack

/-! ### Registries -/

/-- Every formatter of a registry hands errors back. -/
structure FormatterRegistry.HandsBack (r : FormatterRegistry) : Prop where
  named : ∀ {name f}, r.named.get? name = some f → f.HandsBack
  default : r.default.HandsBack

namespace FormatterRegistry

theorem All.handsBack {r : FormatterRegistry} (h : r.All Formatter.HandsBack) : r.HandsBack :=
  ⟨h.named, h.default⟩

theorem HandsBack.all {r : FormatterRegistry} (h : r.HandsBack) : r.All Formatter.HandsBack :=
  ⟨h.named, h.default⟩

theorem handsBack_initial : HandsBack {} := (assembled_initial.imp fun _ h ↦ h.handsBack).handsBack

theorem HandsBack.addAll {r : FormatterRegistry} {entries : List (String × Formatter)}
    (h : r.HandsBack) (hentries : ∀ entry ∈ entries, entry.2.HandsBack) :
    (entries.foldl (fun r entry ↦ r.add entry.1 entry.2) r).HandsBack :=
  (h.all.addAll hentries).handsBack

end FormatterRegistry

/-! ## Formatters that make up no errors

A formatter may give up with an error of rendering that no render ended with, and it may have any
template rendered, so in general nothing is known of the placeholder that such an error names. A
formatter that *relays* does neither: it has nothing rendered but the specifier that it was handed,
and an error that it gives up with is one that it was told of. It is free to drop errors, which sets
it apart from a formatter that hands them back. -/

/-- The specifier is all that the script has rendered, and a script that was told of these errors
gives up with one that it was told of, here or later. -/
def Script.Relays {α : Type} (specifier : Option Template) :
    List ResolutionError → Script (Except FormatterError α) → Prop
  | told, .done a => ∀ e, a = .error (.render e) → e ∈ told
  | told, .write _ next => Relays specifier told next
  | told, .render t _ next => specifier = some t ∧
      (∀ e, Relays specifier (e :: told) (next (.error e))) ∧
      ∀ u, Relays specifier told (next (.ok u))
  | told, .renderText t _ next => specifier = some t ∧
      (∀ e, Relays specifier (e :: told) (next (.error e))) ∧
      ∀ text, Relays specifier told (next (.ok text))

namespace FormatterM

variable {specifier : Option Template} {α β : Type}

/-- A script that may give up relays, whatever it was told of before. -/
def Relays (specifier : Option Template) (act : FormatterM α) : Prop :=
  ∀ told, act.run.Relays specifier told

theorem relays_pure (a : α) : Relays specifier (pure a) := fun _ _ ↦ nofun

theorem relays_fail (message : String) : Relays specifier (fail message : FormatterM α) :=
  fun _ _ ↦ nofun

theorem relays_write (text : String) : Relays specifier (write text) := fun _ _ ↦ nofun

theorem relays_render {t : Template} (h : specifier = some t) (v : Value) :
    Relays specifier (render t v) := by
  refine fun told ↦ ⟨h, fun e e' he ↦ ?_, fun _ _ ↦ nofun⟩
  cases he
  exact List.mem_cons_self

theorem relays_renderText {t : Template} (h : specifier = some t) (v : Value) :
    Relays specifier (renderText t v) := by
  refine fun told ↦ ⟨h, fun e e' he ↦ ?_, fun _ _ ↦ nofun⟩
  cases he
  exact List.mem_cons_self

theorem Relays.bind {act : FormatterM α} {f : α → FormatterM β} (h : Relays specifier act)
    (hf : ∀ a, Relays specifier (f a)) : Relays specifier (act >>= f) := by
  have hscript : ∀ (s : Script (Except FormatterError α)) (told : List ResolutionError),
      s.Relays specifier told → (s.bind (ExceptT.bindCont f)).Relays specifier told := by
    intro s
    induction s with
    | done a =>
      intro told hs
      cases a with
      | ok a => exact hf a told
      | error e =>
        intro e' he
        cases he
        exact hs e' rfl
    | write text next ih => exact fun told hs ↦ ih told hs
    | render t v next ih =>
      intro told hs
      exact ⟨hs.1, fun e ↦ ih _ _ (hs.2.1 e), fun u ↦ ih _ _ (hs.2.2 u)⟩
    | renderText t v next ih =>
      intro told hs
      exact ⟨hs.1, fun e ↦ ih _ _ (hs.2.1 e), fun text ↦ ih _ _ (hs.2.2 text)⟩
  exact fun told ↦ hscript act told (h told)

theorem Assembled.relays {act : FormatterM α} (h : Assembled specifier act) :
    Relays specifier act := by
  induction h with
  | pure a => exact relays_pure a
  | fail message => exact relays_fail message
  | write text => exact relays_write text
  | render ht v => exact relays_render ht v
  | renderText ht v => exact relays_renderText ht v
  | bind _ _ ih ihf => exact ih.bind ihf

end FormatterM

/-- A formatter relays, whatever it is called with. It begins without having been told of errors. -/
def Formatter.Relays (f : Formatter) : Prop := ∀ call, (f call).run.Relays call.format []

theorem Formatter.Assembled.relays {f : Formatter} (h : f.Assembled) : f.Relays :=
  fun call ↦ (h call).relays []

end TextTemplate
