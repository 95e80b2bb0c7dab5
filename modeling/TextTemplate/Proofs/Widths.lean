import TextTemplate.Proofs.Chaining

/-!
# Widths of nested placeholders

A width asks for a number of characters, up to a bound, and its sign says on which side the spaces
stand. A text that is padded twice on the same side is padded once, to the wider of both widths: the
spaces stand together, and the clamp does not change which of two widths is the wider one.

So where a placeholder is the whole specifier of another one and both have widths of the same sign,
either of them may be left without a width if the other one has the wider. This is so under the
action that aborts. Any other action puts a token in place of an inner placeholder that failed, and
the token is padded by the outer width only.
-/

namespace TextTemplate

/-! ## Padding -/

/-- A text of spaces. -/
def spaces (n : Nat) : String := String.ofList (List.replicate n ' ')

@[simp] theorem length_spaces (n : Nat) : (spaces n).length = n := by
  rw [spaces, String.length_ofList, List.length_replicate]

theorem spaces_append (m n : Nat) : spaces m ++ spaces n = spaces (m + n) := by
  rw [spaces, spaces, ← String.ofList_append, List.replicate_append_replicate, spaces]

variable {width a b : Int32}

theorem align_of_nonneg (h : 0 ≤ width) (text : String) :
    align text (some width) = spaces (alignmentWidth width - text.length) ++ text := by
  rw [align, if_neg (Int32.not_lt.mpr h), spaces]

theorem align_of_neg (h : width < 0) (text : String) :
    align text (some width) = text ++ spaces (alignmentWidth width - text.length) := by
  rw [align, if_pos h, spaces]

theorem length_align (text : String) (width : Int32) :
    (align text (some width)).length = max text.length (alignmentWidth width) := by
  rcases Int32.lt_or_le width 0 with hneg | hnonneg
  · rw [align_of_neg hneg, String.length_append, length_spaces]
    omega
  · rw [align_of_nonneg hnonneg, String.length_append, length_spaces]
    omega

/-! ## Two widths -/

/-- Of two widths the one of larger magnitude. -/
def wider (a b : Int32) : Int32 := if a.toInt.natAbs < b.toInt.natAbs then b else a

theorem wider_eq_or (a b : Int32) : wider a b = a ∨ wider a b = b := by
  rw [wider]
  split
  · exact Or.inr rfl
  · exact Or.inl rfl

theorem alignmentWidth_wider (a b : Int32) :
    alignmentWidth (wider a b) = max (alignmentWidth a) (alignmentWidth b) := by
  rw [wider]
  split <;> simp only [alignmentWidth] <;> omega

theorem nonneg_wider_iff (h : 0 ≤ a ↔ 0 ≤ b) : 0 ≤ wider a b ↔ 0 ≤ a := by
  rcases wider_eq_or a b with hwider | hwider
  · rw [hwider]
  · rw [hwider, h]

/-- What is padded twice on one side is padded once, to the wider of both widths. -/
theorem align_align (h : 0 ≤ a ↔ 0 ≤ b) (text : String) :
    align (align text (some a)) (some b) = align text (some (wider a b)) := by
  have hwidth := alignmentWidth_wider a b
  have hlength := length_align text a
  by_cases ha : 0 ≤ a
  · rw [align_of_nonneg (h.mp ha), hlength, align_of_nonneg ((nonneg_wider_iff h).mpr ha),
      align_of_nonneg ha, ← String.append_assoc, spaces_append, hwidth]
    refine congrArg (spaces · ++ text) ?_
    omega
  · have hneg : ∀ {c : Int32}, ¬ 0 ≤ c → c < 0 := Int32.not_le.mp
    rw [align_of_neg (hneg (mt h.mpr ha)), hlength,
      align_of_neg (hneg (mt (nonneg_wider_iff h).mp ha)), align_of_neg (hneg ha),
      String.append_assoc, spaces_append, hwidth]
    refine congrArg (text ++ spaces ·) ?_
    omega

/-! ## A placeholder in another one -/

/-- A placeholder, and another one that it holds as its whole specifier. -/
structure Placeholder.Holds (path innerPath : List Selector) (format : Option Format)
    (width innerWidth : Option Int32) (outer inner : Placeholder) : Prop where
  outer_path : outer.selectors = path
  inner_path : inner.selectors = innerPath
  inner_format : inner.format = format
  outer_alignment : outer.alignment = width
  inner_alignment : inner.alignment = innerWidth
  outer_format : ∃ span, outer.format = some (.ofTemplate [.placeholder inner] span)

/-- An error, and the one that stands for it where an outer placeholder and the one that it holds
are others: if it names one of them, it names the other one instead. -/
inductive ResolutionError.Renamed (outer inner outer' inner' : Placeholder) :
    ResolutionError → ResolutionError → Prop
  | within (e : ResolutionError) : Renamed outer inner outer' inner' e e
  | outer (f : PathFailure) :
      Renamed outer inner outer' inner' (outer.pathError f) (outer'.pathError f)
  | inner (f : PathFailure) :
      Renamed outer inner outer' inner' (inner.pathError f) (inner'.pathError f)

/-! ## Renders with the same output -/

section

variable {E : ResolutionError → ResolutionError → Prop} {α : Type}

/-- Two runs that leave the same output, with results that are alike. -/
structure RunsMatch (E : ResolutionError → ResolutionError → Prop)
    (last last' : Except ResolutionError α × Output) : Prop where
  output : last'.2 = last.2
  alike : ResultsAlike E last.1 last'.1

/-- Two renders that do the same but for errors that are alike. -/
def RenderM.Matches (E : ResolutionError → ResolutionError → Prop) (α : Type)
    (act act' : RenderM α) : Prop :=
  ∀ out, RunsMatch E (act.exec out) (act'.exec out)

namespace RenderM

theorem matches_refl (hE : ∀ e, E e e) (act : RenderM α) : Matches E α act act := fun _ ↦
  ⟨rfl, .refl hE _⟩

theorem matches_throw {e e' : ResolutionError} (he : E e e') :
    Matches E α (throw e) (throw e') := fun _ ↦ ⟨rfl, .error he⟩

theorem sequential_matches : Sequential (Matches E) where
  pure a := fun _ ↦ ⟨rfl, .ok a⟩
  bind {α β act act' f f'} h hf := by
    intro out
    rw [exec_bind, exec_bind]
    have hact := h out
    generalize act.exec out = last at hact ⊢
    generalize act'.exec out = last' at hact ⊢
    obtain ⟨result, next⟩ := last
    obtain ⟨result', next'⟩ := last'
    obtain ⟨rfl, halike⟩ := hact
    cases halike with
    | ok a => exact hf a next'
    | error he => exact ⟨rfl, .error he⟩

theorem Matches.execAlone {act act' : RenderM Unit} (h : Matches E Unit act act') (out : Output) :
    RunsMatch E (act.execAlone out) (act'.execAlone out) := by
  obtain ⟨houtput, halike⟩ := h (out.withText "")
  rw [RenderM.execAlone, RenderM.execAlone, houtput]
  exact ⟨rfl, halike.map _⟩

end RenderM

theorem Formatter.matches_run (hE : ∀ e, E e e) (inner : NestedRender) (f : Formatter)
    {fail fail' : String → ResolutionError} (hfail : ∀ message, E (fail message) (fail' message))
    (call : FormatCall) :
    RenderM.Matches E Bool (f.run fail call inner) (f.run fail' call inner) := by
  intro out
  rw [Formatter.exec_run, Formatter.exec_run]
  refine ⟨rfl, ?_⟩
  cases ((f call).run.exec inner out).1 with
  | ok taken => exact .ok taken
  | error e =>
    cases e with
    | failed message => exact .error (hfail message)
    | render e => exact .error (hE e)

namespace Renderer

variable {r : Renderer} {inner : NestedRender} {args : List Value}

/-- On behalf of two placeholders with one path and one format the same is rendered. -/
theorem matches_renderPlaceholder (hE : ∀ e, E e e) (inner : NestedRender) (args : List Value)
    {p p' : Placeholder} (hpath : p'.selectors = p.selectors) (hformat : p'.format = p.format)
    (hnames : ∀ f, E (p.pathError f) (p'.pathError f)) :
    RenderM.Matches E Unit (r.renderPlaceholder inner p args)
      (r.renderPlaceholder inner p' args) := by
  rw [renderPlaceholder, renderPlaceholder, hpath, hformat]
  cases r.resolve args p.selectors with
  | error f => exact RenderM.matches_throw (hnames f)
  | ok t =>
    refine renderFormat_related RenderM.sequential_matches rfl ?_ ?_ ?_
    · exact fun _ _ g _ _ _ ↦ Formatter.matches_run hE inner g (fun _ ↦ hnames _) _
    · exact Formatter.matches_run hE inner r.formatters.default (fun _ ↦ hnames _) _
    · exact fun f _ ↦ RenderM.matches_refl hE _

/-- Under the action that aborts, the padded text is put into the output, or the error ends the
render. -/
theorem exec_place_of_abort (habort : r.settings.errorAction = .abort) (p : Placeholder)
    (result : Except ResolutionError String) (out : Output) :
    (r.place p result).exec out =
      match result.map (align · p.alignment) with
      | .ok text => (.ok (), out.append text)
      | .error e => (.error e, out) := by
  cases result with
  | ok text => rfl
  | error e =>
    rw [place, recover_of_abort habort]
    rfl

theorem execAlone_renderPlaced (habort : r.settings.errorAction = .abort) (p : Placeholder)
    (out : Output) :
    (r.renderPlaced inner args p).execAlone out =
      (((r.renderPlaceholder inner p args).execAlone out).1.map (align · p.alignment),
        ((r.renderPlaceholder inner p args).execAlone out).2) := by
  have htwice : (out.withText "").withText "" = out.withText "" := rfl
  rw [RenderM.execAlone, exec_renderPlaced, exec_place_of_abort habort, RenderM.execAlone,
    RenderM.execAlone, htwice]
  generalize (r.renderPlaceholder inner p args).exec (out.withText "") = last
  obtain ⟨result, next⟩ := last
  cases result with
  | ok u =>
    -- What is put into the empty output is all of its text.
    have htext : ((next.withText "").append (align next.text p.alignment)).text =
        align next.text p.alignment := String.empty_append
    exact Prod.ext (congrArg Except.ok htext) rfl
  | error e => rfl

/-- Placeholders whose padded texts match are placed alike. -/
theorem matches_renderPlaced (habort : r.settings.errorAction = .abort) {p p' : Placeholder}
    (h : ∀ out, RunsMatch E ((r.renderPlaced inner args p).execAlone out)
      ((r.renderPlaced inner args p').execAlone out)) :
    RenderM.Matches E Unit (r.renderPlaced inner args p) (r.renderPlaced inner args p') := by
  intro out
  obtain ⟨houtput, halike⟩ := h out
  rw [execAlone_renderPlaced habort] at houtput halike
  rw [execAlone_renderPlaced habort] at houtput halike
  rw [exec_renderPlaced, exec_renderPlaced, exec_place_of_abort habort, exec_place_of_abort habort,
    houtput]
  generalize Except.map _ _ = result at halike ⊢
  generalize Except.map _ _ = result' at halike ⊢
  cases halike with
  | ok text => exact ⟨rfl, .ok ()⟩
  | error he => exact ⟨rfl, .error he⟩

/-- Anything may stand around placeholders that are placed alike. -/
theorem matches_renderNodes (hE : ∀ e, E e e) {p p' : Placeholder}
    (h : RenderM.Matches E Unit (r.renderPlaced inner args p) (r.renderPlaced inner args p'))
    (before after : Template) :
    RenderM.Matches E Unit (r.renderNodes inner (before ++ .placeholder p :: after) args)
      (r.renderNodes inner (before ++ .placeholder p' :: after) args) := by
  induction before with
  | nil =>
    rw [List.nil_append, List.nil_append, renderNodes_placeholder, renderNodes_placeholder]
    exact RenderM.sequential_matches.bind h fun _ ↦ RenderM.matches_refl hE _
  | cons n before ih =>
    rw [List.cons_append, List.cons_append]
    cases n with
    | literal l =>
      rw [renderNodes_literal, renderNodes_literal]
      exact RenderM.sequential_matches.bind (RenderM.matches_refl hE _) fun _ ↦ ih
    | placeholder p =>
      rw [renderNodes_placeholder, renderNodes_placeholder]
      exact RenderM.sequential_matches.bind (RenderM.matches_refl hE _) fun _ ↦ ih

/-- Two outcomes that are the same but for errors that are alike. -/
structure Outcome.Matches (E : ResolutionError → ResolutionError → Prop) (o o' : Outcome) :
    Prop where
  result : ResultsAlike E o.result o'.result
  recovered : o'.recovered = o.recovered
  cut : o'.cut = o.cut

theorem Outcome.Matches.of_runsMatch {last last' : Except ResolutionError Unit × Output}
    (h : RunsMatch E last last') : Outcome.Matches E (.ofRun last) (.ofRun last') := by
  obtain ⟨houtput, halike⟩ := h
  rw [Outcome.ofRun, Outcome.ofRun, houtput]
  exact ⟨halike.map _, rfl, rfl⟩

end Renderer

end

/-! ## The wider of both widths -/

namespace Renderer

variable {r : Renderer} {args : List Value} {path innerPath : List Selector}
  {format : Option Format} {b a b' a' : Option Int32} {outer inner outer' inner' : Placeholder}

/-- The text of a placeholder that holds another one is the text of that one, padded twice. -/
theorem execAlone_holding (habort : r.settings.errorAction = .abort)
    (h : Placeholder.Holds path innerPath format b a outer inner) {t : Trail}
    (ht : r.resolve args path = .ok t) (d : Nat) (out : Output) :
    (r.renderPlaced (r.nested (d + 1)) args outer).execAlone out =
      (((r.renderPlaceholder (r.nested d) inner [t.current]).execAlone out).1.map
          fun text ↦ align (align text a) b,
        ((r.renderPlaceholder (r.nested d) inner [t.current]).execAlone out).2) := by
  obtain ⟨span, hformat⟩ := h.outer_format
  have hplaceholder : r.renderPlaceholder (r.nested (d + 1)) outer args =
      r.renderPlaced (r.nested d) [t.current] inner := by
    rw [← h.outer_path] at ht
    rw [renderPlaceholder_of_ok ht, hformat, renderFormat_placeholder, nested,
      renderNodes_singleton]
  rw [execAlone_renderPlaced habort, hplaceholder, execAlone_renderPlaced habort,
    h.inner_alignment, h.outer_alignment]
  generalize RenderM.execAlone _ out = last
  obtain ⟨result, next⟩ := last
  cases result with
  | ok text => rfl
  | error e => rfl

/-- Two ways to give widths to a placeholder and the one that it holds come to the same if every
text is padded to the same. -/
theorem matches_holding (habort : r.settings.errorAction = .abort)
    (h : Placeholder.Holds path innerPath format b a outer inner)
    (h' : Placeholder.Holds path innerPath format b' a' outer' inner')
    (halign : ∀ text, align (align text a') b' = align (align text a) b) (d : Nat) :
    RenderM.Matches (ResolutionError.Renamed outer inner outer' inner') Unit
      (r.renderPlaced (r.nested (d + 1)) args outer)
      (r.renderPlaced (r.nested (d + 1)) args outer') := by
  refine matches_renderPlaced habort fun out ↦ ?_
  cases hresolve : r.resolve args path with
  | error f =>
    have herror := hresolve
    rw [← h.outer_path] at hresolve
    rw [← h'.outer_path] at herror
    rw [execAlone_renderPlaced habort, execAlone_renderPlaced habort,
      renderPlaceholder_of_error hresolve, renderPlaceholder_of_error herror]
    exact ⟨rfl, .error (.outer f)⟩
  | ok t =>
    have hpath : inner'.selectors = inner.selectors := h'.inner_path.trans h.inner_path.symm
    have hformat : inner'.format = inner.format := h'.inner_format.trans h.inner_format.symm
    have hinner : RenderM.Matches (ResolutionError.Renamed outer inner outer' inner') Unit
        (r.renderPlaceholder (r.nested d) inner [t.current])
        (r.renderPlaceholder (r.nested d) inner' [t.current]) :=
      matches_renderPlaceholder .within (r.nested d) [t.current] hpath hformat .inner
    obtain ⟨houtput, halike⟩ := hinner.execAlone out
    rw [execAlone_holding habort h hresolve, execAlone_holding habort h' hresolve, houtput,
      funext halign]
    exact ⟨rfl, halike.map _⟩

/-- **Two widths of one sign.** A padded text has as many characters as the text, or as the width
asks for, up to a bound; the text stands at its end, or at its beginning if the width is negative,
and all else is spaces. What is padded to two widths of the same sign is padded to the wider of
them. So under the action that aborts, a placeholder with a width that is the whole specifier of
another one with a width of the same sign is rendered as if the wider width was the only one, in
either place: to the same text, or to the same error but for the placeholder that it names. -/
theorem render_wider :
    (∀ (text : String) (width : Int32),
      (align text (some width)).length = max text.length (min width.toInt.natAbs 4096) ∧
      (0 ≤ width → ∃ n, align text (some width) = spaces n ++ text) ∧
      (width < 0 → ∃ n, align text (some width) = text ++ spaces n)) ∧
    (∀ (a b : Int32), (0 ≤ a ↔ 0 ≤ b) → ∀ text,
      align (align text (some a)) (some b) = align text (some (wider a b))) ∧
    ∀ (r : Renderer) (a b : Int32) (path innerPath : List Selector) (format : Option Format)
      (outer inner outer' inner' : Placeholder),
      r.settings.errorAction = .abort → 0 < r.depth → (0 ≤ a ↔ 0 ≤ b) →
      Placeholder.Holds path innerPath format (some b) (some a) outer inner →
      (Placeholder.Holds path innerPath format (some (wider a b)) none outer' inner' ∨
        Placeholder.Holds path innerPath format none (some (wider a b)) outer' inner') →
      ∀ (before after : Template) (args : List Value),
        Outcome.Matches (ResolutionError.Renamed outer inner outer' inner')
          (r.render (before ++ .placeholder outer :: after) args)
          (r.render (before ++ .placeholder outer' :: after) args) := by
  refine ⟨fun text width ↦ ⟨length_align text width, fun h ↦ ⟨_, align_of_nonneg h text⟩,
    fun h ↦ ⟨_, align_of_neg h text⟩⟩, fun a b hsign ↦ align_align hsign, ?_⟩
  intro r a b path innerPath format outer inner outer' inner' habort hdepth hsign h h' before after
    args
  obtain ⟨d, hd⟩ := Nat.exists_eq_add_one_of_ne_zero hdepth.ne'
  have hplaced : RenderM.Matches (ResolutionError.Renamed outer inner outer' inner') Unit
      (r.renderPlaced (r.nested (d + 1)) args outer)
      (r.renderPlaced (r.nested (d + 1)) args outer') := by
    rcases h' with h' | h'
    · exact matches_holding habort h h' (fun text ↦ (align_align hsign text).symm) d
    · exact matches_holding habort h h' (fun text ↦ (align_align hsign text).symm) d
  rw [render_eq, render_eq, hd]
  exact .of_runsMatch (matches_renderNodes .within hplaced before after {})

/-- A name, padded behind. -/
def namePadded : Placeholder :=
  ⟨[.ofText "name" ⟨10, 14⟩ true], some (-6), none, "\x7bname,-6\x7d", ⟨9, 18⟩⟩

/-- A name without a width. -/
def nameUnpadded : Placeholder :=
  ⟨[.ofText "name" ⟨10, 14⟩ true], none, none, "\x7bname\x7d", ⟨9, 15⟩⟩

/-- A user with a padded name, padded behind. -/
def userOfPadded : Placeholder :=
  ⟨[.ofText "user" ⟨1, 5⟩ true], some (-3), some (.ofTemplate [.placeholder namePadded] ⟨9, 18⟩),
    "\x7buser,-3:\x7bname,-6\x7d\x7d", ⟨0, 19⟩⟩

/-- A user with a name, padded to the width of the padded name. -/
def userOfUnpadded : Placeholder :=
  ⟨[.ofText "user" ⟨1, 5⟩ true], some (-6),
    some (.ofTemplate [.placeholder nameUnpadded] ⟨9, 15⟩),
    "\x7buser,-6:\x7bname\x7d\x7d", ⟨0, 16⟩⟩

/-- The inner width is the wider one, and in the place of the outer one it gives the same text. The
least width asks for as many characters as any. -/
theorem render_wider_nameSample :
    let args : List Value := [.map ⟨[(.str "user", .map ⟨[(.str "name", .str "ab")]⟩)]⟩]
    let path : List Selector := [.ofText "user" ⟨1, 5⟩ true]
    let innerPath : List Selector := [.ofText "name" ⟨10, 14⟩ true]
    Template.parse .backslash "\x7buser,-3:\x7bname,-6\x7d\x7d" = .ok [.placeholder userOfPadded] ∧
      Template.parse .backslash "\x7buser,-6:\x7bname\x7d\x7d" =
        .ok [.placeholder userOfUnpadded] ∧
      (stocked.acting .abort "").settings.errorAction = .abort ∧
      0 < (stocked.acting .abort "").depth ∧ ((0 : Int32) ≤ -6 ↔ (0 : Int32) ≤ -3) ∧
      Placeholder.Holds path innerPath none (some (-3)) (some (-6)) userOfPadded namePadded ∧
      Placeholder.Holds path innerPath none (some (wider (-6) (-3))) none userOfUnpadded
        nameUnpadded ∧
      ((stocked.acting .abort "").render [.placeholder userOfPadded] args).result =
        .ok "ab    " ∧
      ((stocked.acting .abort "").render [.placeholder userOfUnpadded] args).result =
        .ok "ab    " ∧
      (align "ab" (some Int32.minValue)).length = 4096 ∧
      ∃ n, align "ab" (some Int32.minValue) = "ab" ++ spaces n := by
  intro args path innerPath
  have hpadded : Placeholder.Holds path innerPath none (some (-3)) (some (-6)) userOfPadded
      namePadded := ⟨rfl, rfl, rfl, rfl, rfl, _, rfl⟩
  have hunpadded : Placeholder.Holds path innerPath none (some (wider (-6) (-3))) none
      userOfUnpadded nameUnpadded := ⟨rfl, rfl, rfl, rfl, rfl, _, rfl⟩
  have hsign : (0 : Int32) ≤ -6 ↔ (0 : Int32) ≤ -3 := by decide
  have hdepth : 0 < (stocked.acting .abort "").depth := by decide
  have htext : ((stocked.acting .abort "").render [.placeholder userOfPadded] args).result =
      .ok "ab    " := rfl
  have halike : ResultsAlike
      (ResolutionError.Renamed userOfPadded namePadded userOfUnpadded nameUnpadded)
      ((stocked.acting .abort "").render [.placeholder userOfPadded] args).result
      ((stocked.acting .abort "").render [.placeholder userOfUnpadded] args).result :=
    (render_wider.2.2 (stocked.acting .abort "") (-6) (-3) path innerPath none userOfPadded
      namePadded userOfUnpadded nameUnpadded rfl hdepth hsign hpadded (.inl hunpadded)
      [] [] args).result
  obtain ⟨hleast, -, hbehind⟩ := render_wider.1 "ab" Int32.minValue
  refine ⟨rfl, rfl, rfl, hdepth, hsign, hpadded, hunpadded, htext, ?_,
    hleast.trans (by decide), hbehind (by decide)⟩
  rw [htext] at halike
  generalize (Renderer.render _ [.placeholder userOfUnpadded] args).result = result at halike ⊢
  cases halike with
  | ok text => rfl

end Renderer

end TextTemplate
