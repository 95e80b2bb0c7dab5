import TextTemplate.Rendering

/-!
# How paths fail

A path fails at one of its selectors, and the failure says which: its depth is the number of
selectors that were followed, so it is also the place of the one that failed. A source may refuse a
selector with an error of its own choice, and only a source that a caller supplies could choose that
of a formatter.
-/

namespace TextTemplate

/-- Whether a formatter is what failed. -/
def ResolutionErrorKind.isFormatter : ResolutionErrorKind → Bool
  | .formatter _ _ => true
  | _ => false

/-! ## What sources refuse -/

namespace ValueSource

theorem not_isFormatter_of_findItem {items : List Value} {s : Selector}
    {kind : ResolutionErrorKind} (h : findItem items s = .error kind) :
    kind.isFormatter = false := by
  unfold findItem at h
  split at h
  · exact absurd h nofun
  · split at h
    · cases h
      rfl
    · split at h
      · exact absurd h nofun
      · cases h
        rfl

theorem not_isFormatter_of_askRecord {r : DynamicRecord} {s : Selector} {case : CaseSensitivity}
    {kind : ResolutionErrorKind} (h : askRecord r s case = .error kind) :
    kind.isFormatter = false := by
  unfold askRecord at h
  split at h
  · exact absurd h nofun
  · exact absurd h nofun
  · cases h
    rfl

theorem ofFound_ne_error (found : Option Value) (kind : ResolutionErrorKind) :
    SourceOutcome.ofFound found ≠ .error kind := by
  cases found with
  | none => exact nofun
  | some v => exact nofun

/-- A built-in source has its own ways to refuse, and no formatter is one of them. -/
theorem not_isFormatter_of_follow {source : ValueSource} (hsource : ∀ c, source ≠ .custom c)
    {s : Selector} {v : Value} {case : CaseSensitivity} {kind : ResolutionErrorKind}
    (h : source.follow s v case = .error kind) : kind.isFormatter = false := by
  unfold follow at h
  split at h
  · exact absurd h (ofFound_ne_error _ kind)
  · exact absurd h (ofFound_ne_error _ kind)
  · exact not_isFormatter_of_askRecord h
  · exact not_isFormatter_of_findItem h
  · exact absurd rfl (hsource _)
  · exact absurd h nofun

end ValueSource

/-- No source that a caller supplies answers with a failure of a formatter. -/
def SourceChain.BlamesNoFormatter (sources : SourceChain) : Prop :=
  ∀ c, .custom c ∈ sources → ∀ s v case kind,
    (ValueSource.custom c).resolve s v case = .error kind → kind.isFormatter = false

theorem SourceChain.blamesNoFormatter_builtin : BlamesNoFormatter builtin := by
  intro c hc
  simp [builtin] at hc

theorem SourceChain.not_isFormatter_of_resolve {sources : SourceChain}
    (hsources : sources.BlamesNoFormatter) {s : Selector} {v : Value} {case : CaseSensitivity}
    {kind : ResolutionErrorKind} (h : sources.resolve s v case = .error kind) :
    kind.isFormatter = false := by
  induction sources with
  | nil => exact absurd h nofun
  | cons source others ih =>
    rw [resolve] at h
    split at h
    · exact ih (fun c hc ↦ hsources c (List.mem_cons_of_mem source hc)) h
    · by_cases hcustom : ∃ c, source = .custom c
      · obtain ⟨c, rfl⟩ := hcustom
        exact hsources c List.mem_cons_self s v case kind h
      · rw [ValueSource.resolve] at h
        split at h
        · exact ValueSource.not_isFormatter_of_follow (fun c hc ↦ hcustom ⟨c, hc⟩) h
        · exact absurd h nofun

/-- The sources fail in ways of a certain kind only, and finding nothing is one of them. -/
structure SourceChain.FailIn (allowed : ResolutionErrorKind → Prop) (sources : SourceChain) :
    Prop where
  notFound : allowed .notFound
  error : ∀ {s v case kind}, sources.resolve s v case = .error kind → allowed kind

theorem SourceChain.BlamesNoFormatter.failIn {sources : SourceChain}
    (h : sources.BlamesNoFormatter) : sources.FailIn fun kind ↦ kind.isFormatter = false :=
  ⟨rfl, not_isFormatter_of_resolve h⟩

theorem SourceChain.failIn_any (sources : SourceChain) : sources.FailIn fun _ ↦ True :=
  ⟨trivial, fun _ ↦ trivial⟩

/-! ## Failures of paths -/

/-- A trail says how much of a path was followed. -/
structure Trail.Covers (t : Trail) (selectors : List Selector) : Prop where
  depth : t.depth ≤ selectors.length
  resolved : t.resolved = (selectors.take t.depth).map Selector.text

/-- A failure of a certain kind says how much of a path was followed, and it names the next
selector. -/
structure PathFailure.Names (allowed : ResolutionErrorKind → Prop) (f : PathFailure)
    (selectors : List Selector) : Prop where
  kind : allowed f.kind
  selector : ∃ h : f.depth < selectors.length, f.selector = selectors[f.depth].text
  resolved : f.resolved = (selectors.take f.depth).map Selector.text

namespace Trail

variable {t : Trail} {selectors : List Selector} {s : Selector} {ss : List Selector}

theorem covers_start (selectors : List Selector) (v : Value) : Covers { current := v } selectors :=
  ⟨Nat.zero_le _, rfl⟩

theorem lt_length_of_drop (hdrop : selectors.drop t.depth = s :: ss) :
    t.depth < selectors.length := by
  rcases Nat.lt_or_ge t.depth selectors.length with hlt | hge
  · exact hlt
  · rw [List.drop_eq_nil_of_le hge] at hdrop
    exact absurd hdrop (List.cons_ne_nil s ss).symm

theorem getElem_of_drop (hdrop : selectors.drop t.depth = s :: ss)
    (hlt : t.depth < selectors.length) : selectors[t.depth] = s := by
  rw [List.drop_eq_getElem_cons hlt] at hdrop
  exact List.head_eq_of_cons_eq hdrop

theorem drop_advance (hdrop : selectors.drop t.depth = s :: ss) (v : Value) :
    selectors.drop (t.advance s v).depth = ss := by
  rw [advance, ← List.drop_drop, hdrop, List.drop_one, List.tail_cons]

/-- A trail that goes on by the next selector still says how much was followed. -/
theorem Covers.advance (h : t.Covers selectors) (hdrop : selectors.drop t.depth = s :: ss)
    (v : Value) : (t.advance s v).Covers selectors := by
  have hlt := lt_length_of_drop hdrop
  refine ⟨hlt, ?_⟩
  rw [Trail.advance, h.resolved, List.take_succ_eq_append_getElem hlt, getElem_of_drop hdrop hlt,
    List.map_append, List.map_singleton]

theorem Covers.fail (h : t.Covers selectors) (hdrop : selectors.drop t.depth = s :: ss)
    {allowed : ResolutionErrorKind → Prop} {kind : ResolutionErrorKind} (hkind : allowed kind) :
    (t.fail kind s.text).Names allowed selectors := by
  have hlt := lt_length_of_drop hdrop
  refine ⟨hkind, ⟨hlt, ?_⟩, h.resolved⟩
  exact congrArg Selector.text (getElem_of_drop hdrop hlt).symm

end Trail

namespace Path

variable {allowed : ResolutionErrorKind → Prop} {sources : SourceChain} {case : CaseSensitivity}
  {selectors : List Selector}

/-- What following the rest of a path comes to, step by step: a failure names the next selector, and
otherwise nothing is left. -/
theorem covers_of_follow (hsources : sources.FailIn allowed) {t : Trail} {ss : List Selector}
    (ht : t.Covers selectors) (hdrop : selectors.drop t.depth = ss) :
    match follow sources case t ss with
    | .ok last => last.Covers selectors ∧ last.depth = selectors.length
    | .error f => f.Names allowed selectors := by
  -- The invariant is that what is left is what the trail does not cover.
  induction ss generalizing t with
  | nil =>
    refine ⟨ht, Nat.le_antisymm ht.depth ?_⟩
    exact List.drop_eq_nil_iff.mp hdrop
  | cons s ss ih =>
    rw [follow]
    cases hanswer : sources.resolve s t.current case with
    | resolved next => exact ih (ht.advance hdrop next) (Trail.drop_advance hdrop next)
    | notApplicable => exact ht.fail hdrop hsources.notFound
    | error kind => exact ht.fail hdrop (hsources.error hanswer)

theorem covers_of_search (hsources : sources.FailIn allowed) (first : Selector)
    (others : List Selector) (args : List Value) :
    match search sources case first args with
    | .ok t => t.Covers (first :: others)
    | .error f => f.Names allowed (first :: others) := by
  have hstart : Trail.Covers {} (first :: others) := Trail.covers_start _ .null
  induction args with
  | nil => exact hstart.fail rfl hsources.notFound
  | cons arg args ih =>
    rw [search]
    cases hanswer : sources.resolve first.asIndex arg case with
    | resolved v => exact hstart.advance rfl v
    | notApplicable => exact ih
    | error kind => exact hstart.fail rfl (hsources.error hanswer)

theorem covers_of_root (hsources : sources.FailIn allowed) (case : CaseSensitivity)
    (selectors : List Selector) (args : List Value) :
    match root sources case args selectors with
    | .ok t => t.Covers selectors
    | .error f => f.Names allowed selectors := by
  cases selectors with
  | nil => exact Trail.covers_start [] _
  | cons first others =>
    rw [root]
    cases argument? args first with
    | none => exact covers_of_search hsources first others args
    | some v => exact (Trail.covers_start _ .null).advance rfl v

/-- **How a path fails.** A path that was followed to its end has a trail of all of its selectors. One
that leads nowhere fails at one of them, with a trail of those before it, wherever it started. -/
theorem covers_of_resolve (hsources : sources.FailIn allowed) (case : CaseSensitivity)
    (selectors : List Selector) (args : List Value) :
    match resolve sources case args selectors with
    | .ok t => t.Covers selectors ∧ t.depth = selectors.length
    | .error f => f.Names allowed selectors := by
  have hroot := covers_of_root hsources case selectors args
  rw [resolve]
  cases hstart : root sources case args selectors with
  | error f =>
    rw [hstart] at hroot
    exact hroot
  | ok t =>
    rw [hstart] at hroot
    exact covers_of_follow hsources hroot rfl

end Path

theorem Renderer.covers_of_resolve {r : Renderer} {allowed : ResolutionErrorKind → Prop}
    (hsources : r.sources.FailIn allowed) (selectors : List Selector) (args : List Value) :
    match r.resolve args selectors with
    | .ok t => t.Covers selectors ∧ t.depth = selectors.length
    | .error f => f.Names allowed selectors :=
  Path.covers_of_resolve hsources r.settings.caseSensitivity selectors args

end TextTemplate
