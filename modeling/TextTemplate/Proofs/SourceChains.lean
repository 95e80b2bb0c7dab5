import TextTemplate.Proofs.ErrorActions
import TextTemplate.Proofs.ExtraArguments
import TextTemplate.Source.Stock

/-!
# Chains of sources

A chain asks its sources in order and takes the first answer that is not "not mine". So a chain
behind another one is heard exactly where that one has nothing to say, and neither order nor
repetition matters among sources of which at most one has anything to say. The built-in sources are
of this kind, since each of them owns one shape of value.

## More sources behind the others

What a chain resolves, it also resolves with more sources behind it. With one argument at most, this
carries over to paths: the search for the argument to start at then has one answer to go by, and
what more sources make of an argument that had none is not in the way of another one. Under the
action that aborts, a render that succeeds has found every path, so more sources change nothing in
it. Formatters are asked to hand errors back, since otherwise one might succeed because of a path
that was not found.
-/

namespace TextTemplate

namespace SourceChain

variable {s : Selector} {v : Value} {case : CaseSensitivity}

/-! ## One chain behind another -/

theorem resolve_append (xs ys : SourceChain) (s : Selector) (v : Value) (case : CaseSensitivity) :
    resolve (xs ++ ys) s v case =
      match resolve xs s v case with
      | .notApplicable => resolve ys s v case
      | outcome => outcome := by
  induction xs with
  | nil => rfl
  | cons source others ih =>
    rw [List.cons_append, resolve, resolve, ih]
    cases source.resolve s v case <;> rfl

/-- What a chain resolves, it resolves with more sources behind it. -/
theorem resolve_more {xs : SourceChain} {w : Value} (h : resolve xs s v case = .resolved w)
    (more : SourceChain) : resolve (xs ++ more) s v case = .resolved w := by
  rw [resolve_append, h]

theorem resolve_eq_notApplicable {xs : SourceChain}
    (h : ∀ source ∈ xs, source.resolve s v case = .notApplicable) :
    resolve xs s v case = .notApplicable := by
  induction xs with
  | nil => rfl
  | cons source others ih =>
    rw [List.forall_mem_cons] at h
    rw [resolve, h.1]
    exact ih h.2

/-- Where one source alone may answer, the chain answers what it does. -/
theorem resolve_eq_of_mem {xs : SourceChain} {owner : ValueSource} (howner : owner ∈ xs)
    (h : ∀ source ∈ xs, source = owner ∨ source.resolve s v case = .notApplicable) :
    resolve xs s v case = owner.resolve s v case := by
  induction xs with
  | nil => exact absurd howner List.not_mem_nil
  | cons source others ih =>
    rw [List.forall_mem_cons] at h
    rw [resolve]
    by_cases hnone : source.resolve s v case = .notApplicable
    · rw [hnone]
      rcases List.mem_cons.mp howner with rfl | hmem
      · rw [hnone]
        refine resolve_eq_notApplicable fun source' hsource' ↦ ?_
        rcases h.2 source' hsource' with rfl | hpass
        · exact hnone
        · exact hpass
      · exact ih hmem h.2
    · obtain rfl := h.1.resolve_right hnone
      cases hanswer : source.resolve s v case with
      | notApplicable => exact absurd hanswer hnone
      | resolved w => rfl
      | error kind => rfl

/-! ## The built-in sources -/

/-- The built-in source that owns values of this shape, if one does. -/
def owner? : Value → Option ValueSource
  | .object _ => some .typedObject
  | .map _ => some .mapping
  | .record _ => some .dynamicRecord
  | .list _ => some .list
  | _ => none

theorem resolve_of_not_owner {source : ValueSource} (h : source ∈ builtin)
    (howner : owner? v ≠ some source) (s : Selector) (case : CaseSensitivity) :
    source.resolve s v case = .notApplicable := by
  simp only [builtin, List.mem_cons, List.not_mem_nil, or_false] at h
  rcases h with rfl | rfl | rfl | rfl <;> cases v <;> first | rfl | exact absurd rfl howner

/-- Among built-in sources only the one that owns the shape of the value is heard. -/
theorem resolve_builtin {block : SourceChain} (h : ∀ source ∈ block, source ∈ builtin)
    (s : Selector) (v : Value) (case : CaseSensitivity) :
    (∀ owner ∈ block, owner? v = some owner →
        resolve block s v case = owner.resolve s v case) ∧
      ((∀ owner ∈ block, owner? v ≠ some owner) → resolve block s v case = .notApplicable) := by
  constructor
  · intro owner hmem howner
    refine resolve_eq_of_mem hmem fun source hsource ↦ ?_
    by_cases hsame : owner? v = some source
    · exact Or.inl (Option.some.inj (hsame.symm.trans howner))
    · exact Or.inr (resolve_of_not_owner (h source hsource) hsame s case)
  · intro hnone
    exact resolve_eq_notApplicable fun source hsource ↦
      resolve_of_not_owner (h source hsource) (hnone source hsource) s case

/-- Built-in sources answer the same in any order, and however often they stand in a chain. -/
theorem resolve_builtin_congr {block block' : SourceChain}
    (h : ∀ source ∈ block, source ∈ builtin) (hsame : ∀ source, source ∈ block ↔ source ∈ block')
    (s : Selector) (v : Value) (case : CaseSensitivity) :
    resolve block s v case = resolve block' s v case := by
  have h' : ∀ source ∈ block', source ∈ builtin := fun source hsource ↦
    h source ((hsame source).mpr hsource)
  obtain ⟨hanswer, hnone⟩ := resolve_builtin h s v case
  obtain ⟨hanswer', hnone'⟩ := resolve_builtin h' s v case
  by_cases howner : ∃ owner ∈ block, owner? v = some owner
  · obtain ⟨owner, hmem, howner⟩ := howner
    rw [hanswer owner hmem howner, hanswer' owner ((hsame owner).mp hmem) howner]
  · rw [hnone fun owner hmem heq ↦ howner ⟨owner, hmem, heq⟩,
      hnone' fun owner hmem heq ↦ howner ⟨owner, (hsame owner).mpr hmem, heq⟩]

end SourceChain

/-! ## Paths -/

namespace Path

variable {sources : SourceChain} {case : CaseSensitivity} {args : List Value}

theorem follow_moreSources {t last : Trail} {ss : List Selector}
    (h : follow sources case t ss = .ok last) (more : SourceChain) :
    follow (sources ++ more) case t ss = .ok last := by
  induction ss generalizing t with
  | nil => exact h
  | cons s ss ih =>
    rw [follow] at h ⊢
    cases hstep : sources.resolve s t.current case with
    | resolved v =>
      rw [hstep] at h
      rw [SourceChain.resolve_more hstep]
      exact ih h
    | notApplicable =>
      rw [hstep] at h
      cases h
    | error kind =>
      rw [hstep] at h
      cases h

/-- With one argument at most there is none that more sources could put in front of another. -/
theorem search_moreSources (hargs : args.length ≤ 1) {first : Selector} {t : Trail}
    (h : search sources case first args = .ok t) (more : SourceChain) :
    search (sources ++ more) case first args = .ok t := by
  match args, hargs with
  | [], _ => exact h
  | [arg], _ =>
    rw [search] at h ⊢
    cases hstep : sources.resolve first.asIndex arg case with
    | resolved v =>
      rw [hstep] at h
      rw [SourceChain.resolve_more hstep]
      exact h
    | notApplicable =>
      rw [hstep] at h
      cases h
    | error kind =>
      rw [hstep] at h
      cases h

theorem root_moreSources (hargs : args.length ≤ 1) {ss : List Selector} {t : Trail}
    (h : root sources case args ss = .ok t) (more : SourceChain) :
    root (sources ++ more) case args ss = .ok t := by
  cases ss with
  | nil => exact h
  | cons first others =>
    rw [root] at h ⊢
    cases harg : argument? args first with
    | some v =>
      rw [harg] at h
      exact h
    | none =>
      rw [harg] at h
      exact search_moreSources hargs h more

/-- A path that was found is found with more sources too. -/
theorem resolve_moreSources (hargs : args.length ≤ 1) {ss : List Selector} {t : Trail}
    (h : resolve sources case args ss = .ok t) (more : SourceChain) :
    resolve (sources ++ more) case args ss = .ok t := by
  rw [resolve] at h ⊢
  cases hroot : root sources case args ss with
  | error f =>
    rw [hroot] at h
    cases h
  | ok start =>
    rw [hroot] at h
    rw [root_moreSources hargs hroot more]
    exact follow_moreSources h more

end Path

/-! ## Renders -/

namespace RenderM

variable {α : Type}

theorem improves_throw (e : ResolutionError) (act : RenderM α) : Improves α (throw e) act := by
  intro out a next h
  cases congrArg Prod.fst h

theorem Improves.execAlone {act act' : RenderM Unit} (h : Improves Unit act act') (out : Output)
    (text : String) (next : Output) (hact : act.execAlone out = (.ok text, next)) :
    act'.execAlone out = (.ok text, next) := by
  have hrun := h (out.withText "")
  rw [RenderM.execAlone] at hact ⊢
  generalize act.exec (out.withText "") = ran at hrun hact
  obtain ⟨result, last⟩ := ran
  cases result with
  | ok a =>
    rw [hrun a last rfl]
    exact hact
  | error e => cases congrArg Prod.fst hact

end RenderM

section

variable {inner inner' : NestedRender}

/-- A script that hands errors back and succeeds has seen no render fail. -/
theorem Script.improves {α : Type} (hinner : ∀ t v, RenderM.Improves Unit (inner t v) (inner' t v))
    {s : Script (Except FormatterError α)} (hs : s.HandsBack) {out next : Output} {a : α}
    (h : s.exec inner out = (.ok a, next)) : s.exec inner' out = (.ok a, next) := by
  induction s generalizing out with
  | done b => exact h
  | write text rest ih => exact ih hs h
  | render t v rest ih =>
    rw [exec_render] at h ⊢
    have hrun := hinner t v out
    generalize (inner t v).exec out = ran at h hrun
    obtain ⟨result, mid⟩ := ran
    cases result with
    | ok u =>
      rw [hrun u mid rfl]
      exact ih _ (hs.2 u) h
    | error e =>
      have hanswer := exec_eq_of_endsWith inner (hs.1 e) mid
      rw [h] at hanswer
      cases hanswer
  | renderText t v rest ih =>
    rw [exec_renderText] at h ⊢
    have hrun := (hinner t v).execAlone out
    generalize (inner t v).execAlone out = ran at h hrun
    obtain ⟨result, mid⟩ := ran
    cases result with
    | ok text =>
      rw [hrun text mid rfl]
      exact ih _ (hs.2 text) h
    | error e =>
      have hanswer := exec_eq_of_endsWith inner (hs.1 e) mid
      rw [h] at hanswer
      cases hanswer

theorem Formatter.improves_run (hinner : ∀ t v, RenderM.Improves Unit (inner t v) (inner' t v))
    {f : Formatter} (hf : f.HandsBack) (fail fail' : String → ResolutionError) (call : FormatCall) :
    RenderM.Improves Bool (f.run fail call inner) (f.run fail' call inner') := by
  intro out claimed next h
  rw [Formatter.exec_run] at h ⊢
  generalize hran : (f call).run.exec inner out = ran at h
  obtain ⟨result, last⟩ := ran
  cases result with
  | ok b =>
    rw [Script.improves hinner (hf call) hran]
    exact h
  | error e => cases congrArg Prod.fst h

end

namespace Renderer

/-- A renderer with more sources behind its own. -/
def withMoreSources (r : Renderer) (more : SourceChain) : Renderer :=
  { r with sources := r.sources ++ more }

variable {r : Renderer} {inner inner' : NestedRender} {args : List Value}

theorem improves_renderPlaceholder (hf : r.formatters.HandsBack) (more : SourceChain)
    (hinner : ∀ t v, RenderM.Improves Unit (inner t v) (inner' t v)) (hargs : args.length ≤ 1)
    (p : Placeholder) :
    RenderM.Improves Unit (r.renderPlaceholder inner p args)
      ((r.withMoreSources more).renderPlaceholder inner' p args) := by
  cases hpath : r.resolve args p.selectors with
  | error f =>
    rw [renderPlaceholder_of_error hpath]
    exact RenderM.improves_throw _ _
  | ok t =>
    have hpath' : (r.withMoreSources more).resolve args p.selectors = .ok t :=
      Path.resolve_moreSources hargs hpath more
    rw [renderPlaceholder_of_ok hpath, renderPlaceholder_of_ok hpath']
    refine renderFormat_related RenderM.sequential_improves rfl ?_ ?_ ?_
    · exact fun _ _ _ _ _ hget ↦ Formatter.improves_run hinner (hf.named hget) _ _ _
    · exact Formatter.improves_run hinner hf.default _ _ _
    · exact fun f _ ↦ hinner f.template t.current

theorem improves_renderPlaced_moreSources (habort : r.settings.errorAction = .abort)
    (hf : r.formatters.HandsBack) (more : SourceChain)
    (hinner : ∀ t v, RenderM.Improves Unit (inner t v) (inner' t v)) (hargs : args.length ≤ 1)
    (p : Placeholder) :
    RenderM.Improves Unit (r.renderPlaced inner args p)
      ((r.withMoreSources more).renderPlaced inner' args p) := by
  intro out a next h
  rw [exec_renderPlaced] at h ⊢
  have hrun := (improves_renderPlaceholder hf more hinner hargs p).execAlone out
  generalize (r.renderPlaceholder inner p args).execAlone out = ran at h hrun
  obtain ⟨result, mid⟩ := ran
  cases result with
  | ok text =>
    rw [hrun text mid rfl]
    exact h
  | error e =>
    -- A placeholder that fails ends the render.
    rw [place, recover_of_abort habort] at h
    cases congrArg Prod.fst h

theorem improves_renderNodes_moreSources (habort : r.settings.errorAction = .abort)
    (hf : r.formatters.HandsBack) (more : SourceChain)
    (hinner : ∀ t v, RenderM.Improves Unit (inner t v) (inner' t v)) (hargs : args.length ≤ 1)
    (t : Template) :
    RenderM.Improves Unit (r.renderNodes inner t args)
      ((r.withMoreSources more).renderNodes inner' t args) :=
  renderNodes_related RenderM.sequential_improves (fun _ ↦ RenderM.improves_refl _) fun p _ ↦
    improves_renderPlaced_moreSources habort hf more hinner hargs p

/-- What is nested is rendered against one value, so more sources make no difference there. -/
theorem improves_nested (habort : r.settings.errorAction = .abort) (hf : r.formatters.HandsBack)
    (more : SourceChain) (depth : Nat) (t : Template) (v : Value) :
    RenderM.Improves Unit (r.nested depth t v) ((r.withMoreSources more).nested depth t v) := by
  induction depth generalizing t v with
  | zero => exact RenderM.improves_refl _
  | succ depth ih =>
    have hargs : [v].length ≤ 1 := Nat.le_refl 1
    rw [nested, nested]
    exact improves_renderNodes_moreSources habort hf more ih hargs t

end Renderer

/-- **The laws of source chains.** A chain behind another one answers where that one answers "not
mine". In a block of built-in sources, neither order nor repetition matters, whatever stands in
front of the block and behind it. And a render against one argument at most that gives a text under
the action that aborts gives the same with any sources behind the others, if the formatters hand
errors back. -/
theorem SourceChain.laws :
    (∀ (xs ys : SourceChain) (s : Selector) (v : Value) (case : CaseSensitivity),
      resolve (xs ++ ys) s v case =
        match resolve xs s v case with
        | .notApplicable => resolve ys s v case
        | outcome => outcome) ∧
    (∀ block block' : SourceChain, (∀ source ∈ block, source ∈ builtin) →
      (∀ source, source ∈ block ↔ source ∈ block') →
        ∀ (before after : SourceChain) (s : Selector) (v : Value) (case : CaseSensitivity),
          resolve (before ++ block ++ after) s v case =
            resolve (before ++ block' ++ after) s v case) ∧
    ∀ (r : Renderer) (t : Template) (args : List Value), r.settings.errorAction = .abort →
      r.formatters.HandsBack → args.length ≤ 1 → ∀ text, (r.render t args).result = .ok text →
        ∀ more : SourceChain, (r.withMoreSources more).render t args = r.render t args := by
  refine ⟨resolve_append, ?_, ?_⟩
  · intro block block' h hsame before after s v case
    rw [resolve_append, resolve_append before block, resolve_append (before ++ block'),
      resolve_append before block', resolve_builtin_congr h hsame]
  · intro r t args habort hf hargs text htext more
    have hnested := Renderer.improves_nested habort hf more r.depth
    have hrun := Renderer.improves_renderNodes_moreSources habort hf more hnested hargs t {}
    rw [Renderer.render_eq] at htext
    rw [Renderer.render_eq, Renderer.render_eq]
    show Renderer.Outcome.ofRun (((r.withMoreSources more).renderNodes
      ((r.withMoreSources more).nested r.depth) t args).exec {}) = _
    generalize (r.renderNodes (r.nested r.depth) t args).exec {} = ran at hrun htext ⊢
    obtain ⟨result, out⟩ := ran
    cases result with
    | ok a => rw [hrun a out rfl]
    | error e => cases htext

/-- A formatter renders its specifier against the value of a name. -/
def nestedNameSample : Template :=
  let name : Placeholder := ⟨[.ofText "a" ⟨9, 10⟩ true], none, none, "\x7ba\x7d", ⟨8, 11⟩⟩
  let specifier : Template := [.literal ⟨"nest:", ⟨3, 8⟩⟩, .placeholder name]
  let format : Format := ⟨specifier, some ⟨"nest", none, [.placeholder name]⟩, ⟨3, 11⟩⟩
  let path : List Selector := [.ofText "0" ⟨1, 2⟩ true]
  [.placeholder ⟨path, none, some format, "\x7b0:nest:\x7ba\x7d\x7d", ⟨0, 12⟩⟩]

/-- A source that takes everything is not heard behind the one that owns the value, and not where a
render succeeds without it. -/
theorem SourceChain.laws_nestedNameSample :
    let s : Selector := .ofText "a" ⟨0, 1⟩ false
    let v : Value := .map ⟨[(.str "a", .str "x")]⟩
    let more : SourceChain := [.custom .fallback]
    resolve ([.custom .decline] ++ [.list, .mapping, .list] ++ more) s v .sensitive =
        .resolved (.str "x") ∧
      ((Renderer.stocked.withMoreSources more).render nestedNameSample [v]).result = .ok "<x>" := by
  intro s v more
  have hblock : ∀ source ∈ [ValueSource.mapping, .list], source ∈ builtin := by
    simp [builtin]
  have hsame : ∀ source, source ∈ [ValueSource.mapping, .list] ↔
      source ∈ [ValueSource.list, .mapping, .list] := by
    intro source
    simp only [List.mem_cons, List.not_mem_nil, or_false]
    tauto
  have hf : Renderer.stocked.formatters.HandsBack :=
    FormatterRegistry.handsBack_initial.addAll Formatter.handsBack_stock
  obtain ⟨_, hcongr, hmore⟩ := laws
  refine ⟨?_, ?_⟩
  · rw [← hcongr _ _ hblock hsame]
    rfl
  · rw [hmore Renderer.stocked nestedNameSample [v] rfl hf (Nat.le_refl 1) "<x>" rfl more]
    rfl

/-- With two arguments a source behind the others may answer for the first of them. -/
example :
    let name : Placeholder := ⟨[.ofText "a" ⟨1, 2⟩ true], none, none, "\x7ba\x7d", ⟨0, 3⟩⟩
    let args : List Value := [.map ⟨[]⟩, .map ⟨[(.str "a", .str "x")]⟩]
    let r : Renderer := {}
    (r.render [.placeholder name] args).result = .ok "x" ∧
      ((r.withMoreSources [.custom .fallback]).render [.placeholder name] args).result =
        .ok "<a>" := ⟨rfl, rfl⟩

end TextTemplate
