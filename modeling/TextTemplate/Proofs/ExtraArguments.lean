import TextTemplate.Proofs.Chaining
import TextTemplate.Proofs.RenderingShapes

/-!
# More arguments than needed

The arguments of a call are searched in order, and only at the top level of a template: what is
nested sees the one value that it is rendered against. So arguments behind others are asked only
where all of the others had nothing to say, and what a call gives without them it gives with them.

The number of arguments matters in one more place. A path that starts with an index starts at that
argument, if there is one, and a list is searched for the index otherwise. `StartsWithin` keeps to
indexes for which there is one already.

## Successful renders

`RenderM.Improves` says that a render does what another one does wherever that one succeeds. Under
the action that aborts, a placeholder that finds nothing ends the render, so whatever more arguments
make of it is an improvement.
-/

namespace TextTemplate

/-- The path does not start with the index of an argument behind the first so many. -/
def Placeholder.StartsWithin (count : Nat) (p : Placeholder) : Prop :=
  ∀ first ∈ p.selectors.head?, ∀ n, first.kind = .positional n → n < count

/-! ## Paths -/

namespace Path

/-- The failure of a path whose first selector leads nowhere from any argument. -/
def nowhere (first : Selector) : PathFailure := Trail.fail {} .notFound first.text

/-- The search goes on behind some arguments only if it finds nothing among them. -/
theorem search_more (sources : SourceChain) (case : CaseSensitivity) (first : Selector)
    (args extra : List Value) :
    search sources case first (args ++ extra) = search sources case first args ∨
      search sources case first args = .error (nowhere first) := by
  induction args with
  | nil => exact Or.inr rfl
  | cons arg args ih =>
    rw [List.cons_append, search, search]
    cases sources.resolve first.asIndex arg case with
    | resolved v => exact Or.inl rfl
    | notApplicable => exact ih
    | error kind => exact Or.inl rfl

/-- An index of one of some arguments is the index of the same one among more of them. -/
theorem argument?_more {first : Selector} {args : List Value}
    (h : ∀ n, first.kind = .positional n → n < args.length) (extra : List Value) :
    argument? (args ++ extra) first = argument? args first := by
  unfold argument?
  split
  · rename_i n hkind
    exact List.getElem?_append_left (h n hkind)
  · rfl

theorem resolve_more (sources : SourceChain) (case : CaseSensitivity) {first : Selector}
    {args : List Value} (h : ∀ n, first.kind = .positional n → n < args.length)
    (others : List Selector) (extra : List Value) :
    resolve sources case (args ++ extra) (first :: others) =
        resolve sources case args (first :: others) ∨
      resolve sources case args (first :: others) = .error (nowhere first) := by
  rw [resolve, resolve, root, root, argument?_more h]
  cases argument? args first with
  | some v => exact Or.inl rfl
  | none =>
    rcases search_more sources case first args extra with hsame | hnowhere
    · exact Or.inl (congrArg (· >>= _) hsame)
    · exact Or.inr (congrArg (· >>= _) hnowhere)

end Path

/-! ## Renders -/

namespace RenderM

/-- The second render does what the first one does, wherever the first one succeeds. -/
def Improves (α : Type) (act act' : RenderM α) : Prop :=
  ∀ out a next, act.exec out = (.ok a, next) → act'.exec out = (.ok a, next)

theorem improves_refl {α : Type} (act : RenderM α) : Improves α act act := fun _ _ _ h ↦ h

theorem sequential_improves : Sequential Improves where
  pure a := improves_refl (Pure.pure a)
  bind {α β act act' f f'} h hf := by
    intro out b last hlast
    rw [exec_bind] at hlast ⊢
    have hact := h out
    generalize act.exec out = ran at hact hlast
    obtain ⟨result, next⟩ := ran
    cases result with
    | ok a =>
      rw [hact a next rfl]
      exact hf a next b last hlast
    | error e => exact absurd (congrArg Prod.fst hlast) nofun

end RenderM

namespace Renderer

variable {r : Renderer} {inner : NestedRender} {args : List Value} {p : Placeholder}

/-- More arguments make no difference to a placeholder, unless its first selector leads nowhere. -/
theorem renderPlaceholder_more (hpath : p.selectors ≠ []) (hp : p.StartsWithin args.length)
    (extra : List Value) :
    r.renderPlaceholder inner p (args ++ extra) = r.renderPlaceholder inner p args ∨
      ∃ first, r.resolve args p.selectors = .error (Path.nowhere first) := by
  obtain ⟨first, others, hselectors⟩ := List.exists_cons_of_ne_nil hpath
  have hindex : ∀ n, first.kind = .positional n → n < args.length := by
    refine hp first ?_
    rw [hselectors]
    exact rfl
  have hresolve := Path.resolve_more r.sources r.settings.caseSensitivity hindex others extra
  rw [← hselectors] at hresolve
  rcases hresolve with hsame | hnowhere
  · refine Or.inl ?_
    have hresolved : r.resolve (args ++ extra) p.selectors = r.resolve args p.selectors := hsame
    rw [renderPlaceholder, renderPlaceholder, hresolved]
  · exact Or.inr ⟨first, hnowhere⟩

theorem improves_renderPlaced (habort : r.settings.errorAction = .abort)
    (hpath : p.selectors ≠ []) (hp : p.StartsWithin args.length) (extra : List Value) :
    RenderM.Improves Unit (r.renderPlaced inner args p) (r.renderPlaced inner (args ++ extra) p) := by
  rcases renderPlaceholder_more hpath hp extra with hsame | ⟨first, hnowhere⟩
  · rw [renderPlaced, renderPlaced, hsame]
    exact RenderM.improves_refl _
  · intro out a next hok
    -- A placeholder that finds nothing ends the render, so there is nothing to be kept.
    have hthrow : (r.renderPlaced inner args p).exec out =
        (.error (p.pathError (Path.nowhere first)), out) := by
      rw [exec_renderPlaced, renderPlaceholder_of_error hnowhere]
      exact congrArg (RenderM.exec · out) (recover_of_abort habort p _)
    rw [hthrow] at hok
    cases congrArg Prod.fst hok

theorem improves_renderNodes (habort : r.settings.errorAction = .abort) {t : Template}
    (ht : ∀ p, .placeholder p ∈ t → p.selectors ≠ [] ∧ p.StartsWithin args.length)
    (extra : List Value) :
    RenderM.Improves Unit (r.renderNodes inner t args) (r.renderNodes inner t (args ++ extra)) :=
  renderNodes_related RenderM.sequential_improves (fun _ ↦ RenderM.improves_refl _) fun p hp ↦
    improves_renderPlaced habort (ht p hp).1 (ht p hp).2 extra

end Renderer

/-- **More arguments are harmless.** Under the action that aborts, let no placeholder of a template
that was read start with the index of an argument that is not there. If the template is rendered to
a text, more arguments behind the others do not change what the render gives. They do not change it
for a placeholder on its own either if that fails, unless nothing was found at the front of its own
path. -/
theorem Renderer.render_more {mode : EscapeMode} {source : String} {t : Template}
    (hparse : Template.parse mode source = .ok t) {r : Renderer}
    (habort : r.settings.errorAction = .abort) {args : List Value}
    (ht : ∀ p, .placeholder p ∈ t → p.StartsWithin args.length) (extra : List Value) :
    (∀ text, (r.render t args).result = .ok text →
        r.render t (args ++ extra) = r.render t args) ∧
      ∀ p, .placeholder p ∈ t → ∀ e, (r.render [.placeholder p] args).result = .error e →
        ¬(e.kind = .notFound ∧ e.depth = 0 ∧ e.span = p.span) →
          r.render [.placeholder p] (args ++ extra) = r.render [.placeholder p] args := by
  have hpath : ∀ p, .placeholder p ∈ t → p.selectors ≠ [] := fun p hp ↦
    ((Template.Contains.here hp).wellFormedPath hparse).ne_nil
  refine ⟨fun text htext ↦ ?_, fun p hp e he hfound ↦ ?_⟩
  · have himproves : RenderM.Improves Unit (r.renderNodes (r.nested r.depth) t args)
        (r.renderNodes (r.nested r.depth) t (args ++ extra)) :=
      improves_renderNodes habort (fun p hp ↦ ⟨hpath p hp, ht p hp⟩) extra
    have hrun := himproves {}
    rw [render_eq] at htext
    rw [render_eq, render_eq]
    generalize (r.renderNodes (r.nested r.depth) t args).exec {} = ran at hrun htext ⊢
    obtain ⟨result, out⟩ := ran
    cases result with
    | ok a => rw [hrun a out rfl]
    | error e => exact absurd htext nofun
  · rcases renderPlaceholder_more (hpath p hp) (ht p hp) extra with hsame | ⟨first, hnowhere⟩
    · rw [render_singleton, render_singleton, renderPlaced, renderPlaced, hsame]
    · rw [render_singleton, exec_renderPlaced, renderPlaceholder_of_error hnowhere] at he
      have hthrow : (Outcome.ofRun ((r.place p (.error (p.pathError (Path.nowhere first)))).exec
          {})).result = .error e := he
      rw [place, recover_of_abort habort] at hthrow
      obtain rfl : p.pathError (Path.nowhere first) = e := Except.error.inj hthrow
      exact absurd ⟨rfl, rfl, rfl⟩ hfound

/-- A specifier with an index in it, which sees one value and so is no argument index. -/
def innerIndexSample : Template :=
  let inner : Placeholder := ⟨[.ofText "1" ⟨4, 5⟩ true], none, none, "\x7b1\x7d", ⟨3, 6⟩⟩
  [.placeholder ⟨[.ofText "a" ⟨1, 2⟩ true], none,
    some (.ofTemplate [.placeholder inner] ⟨3, 6⟩), "\x7ba:\x7b1\x7d\x7d", ⟨0, 7⟩⟩]

/-- A path that fails behind its first selector. -/
def outOfRangeSample : Placeholder :=
  ⟨[.ofText "a" ⟨1, 2⟩ true, .ofText "5" ⟨3, 4⟩ false], none, none, "\x7ba.5\x7d", ⟨0, 5⟩⟩

theorem Renderer.render_more_indexSample :
    let r : Renderer := {}
    let args : List Value := [.map ⟨[(.str "a", .list [.str "x", .str "y"])]⟩]
    let extra : List Value := [.list [.str "z", .str "w"]]
    Template.parse .backslash "\x7ba:\x7b1\x7d\x7d" = .ok innerIndexSample ∧
      Template.parse .backslash "\x7ba.5\x7d" = .ok [.placeholder outOfRangeSample] ∧
      r.settings.errorAction = .abort ∧
      (∀ p, .placeholder p ∈ innerIndexSample → p.StartsWithin args.length) ∧
      outOfRangeSample.StartsWithin args.length ∧
      (r.render innerIndexSample (args ++ extra)).result = .ok "y" ∧
      (r.render [.placeholder outOfRangeSample] (args ++ extra)).result =
        .error ⟨.indexOutOfRange 5 2, "\x7ba.5\x7d", ⟨0, 5⟩, "5", 1, ["a"]⟩ := by
  intro r args extra
  have hparse : Template.parse .backslash "\x7ba:\x7b1\x7d\x7d" = .ok innerIndexSample := rfl
  have hparse' : Template.parse .backslash "\x7ba.5\x7d" =
      .ok [.placeholder outOfRangeSample] := rfl
  -- Both paths start with a name.
  have hname : ∀ p : Placeholder, (∀ first ∈ p.selectors.head?, first.kind = .name) →
      p.StartsWithin args.length := by
    intro p hp first hfirst n hkind
    rw [hp first hfirst] at hkind
    exact absurd hkind nofun
  have ht : ∀ p, .placeholder p ∈ innerIndexSample → p.StartsWithin args.length := by
    intro p hp
    obtain rfl := Node.placeholder.inj (List.mem_singleton.mp hp)
    exact hname _ fun first hfirst ↦ Option.some.inj hfirst ▸ rfl
  have ht' : outOfRangeSample.StartsWithin args.length :=
    hname _ fun first hfirst ↦ Option.some.inj hfirst ▸ rfl
  obtain ⟨htext, _⟩ := render_more hparse (r := r) rfl ht extra
  have hplaceholder : ∀ p, .placeholder p ∈ [Node.placeholder outOfRangeSample] →
      p.StartsWithin args.length := by
    intro p hp
    obtain rfl := Node.placeholder.inj (List.mem_singleton.mp hp)
    exact ht'
  obtain ⟨_, herror⟩ := render_more hparse' (r := r) rfl hplaceholder extra
  refine ⟨hparse, hparse', rfl, ht, ht', ?_, ?_⟩
  · rw [htext "y" rfl]
    rfl
  · rw [herror outOfRangeSample List.mem_cons_self _ rfl nofun]
    rfl

end TextTemplate
