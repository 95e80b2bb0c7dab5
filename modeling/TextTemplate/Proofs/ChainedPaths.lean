import TextTemplate.Proofs.PathFailures
import TextTemplate.Proofs.Printing
import TextTemplate.Proofs.RootSearch

/-!
# Paths in two parts

A path can be followed in two parts, where the second part is a path of its own that starts at what
the first one leads to. Its first selector then becomes a leading one. It is looked up by a search
among the arguments, which now are a single value, and it may be the index of an argument. With a
single argument only zero is such an index, and any other integer goes back to what it was behind
other selectors. So both ways lead to the same value, or fail at the same selector, unless the
second part begins with zero.
-/

namespace TextTemplate

/-! ## Texts of paths -/

namespace Selector

/-- The path of segments with these texts, the first of which is the leading one, without places. -/
def pathOf : List String → List Selector
  | [] => []
  | text :: texts => ofText text default true :: texts.map (ofText · default false)

theorem pathOf_append {texts : List String} (h : texts ≠ []) (more : List String) :
    pathOf (texts ++ more) = pathOf texts ++ more.map (ofText · default false) := by
  cases texts with
  | nil => exact absurd rfl h
  | cons text texts => rw [List.cons_append, pathOf, pathOf, List.map_append, List.cons_append]

theorem length_pathOf (texts : List String) : (pathOf texts).length = texts.length := by
  cases texts with
  | nil => rfl
  | cons text texts => rw [pathOf, List.length_cons, List.length_map, List.length_cons]

theorem ofNat_toInt_toNat {n : Int64} (h : 0 ≤ n) : Int64.ofNat n.toInt.toNat = n :=
  Int64.ofNat_toNatClampNeg n h

/-- A leading segment that is no index of an argument is read as it is behind other segments. -/
theorem asIndex_ofText (text : String) (span : Span) :
    (ofText text span true).asIndex = ofText text span false := by
  unfold ofText asIndex
  cases integer? text with
  | none => rfl
  | some n =>
    by_cases hn : 0 ≤ n
    · simp only [Bool.true_and, hn, decide_true, if_true, Bool.false_and, Bool.false_eq_true,
        if_false, ofNat_toInt_toNat]
    · simp only [Bool.true_and, hn, decide_false, Bool.false_and, Bool.false_eq_true, if_false]

/-- Among a single argument nothing but zero is an index. -/
theorem argument?_ofText {text : String} (h : integer? text ≠ some 0) (span : Span) (v : Value) :
    Path.argument? [v] (ofText text span true) = none := by
  unfold ofText Path.argument?
  cases hn : integer? text with
  | none => rfl
  | some n =>
    by_cases hpos : 0 ≤ n
    · have hne : n.toInt ≠ 0 := by
        intro hzero
        rw [← Int64.toInt_zero, Int64.toInt_inj] at hzero
        exact h (hzero ▸ hn)
      have hle : 0 ≤ n.toInt := by
        rw [← Int64.toInt_zero]
        exact Int64.le_iff_toInt_le.mp hpos
      simp only [Bool.true_and, hpos, decide_true, if_true]
      exact List.getElem?_eq_none (by rw [List.length_singleton]; omega)
    · simp only [Bool.true_and, hpos, decide_false, Bool.false_eq_true, if_false]

end Selector

/-! ## Places do not matter -/

/-- The answers of the sources do not depend on where a selector stands. -/
def SourceChain.IgnoresSpans (sources : SourceChain) : Prop :=
  ∀ (s : Selector) (span : Span) (v : Value) (case : CaseSensitivity),
    sources.resolve { s with span } v case = sources.resolve s v case

theorem SourceChain.ignoresSpans_builtin : IgnoresSpans builtin := by
  intro s span v case
  cases v <;> rfl

namespace Path

variable {sources : SourceChain} {case : CaseSensitivity}

theorem follow_content (h : sources.IgnoresSpans) (t : Trail) (ss : List Selector) :
    follow sources case t (ss.map Selector.content) = follow sources case t ss := by
  induction ss generalizing t with
  | nil => rfl
  | cons s ss ih =>
    have hs : sources.resolve s.content t.current case = sources.resolve s t.current case :=
      h s default t.current case
    rw [List.map_cons, follow, follow, hs]
    cases sources.resolve s t.current case with
    | resolved next => exact ih (t.advance s next)
    | notApplicable => rfl
    | error kind => rfl

theorem asIndex_content (s : Selector) : s.content.asIndex = s.asIndex.content := by
  obtain ⟨text, kind, span⟩ := s
  cases kind <;> rfl

theorem search_content (h : sources.IgnoresSpans) (s : Selector) (args : List Value) :
    search sources case s.content args = search sources case s args := by
  induction args with
  | nil => rfl
  | cons arg args ih =>
    have hs : sources.resolve s.asIndex.content arg case = sources.resolve s.asIndex arg case :=
      h s.asIndex default arg case
    rw [search, search, asIndex_content, hs]
    cases sources.resolve s.asIndex arg case with
    | resolved v => rfl
    | notApplicable => exact ih
    | error kind => rfl

theorem root_content (h : sources.IgnoresSpans) (args : List Value) (ss : List Selector) :
    root sources case args (ss.map Selector.content) = root sources case args ss := by
  cases ss with
  | nil => rfl
  | cons s ss =>
    have hargument : argument? args s.content = argument? args s := rfl
    rw [List.map_cons, root, root, hargument, search_content h]
    rfl

/-- A path is followed in the same way wherever its selectors stand. -/
theorem resolve_content (h : sources.IgnoresSpans) (args : List Value) (ss : List Selector) :
    resolve sources case args (ss.map Selector.content) = resolve sources case args ss := by
  rw [resolve, resolve, root_content h]
  refine congrArg _ (funext fun t ↦ ?_)
  rw [← List.map_drop, follow_content h]

end Path

/-! ## Following in two parts -/

/-- A trail behind another one. -/
def Trail.behind (t first : Trail) : Trail :=
  { current := t.current, depth := first.depth + t.depth, resolved := first.resolved ++ t.resolved }

/-- A failure of a path behind a trail. -/
def PathFailure.behind (f : PathFailure) (first : Trail) : PathFailure :=
  { f with depth := first.depth + f.depth, resolved := first.resolved ++ f.resolved }

/-- Behind a trail, a path starts at the value that the trail reached. -/
theorem Trail.start_behind (t : Trail) : behind { current := t.current } t = t := by
  rw [behind, List.append_nil]
  rfl

theorem Trail.advance_behind (t first : Trail) (s : Selector) (v : Value) :
    (t.behind first).advance s v = (t.advance s v).behind first := by
  rw [advance, behind, advance, behind, List.append_assoc, Nat.add_assoc]

namespace Path

/-- What a path comes to behind a trail. -/
def behind (first : Trail) : Except PathFailure Trail → Except PathFailure Trail
  | .ok t => .ok (t.behind first)
  | .error f => .error (f.behind first)

variable {sources : SourceChain} {case : CaseSensitivity}

theorem follow_append (t : Trail) (ss ts : List Selector) :
    follow sources case t (ss ++ ts) = (do
      let u ← follow sources case t ss
      follow sources case u ts) := by
  induction ss generalizing t with
  | nil => rfl
  | cons s ss ih =>
    rw [List.cons_append, follow, follow]
    cases sources.resolve s t.current case with
    | resolved next => exact ih (t.advance s next)
    | notApplicable => rfl
    | error kind => rfl

theorem follow_behind (t first : Trail) (ss : List Selector) :
    follow sources case (t.behind first) ss = behind first (follow sources case t ss) := by
  induction ss generalizing t with
  | nil => rfl
  | cons s ss ih =>
    have hcurrent : (t.behind first).current = t.current := rfl
    rw [follow, follow, hcurrent]
    cases sources.resolve s t.current case with
    | resolved next =>
      have hnext := ih (t.advance s next)
      rwa [← Trail.advance_behind] at hnext
    | notApplicable => rfl
    | error kind => rfl

theorem resolve_append (args : List Value) {ss : List Selector} (hss : ss ≠ [])
    (ts : List Selector) :
    resolve sources case args (ss ++ ts) = (do
      let t ← resolve sources case args ss
      follow sources case t ts) := by
  have hcovers := covers_of_root sources.failIn_any case ss args
  have hroot : root sources case args (ss ++ ts) = root sources case args ss := by
    cases ss with
    | nil => exact absurd rfl hss
    | cons s ss => rw [List.cons_append, root, root]
  rw [resolve, resolve, bind_assoc, hroot]
  cases hstart : root sources case args ss with
  | error f => rfl
  | ok t =>
    rw [hstart] at hcovers
    have hdrop : (ss ++ ts).drop t.depth = ss.drop t.depth ++ ts :=
      List.drop_append_of_le_length hcovers.depth
    exact (congrArg (follow sources case t) hdrop).trans (follow_append t (ss.drop t.depth) ts)

/-- A path that starts at a single value is followed from there, unless it begins with zero. -/
theorem resolve_singleton (v : Value) {text : String} (h : Selector.integer? text ≠ some 0)
    (texts : List String) :
    resolve sources case [v] (Selector.pathOf (text :: texts)) =
      follow sources case { current := v }
        ((text :: texts).map (Selector.ofText · default false)) := by
  have hargument := Selector.argument?_ofText h default v
  rw [Selector.pathOf, resolve, root_of_not_argument hargument, search, search,
    Selector.asIndex_ofText, List.map_cons, follow]
  -- The only argument to be searched is the value that the rest is followed from.
  cases sources.resolve (Selector.ofText text default false) v case with
  | resolved next => rfl
  | notApplicable => rfl
  | error kind => rfl

/-- **A path in two parts.** A path is followed by following its first part, and then its second
part as a path of its own, behind the trail of the first. -/
theorem resolve_pathOf_append (args : List Value) {p q : List String} (hp : p ≠ []) (hq : q ≠ [])
    (hzero : ∀ text ∈ q.head?, Selector.integer? text ≠ some 0) :
    resolve sources case args (Selector.pathOf (p ++ q)) = (do
      let t ← resolve sources case args (Selector.pathOf p)
      behind t (resolve sources case [t.current] (Selector.pathOf q))) := by
  have hpath : Selector.pathOf p ≠ [] := by
    intro h
    have hlength := Selector.length_pathOf p
    rw [h] at hlength
    exact hp (List.eq_nil_of_length_eq_zero hlength.symm)
  rw [Selector.pathOf_append hp, resolve_append args hpath]
  refine congrArg _ (funext fun t ↦ ?_)
  cases q with
  | nil => exact absurd rfl hq
  | cons text texts =>
    rw [resolve_singleton t.current (hzero text rfl), ← follow_behind, Trail.start_behind]

end Path

end TextTemplate
