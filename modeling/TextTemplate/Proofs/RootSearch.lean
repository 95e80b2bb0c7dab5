import TextTemplate.Engine

/-!
# Where a path starts

A path that does not begin with the index of an argument starts in the first argument in which its
first selector leads somewhere. The search for that argument takes an error for an answer: an
argument that refuses the selector ends it, so the arguments behind are never asked.
`resolve_of_first_resolved` says what comes of this, and `format_mixedSample` is a call in which an
argument that would have answered is out of reach.
-/

namespace TextTemplate

/-- The error that an answer is. -/
def SourceOutcome.error? : SourceOutcome → Option ResolutionErrorKind
  | .error kind => some kind
  | _ => none

namespace Path

variable {sources : SourceChain} {case : CaseSensitivity} {s : Selector}

/-- No argument of these leads anywhere. -/
def Unresolved (sources : SourceChain) (case : CaseSensitivity) (s : Selector)
    (args : List Value) : Prop :=
  ∀ arg ∈ args, ∀ v, sources.resolve s arg case ≠ .resolved v

/-- The error of the first argument that answers with one. -/
def firstError? (sources : SourceChain) (case : CaseSensitivity) (s : Selector)
    (args : List Value) : Option ResolutionErrorKind :=
  args.findSome? fun arg ↦ (sources.resolve s arg case).error?

/-- Behind arguments that lead nowhere the search goes on, unless one of them answered with an
error. -/
theorem search_append {before : List Value} (h : Unresolved sources case s.asIndex before)
    (args : List Value) :
    search sources case s (before ++ args) = match firstError? sources case s.asIndex before with
      | none => search sources case s args
      | some kind => .error (Trail.fail {} kind s.text) := by
  induction before with
  | nil => rfl
  | cons arg before ih =>
    have harg := h arg List.mem_cons_self
    have hrest := ih fun a ha ↦ h a (List.mem_cons_of_mem arg ha)
    rw [List.cons_append, search, firstError?, List.findSome?_cons]
    cases hanswer : sources.resolve s.asIndex arg case with
    | resolved v => exact absurd hanswer (harg v)
    | notApplicable => exact hrest
    | error kind => rfl

theorem search_cons_of_resolved {arg v : Value} {args : List Value}
    (h : sources.resolve s.asIndex arg case = .resolved v) :
    search sources case s (arg :: args) = .ok (Trail.advance {} s v) := by
  rw [search, h]

theorem root_of_not_argument {args : List Value} (h : argument? args s = none)
    (others : List Selector) : root sources case args (s :: others) = search sources case s args := by
  rw [root, h]

/-- **Where a path starts.** Among arguments that the first selector is no index of, there is a first
one in which that selector leads somewhere. The path starts there if no argument before it answered
with an error, and fails with the first such error otherwise. -/
theorem resolve_of_first_resolved {first : Selector} {before after : List Value} {arg v : Value}
    (hindex : argument? (before ++ arg :: after) first = none)
    (hbefore : Unresolved sources case first.asIndex before)
    (harg : sources.resolve first.asIndex arg case = .resolved v) (others : List Selector) :
    resolve sources case (before ++ arg :: after) (first :: others) =
      match firstError? sources case first.asIndex before with
      | none => follow sources case (Trail.advance {} first v) others
      | some kind => .error (Trail.fail {} kind first.text) := by
  rw [resolve, root_of_not_argument hindex, search_append hbefore, search_cons_of_resolved harg]
  cases firstError? sources case first.asIndex before with
  | none => rfl
  | some kind => rfl

/-- A list that is too short, a text, and a map with a number for a key. -/
def mixedSample : List Value :=
  [.list [.str "a"], .str "b", .map ⟨[(.int 5, .str "x")]⟩]

/-- Behind arguments that answer with no error, the key of the map is found. -/
theorem resolve_of_first_resolved_mixedSample :
    let five : Selector := .ofText "5" ⟨1, 2⟩ true
    let args := mixedSample.drop 1
    argument? args five = none ∧
      Unresolved .builtin .sensitive five.asIndex [.str "b"] ∧
      SourceChain.builtin.resolve five.asIndex (.map ⟨[(.int 5, .str "x")]⟩) .sensitive =
        .resolved (.str "x") ∧
      resolve .builtin .sensitive args [five] = .ok ⟨.str "x", 1, ["5"]⟩ := by
  have hindex : argument? ([.str "b"] ++ .map ⟨[(.int 5, .str "x")]⟩ :: [])
      (.ofText "5" ⟨1, 2⟩ true) = none := rfl
  have hbefore : Unresolved .builtin .sensitive (Selector.ofText "5" ⟨1, 2⟩ true).asIndex
      [.str "b"] := by
    intro arg harg v
    obtain rfl := List.mem_singleton.mp harg
    exact nofun
  have harg : SourceChain.builtin.resolve (Selector.ofText "5" ⟨1, 2⟩ true).asIndex
      (.map ⟨[(.int 5, .str "x")]⟩) .sensitive = .resolved (.str "x") := rfl
  exact ⟨hindex, hbefore, harg, resolve_of_first_resolved hindex hbefore harg []⟩

/-- The key of the map is out of reach behind a list that is too short. -/
theorem format_mixedSample :
    argument? mixedSample (.ofText "5" ⟨1, 2⟩ true) = none ∧
      SourceChain.builtin.resolve (Selector.ofText "5" ⟨1, 2⟩ true).asIndex
          (.map ⟨[(.int 5, .str "x")]⟩) .sensitive = .resolved (.str "x") ∧
      format "\x7b5\x7d" mixedSample {} =
        .error (.unresolved ⟨.indexOutOfRange 5 1, "\x7b5\x7d", ⟨0, 3⟩, "5", 0, []⟩) :=
  ⟨rfl, rfl, rfl⟩

end Path

end TextTemplate
