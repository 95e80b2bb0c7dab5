import TextTemplate.Source.Basic

/-!
# Paths

A path starts at an argument and is followed selector by selector. Where it starts is decided by the
first selector. If that is the index of an argument, it starts there. Otherwise the arguments are
searched in order for one in which the selector leads somewhere, so a name need not say which
argument it belongs to.

What has been followed is kept on the way, as a trail. That is what an error says of how far its path
was followed.
-/

namespace TextTemplate

/-- Where a path cannot be followed further. -/
structure PathFailure where
  kind : ResolutionErrorKind
  /-- The selector that failed; empty if the whole path was followed. -/
  selector : String
  /-- How many selectors had been followed. -/
  depth : Nat
  /-- The selectors that had been followed. -/
  resolved : List String

/-- How far a path has been followed. -/
structure Trail where
  /-- The value that was reached. -/
  current : Value := .null
  /-- How many selectors were followed, which is the place of the next one. -/
  depth : Nat := 0
  /-- The selectors that were followed. -/
  resolved : List String := []

namespace Trail

/-- Goes on to the value that a selector leads to. -/
def advance (t : Trail) (s : Selector) (v : Value) : Trail :=
  { current := v, depth := t.depth + 1, resolved := t.resolved ++ [s.text] }

/-- Fails at the given selector. -/
def fail (t : Trail) (kind : ResolutionErrorKind) (selector : String) : PathFailure :=
  { kind, selector, depth := t.depth, resolved := t.resolved }

end Trail

namespace Path

/-- Follows the rest of a path. -/
def follow (sources : SourceChain) (case : CaseSensitivity) :
    Trail → List Selector → Except PathFailure Trail
  | t, [] => .ok t
  | t, s :: ss =>
    match sources.resolve s t.current case with
    | .resolved next => follow sources case (t.advance s next) ss
    | .notApplicable => .error (t.fail .notFound s.text)
    | .error kind => .error (t.fail kind s.text)

/-- Searches the arguments for one in which the first selector, read as a list index where it could
be an argument index, leads somewhere. -/
def search (sources : SourceChain) (case : CaseSensitivity) (first : Selector) :
    List Value → Except PathFailure Trail
  | [] => .error (Trail.fail {} .notFound first.text)
  | arg :: args =>
    match sources.resolve first.asIndex arg case with
    | .resolved v => .ok (Trail.advance {} first v)
    | .notApplicable => search sources case first args
    | .error kind => .error (Trail.fail {} kind first.text)

/-- The argument that a selector is the index of. -/
def argument? (args : List Value) (s : Selector) : Option Value :=
  match s.kind with
  | .positional n => args[n]?
  | _ => none

/-- Where a path starts: at what its first selector leads to. An empty path starts at the first
argument, or at null. -/
def root (sources : SourceChain) (case : CaseSensitivity) (args : List Value) :
    List Selector → Except PathFailure Trail
  | [] => .ok { current := args.head?.getD .null }
  | first :: _ =>
    match argument? args first with
    | some v => .ok (Trail.advance {} first v)
    | none => search sources case first args

/-- Follows a whole path. -/
def resolve (sources : SourceChain) (case : CaseSensitivity) (args : List Value)
    (selectors : List Selector) : Except PathFailure Trail := do
  let t ← root sources case args selectors
  follow sources case t (selectors.drop t.depth)

end Path

namespace Placeholder

/-- The error of a placeholder whose path failed. -/
def pathError (p : Placeholder) (f : PathFailure) : ResolutionError :=
  { kind := f.kind, placeholder := p.raw, span := p.span, selector := f.selector
    depth := f.depth, resolved := f.resolved }

/-- The error of a placeholder whose path was followed to a value that a formatter refuses. -/
def formatterError (p : Placeholder) (t : Trail) (name message : String) : ResolutionError :=
  p.pathError (t.fail (.formatter name message) "")

end Placeholder

end TextTemplate
