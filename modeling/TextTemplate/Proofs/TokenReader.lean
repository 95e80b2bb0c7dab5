import TextTemplate.Proofs.Lexing

/-!
# A reader of tokens

The reader of templates goes through characters, and how far it has come is what is left of them.
The reader here has a list of tokens and an index into it. It looks two tokens ahead, collects
literal text until something else has to be written, and where an escape takes only the first letter
of a text, it puts the rest of that text back into the list, so that the index stays where it is.

## What must not happen

Nothing in this form says that the reader comes to an end, or that the token it takes is the one it
expects. So each step that could go wrong has an outcome of its own, a `Defect`, which no error of a
text can be mistaken for. In particular every round of a loop, every placeholder and every specifier
compares what is left of the text with what was left before, and stops with a defect if it is not
less. That no text leads to a defect is what there is to prove about this reader.
-/

namespace TextTemplate.TokenReader

/-- What must not happen while a text is read. -/
inductive Defect where
  /-- The bound on the recursion is met. -/
  | exhausted
  /-- As much of the text is left as before. -/
  | stalled
  /-- A placeholder is due where no token is left. -/
  | noOpening
  /-- A token has no character of its own and is no text. -/
  | noText
  /-- A text behind a backslash is empty. -/
  | emptyText
  /-- A span does not lie between characters. -/
  | noSlice

/-- Why reading stopped. -/
inductive Halt where
  | defect (d : Defect)
  | malformed (e : SyntaxError)

section

variable {α : Type}

/-- Stops at an error. -/
def fail (kind : SyntaxErrorKind) (span : Span) : Except Halt α := .error (.malformed ⟨kind, span⟩)

/-- Stops at an opening brace that nothing closes. -/
def unclosed (opening : Nat) : Except Halt α := fail .unclosedPlaceholder (.byte opening)

/-- Stops at a token that does not belong where it is, and shows its first character. -/
def unexpected (token : Token) (span : Span) : Except Halt α :=
  fail (.unexpectedChar (token.chars.head?.getD ' ')) span

end

/-! ## States -/

/-- The tokens of a text and the index of the next one. -/
structure State where
  tokens : List (Token × Span)
  index : Nat

namespace State

/-- The state in front of a text. -/
def ofString (source : String) : State := ⟨Token.lex source, 0⟩

/-- The next token. -/
def peek? (s : State) : Option (Token × Span) := s.tokens[s.index]?

/-- The token so many places behind the next one, without its span. -/
def token? (s : State) (n : Nat) : Option Token := s.tokens[s.index + n]?.map Prod.fst

/-- The state behind so many tokens. -/
def skip (s : State) (n : Nat) : State := { s with index := s.index + n }

/-- The state with another token in the place of the next one. -/
def replace (s : State) (x : Token × Span) : State := { s with tokens := s.tokens.set s.index x }

/-- The tokens that are not consumed yet. -/
def unread (s : State) : List (Token × Span) := s.tokens.drop s.index

/-- How many bytes of the text are not consumed yet. -/
def left (s : State) : Nat := byteWidth (s.unread.flatMap fun x ↦ x.1.chars)

end State

/-- Goes on where less of the text is left than there was before. -/
def onward {α : Type} (before after : State) (r : Except Halt α) : Except Halt α :=
  if after.left < before.left then r else .error (.defect .stalled)

/-! ## Literal text -/

/-- The nodes that were read, and the literal behind them that is still being collected. -/
structure Collected where
  nodes : Template := []
  literal : Option (String × Span) := none

namespace Collected

/-- Puts text behind what is being collected. -/
def push (c : Collected) (text : String) (span : Span) : Collected :=
  match c.literal with
  | none => { c with literal := some (text, span) }
  | some (front, first) => { c with literal := some (front ++ text, first.through span) }

/-- The nodes, with the literal that was being collected as the last of them. -/
def flush (c : Collected) : Template :=
  match c.literal with
  | none => c.nodes
  | some (text, span) => c.nodes ++ [.literal ⟨text, span⟩]

/-- Puts a placeholder behind what was collected. -/
def place (c : Collected) (p : Placeholder) : Collected := ⟨c.flush ++ [.placeholder p], none⟩

end Collected

/-- The character that a token alone stands for. -/
def char? : Token → Option Char
  | .mark c => some c
  | .text _ => none

/-- The character that a letter behind a backslash stands for. -/
def letter? : Char → Option Char
  | 'n' => some '\n'
  | 't' => some '\t'
  | _ => none

/-- Reads what stands behind a backslash. Of a text only the first letter is read, and the rest of
it becomes the next token. -/
def escape (backslash : Span) (s : State) : Except Halt (Char × Span × State) :=
  match s.peek? with
  | none => fail (.invalidEscape none) backslash
  | some (token, span) =>
    match char? token with
    | some c => .ok (c, backslash.through span, s.skip 1)
    | none =>
      match token with
      | .mark _ => .error (.defect .noText)
      | .text text =>
        match text.toList with
        | [] => .error (.defect .emptyText)
        | first :: rest =>
          let split := span.start + first.utf8Size
          match letter? first with
          | none => fail (.invalidEscape (some first)) ⟨backslash.start, split⟩
          | some c =>
            let next :=
              if split = span.stop then s.skip 1
              else s.replace (.text (String.ofList rest), ⟨split, span.stop⟩)
            .ok (c, ⟨backslash.start, split⟩, next)

/-! ## The parts of a placeholder -/

/-- Whether a closing brace follows that no opening one here belongs to, when so many more are open.
The token behind a backslash is passed over where the backslash escapes it. -/
def closes (mode : EscapeMode) : (escaped : Bool) → (depth : Nat) → List (Token × Span) → Bool
  | _, _, [] => false
  | true, depth, _ :: rest => closes mode false depth rest
  | false, depth, (.mark '\\', _) :: rest => closes mode (mode == .backslash) depth rest
  | false, depth, (.mark '{', _) :: rest => closes mode false (depth + 1) rest
  | false, 0, (.mark '}', _) :: _ => true
  | false, depth + 1, (.mark '}', _) :: rest => closes mode false depth rest
  | false, depth, _ :: rest => closes mode false depth rest

/-- Reads one segment of a path. -/
def segment (opening : Nat) (leading : Bool) (s : State) : Except Halt (Selector × State) :=
  match s.peek? with
  | none => unclosed opening
  | some (.text text, span) =>
    match Parser.firstInvalid? text.toList with
    | some (n, c) =>
      fail (.invalidSelectorChar c) ⟨span.start + n, span.start + n + c.utf8Size⟩
    | none => .ok (.ofText text span leading, s.skip 1)
  | some (.mark c, span) =>
    if c = '}' ∨ c = ':' ∨ c = ',' then
      if leading then fail .emptySelector ⟨opening, span.stop⟩ else fail .emptySegment span
    else if c = '.' then fail .emptySegment span
    else unexpected (.mark c) span

/-- Reads the segments of a path behind those that were found. -/
def selectors (opening : Nat) : (bound : Nat) → (found : List Selector) → State →
    Except Halt (List Selector × State)
  | 0, _, _ => .error (.defect .exhausted)
  | bound + 1, found, s => do
    let (x, next) ← segment opening found.isEmpty s
    if next.token? 0 = some (.mark '.') then
      onward s (next.skip 1) (selectors opening bound (found ++ [x]) (next.skip 1))
    else return (found ++ [x], next)

/-- Reads the width behind a comma, where there is a comma. -/
def alignment (s : State) : Except Halt (Option Int32 × State) :=
  match s.peek? with
  | some (.mark ',', comma) =>
    match (s.skip 1).peek? with
    | some (.text text, span) =>
      match (Numeral.signed? text.toList).bind Numeral.int32? with
      | some n => .ok (some n, s.skip 2)
      | none => fail (.invalidAlignment text) span
    | _ => fail (.invalidAlignment "") comma
  | _ => .ok (none, s)

/-- Reads the specifier behind a colon, where there is a colon, in a placeholder that begins at an
earlier state. -/
def format (source : List Char) (before : State)
    (specifier : State → Except Halt (Template × State)) (s : State) :
    Except Halt (Option Format × State) :=
  match s.peek? with
  | some (.mark ':', colon) => do
    let (template, next) ← onward before (s.skip 1) (specifier (s.skip 1))
    let stop := (next.peek?.map fun x ↦ x.2.start).getD (byteWidth source)
    return (some (.ofTemplate template ⟨colon.stop, stop⟩), next)
  | _ => return (none, s)

/-- Reads the brace that closes a placeholder. -/
def close (source : List Char) (opening : Nat) (selectors : List Selector)
    (alignment : Option Int32) (format : Option Format) (s : State) :
    Except Halt (Placeholder × State) :=
  match s.peek? with
  | some (.mark '}', last) =>
    let span : Span := ⟨opening, last.stop⟩
    match span.slice? source with
    | some raw =>
      .ok ({ selectors, alignment, format, raw := String.ofList raw, span }, s.skip 1)
    | none => .error (.defect .noSlice)
  | some (token, span) => unexpected token span
  | none => unclosed opening

/-- Reads a placeholder, whose opening brace is the next token. -/
def placeholder (source : List Char) (mode : EscapeMode) (bound : Nat)
    (specifier : State → Except Halt (Template × State)) (s : State) :
    Except Halt (Placeholder × State) :=
  match s.peek? with
  | none => .error (.defect .noOpening)
  | some (_, opening) =>
    let inner := s.skip 1
    if closes mode false 0 inner.unread then do
      let (selectors, k) ← selectors opening.start bound [] inner
      let (alignment, k) ← alignment k
      let (format, k) ← format source s specifier k
      let (p, next) ← close source opening.start selectors alignment format k
      onward s next (.ok (p, next))
    else unclosed opening.start

/-! ## Templates -/

/-- What a round of the loop over nodes comes to. -/
inductive Round where
  | stop
  | next (c : Collected) (s : State)

/-- One round of the loop over nodes. -/
def round (mode : EscapeMode) (scope : Parser.Scope)
    (placeholder : State → Except Halt (Placeholder × State)) (c : Collected) (s : State) :
    Except Halt Round :=
  match s.peek? with
  | none => .ok .stop
  | some (.text text, span) => .ok (.next (c.push text span) (s.skip 1))
  | some (.mark m, span) =>
    if mode = .doubledBrace ∧ Parser.isBrace m = true ∧ s.token? 1 = some (.mark m) then
      .ok (.next (c.push (.singleton m) ⟨span.start, span.stop + 1⟩) (s.skip 2))
    else if m = '{' then do
      let (p, next) ← placeholder s
      return .next (c.place p) next
    else if m = '}' then
      match scope with
      | .root => fail .unexpectedClose span
      | .format => .ok .stop
    else if m = '\\' ∧ mode = .backslash then do
      let (d, span, next) ← escape span (s.skip 1)
      return .next (c.push (.singleton d) span) next
    else .ok (.next (c.push (.singleton m) span) (s.skip 1))

/-- Reads literal text and placeholders behind what was collected. -/
def nodes (source : List Char) (mode : EscapeMode) :
    (bound : Nat) → Parser.Scope → Collected → State → Except Halt (Template × State)
  | 0, _, _, _ => .error (.defect .exhausted)
  | bound + 1, scope, c, s => do
    match ← round mode scope (placeholder source mode bound (nodes source mode bound .format {}))
      c s with
    | .stop => return (c.flush, s)
    | .next c next => onward s next (nodes source mode bound scope c next)

/-- The template that a text is under an escape mode. The recursion is bounded by the bytes of the
text and one more. -/
def parse (mode : EscapeMode) (source : String) : Except Halt Template := do
  let (template, _) ← nodes source.toList mode (source.utf8ByteSize + 1) .root {}
    (.ofString source)
  return template

end TextTemplate.TokenReader
