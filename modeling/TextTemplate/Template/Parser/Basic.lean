import TextTemplate.Error
import TextTemplate.Settings
import TextTemplate.Template.Basic

/-!
# Reading pieces

One function reads each part of a template, from a place in the text to a later place. What is read
are *pieces*: decoded characters and whole placeholders.

## Recursion

A placeholder holds a specifier, which holds placeholders. The recursion is bounded by a number that
the text's length supplies, and running into the bound is an outcome of its own, so that it cannot be
mistaken for an error of the text.

## Looking ahead

Before a placeholder is read, a scan asks whether a closing brace matches its opening one. That is
what makes a missing brace an error at the opening brace and not at the end of the text. The scan is
an argument of the reader, since the reader makes sense without it.
-/

namespace TextTemplate

/-! ## Marks and text

Six characters may carry structure; each of them is a token of its own, and every longest run of
other characters is one token. Whether a mark is escaped is not decided here, since the answer
depends on the escape mode. -/

/-- Whether a character may carry structure. -/
def isMark : Char → Bool
  | '{' | '}' | ':' | '.' | ',' | '\\' => true
  | _ => false

/-- A mark, or a longest run of characters that are none. -/
inductive Token where
  | mark (c : Char)
  | text (s : String)
  deriving DecidableEq, Repr

namespace Token

/-- Puts a character in front of the tokens of the text behind it. -/
def cons (offset : Nat) (c : Char) (tokens : List (Token × Span)) : List (Token × Span) :=
  let stop := offset + c.utf8Size
  if isMark c then (.mark c, ⟨offset, stop⟩) :: tokens
  else match tokens with
    | (.text s, span) :: rest => (.text (String.singleton c ++ s), ⟨offset, span.stop⟩) :: rest
    | _ => (.text (String.singleton c), ⟨offset, stop⟩) :: tokens

/-- The tokens of a text that begins at an offset. -/
def ofChars (offset : Nat) : List Char → List (Token × Span)
  | [] => []
  | c :: cs => cons offset c (ofChars (offset + c.utf8Size) cs)

/-- The tokens of a text, each with its span. -/
def lex (source : String) : List (Token × Span) := ofChars 0 source.toList

end Token

/-! ## Pieces

Each piece has the bytes it was written in, and neighbouring characters are gathered into literals
afterwards. Pieces of two texts are concatenated by `++`, which literals are not, so whatever concerns
neighbouring texts is a statement about pieces. -/

/-- A decoded character of literal text, or a placeholder. -/
inductive Piece where
  | char (c : Char) (span : Span)
  | placeholder (p : Placeholder)

namespace Piece

/-- A literal being gathered from its last character to its first, and the nodes behind it. -/
structure Gathering where
  literal : Option (List Char × Span)
  nodes : List Node

namespace Gathering

/-- The nodes gathered so far. -/
def close : Gathering → List Node
  | ⟨none, nodes⟩ => nodes
  | ⟨some (text, span), nodes⟩ => .literal ⟨String.ofList text, span⟩ :: nodes

/-- Puts a piece in front. -/
def cons : Piece → Gathering → Gathering
  | .char c span, ⟨none, nodes⟩ => ⟨some ([c], span), nodes⟩
  | .char c span, ⟨some (text, last), nodes⟩ => ⟨some (c :: text, span.through last), nodes⟩
  | .placeholder p, g => ⟨none, .placeholder p :: g.close⟩

end Gathering

/-- The template that pieces make: every longest run of characters is one literal. -/
def gather (pieces : List Piece) : Template :=
  (pieces.foldr Gathering.cons ⟨none, []⟩).close

end Piece

/-! ### Gathering, one piece at a time

`Piece.gather` folds over an accumulator, since a run of characters is gathered from its last
character to its first. What it computes is a recursion on the pieces without one: a character goes
into the literal that stands in front, if there is one. -/

namespace Template

/-- Puts a character of literal text in front of a template. -/
def consChar (c : Char) (span : Span) : Template → Template
  | .literal l :: ns => .literal ⟨String.singleton c ++ l.text, span.through l.span⟩ :: ns
  | ns => .literal ⟨String.singleton c, span⟩ :: ns

/-- Whether literal text stands in front. -/
def startsLiteral : Template → Bool
  | .literal _ :: _ => true
  | _ => false

theorem singleton_append_ne_empty (c : Char) (s : String) : String.singleton c ++ s ≠ "" := by
  intro h
  exact String.singleton_ne_empty (String.append_eq_empty_iff.mp h).1

end Template

namespace Piece

namespace Gathering

/-- A literal that is being gathered is not in the nodes yet. -/
def Separate (g : Gathering) : Prop := Template.startsLiteral g.nodes = false

theorem separate_cons (p : Piece) {g : Gathering} (h : g.Separate) : (cons p g).Separate := by
  obtain ⟨literal, nodes⟩ := g
  cases p with
  | placeholder p => rfl
  | char c span =>
    cases literal with
    | none => exact h
    | some l => exact h

theorem close_cons_char (c : Char) (span : Span) {g : Gathering} (h : g.Separate) :
    (cons (.char c span) g).close = Template.consChar c span g.close := by
  obtain ⟨literal, nodes⟩ := g
  cases literal with
  | some l =>
    obtain ⟨text, last⟩ := l
    simp only [cons, close, Template.consChar, String.ofList_cons]
  | none =>
    cases nodes with
    | nil => rfl
    | cons n ns =>
      cases n with
      | placeholder p => rfl
      | literal l => exact absurd h Bool.noConfusion

end Gathering

theorem separate_foldr (ps : List Piece) :
    (ps.foldr Gathering.cons ⟨none, []⟩).Separate := by
  induction ps with
  | nil => rfl
  | cons p ps ih => exact Gathering.separate_cons p ih

@[simp] theorem gather_nil : gather [] = [] := rfl

@[simp] theorem gather_char (c : Char) (span : Span) (ps : List Piece) :
    gather (.char c span :: ps) = Template.consChar c span (gather ps) :=
  Gathering.close_cons_char c span (separate_foldr ps)

@[simp] theorem gather_placeholder (p : Placeholder) (ps : List Piece) :
    gather (.placeholder p :: ps) = .placeholder p :: gather ps := rfl

end Piece

/-! ## Places -/

/-- A place in a text: what is still to be read, and the byte at which it begins. -/
structure Cursor where
  offset : Nat
  rest : List Char

namespace Cursor

/-- The place at the front of a text. -/
def ofString (source : String) : Cursor := ⟨0, source.toList⟩

/-- The longest run of characters here that are no marks, and the place behind it. -/
def run (k : Cursor) : List Char × Cursor :=
  let text := k.rest.takeWhile (!isMark ·)
  (text, ⟨k.offset + byteWidth text, k.rest.dropWhile (!isMark ·)⟩)

/-- The characters between a place and a later one. -/
def upTo (k later : Cursor) : List Char := k.rest.take (k.rest.length - later.rest.length)

end Cursor

namespace Parser

/-- Why reading stopped: the text is no template, or the bound on the recursion was met. -/
inductive Halt where
  | exhausted
  | malformed (e : SyntaxError)

/-- Stops at an error. -/
def fail {α : Type} (kind : SyntaxErrorKind) (start stop : Nat) : Except Halt α :=
  .error (.malformed ⟨kind, ⟨start, stop⟩⟩)

/-- Stops at an opening brace that nothing closes. -/
def unclosed {α : Type} (opening : Nat) : Except Halt α :=
  fail .unclosedPlaceholder opening (opening + 1)

/-! ## Literal text -/

/-- The character that a backslash before this one stands for. -/
def unescape : Char → Option Char
  | 'n' => some '\n'
  | 't' => some '\t'
  | c => if isMark c then some c else none

/-- What a text begins with, where literal text may stand. -/
inductive Front where
  | finish
  /-- A decoded character, the bytes it is written in, and the rest. -/
  | char (c : Char) (width : Nat) (rest : List Char)
  | opening (rest : List Char)
  | closing
  | badEscape (escaped : Option Char)

/-- Reads the front of a text in which a doubled brace is a literal one. -/
def frontDoubled : List Char → Front
  | [] => .finish
  | '{' :: '{' :: rest => .char '{' 2 rest
  | '}' :: '}' :: rest => .char '}' 2 rest
  | '{' :: rest => .opening rest
  | '}' :: _ => .closing
  | c :: rest => .char c c.utf8Size rest

/-- Reads the front of a text in which a backslash escapes the character behind it. -/
def frontBackslash : List Char → Front
  | [] => .finish
  | ['\\'] => .badEscape none
  | '\\' :: c :: rest =>
    match unescape c with
    | some d => .char d (1 + c.utf8Size) rest
    | none => .badEscape (some c)
  | '{' :: rest => .opening rest
  | '}' :: _ => .closing
  | c :: rest => .char c c.utf8Size rest

/-- Reads the front of a text under an escape mode. -/
def front : EscapeMode → List Char → Front
  | .doubledBrace => frontDoubled
  | .backslash => frontBackslash

/-! ## The parts of a placeholder -/

/-- Whether a character may stand in a selector. -/
def isSelectorChar (c : Char) : Bool := Unicode.isAlphanumeric c || c == '_' || c == '-'

/-- The first character that may not stand in a selector, and the bytes before it. -/
def firstInvalid? : List Char → Option (Nat × Char)
  | [] => none
  | c :: cs =>
    if isSelectorChar c then (firstInvalid? cs).map fun (n, d) ↦ (c.utf8Size + n, d)
    else some (0, c)

/-- Stops at a mark that stands where a segment is due. -/
def missingSegment {α : Type} (opening offset : Nat) (leading : Bool) (c : Char) :
    Except Halt α :=
  if c = '{' || c = '\\' then fail (.unexpectedChar c) offset (offset + 1)
  else if leading && c != '.' then fail .emptySelector opening (offset + 1)
  else fail .emptySegment offset (offset + 1)

/-- Reads one segment of a path. -/
def segment (opening : Nat) (leading : Bool) (k : Cursor) : Except Halt (Selector × Cursor) :=
  match k.rest with
  | [] => unclosed opening
  | c :: _ =>
    if isMark c then missingSegment opening k.offset leading c
    else
      let (text, next) := k.run
      match firstInvalid? text with
      | some (n, d) =>
        fail (.invalidSelectorChar d) (k.offset + n) (k.offset + n + d.utf8Size)
      | none => .ok (.ofText (String.ofList text) ⟨k.offset, next.offset⟩ leading, next)

/-- Reads the segments of a path, with dots between them. -/
def path (opening : Nat) : Nat → Bool → Cursor → Except Halt (List Selector × Cursor)
  | 0, _, _ => .error .exhausted
  | bound + 1, leading, k => do
    let (s, k) ← segment opening leading k
    match k.rest with
    | '.' :: rest =>
      let (ss, k) ← path opening bound false ⟨k.offset + 1, rest⟩
      return (s :: ss, k)
    | _ => return ([s], k)

/-- Reads the width behind a comma, where there is a comma. -/
def alignment (k : Cursor) : Except Halt (Option Int32 × Cursor) :=
  match k.rest with
  | ',' :: rest =>
    let start := k.offset + 1
    let (text, next) := Cursor.run ⟨start, rest⟩
    if text.isEmpty then fail (.invalidAlignment "") k.offset start
    else match (Numeral.signed? text).bind Numeral.int32? with
      | some n => .ok (some n, next)
      | none => fail (.invalidAlignment (String.ofList text)) start next.offset
  | _ => .ok (none, k)

/-- Reads the specifier behind a colon, where there is a colon. -/
def format (specifier : Cursor → Except Halt (List Piece × Cursor)) (k : Cursor) :
    Except Halt (Option Format × Cursor) :=
  match k.rest with
  | ':' :: rest => do
    let start := k.offset + 1
    let (pieces, next) ← specifier ⟨start, rest⟩
    return (some (.ofTemplate (Piece.gather pieces) ⟨start, next.offset⟩), next)
  | _ => return (none, k)

/-- Reads a placeholder whose opening brace stands at a place and has the given text behind it. -/
def placeholder (bound : Nat) (specifier : Cursor → Except Halt (List Piece × Cursor))
    (opening : Cursor) (rest : List Char) : Except Halt (Placeholder × Cursor) := do
  let (selectors, k) ← path opening.offset bound true ⟨opening.offset + 1, rest⟩
  let (alignment, k) ← alignment k
  let (format, k) ← format specifier k
  match k.rest with
  | '}' :: rest =>
    let next : Cursor := ⟨k.offset + 1, rest⟩
    let p : Placeholder :=
      { selectors, alignment, format
        raw := String.ofList (opening.upTo next)
        span := ⟨opening.offset, next.offset⟩ }
    return (p, next)
  | c :: _ => fail (.unexpectedChar c) k.offset (k.offset + c.utf8Size)
  | [] => unclosed opening.offset

/-! ## Templates -/

/-- Whether literal text runs to the end of the text or to a closing brace. -/
inductive Scope where
  | root
  | format
  deriving DecidableEq

/-- Reads literal text and placeholders; `closes` looks ahead from behind an opening brace. -/
def pieces (mode : EscapeMode) (closes : List Char → Bool) :
    Nat → Scope → Cursor → Except Halt (List Piece × Cursor)
  | 0, _, _ => .error .exhausted
  | bound + 1, scope, k =>
    match front mode k.rest with
    | .finish => .ok ([], k)
    | .char c width rest => do
      let stop := k.offset + width
      let (ps, next) ← pieces mode closes bound scope ⟨stop, rest⟩
      return (.char c ⟨k.offset, stop⟩ :: ps, next)
    | .opening rest =>
      if closes rest then do
        let (p, next) ← placeholder bound (pieces mode closes bound .format) k rest
        let (ps, next) ← pieces mode closes bound scope next
        return (.placeholder p :: ps, next)
      else unclosed k.offset
    | .closing =>
      match scope with
      | .root => fail .unexpectedClose k.offset (k.offset + 1)
      | .format => .ok ([], k)
    | .badEscape escaped =>
      let width := 1 + (escaped.map Char.utf8Size).getD 0
      fail (.invalidEscape escaped) k.offset (k.offset + width)

/-- Whether a closing brace matches an opening one that has this text behind it, when so many inner
braces are open; here a doubled brace counts as two. -/
def closesDoubled : Nat → List Char → Bool
  | _, [] => false
  | depth, '{' :: rest => closesDoubled (depth + 1) rest
  | 0, '}' :: _ => true
  | depth + 1, '}' :: rest => closesDoubled depth rest
  | depth, _ :: rest => closesDoubled depth rest

/-- As `closesDoubled`, except that a character behind a backslash is passed over. -/
def closesBackslash : Nat → List Char → Bool
  | _, [] => false
  | depth, '\\' :: _ :: rest => closesBackslash depth rest
  | depth, '{' :: rest => closesBackslash (depth + 1) rest
  | 0, '}' :: _ => true
  | depth + 1, '}' :: rest => closesBackslash depth rest
  | depth, _ :: rest => closesBackslash depth rest

/-- Whether a closing brace matches an opening one that has this text behind it. -/
def closes : EscapeMode → List Char → Bool
  | .doubledBrace => closesDoubled 0
  | .backslash => closesBackslash 0

end Parser

end TextTemplate
