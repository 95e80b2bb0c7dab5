import TextTemplate.Text

/-!
# Templates

A template is literal text and placeholders in turn. A placeholder holds a path, a width and a
format, and the format holds a template again: this is how the parts of a value are rendered one by
one.

The formatter that a format names is kept beside the template it was read from and not in its place,
because a formatter may decline a value and the whole specifier is then needed.
-/

namespace TextTemplate

/-! ## Selectors

One segment of a dotted path. A segment that is an integer may be an argument index, but only at the
front of a path; everywhere else it is a list index or an integer key. `Selector.asIndex` turns the
first reading into the second, which is what a path needs when no such argument exists. -/

/-- How a segment moves from a value to the next one. -/
inductive SelectorKind where
  /-- A member name or a key. -/
  | name
  /-- A list index or an integer key. -/
  | index (n : Int64)
  /-- The index of an argument, at the front of a path. -/
  | positional (n : Nat)
  deriving DecidableEq, Repr

/-- One segment of a path. -/
structure Selector where
  text : String
  kind : SelectorKind
  span : Span
  deriving DecidableEq, Repr

namespace Selector

/-- The 64-bit integer that a segment writes, if it does. -/
def integer? (text : String) : Option Int64 := (Numeral.integer? text.toList).bind Numeral.int64?

/-- The segment with this text; the first of a path is the leading one. -/
def ofText (text : String) (span : Span) (leading : Bool) : Selector :=
  let kind := match integer? text with
    | some n => if leading && 0 ≤ n then .positional n.toInt.toNat else .index n
    | none => .name
  ⟨text, kind, span⟩

/-- The integer that a selector denotes, wherever it stands. -/
def index? (s : Selector) : Option Int64 :=
  match s.kind with
  | .index n => some n
  | .positional n => Numeral.int64? n
  | .name => none

/-- A selector read as a list index where it could have been an argument index. -/
def asIndex (s : Selector) : Selector :=
  match s.kind with
  | .positional n => { s with kind := .index (Int64.ofNat n) }
  | _ => s

end Selector

/-! ## Nodes and placeholders -/

/-- Text to be written as it is; its escapes are already decoded. -/
structure Literal where
  text : String
  span : Span
  deriving DecidableEq, Repr

mutual

/-- One element of a template. -/
inductive Node where
  | literal (l : Literal)
  | placeholder (p : Placeholder)

/-- A region in braces, to be resolved and rendered. -/
structure Placeholder where
  selectors : List Selector
  /-- The least width of the rendered text; a negative width puts the padding behind it. -/
  alignment : Option Int32
  format : Option Format
  /-- The region as it stands in the template, braces included. -/
  raw : String
  span : Span

/-- What stands in a placeholder behind the colon. -/
structure Format where
  template : List Node
  head : Option FormatterHead
  span : Span

/-- The formatter named at the front of a specifier, and the specifier without that name. -/
structure FormatterHead where
  name : String
  options : Option String
  body : List Node

end

/-- Literal text and placeholders in turn. -/
abbrev Template := List Node

/-- The path of a placeholder, with dots between the segments. -/
def Placeholder.path (p : Placeholder) : String :=
  ".".intercalate (p.selectors.map Selector.text)

namespace Node

/-- The placeholder that a node is. -/
def placeholder? : Node → Option Placeholder
  | .literal _ => none
  | .placeholder p => some p

/-- The text of a node that is literal. -/
def literalText : Node → String
  | .literal l => l.text
  | .placeholder _ => ""

end Node

namespace Template

/-- The placeholders at the top level of a template. -/
def placeholders (t : Template) : List Placeholder := t.filterMap Node.placeholder?

/-- Whether a template has a placeholder at its top level. -/
def hasPlaceholders (t : Template) : Bool := t.any fun n ↦ n.placeholder?.isSome

/-- The literal text at the top level of a template. -/
def literalText (t : Template) : String := String.join (t.map Node.literalText)

/-- The text of a template without placeholders. -/
def plainText? (t : Template) : Option String :=
  if t.hasPlaceholders then none else some t.literalText

end Template

/-! ## Formatter heads

A specifier may begin with the name of a formatter: an identifier and a colon, or an identifier and
options in parentheses, after which the colon may be left out. The options run to the first closing
parenthesis, and all of a head stands in the literal that opens the specifier. -/

/-- Whether an identifier may begin with a character. -/
def startsIdentifier (c : Char) : Bool := c.isAlpha || c == '_'

/-- Whether an identifier may go on with a character. -/
def continuesIdentifier (c : Char) : Bool := c.isAlphanum || c == '_'

namespace FormatterHead

/-- The longest identifier at the front of a text, and the rest of the text. -/
def identifier : List Char → List Char × List Char
  | [] => ([], [])
  | c :: cs =>
    if startsIdentifier c then
      (c :: cs.takeWhile continuesIdentifier, cs.dropWhile continuesIdentifier)
    else ([], c :: cs)

/-- The text up to the first closing parenthesis, and the rest behind it. -/
def options? (cs : List Char) : Option (List Char × List Char) :=
  match cs.dropWhile (· != ')') with
  | [] => none
  | _ :: rest => some (cs.takeWhile (· != ')'), rest)

/-- A text without the colon that it begins with, if it does. -/
def dropColon : List Char → List Char
  | ':' :: cs => cs
  | cs => cs

/-- The name, the options and the rest of a text that begins with a head. -/
def split? (cs : List Char) : Option (List Char × Option (List Char) × List Char) :=
  match identifier cs with
  | ([], _) => none
  | (name, '(' :: rest) => (options? rest).map fun (options, rest) ↦
      (name, some options, dropColon rest)
  | (name, ':' :: rest) => some (name, none, rest)
  | _ => none

/-- The nodes of a specifier whose opening literal is cut down to the given rest. -/
def bodyOf (first : Literal) (rest : List Char) (others : Template) : Template :=
  if rest.isEmpty then others
  else
    let consumed := first.text.utf8ByteSize - byteWidth rest
    let start := min (first.span.start + consumed) first.span.stop
    .literal ⟨String.ofList rest, ⟨start, first.span.stop⟩⟩ :: others

/-- The formatter that a specifier names, if it names one. -/
def extract? : Template → Option FormatterHead
  | .literal first :: others =>
    (split? first.text.toList).map fun (name, options, rest) ↦
      { name := String.ofList name
        options := options.map String.ofList
        body := bodyOf first rest others }
  | _ => none

end FormatterHead

namespace Format

/-- The format with this specifier, its head read off the front. -/
def ofTemplate (template : Template) (span : Span) : Format :=
  { template, head := FormatterHead.extract? template, span }

end Format

end TextTemplate
