import TextTemplate.Error
import TextTemplate.Unicode.Display

/-!
# Reports

An error drawn for a reader: its message, and the lines of the template that it lies in with a mark
under the place and a label on the mark. A report counts in characters, and it takes the numbers of a
span as such counts.
-/

namespace TextTemplate

namespace Report

/-! ## Lines -/

/-- Whether a character ends a line by itself. -/
def endsLine (c : Char) : Bool :=
  c == '\n' || c == '\r' || c == '\x0b' || c == '\x0c' || c == '\u0085' || c == '\u2028' ||
    c == '\u2029'

/-- The lines of a text, each with what ends it. -/
def splitLines : List Char → List (List Char)
  | [] => []
  | '\r' :: '\n' :: cs => ['\r', '\n'] :: splitLines cs
  | c :: cs =>
    if endsLine c then [c] :: splitLines cs
    else match splitLines cs with
      | [] => [[c]]
      | line :: lines => (c :: line) :: lines

/-- A line of a text: its place among the lines, the characters before it, its length with what ends
it, and what is shown of it. -/
structure Line where
  index : Nat
  offset : Nat
  length : Nat
  shown : List Char

/-- Lines that begin at a place among the lines, behind so many characters. -/
def placeLines : Nat → Nat → List (List Char) → List Line
  | _, _, [] => []
  | index, offset, line :: lines =>
    ⟨index, offset, line.length, Unicode.trimEnd line⟩ ::
      placeLines (index + 1) (offset + line.length) lines

/-- The lines of a text. -/
def linesOf (text : List Char) : List Line := placeLines 0 0 (splitLines text)

/-- The line that a place in a text of the given length lies in. -/
def lineAt? (lines : List Line) (length offset : Nat) : Option Line :=
  if length < offset then none else (lines.filter fun l ↦ l.offset ≤ offset).getLast?

namespace Line

/-- The number of a line, as a reader counts. -/
def number (l : Line) : String := (l.index + 1).repr

/-- A character as it is shown in a column. A tab runs to the next multiple of four columns, and any
other white space is one space. -/
def cell (column : Nat) (c : Char) : List Char :=
  if c = '\t' then List.replicate ((column / 4 + 1) * 4 - column) ' '
  else if Unicode.isWhiteSpace c then [' ']
  else [c]

/-- The text that is shown of a line. -/
def text (l : Line) : String := String.ofList (l.shown.mapIdx cell).flatten

/-- How wide a character is shown in a column. -/
def cellWidth (column : Nat) (c : Char) : Nat :=
  if c = '\t' || Unicode.isWhiteSpace c then (cell column c).length else Unicode.columns c

/-- How wide the characters of a line are shown, up to a column; behind the text all have width
one. -/
def widths (l : Line) (columns : Nat) : List Nat :=
  (l.shown.mapIdx cellWidth ++ List.replicate (columns - l.shown.length) 1).take columns

end Line

/-! ## Drawing -/

/-- A column of some width, drawn as one character and others behind it. -/
def column (width : Nat) (first others : Char) : List Char :=
  (first :: List.replicate (width - 1) others).take width

/-- Columns drawn one after another. -/
def row (widths : List Nat) (draw : Nat → Char × Char) : String :=
  String.ofList (widths.mapIdx fun i width ↦ column width (draw i).1 (draw i).2).flatten

/-- The row under a line that marks the columns from one to another, with an arm at the middle. -/
def markRow (widths : List Nat) (start stop middle : Nat) : String :=
  row widths fun i ↦
    if i = middle then if start = stop then ('│', ' ') else ('┬', '─')
    else if start ≤ i && i < stop then ('─', '─')
    else (' ', ' ')

/-- The row that leads from the middle of a mark to its label. -/
def labelRow (widths : List Nat) (middle : Nat) : String :=
  row widths fun i ↦
    if i < middle then (' ', ' ') else if i = middle then ('╰', '─') else ('─', '─')

/-- A text so many times. -/
def times (n : Nat) (s : String) : String := String.join (List.replicate n s)

/-- The rows of a mark within one line. -/
def markWithin (pad : String) (l : Line) (start stop : Nat) (label : String) : List String :=
  if l.offset + l.length < stop then [pad ++ "│ "]
  else
    let start := start - l.offset
    let stop := stop - l.offset
    let middle := (start + stop) / 2
    let widths := l.widths (stop + 2)
    [" " ++ l.number ++ " │ " ++ l.text,
      pad ++ "│ " ++ markRow widths start stop middle,
      pad ++ "│ " ++ labelRow widths middle ++ " " ++ label]

/-- The rows of a mark from one line to a later one. A mark that stops behind its last line is not
closed, and that line is left out. -/
def markAcross (pad : String) (width : Nat) (first last : Line) (stop : Nat) (label : String) :
    List String :=
  let numbered := fun (l : Line) ↦ " " ++ times (width - l.number.length) " " ++ l.number ++ " │ "
  let opening := numbered first ++ "╭─▶ " ++ first.text
  let skipped := pad ++ "┆ ┆   "
  if last.offset + last.length < stop then [opening, skipped]
  else
    let cells := (last.widths (last.length + 2)).foldl (· + ·) 0
    let between := if first.index + 1 < last.index then [skipped] else []
    opening :: between ++
      [numbered last ++ "├─▶ " ++ last.text,
        pad ++ "│ │   " ++ times cells " ",
        pad ++ "│ ╰───" ++ times cells "─" ++ " " ++ label]

/-- The rows of the drawing of a mark with a label, if both its ends lie in the text. -/
def drawing (template name : String) (span : Span) (label : String) : List String :=
  let text := template.toList
  let stop := max (min span.stop template.utf8ByteSize) span.start
  let start := min span.start stop
  let lines := linesOf text
  let last := if start = stop then start else stop - 1
  match lineAt? lines text.length start, lineAt? lines text.length last with
  | some first, some last =>
    let width := last.number.length
    let pad := times (width + 2) " "
    let place := name ++ ":" ++ first.number ++ ":" ++ (start - first.offset + 1).repr
    let mark := if first.index = last.index then markWithin pad first start stop label
      else markAcross pad width first last stop label
    (pad ++ "╭─[" ++ place ++ "]") :: (pad ++ "│") :: mark ++ [times (width + 2) "─" ++ "╯"]
  | _, _ => []

/-- A report of a message, with a label on a span of the template. -/
def text (template name : String) (span : Span) (message label : String) : String :=
  let rows := ("Error: " ++ message) :: drawing template name span label
  String.join (rows.map (· ++ "\n"))

end Report

/-- The report of a syntax error in a template that goes by a name. -/
def SyntaxError.report (e : SyntaxError) (template name : String) : String :=
  Report.text template name e.span e.message e.kind.message

/-- The report of a resolution error in a template that goes by a name. Its label says how far the
path was followed. -/
def ResolutionError.report (e : ResolutionError) (template name : String) : String :=
  let label := if e.resolved.isEmpty then e.kind.message
    else "after '" ++ e.resolvedPath ++ "': " ++ e.kind.message
  Report.text template name e.span e.message label

end TextTemplate
