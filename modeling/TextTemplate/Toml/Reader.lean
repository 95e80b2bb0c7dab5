import TextTemplate.Toml.Word

/-!
# Reading TOML

A document is a list of statements, one on a line: a key with its value, or a header that opens a
table. The nesting of values and the length of keys are limited, and no text of a document nests
deeper than its length.
-/

namespace TextTemplate.Toml

/-- What a document says on a line. -/
inductive Statement where
  | assign (key : List String) (v : Item)
  | table (key : List String)
  | element (key : List String)

/-- The depth that values and keys must stay below. -/
def maxDepth : Nat := 80

/-- Text without the blanks at its front. -/
def dropBlanks (cs : List Char) : List Char := cs.dropWhile fun c ↦ c = ' ' || c = '\t'

/-- Text without the blanks, comments and line ends at its front. -/
def dropComments? : Bool → List Char → Option (List Char)
  | _, [] => some []
  | _, '\n' :: cs => dropComments? false cs
  | _, '\r' :: '\n' :: cs => dropComments? false cs
  | true, c :: cs => if isText c then dropComments? true cs else none
  | false, '#' :: cs => dropComments? true cs
  | false, c :: cs => if c = ' ' || c = '\t' then dropComments? false cs else some (c :: cs)

/-! ## Keys -/

/-- Whether a character may stand in a key without quotes. -/
def isBareKeyChar (c : Char) : Bool := c.isAlphanum || c == '_' || c == '-'

/-- One part of a key and what follows it. -/
def keyPart? (cs : List Char) : Option (String × List Char) :=
  match cs with
  | '"' :: cs => (basic cs).map fun (s, cs) ↦ (String.ofList s, cs)
  | '\x27' :: cs => (literal cs).map fun (s, cs) ↦ (String.ofList s, cs)
  | cs =>
    let s := cs.takeWhile isBareKeyChar
    if s.isEmpty then none else some (String.ofList s, cs.dropWhile isBareKeyChar)

/-- The parts of a key with dots between them, and what follows them. -/
def keyParts? : Nat → List Char → Option (List String × List Char)
  | 0, _ => none
  | bound + 1, cs => do
    let (part, cs) ← keyPart? (dropBlanks cs)
    match dropBlanks cs with
    | '.' :: cs => do
      let (parts, cs) ← keyParts? bound cs
      return (part :: parts, cs)
    | cs => return ([part], cs)

/-- A key and what follows it. Each part of a key is a table deeper. -/
def key? (bound : Nat) (cs : List Char) : Option (List String × List Char) :=
  (keyParts? bound cs).filter fun (parts, _) ↦ parts.length < maxDepth

/-! ## Values -/

mutual

/-- A value at a depth, and what follows it. -/
def value? (depth : Nat) : Nat → List Char → Option (Item × List Char)
  | 0, _ => none
  | bound + 1, cs =>
    match cs with
    | '[' :: cs =>
      if maxDepth ≤ depth + 1 then none
      else (items? (depth + 1) bound cs).map fun (items, cs) ↦ (.array items, cs)
    | '{' :: cs =>
      if maxDepth ≤ depth + 1 then none
      else match dropBlanks cs with
        | '}' :: cs => some (.table .inline [], cs)
        | cs => (members? (depth + 1) bound [] cs).map fun (es, cs) ↦ (.table .inline es, cs)
    | cs =>
      if cs.head? = some '"' || cs.head? = some '\x27' then
        (string? cs).map fun (s, cs) ↦ (.string (String.ofList s), cs)
      else
        let (w, cs) := word cs
        (ofWord? w).map fun v ↦ (v, cs)

/-- The rest of an array and what follows it. -/
def items? (depth : Nat) : Nat → List Char → Option (List Item × List Char)
  | 0, _ => none
  | bound + 1, cs => do
    match ← dropComments? false cs with
    | ']' :: cs => return ([], cs)
    | cs =>
      let (v, cs) ← value? depth bound cs
      match ← dropComments? false cs with
      | ',' :: cs => do
        let (vs, cs) ← items? depth bound cs
        return (v :: vs, cs)
      | ']' :: cs => return ([v], cs)
      | _ => none

/-- The rest of an inline table with these entries so far, and what follows it. -/
def members? (depth : Nat) : Nat → Entries → List Char → Option (Entries × List Char)
  | 0, _, _ => none
  | bound + 1, es, cs => do
    let (key, cs) ← key? bound cs
    match dropBlanks cs with
    | '=' :: cs => do
      let (v, cs) ← value? depth bound (dropBlanks cs)
      let es ← es.addDotted v key
      match dropBlanks cs with
      | ',' :: cs => members? depth bound es cs
      | '}' :: cs => return (es, cs)
      | _ => none
    | _ => none

end

/-! ## Documents -/

/-- A statement and what follows it. -/
def statement? (bound : Nat) (cs : List Char) : Option (Statement × List Char) :=
  match cs with
  | '[' :: '[' :: cs => do
    let (key, cs) ← key? bound cs
    match cs with
    | ']' :: ']' :: cs => return (.element key, cs)
    | _ => none
  | '[' :: cs => do
    let (key, cs) ← key? bound cs
    match cs with
    | ']' :: cs => return (.table key, cs)
    | _ => none
  | cs => do
    let (key, cs) ← key? bound cs
    match cs with
    | '=' :: cs => do
      let (v, cs) ← value? 0 bound (dropBlanks cs)
      return (.assign key v, cs)
    | _ => none

/-- What follows the end of a line, which may hold blanks and a comment before. -/
def restOfLine? (cs : List Char) : Option (List Char) :=
  let cs := match dropBlanks cs with
    | '#' :: cs => cs.dropWhile isText
    | cs => cs
  if cs.isEmpty then some [] else lineEnd? cs

/-- The statements of a document. -/
def statements? : Nat → List Char → Option (List Statement)
  | 0, _ => none
  | bound + 1, cs => do
    match ← dropComments? false cs with
    | [] => return []
    | cs =>
      let (s, cs) ← statement? bound cs
      let rest ← restOfLine? cs
      let ss ← statements? bound rest
      return s :: ss

/-- A document being read: its entries, and the path of the table that keys are added to. -/
structure Document where
  entries : Entries
  current : List String

/-- Opens the table at a path, in one of the two ways. -/
def Document.openAt (d : Document) (opening : String → Entries → Option Entries)
    (path : List String) : Option Document := do
  let key ← path.getLast?
  let entries ← d.entries.descend (opening key) path.dropLast
  return ⟨entries, path⟩

/-- Carries out a statement. -/
def Document.add (d : Document) : Statement → Option Document
  | .assign key v => do
    let entries ← d.entries.descend (Entries.addDotted v key) d.current
    return { d with entries }
  | .table path => d.openAt Entries.openTable path
  | .element path => d.openAt Entries.openElement path

/-- The entries of the document that a text is, if it is one. -/
def parse? (source : String) : Option Entries := do
  let cs := match source.toList with
    | '\ufeff' :: cs => cs
    | cs => cs
  let ss ← statements? (cs.length + 1) cs
  let d ← ss.foldlM Document.add ⟨[], []⟩
  return d.entries

end TextTemplate.Toml
