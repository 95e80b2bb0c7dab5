/-!
# TOML documents

The values of a TOML document, and how a document grows by its statements. A table remembers how it
came to be, because that decides what may still be added to it: a table may be opened by one header,
a table made by dotted keys may only grow by dotted keys, and an inline table is complete.
-/

namespace TextTemplate.Toml

/-- How a table came to be: as the way to another table, by a header, by dotted keys, or as an inline
value. -/
inductive Origin where
  | implicit
  | header
  | dotted
  | inline
  deriving DecidableEq

/-- A value of a TOML document. -/
inductive Item where
  | string (s : String)
  | integer (n : Int)
  | float (x : Float)
  | boolean (b : Bool)
  | datetime
  | array (items : List Item)
  | table (origin : Origin) (entries : List (String × Item))
  /-- An array of tables, each opened by a header in double brackets; the last one grows. -/
  | tables (items : List (List (String × Item)))

/-- The entries of a table in order. -/
abbrev Entries := List (String × Item)

namespace Entries

/-- Replaces the value of a key, or adds the key at the end. -/
def set (key : String) (v : Item) : Entries → Entries
  | [] => [(key, v)]
  | e :: es => if e.1 = key then (key, v) :: es else e :: set key v es

/-- Adds a key that is new. -/
def addNew (key : String) (v : Item) (es : Entries) : Option Entries :=
  if (es.lookup key).isSome then none else some (es ++ [(key, v)])

/-- Adds a value under a dotted key. Tables on the way are made where they are missing, and an array
of tables stands for its last one. A table that exists must not have been opened by a header, and the
one that takes the value must have been made by dotted keys. -/
def addDotted (v : Item) : List String → Entries → Option Entries
  | [], _ => none
  | [key], es => addNew key v es
  | key :: keys, es =>
    match es.lookup key with
    | none => do
      let inner ← addDotted v keys []
      return es ++ [(key, .table .dotted inner)]
    | some (.table .dotted inner) => do
      let inner ← addDotted v keys inner
      return set key (.table .dotted inner) es
    | some (.table .implicit inner) => do
      guard (1 < keys.length)
      let inner ← addDotted v keys inner
      return set key (.table .implicit inner) es
    | some (.tables items) => do
      guard (1 < keys.length)
      let last ← items.getLast?
      let inner ← addDotted v keys last
      return set key (.tables (items.dropLast ++ [inner])) es
    | some _ => none

/-- Changes the table that a path leads to, from a table with these entries. Tables on the way are
made where they are missing, and an array of tables stands for its last one. -/
def descend (change : Entries → Option Entries) : List String → Entries → Option Entries
  | [], es => change es
  | key :: keys, es =>
    match es.lookup key with
    | none => do
      let inner ← descend change keys []
      return es ++ [(key, .table .implicit inner)]
    | some (.table .inline _) => none
    | some (.table origin inner) => do
      let inner ← descend change keys inner
      return set key (.table origin inner) es
    | some (.tables items) => do
      let last ← items.getLast?
      let inner ← descend change keys last
      return set key (.tables (items.dropLast ++ [inner])) es
    | some _ => none

/-- Opens a table by its header, within the table that holds it. A table that was so far only the way
to others keeps what it holds. -/
def openTable (key : String) (es : Entries) : Option Entries :=
  match es.lookup key with
  | none => some (es ++ [(key, .table .header [])])
  | some (.table .implicit inner) =>
    some (es.filter (fun e ↦ e.1 ≠ key) ++ [(key, .table .header inner)])
  | some _ => none

/-- Opens another table of an array of tables. -/
def openElement (key : String) (es : Entries) : Option Entries :=
  match es.lookup key with
  | none => some (es ++ [(key, .tables [[]])])
  | some (.tables items) => some (set key (.tables (items ++ [[]])) es)
  | some _ => none

end Entries

end TextTemplate.Toml
