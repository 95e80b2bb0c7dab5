/-!
# TOML strings

Four kinds of string: on one line or over several, with escapes or without. Each is read from its
opening quote to its closing one.
-/

namespace TextTemplate.Toml

/-- Whether a character may stand in a string or a comment. -/
def isText (c : Char) : Bool := c == '\t' || (0x20 ≤ c.toNat && c != '\x7f')

/-- The value of a run of hexadecimal digits. -/
def hexValue? (cs : List Char) : Option Nat :=
  cs.foldlM (fun n c ↦
    if c.isDigit then some (16 * n + (c.toNat - '0'.toNat))
    else if 'a' ≤ c && c ≤ 'f' then some (16 * n + (c.toNat - 'a'.toNat + 10))
    else if 'A' ≤ c && c ≤ 'F' then some (16 * n + (c.toNat - 'A'.toNat + 10))
    else none) 0

/-- The character with a code point, unless it is a surrogate or too great. -/
def scalar? (n : Nat) : Option Char :=
  if n < 0xD800 || (0xDFFF < n && n < 0x110000) then some (Char.ofNat n) else none

/-- The character that an escape of one letter stands for. -/
def escape? : Char → Option Char
  | 'b' => some '\x08'
  | 't' => some '\t'
  | 'n' => some '\n'
  | 'f' => some '\x0c'
  | 'r' => some '\r'
  | '"' => some '"'
  | '\\' => some '\\'
  | _ => none

/-- The rest of a basic string and what follows its closing quote. -/
def basic : List Char → Option (List Char × List Char)
  | [] => none
  | '"' :: cs => some ([], cs)
  | '\\' :: 'u' :: a :: b :: c :: d :: cs => do
    let e ← hexValue? [a, b, c, d] >>= scalar?
    let (s, cs) ← basic cs
    return (e :: s, cs)
  | '\\' :: 'U' :: a :: b :: c :: d :: a' :: b' :: c' :: d' :: cs => do
    let e ← hexValue? [a, b, c, d, a', b', c', d'] >>= scalar?
    let (s, cs) ← basic cs
    return (e :: s, cs)
  | '\\' :: c :: cs => do
    let e ← escape? c
    let (s, cs) ← basic cs
    return (e :: s, cs)
  | c :: cs => do
    guard (isText c)
    let (s, cs) ← basic cs
    return (c :: s, cs)

/-- The rest of a literal string and what follows its closing quote. -/
def literal : List Char → Option (List Char × List Char)
  | [] => none
  | '\x27' :: cs => some ([], cs)
  | c :: cs => do
    guard (isText c)
    let (s, cs) ← literal cs
    return (c :: s, cs)

/-- What follows the end of a line, if the line ends here. -/
def lineEnd? : List Char → Option (List Char)
  | '\n' :: cs => some cs
  | '\r' :: '\n' :: cs => some cs
  | _ => none

/-- Text without the blanks and line ends at its front. -/
def dropGap : List Char → List Char
  | '\r' :: '\n' :: cs => dropGap cs
  | c :: cs => if c = ' ' || c = '\t' || c = '\n' then dropGap cs else c :: cs
  | [] => []

/-- The closing of a string that ends at three quotes: up to two quotes before them belong to it. -/
def closeMultiline? (quote : Char) (cs : List Char) : Option (List Char × List Char) :=
  let quotes := (cs.takeWhile (· == quote)).length
  if quotes < 3 then none
  else
    let inside := min (quotes - 3) 2
    some (List.replicate inside quote, cs.drop (inside + 3))

/-- A string over several lines and what follows it. In a basic one, a backslash at the end of a line
takes away the gap behind it. -/
def multiline (quote : Char) (escapes : Bool) : Nat → List Char → Option (List Char × List Char)
  | 0, _ => none
  | bound + 1, cs =>
    match closeMultiline? quote cs, cs with
    | some closed, _ => some closed
    | none, '\\' :: rest =>
      if escapes then
        match rest with
        | 'u' :: a :: b :: c :: d :: rest => do
          let e ← hexValue? [a, b, c, d] >>= scalar?
          let (s, rest) ← multiline quote escapes bound rest
          return (e :: s, rest)
        | 'U' :: a :: b :: c :: d :: a' :: b' :: c' :: d' :: rest => do
          let e ← hexValue? [a, b, c, d, a', b', c', d'] >>= scalar?
          let (s, rest) ← multiline quote escapes bound rest
          return (e :: s, rest)
        | c :: more =>
          match escape? c with
          | some e => do
            let (s, rest) ← multiline quote escapes bound more
            return (e :: s, rest)
          | none => do
            let blank := rest.dropWhile fun c ↦ c = ' ' || c = '\t'
            let after ← lineEnd? blank
            multiline quote escapes bound (dropGap after)
        | [] => none
      else do
        let (s, rest) ← multiline quote escapes bound rest
        return ('\\' :: s, rest)
    | none, c :: rest =>
      match lineEnd? cs with
      | some after => do
        let (s, rest) ← multiline quote escapes bound after
        return ('\n' :: s, rest)
      | none => do
        guard (isText c)
        let (s, rest) ← multiline quote escapes bound rest
        return (c :: s, rest)
    | none, [] => none

/-- A string over several lines, from behind its opening quotes. A line end directly behind them does
not belong to it. -/
def multilineBody (quote : Char) (escapes : Bool) (cs : List Char) :
    Option (List Char × List Char) :=
  let cs := (lineEnd? cs).getD cs
  multiline quote escapes (cs.length + 1) cs

/-- A string and what follows it. -/
def string? : List Char → Option (List Char × List Char)
  | '"' :: '"' :: '"' :: cs => multilineBody '"' true cs
  | '"' :: cs => basic cs
  | '\x27' :: '\x27' :: '\x27' :: cs => multilineBody '\x27' false cs
  | '\x27' :: cs => literal cs
  | _ => none

end TextTemplate.Toml
