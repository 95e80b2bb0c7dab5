import TextTemplate.Text

/-!
# Errors

What can go wrong with a template, and where. A text may be no template, which is a syntax error; a
placeholder of a template may fail to be rendered, which is a resolution error. The wording of either
is one function of the cause.
-/

namespace TextTemplate

/-! ## Syntax errors -/

/-- What makes a text no template. -/
inductive SyntaxErrorKind where
  | unclosedPlaceholder
  | unexpectedClose
  | emptySelector
  | emptySegment
  | invalidSelectorChar (c : Char)
  | unexpectedChar (c : Char)
  | invalidAlignment (text : String)
  /-- A backslash before a character that it does not escape, or before nothing. -/
  | invalidEscape (escaped : Option Char)
  deriving DecidableEq, Repr

/-- What is wrong, in words. -/
def SyntaxErrorKind.message : SyntaxErrorKind → String
  | .unclosedPlaceholder => "placeholder is never closed"
  | .unexpectedClose => "unescaped '\x7d' has no matching '\x7b'"
  | .emptySelector => "placeholder has an empty selector path"
  | .emptySegment => "selector path has an empty segment"
  | .invalidSelectorChar c => "invalid character " ++ Quoted.char c ++ " in selector"
  | .unexpectedChar c => "unexpected " ++ Quoted.char c ++ " in placeholder"
  | .invalidAlignment text => "alignment " ++ Quoted.text text ++ " is not an integer"
  | .invalidEscape (some c) => "invalid escape sequence '\\" ++ String.singleton c ++ "'"
  | .invalidEscape none => "invalid escape sequence '\\' at end of input"

/-- What is wrong with a template, and the text that shows it. -/
structure SyntaxError where
  kind : SyntaxErrorKind
  span : Span
  deriving DecidableEq, Repr

namespace SyntaxError

/-- The byte at which the error is found. -/
def offset (e : SyntaxError) : Nat := e.span.start

/-- What is wrong and where, in words. -/
def message (e : SyntaxError) : String :=
  "syntax error at offset " ++ e.offset.repr ++ ": " ++ e.kind.message

end SyntaxError

/-! ## Resolution errors

Why a placeholder could not be rendered, and how far its path had been followed. -/

/-- What went wrong in a placeholder. -/
inductive ResolutionErrorKind where
  | notFound
  | indexOutOfRange (index : Int64) (length : Nat)
  | negativeIndex (index : Int64)
  /-- A source owns the selector and refuses it. -/
  | source (message : String)
  /-- A formatter refuses the value that the whole path led to. -/
  | formatter (name message : String)
  deriving DecidableEq, Repr

/-- What went wrong, in words. -/
def ResolutionErrorKind.message : ResolutionErrorKind → String
  | .notFound => "no value source could resolve it"
  | .indexOutOfRange index length =>
    "index " ++ Numeral.decimal index.toInt ++ " is out of range for a list of length " ++ length.repr
  | .negativeIndex index => "index " ++ Numeral.decimal index.toInt ++ " is negative"
  | .source message => message
  | .formatter name message => "formatter '" ++ name ++ "' failed: " ++ message

/-- A placeholder that could not be rendered. -/
structure ResolutionError where
  kind : ResolutionErrorKind
  /-- The placeholder as it stands in the template. -/
  placeholder : String
  span : Span
  /-- The selector that failed; empty if the whole path was followed. -/
  selector : String
  /-- How many selectors had been followed. -/
  depth : Nat
  /-- The selectors that had been followed. -/
  resolved : List String
  deriving DecidableEq, Repr

namespace ResolutionError

/-- The path of the selectors that had been followed. -/
def resolvedPath (e : ResolutionError) : String := ".".intercalate e.resolved

/-- What went wrong and where, in words. -/
def message (e : ResolutionError) : String :=
  "cannot resolve selector '" ++ e.selector ++ "' at depth " ++ e.depth.repr ++ " in " ++
    e.placeholder ++ ": " ++ e.kind.message

end ResolutionError

end TextTemplate
