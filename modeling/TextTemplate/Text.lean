import TextTemplate.Unicode.Display

/-!
# Places, numerals and quotations in a text

What templates, numbers and messages have in common. A place in a text is a byte offset into its
UTF-8 form, while the text itself is read character by character; `byteWidth` is the bridge. Integers
are read and written as ASCII digits. A text that is shown inside a message is quoted.
-/

namespace TextTemplate

/-! ## Byte spans

`byteWidth` says how far a run of characters moves an offset, and it is all that reading needs to
know of UTF-8. -/

/-- A half-open range of byte offsets into a text. -/
structure Span where
  start : Nat
  stop : Nat
  deriving DecidableEq, Repr, Inhabited

namespace Span

/-- The span of the single byte at an offset. -/
def byte (offset : Nat) : Span := ⟨offset, offset + 1⟩

/-- The span from the start of one span to the end of a later one. -/
def through (first last : Span) : Span := ⟨first.start, last.stop⟩

end Span

/-- The number of bytes that a run of characters takes in UTF-8. -/
def byteWidth : List Char → Nat
  | [] => 0
  | c :: cs => c.utf8Size + byteWidth cs

@[simp] theorem byteWidth_nil : byteWidth [] = 0 := rfl

@[simp] theorem byteWidth_cons (c : Char) (cs : List Char) :
    byteWidth (c :: cs) = c.utf8Size + byteWidth cs := rfl

@[simp] theorem byteWidth_append (cs ds : List Char) :
    byteWidth (cs ++ ds) = byteWidth cs + byteWidth ds := by
  induction cs with
  | nil => simp
  | cons c cs ih => simp [ih, Nat.add_assoc]

theorem byteWidth_toList (s : String) : byteWidth s.toList = s.utf8ByteSize := by
  obtain ⟨cs, rfl⟩ := s.exists_eq_ofList
  rw [String.toList_ofList]
  induction cs with
  | nil => rfl
  | cons c cs ih =>
    rw [String.ofList_cons, String.utf8ByteSize_append, String.utf8ByteSize_singleton, ← ih,
      byteWidth_cons]

theorem byteWidth_pos {cs : List Char} (h : cs ≠ []) : 0 < byteWidth cs := by
  cases cs with
  | nil => exact absurd rfl h
  | cons c cs =>
    rw [byteWidth_cons]
    exact Nat.add_pos_left c.utf8Size_pos _

theorem length_le_byteWidth (cs : List Char) : cs.length ≤ byteWidth cs := by
  induction cs with
  | nil => simp
  | cons c cs ih =>
    have hpos := c.utf8Size_pos
    rw [List.length_cons, byteWidth_cons]
    omega

theorem length_eq_byteWidth_iff {cs : List Char} :
    cs.length = byteWidth cs ↔ ∀ c ∈ cs, c.utf8Size = 1 := by
  induction cs with
  | nil => simp
  | cons c cs ih =>
    have hpos := c.utf8Size_pos
    have hle := length_le_byteWidth cs
    rw [List.forall_mem_cons, ← ih, List.length_cons, byteWidth_cons]
    omega

/-! ## Numerals

Integers as they are written in templates: ASCII digits with at most one sign before them. A numeral
may be of any length, so it is read as an unbounded number first, and a bound is a separate question
asked of the number. -/

namespace Numeral

/-! ### Reading -/

/-- The number that a non-empty run of ASCII digits writes. -/
def natural? (cs : List Char) : Option Nat :=
  if !cs.isEmpty && cs.all Char.isDigit then some (Nat.ofDigitChars 10 cs 0) else none

/-- The number that digits write with at most a plus sign before them. -/
def unsigned? : List Char → Option Nat
  | '+' :: cs => natural? cs
  | cs => natural? cs

/-- The number that digits write with at most a minus sign before them. -/
def integer? : List Char → Option Int
  | '-' :: cs => (natural? cs).map fun n : Nat ↦ -(n : Int)
  | cs => (natural? cs).map fun n : Nat ↦ (n : Int)

/-- The number that digits write with at most one sign before them. -/
def signed? : List Char → Option Int
  | '+' :: cs => (natural? cs).map fun n : Nat ↦ (n : Int)
  | cs => integer? cs

/-- The 32-bit integer of this value. -/
def int32? (n : Int) : Option Int32 :=
  if Int32.minValue.toInt ≤ n ∧ n ≤ Int32.maxValue.toInt then some (Int32.ofInt n) else none

/-- The 64-bit integer of this value. -/
def int64? (n : Int) : Option Int64 :=
  if Int64.minValue.toInt ≤ n ∧ n ≤ Int64.maxValue.toInt then some (Int64.ofInt n) else none

/-! ### Writing -/

/-- The decimal text of an integer. -/
def decimal (n : Int) : String :=
  if n < 0 then "-" ++ n.natAbs.repr else n.natAbs.repr

/-- Digits with zeros before them, up to a width. -/
def zeroPadded (width : Nat) (digits : List Char) : List Char :=
  List.replicate (width - digits.length) '0' ++ digits

/-- The hexadecimal digits of a number, with small letters. -/
def hexadecimal (n : Nat) : List Char := Nat.toDigits 16 n

end Numeral

/-! ## Quoted text

How a character or a text is shown inside a message: between quotes, on one line, with nothing in it
that the reader could not see. Only the enclosing quote is escaped, so a message holds no more
backslashes than it needs. -/

namespace Quoted

/-- A character by its code point: a backslash, a `u` and the hexadecimal number in braces. -/
def codePoint (c : Char) : List Char :=
  ['\\', 'u', '{'] ++ Numeral.hexadecimal c.toNat ++ ['}']

/-- One character of a text between the given quotes. -/
def escape (quote c : Char) : List Char :=
  if c = '\x00' then ['\\', '0']
  else if c = '\t' then ['\\', 't']
  else if c = '\r' then ['\\', 'r']
  else if c = '\n' then ['\\', 'n']
  else if c = '\\' || c = quote then ['\\', c]
  else if Unicode.isPrintable c then [c]
  else codePoint c

/-- A text between double quotes. -/
def text (s : String) : String :=
  String.ofList ('"' :: (s.toList.flatMap (escape '"') ++ ['"']))

/-- A character between single quotes. -/
def char (c : Char) : String :=
  String.ofList ('\x27' :: (escape '\x27' c ++ ['\x27']))

end Quoted

end TextTemplate
