import TextTemplate.Toml.Text
import TextTemplate.Toml.Value

/-!
# TOML words

The words that stand for numbers, truth values and dates. A word is read as a whole, so what follows
a value is never mistaken for its end.
-/

namespace TextTemplate.Toml

/-! ## Dates and times

Which words are dates, times or both. The value of one is of no use here, so none is computed. -/

/-- The number that two digits write, if it is within bounds. -/
def twoDigits? (low high : Nat) (a b : Char) : Option Nat := do
  guard (a.isDigit && b.isDigit)
  let n := Nat.ofDigitChars 10 [a, b] 0
  guard (low ≤ n && n ≤ high)
  return n

/-- The number of days of a month. -/
def daysIn (year month : Nat) : Nat :=
  if month = 2 then if year % 4 = 0 && (year % 100 != 0 || year % 400 = 0) then 29 else 28
  else if month = 4 || month = 6 || month = 9 || month = 11 then 30
  else 31

/-- What follows a date. -/
def afterDate? : List Char → Option (List Char)
  | y :: y' :: y'' :: y''' :: '-' :: m :: m' :: '-' :: d :: d' :: cs => do
    guard ([y, y', y'', y'''].all Char.isDigit)
    let month ← twoDigits? 1 12 m m'
    let _ ← twoDigits? 1 (daysIn (Nat.ofDigitChars 10 [y, y', y'', y'''] 0) month) d d'
    return cs
  | _ => none

/-- What follows a time of day. -/
def afterTime? : List Char → Option (List Char)
  | h :: h' :: ':' :: m :: m' :: ':' :: s :: s' :: cs => do
    let _ ← twoDigits? 0 23 h h'
    let _ ← twoDigits? 0 59 m m'
    let _ ← twoDigits? 0 60 s s'
    match cs with
    | '.' :: c :: cs => do
      guard c.isDigit
      return cs.dropWhile Char.isDigit
    | cs => return cs
  | _ => none

/-- Whether a text is an offset from universal time, or nothing. -/
def isOffset : List Char → Bool
  | [] | ['Z'] | ['z'] => true
  | [sign, h, h', ':', m, m'] =>
    (sign == '+' || sign == '-') && (twoDigits? 0 23 h h').isSome && (twoDigits? 0 59 m m').isSome
  | _ => false

/-- Whether a word is a date, a time or both. -/
def isDatetime (cs : List Char) : Bool :=
  match afterDate? cs with
  | some [] => true
  | some (c :: rest) =>
    (c == 'T' || c == 't' || c == ' ') && ((afterTime? rest).map isOffset).getD false
  | none => afterTime? cs == some []

/-! ## Numbers

Digits may have single underscores between them. An integer is one that 64 bits hold, in base ten,
sixteen, eight or two; any other number is the double nearest to what is written. -/

/-- Digits of some kind without the underscores between them. -/
def digits? (isDigit : Char → Bool) : List Char → Option (List Char)
  | [] => none
  | [c] => if isDigit c then some [c] else none
  | c :: '_' :: cs => if isDigit c then (digits? isDigit cs).map (c :: ·) else none
  | c :: cs => if isDigit c then (digits? isDigit cs).map (c :: ·) else none

/-- Whether a character is a digit in a base up to sixteen. -/
def isDigitIn (base : Nat) (c : Char) : Bool :=
  match hexValue? [c] with
  | some d => d < base
  | none => false

/-- The digits of a whole number, which begins with a zero only if it is zero. -/
def wholeDigits? (cs : List Char) : Option (List Char) := do
  let ds ← digits? Char.isDigit cs
  guard (ds.length = 1 || ds.head? != some '0')
  return ds

/-- A sign, and what follows it. -/
def sign : List Char → Bool × List Char
  | '-' :: cs => (true, cs)
  | '+' :: cs => (false, cs)
  | cs => (false, cs)

/-- An integer that 64 bits hold. -/
def bounded? (n : Int) : Option Int :=
  if Int64.minValue.toInt ≤ n ∧ n ≤ Int64.maxValue.toInt then some n else none

/-- The integer that digits in a base write behind a mark for the base. -/
def based? (base : Nat) (cs : List Char) : Option Int := do
  let ds ← digits? (isDigitIn base) cs
  let ds ← ds.mapM fun c ↦ hexValue? [c]
  bounded? (ds.foldl (fun n d ↦ base * n + d) 0 : Nat)

/-- The integer that a word writes. -/
def integer? : List Char → Option Int
  | '0' :: 'x' :: cs => based? 16 cs
  | '0' :: 'o' :: cs => based? 8 cs
  | '0' :: 'b' :: cs => based? 2 cs
  | cs => do
    let (negative, cs) := sign cs
    let ds ← wholeDigits? cs
    let n : Int := Nat.ofDigitChars 10 ds 0
    bounded? (if negative then -n else n)

/-- The double nearest to `digits · 10 ^ exponent`. Far beyond the range of doubles, the power is not
computed. -/
def nearest (negative : Bool) (digits : Nat) (exponent : Int) : Float :=
  let magnitude : Float :=
    let top := exponent + digits.log2 / 3
    if digits = 0 || top < -400 then 0
    else if 400 < exponent then 1 / 0
    else if exponent < 0 then Float.ofScientific digits true exponent.natAbs
    else Float.ofScientific digits false exponent.natAbs
  if negative then -magnitude else magnitude

/-- The number that a word with a point or an exponent writes. One that is too great is none. -/
def float? (cs : List Char) : Option Float := do
  let (negative, body) := sign cs
  if body = "inf".toList then return if negative then -1 / 0 else 1 / 0
  if body = "nan".toList then return 0 / 0
  let isMantissa := fun (c : Char) ↦ c != 'e' && c != 'E'
  let mantissa := body.takeWhile isMantissa
  let whole := mantissa.takeWhile (· != '.')
  let wholeDigits ← wholeDigits? whole
  let fraction ← match mantissa.dropWhile (· != '.') with
    | [] => some []
    | _ :: ds => digits? Char.isDigit ds
  let exponent ← match body.dropWhile isMantissa with
    | [] => some 0
    | _ :: ds => do
      let (negative, ds) := sign ds
      let ds ← digits? Char.isDigit ds
      let n : Int := Nat.ofDigitChars 10 ds 0
      some (if negative then -n else n)
  guard (mantissa.length < body.length || whole.length < mantissa.length)
  let x := nearest negative (Nat.ofDigitChars 10 (wholeDigits ++ fraction) 0)
    (exponent - fraction.length)
  guard (!(x == 1 / 0))
  return x

/-! ## Words -/

/-- Whether a character may stand in a word. -/
def isWordChar (c : Char) : Bool :=
  c.isAlphanum || c == '_' || c == '-' || c == '+' || c == '.' || c == ':'

/-- A word and what follows it. One space may stand between a date and a time. -/
def word (cs : List Char) : List Char × List Char :=
  let first := cs.takeWhile isWordChar
  match afterDate? first, cs.dropWhile isWordChar with
  | some [], ' ' :: h :: h' :: ':' :: rest =>
    if h.isDigit && h'.isDigit then
      let time := h :: h' :: ':' :: rest
      (first ++ ' ' :: time.takeWhile isWordChar, time.dropWhile isWordChar)
    else (first, ' ' :: h :: h' :: ':' :: rest)
  | _, rest => (first, rest)

/-- The value that a word stands for. -/
def ofWord? (cs : List Char) : Option Item :=
  if cs = "true".toList then some (.boolean true)
  else if cs = "false".toList then some (.boolean false)
  else if isDatetime cs then some .datetime
  else match integer? cs with
    | some n => some (.integer n)
    | none => (float? cs).map .float

end TextTemplate.Toml
