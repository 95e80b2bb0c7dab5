import TextTemplate.Number
import TextTemplate.Value.Basic

/-!
# The text of a value

Every value has one canonical text. Null has the empty one; the items of a list are joined with
commas and without brackets, and the entries of a map stand in braces. A hint may ask for another
text.
-/

namespace TextTemplate

/-! ## Canonical text -/

/-- The text of a key. -/
def Key.text : Key → String
  | .str s => s
  | .int n => Numeral.decimal n.toInt

mutual

/-- The text of a value. -/
def Value.text : Value → String
  | .null => ""
  | .bool b => if b then "true" else "false"
  | .int n => Numeral.decimal n.toInt
  | .float x => Shortest.text x
  | .str s => s
  | .list items => ", ".intercalate (Value.texts items)
  | .map ⟨entries⟩ => "\x7b" ++ ", ".intercalate (Value.entryTexts entries) ++ "\x7d"
  | .object o => o.text
  | .record r => r.text

/-- The texts of values. -/
def Value.texts : List Value → List String
  | [] => []
  | v :: vs => v.text :: Value.texts vs

/-- The texts of the entries of a map. -/
def Value.entryTexts : List (Key × Value) → List String
  | [] => []
  | (k, v) :: es => (k.text ++ ": " ++ v.text) :: Value.entryTexts es

end

/-! ## Hints

A specifier without placeholders may say how a number is to be written: a letter for the style and
digits for the precision. A hint that means nothing for a value is no error; the value then has its
canonical text. -/

/-- The number styles that a hint can ask for. -/
inductive NumberStyle where
  /-- A fixed count of decimals. -/
  | fixed
  /-- An integer with zeros before it. -/
  | padded
  /-- The two's complement in base sixteen, in capital or in small letters. -/
  | hexadecimal (capital : Bool)
  deriving DecidableEq, Repr

namespace NumberStyle

/-- The style that a letter stands for. -/
def ofChar? : Char → Option NumberStyle
  | 'F' | 'f' | 'N' | 'n' => some .fixed
  | 'D' | 'd' => some .padded
  | 'X' => some (.hexadecimal true)
  | 'x' => some (.hexadecimal false)
  | _ => none

/-- The greatest precision that a hint can ask for. -/
def maxPrecision : Nat := 64

/-- The precision that the digits of a hint write, or none where there are no digits; a greater one
than the greatest counts as that. A number of 2⁶⁴ or more is no precision. -/
def precision? (digits : List Char) : Option (Option Nat) :=
  if digits.isEmpty then some none
  else match Numeral.unsigned? digits with
    | some p => if p < UInt64.size then some (some (min p maxPrecision)) else none
    | none => none

/-- The text of an integer in a style. -/
def ofInt (style : NumberStyle) (precision : Option Nat) (n : Int64) : String :=
  match style with
  | .fixed => Fixed.text (precision.getD 2) (.ofInt n.toInt)
  | .padded =>
    let digits := Numeral.zeroPadded (precision.getD 0) (Nat.toDigits 10 n.toInt.natAbs)
    String.ofList (if n < 0 then '-' :: digits else digits)
  | .hexadecimal capital =>
    let digits := Numeral.hexadecimal n.toUInt64.toNat
    let digits := if capital then digits.map Char.toUpper else digits
    String.ofList (Numeral.zeroPadded (precision.getD 0) digits)

end NumberStyle

/-- The text of a value in a style. -/
def Value.textIn (v : Value) (style : NumberStyle) (precision : Option Nat) : String :=
  match v, style with
  | .int n, _ => style.ofInt precision n
  | .float x, .fixed => Fixed.text (precision.getD 2) (.ofFloat x)
  | _, _ => v.text

/-- The text of a value under a hint. White space around the hint does not count. -/
def Value.textWithHint (v : Value) (hint : String) : String :=
  match Unicode.trim hint.toList with
  | [] => v.text
  | letter :: digits =>
    match NumberStyle.ofChar? letter, NumberStyle.precision? digits with
    | some style, some precision => v.textIn style precision
    | _, _ => v.text

end TextTemplate
