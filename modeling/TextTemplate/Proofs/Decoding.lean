import TextTemplate.Proofs.Reading

/-!
# Decoding literal text

Each escape mode has a plain decoder, which reads from left to right and knows nothing of
placeholders. It is written out for each mode as a table and not in terms of the reader, so that
what is said of the text of a literal is not said in the reader's own words.
-/

namespace TextTemplate

/-- Literal text where a doubled brace stands for one brace. -/
def decodeDoubled : List Char → Option (List Char)
  | [] => some []
  | '{' :: '{' :: cs => (decodeDoubled cs).map ('{' :: ·)
  | '}' :: '}' :: cs => (decodeDoubled cs).map ('}' :: ·)
  | '{' :: _ => none
  | '}' :: _ => none
  | c :: cs => (decodeDoubled cs).map (c :: ·)

/-- Literal text where a backslash escapes. -/
def decodeBackslash : List Char → Option (List Char)
  | [] => some []
  | ['\\'] => none
  | '\\' :: 'n' :: cs => (decodeBackslash cs).map ('\n' :: ·)
  | '\\' :: 't' :: cs => (decodeBackslash cs).map ('\t' :: ·)
  | '\\' :: c :: cs =>
    if c ∈ ['{', '}', ':', '.', ',', '\\'] then (decodeBackslash cs).map (c :: ·) else none
  | '{' :: _ => none
  | '}' :: _ => none
  | c :: cs => (decodeBackslash cs).map (c :: ·)

/-- What a text stands for where it is literal, if it can be literal. -/
def decode : EscapeMode → List Char → Option (List Char)
  | .doubledBrace => decodeDoubled
  | .backslash => decodeBackslash

namespace Parser

theorem decodeDoubled_plain {c : Char} (h : isBrace c = false) (cs : List Char) :
    decodeDoubled (c :: cs) = (decodeDoubled cs).map (c :: ·) := by
  obtain ⟨hopen, hclose⟩ := isBrace_eq_false_iff.mp h
  rw [decodeDoubled] <;> simp [hopen, hclose]

theorem decodeBackslash_plain {c : Char} (h : isBrace c = false) (hback : c ≠ '\\')
    (cs : List Char) : decodeBackslash (c :: cs) = (decodeBackslash cs).map (c :: ·) := by
  obtain ⟨hopen, hclose⟩ := isBrace_eq_false_iff.mp h
  rw [decodeBackslash] <;> simp [hopen, hclose, hback]

theorem decodeBackslash_escaped {e c : Char} (h : unescape e = some c) (cs : List Char) :
    decodeBackslash ('\\' :: e :: cs) = (decodeBackslash cs).map (c :: ·) := by
  unfold unescape at h
  split at h
  · cases h
    rfl
  · cases h
    rfl
  · rename_i hn ht
    split at h
    · rename_i hmark
      cases h
      rw [decodeBackslash, if_pos (mem_of_isMark hmark)]
      · exact hn
      · exact ht
    · exact absurd h nofun

/-- The decoder undoes every way in which a character is written. -/
theorem Spelling.decode {mode : EscapeMode} {unit : List Char} {c : Char}
    (h : Spelling mode unit c) (cs : List Char) :
    TextTemplate.decode mode (unit ++ cs) = (TextTemplate.decode mode cs).map (c :: ·) := by
  cases h with
  | plain hbrace hback =>
    cases mode with
    | doubledBrace => exact decodeDoubled_plain hbrace cs
    | backslash => exact decodeBackslash_plain hbrace (hback rfl) cs
  | doubled hbrace =>
    have hc : c = '{' ∨ c = '}' := by simpa [isBrace] using hbrace
    rcases hc with rfl | rfl <;> rfl
  | escaped he => exact decodeBackslash_escaped he cs

theorem Spelling.decode_self {mode : EscapeMode} {unit : List Char} {c : Char}
    (h : Spelling mode unit c) : TextTemplate.decode mode unit = some [c] := by
  have hunit := h.decode []
  rw [List.append_nil] at hunit
  rw [hunit]
  cases mode <;> rfl

end Parser

end TextTemplate
