import Mathlib.Data.List.Chain
import TextTemplate.Proofs.Spans

/-!
# The tokens of a text

`Token.lex` puts the tokens of a text together from its last character to its first. What it gives
is said here without it: tokens that lie side by side from the first byte to the last, each of which
is the slice at its span, where text has no mark in it and no other text beside it. There is one
such list for every text and no other, so nothing depends on the direction in which it is made.

## Places

The part of a text behind a place has tokens of its own, and `Token.Lexes` makes them from the
front: a mark, or the longest run of other characters. This is the form in which a reader meets
them.
-/

namespace TextTemplate

/-- Spans lie side by side from one byte to another. -/
def Span.Tile : Nat → List Span → Nat → Prop
  | start, [], stop => start = stop
  | start, s :: ss, stop => s.start = start ∧ Tile s.stop ss stop

namespace Token

/-- The characters that carry structure. -/
def marks : List Char := ['{', '}', ':', '.', ',', '\\']

theorem isMark_iff_mem {c : Char} : isMark c = true ↔ c ∈ marks := by
  constructor
  · exact Parser.mem_of_isMark
  · intro h
    simp only [marks, List.mem_cons, List.not_mem_nil, or_false] at h
    rcases h with rfl | rfl | rfl | rfl | rfl | rfl <;> rfl

theorem eq_of_isMark {c : Char} (h : isMark c = true) :
    c = '{' ∨ c = '}' ∨ c = ':' ∨ c = '.' ∨ c = ',' ∨ c = '\\' := by
  simpa [marks] using isMark_iff_mem.mp h

/-- A mark is one byte long. -/
theorem utf8Size_of_isMark {c : Char} (h : isMark c = true) : c.utf8Size = 1 := by
  rcases eq_of_isMark h with rfl | rfl | rfl | rfl | rfl | rfl <;> rfl

/-! ## What tokens of a text are -/

/-- The characters that a token is written with. -/
def chars : Token → List Char
  | .mark c => [c]
  | .text s => s.toList

/-- Whether a token is text. -/
def isText : Token → Bool
  | .mark _ => false
  | .text _ => true

/-- A token that can stand in a text: one of the marks, or text without any. -/
def Proper : Token → Prop
  | .mark c => c ∈ marks
  | .text s => s ≠ "" ∧ ∀ c ∈ s.toList, c ∉ marks

/-- The tokens of a source from a byte on. -/
structure IsLexing (source : List Char) (start : Nat) (tokens : List (Token × Span)) : Prop where
  proper : ∀ x ∈ tokens, x.1.Proper
  slices : ∀ x ∈ tokens, x.2.slice? source = some x.1.chars
  nonempty : ∀ x ∈ tokens, x.2.start < x.2.stop
  covers : Span.Tile start (tokens.map Prod.snd) (byteWidth source)
  maximal : tokens.IsChain fun x y ↦ ¬(x.1.isText = true ∧ y.1.isText = true)

theorem isLexing_cons_iff {source : List Char} {start : Nat} {x : Token × Span}
    {tokens : List (Token × Span)} :
    IsLexing source start (x :: tokens) ↔
      (x.1.Proper ∧ x.2.slice? source = some x.1.chars ∧ x.2.start < x.2.stop ∧
        x.2.start = start ∧ ∀ y ∈ tokens.head?, ¬(x.1.isText = true ∧ y.1.isText = true)) ∧
      IsLexing source x.2.stop tokens := by
  constructor
  · intro ⟨hproper, hslices, hnonempty, hcovers, hmaximal⟩
    obtain ⟨hproper, hproper'⟩ := List.forall_mem_cons.mp hproper
    obtain ⟨hslice, hslices⟩ := List.forall_mem_cons.mp hslices
    obtain ⟨hne, hnonempty⟩ := List.forall_mem_cons.mp hnonempty
    obtain ⟨hstart, hcovers⟩ := hcovers
    obtain ⟨hnext, hmaximal⟩ := List.isChain_cons.mp hmaximal
    exact ⟨⟨hproper, hslice, hne, hstart, hnext⟩, hproper', hslices, hnonempty, hcovers, hmaximal⟩
  · rintro ⟨⟨hproper, hslice, hne, hstart, hnext⟩, htokens⟩
    exact ⟨List.forall_mem_cons.mpr ⟨hproper, htokens.proper⟩,
      List.forall_mem_cons.mpr ⟨hslice, htokens.slices⟩,
      List.forall_mem_cons.mpr ⟨hne, htokens.nonempty⟩, ⟨hstart, htokens.covers⟩,
      List.isChain_cons.mpr ⟨hnext, htokens.maximal⟩⟩

/-! ## Tokens from the front -/

/-- From a place on, the text is a mark or a longest run of other characters, and so on. -/
inductive Lexes : Cursor → List (Token × Span) → Prop
  | finish {k : Cursor} : k.rest = [] → Lexes k []
  | mark {k next : Cursor} {c : Char} {tokens : List (Token × Span)} : isMark c = true →
      k.Passes [c] next → Lexes next tokens →
      Lexes k ((.mark c, ⟨k.offset, next.offset⟩) :: tokens)
  | text {k next : Cursor} {text : List Char} {tokens : List (Token × Span)} : text ≠ [] →
      (∀ c ∈ text, isMark c = false) → k.Passes text next → Parser.AtMark next.rest →
      Lexes next tokens →
      Lexes k ((.text (String.ofList text), ⟨k.offset, next.offset⟩) :: tokens)

theorem cons_mark {c : Char} (h : isMark c = true) (offset : Nat)
    (tokens : List (Token × Span)) :
    cons offset c tokens = (.mark c, ⟨offset, offset + 1⟩) :: tokens := by
  unfold cons
  rw [utf8Size_of_isMark h, if_pos h]

/-- A character that is no mark is put into the text that it stands in front of. -/
theorem cons_text {c : Char} (h : isMark c = false) (offset : Nat) (s : String) (span : Span)
    (tokens : List (Token × Span)) :
    cons offset c ((.text s, span) :: tokens) =
      (.text (String.singleton c ++ s), ⟨offset, span.stop⟩) :: tokens := by
  unfold cons
  rw [h, if_neg Bool.false_ne_true]

/-- In front of a mark, or at the end, it is a text of its own. -/
theorem cons_singleton {c : Char} (h : isMark c = false) (offset : Nat)
    {tokens : List (Token × Span)} (hhead : ∀ x ∈ tokens.head?, x.1.isText = false) :
    cons offset c tokens =
      (.text (String.singleton c), ⟨offset, offset + c.utf8Size⟩) :: tokens := by
  unfold cons
  rw [h, if_neg Bool.false_ne_true]
  match tokens with
  | [] => rfl
  | (.mark d, span) :: tokens => rfl
  | (.text s, span) :: tokens => exact absurd (hhead _ rfl) Bool.noConfusion

theorem ofChars_mark {c : Char} (h : isMark c = true) (offset : Nat) (cs : List Char) :
    ofChars offset (c :: cs) = (.mark c, ⟨offset, offset + 1⟩) :: ofChars (offset + 1) cs := by
  rw [ofChars, utf8Size_of_isMark h, cons_mark h]

/-- Where a mark stands, or nothing, the first token is no text. -/
theorem isText_head_ofChars {offset : Nat} {cs : List Char} (h : Parser.AtMark cs) :
    ∀ x ∈ (ofChars offset cs).head?, x.1.isText = false := by
  cases cs with
  | nil => exact nofun
  | cons c cs =>
    rw [ofChars_mark (h c rfl)]
    rintro x hx
    obtain rfl := Option.some.inj hx
    rfl

/-- A run of characters that are no marks is one token, if it is a longest one. -/
theorem ofChars_append {text rest : List Char} (hne : text ≠ [])
    (htext : ∀ c ∈ text, isMark c = false) (hrest : Parser.AtMark rest) (offset : Nat) :
    ofChars offset (text ++ rest) =
      (.text (String.ofList text), ⟨offset, offset + byteWidth text⟩) ::
        ofChars (offset + byteWidth text) rest := by
  induction text generalizing offset with
  | nil => exact absurd rfl hne
  | cons c text ih =>
    obtain ⟨hc, htext⟩ := List.forall_mem_cons.mp htext
    rw [List.cons_append, ofChars, String.ofList_cons, byteWidth_cons, ← Nat.add_assoc]
    cases text with
    | nil =>
      -- The run ends here, so what follows is not joined to it.
      rw [List.nil_append, cons_singleton hc offset (isText_head_ofChars hrest), byteWidth_nil,
        String.ofList_nil, String.append_empty]
      rfl
    | cons d text => rw [ih (List.cons_ne_nil d text) htext, cons_text hc]

/-- Where no mark stands, the first token is the longest run of characters that are none. -/
theorem ofChars_run {k : Cursor} {c : Char} {rest : List Char} (h : k.rest = c :: rest)
    (hc : isMark c = false) :
    ofChars k.offset k.rest = (.text (String.ofList k.run.1), ⟨k.offset, k.run.2.offset⟩) ::
      ofChars k.run.2.offset k.run.2.rest := by
  have hpass := Parser.run_passes k
  rw [hpass.offset, ← ofChars_append (Parser.run_ne_nil h hc)
    (fun d ↦ Parser.isMark_of_mem_run) (Parser.atMark_run k), ← hpass.rest]

/-- There is at most one way to read tokens from the front. -/
theorem Lexes.eq_ofChars {k : Cursor} {tokens : List (Token × Span)} (h : Lexes k tokens) :
    tokens = ofChars k.offset k.rest := by
  induction h with
  | finish hk => rw [hk, ofChars]
  | mark hc hpass _ ih =>
    have hnext := hpass.offset
    rw [byteWidth_cons, utf8Size_of_isMark hc] at hnext
    rw [hpass.rest, List.singleton_append, ofChars_mark hc, ih, hnext]
    rfl
  | text hne htext hpass hmark _ ih =>
    rw [hpass.rest, ofChars_append hne htext hmark, ih, hpass.offset]

/-- Tokens can be read from every place. -/
theorem lexes_ofChars (k : Cursor) : Lexes k (ofChars k.offset k.rest) := by
  induction hn : k.rest.length using Nat.strongRecOn generalizing k with
  | ind n ih =>
    cases hrest : k.rest with
    | nil => exact .finish hrest
    | cons c cs =>
      cases hc : isMark c with
      | true =>
        have hpass := Cursor.Passes.mark hrest (utf8Size_of_isMark hc)
        rw [ofChars_mark hc]
        refine .mark hc hpass (ih _ ?_ _ rfl)
        rw [← hn, hrest]
        exact Nat.lt_succ_self _
      | false =>
        have hne := Parser.run_ne_nil hrest hc
        have hpass := Parser.run_passes k
        rw [← hrest, ofChars_run hrest hc]
        refine .text hne (fun d ↦ Parser.isMark_of_mem_run) hpass (Parser.atMark_run k)
          (ih _ ?_ _ rfl)
        have hlen := hpass.length_add
        have hpos := List.length_pos_iff.mpr hne
        omega

theorem Lexes.atMark {k : Cursor} {tokens : List (Token × Span)} (h : Lexes k tokens)
    (hhead : ∀ x ∈ tokens.head?, x.1.isText = false) : Parser.AtMark k.rest := by
  cases h with
  | finish hk =>
    rw [hk]
    exact nofun
  | mark hc hpass _ => exact Parser.atMark_of_cons hpass.rest hc
  | text => exact absurd (hhead _ rfl) Bool.noConfusion

theorem Lexes.head_isText {k : Cursor} {tokens : List (Token × Span)} (h : Lexes k tokens)
    (hk : Parser.AtMark k.rest) : ∀ x ∈ tokens.head?, x.1.isText = false := by
  rw [h.eq_ofChars]
  exact isText_head_ofChars hk

/-! ## The two agree -/

theorem Lexes.isLexing {source : List Char} {k : Cursor} {tokens : List (Token × Span)}
    (h : Lexes k tokens) (hk : k.Within source) : IsLexing source k.offset tokens := by
  induction h with
  | @finish k hrest =>
    obtain ⟨before, hsource, hoffset⟩ := hk
    refine ⟨nofun, nofun, nofun, ?_, .nil⟩
    rw [hsource, hrest, List.append_nil, hoffset]
    rfl
  | @mark k next c tokens hc hpass hnext ih =>
    have hwidth := hpass.offset
    rw [byteWidth_cons, utf8Size_of_isMark hc] at hwidth
    refine isLexing_cons_iff.mpr ⟨⟨isMark_iff_mem.mp hc, hpass.slice? hk, ?_, rfl, ?_⟩,
      ih (hpass.within hk)⟩
    · simp only
      omega
    · exact fun _ _ ⟨htext, _⟩ ↦ Bool.noConfusion htext
  | @text k next text tokens hne htext hpass hmark hnext ih =>
    have hproper : Proper (.text (String.ofList text)) := by
      refine ⟨fun hempty ↦ hne (String.ofList_eq_empty_iff.mp hempty), fun c hc ↦ ?_⟩
      rw [String.toList_ofList] at hc
      rw [← isMark_iff_mem, htext c hc]
      exact Bool.false_ne_true
    have hslice : (Span.mk k.offset next.offset).slice? source =
        some (chars (.text (String.ofList text))) := by
      rw [chars, String.toList_ofList]
      exact hpass.slice? hk
    refine isLexing_cons_iff.mpr ⟨⟨hproper, hslice, ?_, rfl, ?_⟩, ih (hpass.within hk)⟩
    · have hpos := byteWidth_pos hne
      have hwidth := hpass.offset
      simp only
      omega
    · intro y hy ⟨_, htexty⟩
      rw [hnext.head_isText hmark y hy] at htexty
      exact Bool.noConfusion htexty

theorem IsLexing.lexes {source : List Char} {tokens : List (Token × Span)} {k : Cursor}
    (h : IsLexing source k.offset tokens) (hk : k.Within source) : Lexes k tokens := by
  -- Each token is the slice where the one before it ends, so it stands at the front of the rest.
  induction tokens generalizing k with
  | nil =>
    obtain ⟨before, hsource, hoffset⟩ := hk
    have hcovers : k.offset = byteWidth source := h.covers
    rw [hsource, byteWidth_append, ← hoffset] at hcovers
    refine .finish (not_not.mp fun hne ↦ ?_)
    have hpos := byteWidth_pos hne
    omega
  | cons x tokens ih =>
    obtain ⟨token, span⟩ := x
    obtain ⟨⟨hproper, hslice, _, hstart, hmaximal⟩, htokens⟩ := isLexing_cons_iff.mp h
    simp only at hproper hslice hstart hmaximal htokens
    obtain ⟨before, hsource, hoffset⟩ := hk
    obtain ⟨behind, hrest, hstop⟩ :=
      Span.slice?_behind (hstart.trans hoffset) (hsource ▸ hslice)
    rw [byteWidth_append, ← hoffset] at hstop
    have hpass : k.Passes token.chars ⟨span.stop, behind⟩ := ⟨hrest, hstop⟩
    have hnext : Lexes ⟨span.stop, behind⟩ tokens :=
      ih htokens (hpass.within ⟨before, hsource, hoffset⟩)
    obtain ⟨start, stop⟩ := span
    obtain rfl : start = k.offset := hstart
    cases token with
    | mark c => exact .mark (isMark_iff_mem.mpr hproper) hpass hnext
    | text s =>
      obtain ⟨hne, hchars⟩ := hproper
      have htext : ∀ c ∈ s.toList, isMark c = false := fun c hc ↦ by
        rw [Bool.eq_false_iff, ne_eq, isMark_iff_mem]
        exact hchars c hc
      have hmark : Parser.AtMark behind := hnext.atMark fun y hy ↦ by
        exact Bool.eq_false_iff.mpr fun hy' ↦ hmaximal y hy ⟨rfl, hy'⟩
      have hlexes := Lexes.text (fun hnil ↦ hne (String.toList_eq_nil_iff.mp hnil)) htext hpass
        hmark hnext
      rwa [String.ofList_toList] at hlexes

/-- **One list of tokens.** The tokens of a text, and no others, lie side by side from its first
byte to its last; each is the slice at its span and not empty, text has no mark in it, and no text
stands beside text. -/
theorem isLexing_iff_eq_lex (source : String) (tokens : List (Token × Span)) :
    IsLexing source.toList 0 tokens ↔ tokens = lex source := by
  have hk := Cursor.within_ofString source
  constructor
  · intro h
    exact (IsLexing.lexes (k := .ofString source) h hk).eq_ofChars
  · rintro rfl
    exact (lexes_ofChars (.ofString source)).isLexing hk

/-- Text of two-byte characters with a mark in it. -/
example : lex "é.ü" = [(.text "é", ⟨0, 2⟩), (.mark '.', ⟨2, 3⟩), (.text "ü", ⟨3, 5⟩)] := by decide

end Token

end TextTemplate
