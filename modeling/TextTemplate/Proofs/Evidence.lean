import TextTemplate.Proofs.Refusing
import TextTemplate.Proofs.Spans

/-!
# What a syntax error points at

An error of reading comes with a span, and the text in that span is enough to see what is wrong: the
brace that nothing closes, the character that may not stand there, the number that is none. Which
text shows which error is written down as a table, `SyntaxErrorKind.IsShownBy`, that does not
mention the reader.

The spans of errors are made from offsets in many places. That each of them has a slice is shown as
it is for the spans of templates: the place at which the reader stops is a place of the source, and
so is every place on the way to it.
-/

namespace TextTemplate

/-- The text that shows what is wrong. -/
def SyntaxErrorKind.IsShownBy : SyntaxErrorKind → List Char → Prop
  | .unclosedPlaceholder, text => text = ['{']
  | .unexpectedClose, text => text = ['}']
  | .emptySelector, text => ∃ c ∈ ['}', ':', ','], text = ['{', c]
  | .emptySegment, text => ∃ c ∈ ['}', ':', ',', '.'], text = [c]
  | .invalidSelectorChar c, text =>
    (Unicode.isAlphanumeric c = false ∧ c ≠ '_' ∧ c ≠ '-') ∧ text = [c]
  | .unexpectedChar c, text => c ∈ ['{', '.', ',', '\\'] ∧ text = [c]
  | .invalidAlignment width, text => text = if width = "" then [','] else width.toList
  | .invalidEscape (some c), text => text = ['\\', c]
  | .invalidEscape none, text => text = ['\\']

theorem SyntaxErrorKind.IsShownBy.ne_nil {kind : SyntaxErrorKind} {text : List Char}
    (h : kind.IsShownBy text) : text ≠ [] := by
  rintro rfl
  cases kind with
  | unclosedPlaceholder => exact absurd h nofun
  | unexpectedClose => exact absurd h nofun
  | emptySelector =>
    obtain ⟨c, _, htext⟩ := h
    exact absurd htext nofun
  | emptySegment =>
    obtain ⟨c, _, htext⟩ := h
    exact absurd htext nofun
  | invalidSelectorChar c => exact absurd h.2 nofun
  | unexpectedChar c => exact absurd h.2 nofun
  | invalidAlignment width =>
    have htext : [] = if width = "" then [','] else width.toList := h
    by_cases hwidth : width = ""
    · rw [if_pos hwidth] at htext
      exact absurd htext nofun
    · rw [if_neg hwidth] at htext
      exact hwidth (String.toList_eq_nil_iff.mp htext.symm)
  | invalidEscape escaped => cases escaped <;> exact absurd h nofun

/-- The source shows the error where its span is. A backslash with nothing behind it is its end. -/
structure SyntaxError.Evident (source : List Char) (e : SyntaxError) : Prop where
  shown : ∃ text, e.span.slice? source = some text ∧ e.kind.IsShownBy text
  last : e.kind = .invalidEscape none → e.span.stop = byteWidth source

theorem SyntaxError.evident_of_passes {source text : List Char} {k next : Cursor}
    {kind : SyntaxErrorKind} (hk : k.Within source) (h : k.Passes text next)
    (hshown : kind.IsShownBy text) (hkind : kind ≠ .invalidEscape none) :
    Evident source ⟨kind, ⟨k.offset, next.offset⟩⟩ :=
  ⟨⟨text, h.slice? hk, hshown⟩, fun hlast ↦ absurd hlast hkind⟩

/-- A single mark shows an error. -/
theorem SyntaxError.evident_of_mark {source rest : List Char} {k : Cursor} {kind : SyntaxErrorKind}
    {c : Char} (hk : k.Within source) (hrest : k.rest = c :: rest) (hc : isMark c = true)
    (hshown : kind.IsShownBy [c]) (hkind : kind ≠ .invalidEscape none) :
    Evident source ⟨kind, ⟨k.offset, k.offset + 1⟩⟩ := by
  have hmark := Parser.mem_of_isMark hc
  have hwidth : ['{', '}', ':', '.', ',', '\\'].all (·.utf8Size == 1) = true := rfl
  have hsize := List.all_eq_true.mp hwidth c hmark
  exact evident_of_passes hk (.mark hrest (eq_of_beq hsize)) hshown hkind

namespace Parser

variable {source : List Char}

/-! ## The parts of a placeholder -/

/-- The first character that may not stand in a selector stands behind the bytes before it. -/
theorem exists_split_of_firstInvalid? {text : List Char} {n : Nat} {c : Char}
    (h : firstInvalid? text = some (n, c)) :
    ∃ before behind, text = before ++ c :: behind ∧ n = byteWidth before ∧
      isSelectorChar c = false := by
  induction text generalizing n with
  | nil => exact absurd h nofun
  | cons d text ih =>
    rw [firstInvalid?] at h
    by_cases hd : isSelectorChar d = true
    · rw [if_pos hd] at h
      obtain ⟨⟨m, e⟩, hm, heq⟩ := Option.map_eq_some_iff.mp h
      cases heq
      obtain ⟨before, behind, rfl, rfl, hc⟩ := ih hm
      exact ⟨d :: before, behind, rfl, rfl, hc⟩
    · rw [if_neg hd] at h
      cases h
      exact ⟨[], text, rfl, rfl, Bool.eq_false_iff.mpr hd⟩

/-- A path fails at a place of the source. Where it has no segment at all, it fails right behind the
opening brace, and the error spans both. -/
theorem RefusesPath.evident {opening k : Cursor} {body : List Char} {leading : Bool}
    {e : SyntaxError} (h : RefusesPath opening.offset leading k e)
    (hopening : opening.Within source) (hbody : opening.rest = '{' :: body)
    (hk : k.Within source) (hleading : leading = true → k = ⟨opening.offset + 1, body⟩) :
    e.Evident source := by
  induction h with
  | finish hrest => exact SyntaxError.evident_of_mark hopening hbody rfl rfl nofun
  | @unexpected _ k c rest hrest hc =>
    refine SyntaxError.evident_of_mark hk hrest ?_ ⟨?_, rfl⟩ nofun
    · rcases hc with rfl | rfl <;> rfl
    · rcases hc with rfl | rfl <;> decide
  | @noPath k c rest hrest hc =>
    obtain rfl := hleading rfl
    have hsize : c.utf8Size = 1 := by rcases hc with rfl | rfl | rfl <;> rfl
    have hpass := (Cursor.Passes.mark hbody rfl).trans (Cursor.Passes.mark hrest hsize)
    exact SyntaxError.evident_of_passes hopening hpass ⟨c, by simpa using hc, rfl⟩ nofun
  | @noSegment _ k c rest hrest hc =>
    have hmem : c ∈ ['}', ':', ',', '.'] := by
      rcases hc with rfl | ⟨_, rfl | rfl | rfl⟩ <;> decide
    refine SyntaxError.evident_of_mark hk hrest ?_ ⟨c, hmem, rfl⟩ nofun
    rcases hc with rfl | ⟨_, rfl | rfl | rfl⟩ <;> rfl
  | @invalid _ k next text n c hpass _ hinvalid =>
    obtain ⟨before, behind, rfl, rfl, hc⟩ := exists_split_of_firstInvalid? hinvalid
    obtain ⟨mid, hbefore, hpass⟩ := hpass.split
    have hpass : mid.Passes ([c] ++ behind) next := hpass
    obtain ⟨stop, hchar, _⟩ := hpass.split
    have hc : (Unicode.isAlphanumeric c = false ∧ c ≠ '_') ∧ c ≠ '-' := by
      simpa [isSelectorChar] using hc
    have hevident : SyntaxError.Evident source
        ⟨.invalidSelectorChar c, ⟨mid.offset, stop.offset⟩⟩ :=
      SyntaxError.evident_of_passes (hbefore.within hk) hchar ⟨⟨hc.1.1, hc.1.2, hc.2⟩, rfl⟩ nofun
    rw [hchar.offset, hbefore.offset, byteWidth_cons, byteWidth_nil] at hevident
    exact hevident
  | dot hs hrest _ ih =>
    have hnext := (Cursor.Passes.mark hrest rfl).within (hs.passes.within hk)
    exact ih hnext nofun

theorem RefusesWidth.evident {k : Cursor} {e : SyntaxError} (h : RefusesWidth k e)
    (hk : k.Within source) : e.Evident source := by
  cases h with
  | missing hrest => exact SyntaxError.evident_of_mark hk hrest rfl rfl nofun
  | @invalid next text hpass hne _ =>
    have hrest : k.rest = ',' :: (text ++ next.rest) := hpass.rest
    have hcomma : k.Passes [','] ⟨k.offset + 1, text ++ next.rest⟩ := .mark hrest rfl
    refine SyntaxError.evident_of_passes (hcomma.within hk) (hpass.tail hrest rfl) ?_ nofun
    rw [SyntaxErrorKind.IsShownBy, if_neg, String.toList_ofList]
    exact fun h ↦ hne (String.ofList_eq_empty_iff.mp h)

/-! ## Behind the parts of a placeholder -/

theorem ReadsPath.atMark {leading : Bool} {k next : Cursor} {ss : List Selector}
    (h : ReadsPath leading k ss next) : AtMark next.rest := by
  induction h with
  | last hs _ =>
    cases hs with
    | mk _ _ _ hmark => exact hmark
  | dot _ _ _ ih => exact ih

theorem ReadsHead.atMark {mode : EscapeMode} {closes : List Char → Bool} {k next : Cursor}
    {selectors : List Selector} {width : Option Int32}
    (h : ReadsHead mode closes k selectors width next) : AtMark next.rest := by
  obtain ⟨_, _, hpath, hwidth⟩ := h
  cases hwidth with
  | none _ => exact hpath.atMark
  | some _ _ _ hmark _ => exact hmark

/-- A mark that is neither a colon nor a closing brace does not belong behind a path. -/
theorem mem_of_stray {c : Char} (hc : isMark c = true) (hcolon : c ≠ ':') (hclose : c ≠ '}') :
    c ∈ ['{', '.', ',', '\\'] := by
  have hmark := mem_of_isMark hc
  simpa [hcolon, hclose] using hmark

/-! ## Every error -/

theorem front_eq_badEscape {mode : EscapeMode} {cs : List Char} {escaped : Option Char}
    (h : front mode cs = .badEscape escaped) :
    (escaped = none ∧ cs = ['\\']) ∨ ∃ c rest, escaped = some c ∧ cs = '\\' :: c :: rest := by
  cases mode with
  | doubledBrace =>
    simp only [front] at h
    unfold frontDoubled at h
    split at h <;> cases h
  | backslash =>
    simp only [front] at h
    unfold frontBackslash at h
    split at h <;> (try split at h) <;> cases h
    · exact Or.inl ⟨rfl, rfl⟩
    · exact Or.inr ⟨_, _, rfl, rfl⟩

theorem evident_badEscape {mode : EscapeMode} {k : Cursor} {escaped : Option Char}
    (h : front mode k.rest = .badEscape escaped) (hk : k.Within source) :
    SyntaxError.Evident source ⟨.invalidEscape escaped,
      ⟨k.offset, k.offset + (1 + (escaped.map Char.utf8Size).getD 0)⟩⟩ := by
  rcases front_eq_badEscape h with ⟨rfl, hrest⟩ | ⟨c, rest, rfl, hrest⟩
  · have hpass : k.Passes ['\\'] ⟨k.offset + 1, []⟩ := .mark hrest rfl
    obtain ⟨before, hsource, hoffset⟩ := hpass.within hk
    refine ⟨⟨['\\'], hpass.slice? hk, rfl⟩, fun _ ↦ ?_⟩
    -- Nothing is left to be read, so the place behind the backslash is the end.
    rw [hsource, List.append_nil, ← hoffset]
    rfl
  · have hpass : k.Passes ['\\', c] ⟨k.offset + byteWidth ['\\', c], rest⟩ := ⟨hrest, rfl⟩
    exact SyntaxError.evident_of_passes hk hpass rfl nofun

/-- Wherever the reader stops, the source shows why. -/
theorem Refuses.evident {mode : EscapeMode} {closes : List Char → Bool} {scope : Scope}
    {k : Cursor} {e : SyntaxError} (h : Refuses mode closes scope k e) (hk : k.Within source) :
    e.Evident source := by
  have hunclosed : ∀ {k : Cursor} {rest : List Char}, k.Within source →
      front mode k.rest = .opening rest → (unclosedAt k).Evident source := fun hk hfront ↦
    SyntaxError.evident_of_mark hk (front_eq_opening_iff.mp hfront).1 rfl rfl nofun
  induction h with
  | badEscape hfront => exact evident_badEscape hfront hk
  | close hfront =>
    obtain ⟨rest, hrest, _⟩ := front_eq_closing_iff.mp hfront
    exact SyntaxError.evident_of_mark hk hrest rfl rfl nofun
  | ahead hfront _ => exact hunclosed hk hfront
  | path hfront _ hpath =>
    have hopen := (front_eq_opening_iff.mp hfront).1
    exact hpath.evident hk hopen ((Cursor.Passes.mark hopen rfl).within hk) fun _ ↦ rfl
  | width hfront _ hpath hwidth =>
    have hopen := Cursor.Passes.mark (front_eq_opening_iff.mp hfront).1 rfl
    exact hwidth.evident (hpath.passes.within (hopen.within hk))
  | @stray _ k mid _ _ c rest hhead hrest hcolon hclose =>
    obtain ⟨_, _, hpass⟩ := hhead.passes
    have hmark : isMark c = true := hhead.atMark c (by rw [hrest]; rfl)
    have hpass' : mid.Passes [c] ⟨mid.offset + byteWidth [c], rest⟩ := ⟨hrest, rfl⟩
    exact SyntaxError.evident_of_passes (hpass.within hk) hpass'
      ⟨mem_of_stray hmark hcolon hclose, rfl⟩ nofun
  | bareEnd hhead _ =>
    obtain ⟨hfront, _, _, _⟩ := hhead
    exact hunclosed hk hfront
  | specifier hhead hcolon _ ih =>
    obtain ⟨_, _, hpass⟩ := hhead.passes
    exact ih ((Cursor.Passes.mark hcolon rfl).within (hpass.within hk))
  | specifierEnd hhead _ _ _ =>
    obtain ⟨hfront, _, _, _⟩ := hhead
    exact hunclosed hk hfront
  | char _ hpass _ ih => exact ih (hpass.within hk)
  | bare hhead hclose _ ih =>
    obtain ⟨_, _, hpass⟩ := hhead.passes
    exact ih ((Cursor.Passes.mark hclose rfl).within (hpass.within hk))
  | formatted hhead hcolon hqs hclose _ ih =>
    obtain ⟨_, _, hpass⟩ := hhead.passes
    obtain ⟨_, hpassed⟩ := hqs.passes
    have hstop := hpassed.within ((Cursor.Passes.mark hcolon rfl).within (hpass.within hk))
    exact ih ((Cursor.Passes.mark hclose rfl).within hstop)

end Parser

/-- **Syntax errors point at their evidence.** The span of an error begins at its offset, is not
empty and lies in the source. Both of its ends are between characters, and the text between them is
what shows the error. -/
theorem Template.evidence_of_parse {mode : EscapeMode} {source : String} {e : SyntaxError}
    (h : Template.parse mode source = .error e) :
    e.offset = e.span.start ∧ e.span.start < e.span.stop ∧ e.span.stop ≤ source.utf8ByteSize ∧
      (∃ text, e.span.slice? source.toList = some text ∧ e.kind.IsShownBy text) ∧
      (e.kind = .invalidEscape none → e.span.stop = source.utf8ByteSize) := by
  obtain ⟨⟨text, hslice, hshown⟩, hlast⟩ :=
    (Template.refuses_of_parse h).evident (Cursor.within_ofString source)
  rw [byteWidth_toList] at hlast
  obtain ⟨before, behind, hsource, hstart, hstop⟩ := Span.slice?_eq_some_iff.mp hslice
  have hpos : 0 < byteWidth text := by
    obtain ⟨c, cs, rfl⟩ := List.exists_cons_of_ne_nil hshown.ne_nil
    exact Nat.add_pos_left c.utf8Size_pos _
  have hsize : byteWidth before + (byteWidth text + byteWidth behind) = source.utf8ByteSize := by
    rw [← byteWidth_toList, hsource, byteWidth_append, byteWidth_append]
  refine ⟨rfl, ?_, ?_, ⟨text, hslice, hshown⟩, hlast⟩
  · omega
  · omega

/-- A width in the specifier of a placeholder, with a letter of two bytes in it and another one at
the front of the text. -/
theorem Template.evidence_of_parse_widthSample :
    let e : SyntaxError := ⟨.invalidAlignment "5é", ⟨8, 11⟩⟩
    Template.parse .doubledBrace "é\x7ba:\x7bx,5é\x7d\x7d" = .error e ∧
      ∃ text, e.span.slice? "é\x7ba:\x7bx,5é\x7d\x7d".toList = some text ∧ text = ['5', 'é'] := by
  intro e
  have hparse : Template.parse .doubledBrace "é\x7ba:\x7bx,5é\x7d\x7d" = .error e := rfl
  obtain ⟨_, _, _, ⟨text, hslice, hshown⟩, _⟩ := Template.evidence_of_parse hparse
  exact ⟨hparse, text, hslice, hshown⟩

end TextTemplate
