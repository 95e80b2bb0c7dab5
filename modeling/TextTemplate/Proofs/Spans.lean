import TextTemplate.Proofs.Decoding

/-!
# What the spans of a template say

The spans of a template that was read rebuild the text it was read from. The nodes lie side by side;
a literal decodes the slice that it stands for, and a placeholder is its slice, in which the
segments, the width and the format lie one behind the other. The same holds of the template inside a
format.

The invariant is that a place is a place of the source: the bytes in front of it are as many as its
offset says. Every rule of reading moves from one such place to another, so each span that it makes
has the slice that it passed over.
-/

namespace TextTemplate

/-! ## Cutting texts at bytes

A span counts bytes and a text is a list of characters, so a cut need not exist: it does exactly
where a character begins or the text ends. `Span.slice?` cuts twice. That a span has a slice
therefore says that both of its ends lie between characters, and no separate statement about
boundaries is needed. -/

/-- The two parts of a text that is cut at a byte. -/
def cutAt? : Nat → List Char → Option (List Char × List Char)
  | 0, cs => some ([], cs)
  | _ + 1, [] => none
  | n + 1, c :: cs =>
    if c.utf8Size ≤ n + 1 then
      (cutAt? (n + 1 - c.utf8Size) cs).map fun (before, behind) ↦ (c :: before, behind)
    else none

theorem cutAt?_byteWidth (before behind : List Char) :
    cutAt? (byteWidth before) (before ++ behind) = some (before, behind) := by
  induction before with
  | nil => cases behind <;> rfl
  | cons c before ih =>
    obtain ⟨n, hn⟩ := Nat.exists_eq_add_one_of_ne_zero
      (Nat.ne_of_gt (Nat.add_pos_left c.utf8Size_pos (byteWidth before)))
    have hle : c.utf8Size ≤ n + 1 := by omega
    have hsub : n + 1 - c.utf8Size = byteWidth before := by omega
    rw [byteWidth_cons, List.cons_append, hn, cutAt?, if_pos hle, hsub, ih]
    rfl

theorem cutAt?_eq_some_iff {n : Nat} {cs before behind : List Char} :
    cutAt? n cs = some (before, behind) ↔ cs = before ++ behind ∧ n = byteWidth before := by
  constructor
  · intro h
    induction cs generalizing n before with
    | nil =>
      cases n with
      | zero =>
        cases h
        exact ⟨rfl, rfl⟩
      | succ n => exact absurd h nofun
    | cons c cs ih =>
      cases n with
      | zero =>
        cases h
        exact ⟨rfl, rfl⟩
      | succ n =>
        rw [cutAt?] at h
        split at h
        · rename_i hle
          obtain ⟨⟨before', behind'⟩, hcut, hparts⟩ := Option.map_eq_some_iff.mp h
          cases hparts
          obtain ⟨rfl, hn⟩ := ih hcut
          refine ⟨rfl, ?_⟩
          rw [byteWidth_cons]
          omega
        · exact absurd h nofun
  · rintro ⟨rfl, rfl⟩
    exact cutAt?_byteWidth before behind

/-- The part of a text that lies in a span. -/
def Span.slice? (source : List Char) (span : Span) : Option (List Char) :=
  if span.start ≤ span.stop then do
    let (_, rest) ← cutAt? span.start source
    let (text, _) ← cutAt? (span.stop - span.start) rest
    return text
  else none

namespace Span

theorem slice?_eq_some_iff {source text : List Char} {span : Span} :
    span.slice? source = some text ↔ ∃ before behind, source = before ++ (text ++ behind) ∧
      span.start = byteWidth before ∧ span.stop = span.start + byteWidth text := by
  unfold slice?
  constructor
  · intro h
    split at h
    · rename_i hle
      simp only [bind, Option.bind_eq_some_iff, pure, Option.some.injEq, Prod.exists] at h
      obtain ⟨before, rest, hstart, text', behind, hstop, rfl⟩ := h
      obtain ⟨rfl, hbefore⟩ := cutAt?_eq_some_iff.mp hstart
      obtain ⟨rfl, htext⟩ := cutAt?_eq_some_iff.mp hstop
      exact ⟨before, behind, rfl, hbefore, by omega⟩
    · exact absurd h nofun
  · rintro ⟨before, behind, rfl, hstart, hstop⟩
    have hle : span.start ≤ span.stop := by omega
    have hwidth : span.stop - span.start = byteWidth text := by omega
    rw [if_pos hle, hwidth, hstart]
    simp only [cutAt?_byteWidth, bind, Option.bind_some, pure]

/-- A slice that starts where a text is cut stands at the front of what is behind the cut. -/
theorem slice?_behind {before rest text : List Char} {span : Span}
    (hstart : span.start = byteWidth before) (h : span.slice? (before ++ rest) = some text) :
    ∃ behind, rest = text ++ behind ∧ span.stop = byteWidth (before ++ text) := by
  obtain ⟨before', behind, hsource, hstart', hstop⟩ := slice?_eq_some_iff.mp h
  -- There is only one cut at a byte.
  have hcut : cutAt? span.start (before ++ rest) = some (before, rest) :=
    cutAt?_eq_some_iff.mpr ⟨rfl, hstart⟩
  have hcut' : cutAt? span.start (before ++ rest) = some (before', text ++ behind) :=
    cutAt?_eq_some_iff.mpr ⟨hsource, hstart'⟩
  obtain ⟨rfl, rfl⟩ := Prod.mk.inj (Option.some.inj (hcut.symm.trans hcut'))
  exact ⟨behind, rfl, by rw [hstop, hstart, byteWidth_append]⟩

/-- Neighbouring slices make one. -/
theorem slice?_through {source text text' : List Char} {first last : Span}
    (h : first.slice? source = some text) (h' : last.slice? source = some text')
    (hmeet : first.stop = last.start) :
    (first.through last).slice? source = some (text ++ text') := by
  obtain ⟨before, rest, rfl, hstart, hstop⟩ := slice?_eq_some_iff.mp h
  have hcut : last.start = byteWidth (before ++ text) := by
    rw [← hmeet, hstop, hstart, byteWidth_append]
  rw [← List.append_assoc] at h'
  obtain ⟨behind, rfl, hstop'⟩ := slice?_behind hcut h'
  refine slice?_eq_some_iff.mpr ⟨before, behind, ?_, hstart, ?_⟩
  · rw [List.append_assoc]
  · rw [through, hstop', hstart, List.append_assoc, byteWidth_append]

end Span

/-! ## Places of a source -/

/-- What is still to be read is what stands behind the offset in the source. -/
def Cursor.Within (source : List Char) (k : Cursor) : Prop :=
  ∃ before, source = before ++ k.rest ∧ k.offset = byteWidth before

namespace Cursor

variable {source text : List Char} {k next : Cursor}

theorem within_ofString (source : String) : (ofString source).Within source.toList :=
  ⟨[], rfl, rfl⟩

theorem Passes.within (h : k.Passes text next) (hk : k.Within source) : next.Within source := by
  obtain ⟨before, hsource, hoffset⟩ := hk
  refine ⟨before ++ text, ?_, ?_⟩
  · rw [hsource, h.rest, List.append_assoc]
  · rw [h.offset, hoffset, byteWidth_append]

/-- What is passed over is the slice between the two places. -/
theorem Passes.slice? (h : k.Passes text next) (hk : k.Within source) :
    Span.slice? source ⟨k.offset, next.offset⟩ = some text := by
  obtain ⟨before, hsource, hoffset⟩ := hk
  refine Span.slice?_eq_some_iff.mpr ⟨before, next.rest, ?_, hoffset, h.offset⟩
  rw [hsource, h.rest]

end Cursor

/-! ## Rebuilding -/

/-- From a byte on, each segment lies in its span and the next one a byte behind it. -/
def Selector.LieFrom (source : List Char) : Nat → List Selector → Prop
  | _, [] => True
  | start, s :: ss =>
    s.span.start = start ∧ s.span.slice? source = some s.text.toList ∧
      LieFrom source (s.span.stop + 1) ss

mutual

/-- The nodes lie side by side from one byte to another, and the source says the same there. -/
def Template.Rebuilds (mode : EscapeMode) (source : List Char) : List Node → Nat → Nat → Prop
  | [], start, stop => start = stop
  | .literal l :: ns, start, stop =>
    l.span.start = start ∧ l.text ≠ "" ∧ Template.startsLiteral ns = false ∧
      (l.span.slice? source).bind (decode mode) = some l.text.toList ∧
      Template.Rebuilds mode source ns l.span.stop stop
  | .placeholder p :: ns, start, stop =>
    p.span.start = start ∧ Placeholder.Rebuilds mode source p ∧
      Template.Rebuilds mode source ns p.span.stop stop

/-- The text of a placeholder is its slice, and its parts lie in it one behind the other. -/
def Placeholder.Rebuilds (mode : EscapeMode) (source : List Char) : Placeholder → Prop
  | ⟨selectors, width, format, raw, span⟩ =>
    span.slice? source = some raw.toList ∧ Selector.LieFrom source (span.start + 1) selectors ∧
      ∃ widthText formatText, Parser.IsWidthText widthText width ∧
        Format.Rebuilds? mode source format formatText span.stop ∧
        raw.toList = '{' :: ((".".intercalate (selectors.map Selector.text)).toList ++
          (widthText ++ (formatText ++ ['}'])))

/-- A format as it is written in a placeholder that ends at a byte, if there is one. -/
def Format.Rebuilds? (mode : EscapeMode) (source : List Char) :
    Option Format → List Char → Nat → Prop
  | none, text, _ => text = []
  | some ⟨template, _, span⟩, text, stop =>
    span.stop + 1 = stop ∧ (∃ body, span.slice? source = some body ∧ text = ':' :: body) ∧
      Template.Rebuilds mode source template span.start span.stop

end

namespace Parser

variable {mode : EscapeMode} {source : List Char}

theorem toList_intercalate_dot (ss : List Selector) :
    (".".intercalate (ss.map Selector.text)).toList = pathText ss := by
  induction ss with
  | nil => rfl
  | cons s ss ih =>
    cases ss with
    | nil => rw [List.map_singleton, String.intercalate_singleton, pathText]
    | cons s' ss =>
      have hmap : (s' :: ss).map Selector.text ≠ [] := List.cons_ne_nil _ _
      rw [List.map_cons, String.intercalate_cons_of_ne_nil hmap, String.toList_append,
        String.toList_append, ih, pathText_cons (List.cons_ne_nil s' ss)]
      exact List.append_assoc _ _ _

/-- A character in front of nodes that lie side by side lies beside them. -/
theorem rebuilds_consChar {unit : List Char} {c : Char} {span : Span} {t : Template} {stop : Nat}
    (hunit : Spelling mode unit c) (hslice : span.slice? source = some unit)
    (ht : Template.Rebuilds mode source t span.stop stop) :
    Template.Rebuilds mode source (Template.consChar c span t) span.start stop := by
  have halone : (span.slice? source).bind (decode mode) = some (String.singleton c).toList := by
    rw [hslice, Option.bind_some, hunit.decode_self, String.toList_singleton]
  match t, ht with
  | [], ht => exact ⟨rfl, String.singleton_ne_empty, rfl, halone, ht⟩
  | .placeholder p :: ns, ht => exact ⟨rfl, String.singleton_ne_empty, rfl, halone, ht⟩
  | .literal l :: ns, ht =>
    -- The character goes into the literal that stands in front, and its slice meets that one's.
    obtain ⟨hstart, _, hseparate, hdecode, hns⟩ := ht
    obtain ⟨text, htext, hdecode⟩ := Option.bind_eq_some_iff.mp hdecode
    refine ⟨rfl, Template.singleton_append_ne_empty c l.text, hseparate, ?_, hns⟩
    rw [Span.slice?_through hslice htext hstart.symm, Option.bind_some, hunit.decode, hdecode,
      String.toList_append, String.toList_singleton]
    rfl

/-! ## Placeholders -/

theorem ReadsSegment.slice? {leading : Bool} {k next : Cursor} {s : Selector}
    (h : ReadsSegment leading k s next) (hk : k.Within source) :
    s.span = ⟨k.offset, next.offset⟩ ∧ s.span.slice? source = some s.text.toList := by
  have hpass := h.passes
  cases h with
  | mk text _ _ _ => exact ⟨rfl, hpass.slice? hk⟩

theorem ReadsPath.lieFrom {leading : Bool} {k next : Cursor} {ss : List Selector}
    (h : ReadsPath leading k ss next) (hk : k.Within source) :
    Selector.LieFrom source k.offset ss := by
  induction h with
  | last hs _ =>
    obtain ⟨hspan, hslice⟩ := hs.slice? hk
    refine ⟨?_, hslice, trivial⟩
    rw [hspan]
  | dot hs hrest _ ih =>
    obtain ⟨hspan, hslice⟩ := hs.slice? hk
    have hnext := (Cursor.Passes.mark hrest rfl).within (hs.passes.within hk)
    refine ⟨?_, hslice, ?_⟩
    · rw [hspan]
    · rw [hspan]
      exact ih hnext

theorem ReadsHead.lieFrom {closes : List Char → Bool} {k next : Cursor} {selectors : List Selector}
    {width : Option Int32} (h : ReadsHead mode closes k selectors width next)
    (hk : k.Within source) : Selector.LieFrom source (k.offset + 1) selectors := by
  obtain ⟨hfront, _, hpath, _⟩ := h
  have hopen := Cursor.Passes.mark (front_eq_opening_iff.mp hfront).1 rfl
  exact hpath.lieFrom (hopen.within hk)

theorem rebuilds_placeholderAt {k next : Cursor} {selectors : List Selector}
    {width : Option Int32} {format : Option Format} {widthText formatText : List Char}
    (hk : k.Within source) (hselectors : Selector.LieFrom source (k.offset + 1) selectors)
    (hwidth : IsWidthText widthText width)
    (hformat : Format.Rebuilds? mode source format formatText next.offset)
    (hpass : k.Passes ('{' :: (pathText selectors ++ (widthText ++ (formatText ++ ['}'])))) next) :
    Placeholder.Rebuilds mode source (placeholderAt k next selectors width format) := by
  refine ⟨?_, hselectors, widthText, formatText, hwidth, hformat, ?_⟩
  · rw [String.toList_ofList, hpass.upTo]
    exact hpass.slice? hk
  · rw [String.toList_ofList, hpass.upTo, toList_intercalate_dot]

/-! ## Every template that is read -/

/-- Whatever is read lies side by side between the two places. -/
theorem Reads.rebuilds {closes : List Char → Bool} {scope : Scope} {k next : Cursor}
    {ps : List Piece} (h : Reads mode closes scope k ps next) (hk : k.Within source) :
    Template.Rebuilds mode source (Piece.gather ps) k.offset next.offset := by
  induction h with
  | finish _ => exact rfl
  | close _ => exact rfl
  | char hunit hpass _ ih =>
    rw [Piece.gather_char]
    exact rebuilds_consChar hunit (hpass.slice? hk) (ih (hpass.within hk))
  | @bare scope k mid next rest selectors width ps hhead hclose _ ih =>
    obtain ⟨widthText, hwidth, hpass⟩ := hhead.passes
    have hall : k.Passes ('{' :: (pathText selectors ++ (widthText ++ ([] ++ ['}']))))
        ⟨mid.offset + 1, rest⟩ := by
      have hclosed := hpass.trans (Cursor.Passes.mark hclose rfl)
      rwa [List.cons_append, List.append_assoc] at hclosed
    refine ⟨rfl, ?_, ih (hall.within hk)⟩
    exact rebuilds_placeholderAt hk (hhead.lieFrom hk) hwidth rfl hall
  | @formatted scope k mid stop next body rest selectors width qs ps hhead hcolon hqs hclose _ ihq
      ih =>
    obtain ⟨widthText, hwidth, hpass⟩ := hhead.passes
    have hbody := (Cursor.Passes.mark hcolon rfl).within (hpass.within hk)
    obtain ⟨bodyText, hpassed⟩ := hqs.passes
    have hformat := (Cursor.Passes.mark hcolon rfl).trans hpassed
    have hall := hpass.trans (hformat.trans (Cursor.Passes.mark hclose rfl))
    rw [List.cons_append, List.append_assoc] at hall
    refine ⟨rfl, ?_, ih (hall.within hk)⟩
    refine rebuilds_placeholderAt hk (hhead.lieFrom hk) hwidth ?_ hall
    exact ⟨rfl, ⟨bodyText, hpassed.slice? hbody, rfl⟩, ihq hbody⟩

end Parser

theorem Template.rebuilds_source {mode : EscapeMode} {source : String} {t : Template}
    (h : Template.parse mode source = .ok t) :
    Template.Rebuilds mode source.toList t 0 source.utf8ByteSize := by
  obtain ⟨ps, next, hps, rfl⟩ := Template.parse_eq_ok_iff.mp h
  have hrebuilds := hps.rebuilds (Cursor.within_ofString source)
  obtain ⟨text, hpass⟩ := hps.passes
  have hstop : next.offset = source.utf8ByteSize := by
    have hsource : source.toList = text ++ next.rest := hpass.rest
    rw [hpass.offset, ← byteWidth_toList, hsource, hps.rest_eq_nil, List.append_nil]
    exact Nat.zero_add _
  rwa [hstop] at hrebuilds

/-- **Spans rebuild the source.** The nodes of a template that was read lie side by side from the
first byte of the source to the last, and they say what the source says. -/
theorem Template.rebuilds_of_parse {mode : EscapeMode} {source : String} {t : Template}
    (h : Template.parse mode source = .ok t) :
    Template.Rebuilds mode source.toList t 0 source.utf8ByteSize ∧ (t = [] ↔ source = "") := by
  have hrebuilds := Template.rebuilds_source h
  refine ⟨hrebuilds, fun hnil ↦ ?_, ?_⟩
  · rw [hnil] at hrebuilds
    exact String.utf8ByteSize_eq_zero_iff.mp hrebuilds.symm
  · rintro rfl
    have hempty : Template.parse mode "" = .ok [] :=
      Template.parse_eq_ok_iff.mpr ⟨[], _, .finish rfl, rfl⟩
    exact Except.ok.inj (h.symm.trans hempty)

/-- A letter of two bytes and a doubled brace, and a placeholder with all of its parts. -/
def Template.spanSample : Template :=
  let path : List Selector := [.ofText "a" ⟨5, 6⟩ true, .ofText "1" ⟨7, 8⟩ false]
  let format : Format := .ofTemplate [.literal ⟨"f:", ⟨11, 13⟩⟩] ⟨11, 13⟩
  [.literal ⟨"é\x7b", ⟨0, 4⟩⟩,
    .placeholder ⟨path, some 5, some format, "\x7ba.1,5:f:\x7d", ⟨4, 14⟩⟩]

theorem Template.rebuilds_spanSample :
    Template.parse .doubledBrace "é\x7b\x7b\x7ba.1,5:f:\x7d" = .ok spanSample ∧
      Template.Rebuilds .doubledBrace "é\x7b\x7b\x7ba.1,5:f:\x7d".toList spanSample 0 14 := by
  have hparse : Template.parse .doubledBrace "é\x7b\x7b\x7ba.1,5:f:\x7d" = .ok spanSample := rfl
  exact ⟨hparse, (Template.rebuilds_of_parse hparse).1⟩

end TextTemplate
