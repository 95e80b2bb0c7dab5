import TextTemplate.Proofs.Cache
import TextTemplate.Proofs.LookAhead
import TextTemplate.Proofs.Places

/-!
# Texts behind one another

Where a backslash escapes, two templates can be written behind one another: what stands behind a
complete template is not looked at by anything in it. Under doubled braces this is not so, since a
brace at the end of the one text and a brace at the front of the other make a third thing.

## Moving a derivation

A derivation is moved by putting a text in front of the one that is read and another text behind it.
The first adds to every span. The second may only lengthen the run of characters that a segment or a
width is, and behind each of those a complete template has a mark.

## The seam

Pieces of two texts are put behind one another by `++`, and `Template.join` is what that does to the
templates that they make. A render does not notice the seam, since a literal may be written in two
parts, nor that the second template stands further behind than it was read.
-/

namespace TextTemplate

/-! ## Joining templates -/

/-- A span with so many bytes in front of what it is counted from. -/
def Span.shift (n : Nat) (s : Span) : Span := ⟨n + s.start, n + s.stop⟩

theorem Span.shift_zero : shift 0 = id := by
  funext s
  rw [shift, Nat.zero_add, Nat.zero_add, id]

namespace Template

/-- A template that is read with so many bytes in front of it. -/
def shift (n : Nat) (t : Template) : Template := mapSpans (Span.shift n) t

/-- The nodes of one template behind those of another, where a literal at the end of the one and a
literal at the front of the other are one. -/
def join : Template → Template → Template
  | [], ns => ns
  | [.literal l], .literal m :: ns => .literal ⟨l.text ++ m.text, l.span.through m.span⟩ :: ns
  | n :: ms, ns => n :: join ms ns

theorem consChar_join (c : Char) (span : Span) (ms ns : Template) :
    consChar c span (join ms ns) = join (consChar c span ms) ns := by
  match ms, ns with
  | [], [] => rfl
  | [], .placeholder p :: ns => rfl
  | [], .literal m :: ns => rfl
  | [.literal l], [] => rfl
  | [.literal l], .placeholder p :: ns => rfl
  | [.literal l], .literal m :: ns =>
    rw [join, consChar, consChar, join, String.append_assoc]
    rfl
  | .literal l :: n :: ms, ns => rfl
  | .placeholder p :: ms, ns => rfl

end Template

namespace Piece

/-- A piece with a function applied to all of its spans. -/
def mapSpan (f : Span → Span) : Piece → Piece
  | .char c span => .char c (f span)
  | .placeholder p => .placeholder (p.mapSpans f)

theorem mapSpan_id : mapSpan id = id := by
  funext p
  cases p with
  | char c span => rfl
  | placeholder p => rw [mapSpan, Placeholder.mapSpans_id, id]

theorem consChar_shift (n : Nat) (c : Char) (span : Span) (t : Template) :
    Template.consChar c (span.shift n) (t.shift n) = (Template.consChar c span t).shift n := by
  cases t with
  | nil => rfl
  | cons m ms => cases m <;> rfl

/-- Pieces that stand further behind make a template that stands further behind. -/
theorem gather_map_shift (n : Nat) (ps : List Piece) :
    gather (ps.map (mapSpan (Span.shift n))) = (gather ps).shift n := by
  induction ps with
  | nil => rfl
  | cons p ps ih =>
    cases p with
    | char c span => rw [List.map_cons, mapSpan, gather_char, gather_char, ih, consChar_shift]
    | placeholder p => rw [List.map_cons, mapSpan, gather_placeholder, gather_placeholder, ih]; rfl

/-- Gathering takes pieces behind one another to a join. -/
theorem gather_append (ps qs : List Piece) :
    gather (ps ++ qs) = (gather ps).join (gather qs) := by
  induction ps with
  | nil => rfl
  | cons p ps ih =>
    cases p with
    | char c span =>
      rw [List.cons_append, gather_char, gather_char, ih, Template.consChar_join]
    | placeholder p => rw [List.cons_append, gather_placeholder, gather_placeholder, ih]; rfl

end Piece

/-! ## Moving what is read -/

/-- The head of a specifier that stands further behind. -/
theorem FormatterHead.extract?_shift (n : Nat) (t : Template) :
    extract? (t.shift n) = FormatterHead.mapSpans? (Span.shift n) (extract? t) := by
  match t with
  | [] => rfl
  | .placeholder p :: ns => rfl
  | .literal l :: ns =>
    have hbody : ∀ rest, bodyOf { l with span := l.span.shift n } rest (Template.shift n ns) =
        Template.shift n (bodyOf l rest ns) := by
      intro rest
      rw [bodyOf, bodyOf]
      by_cases hrest : rest.isEmpty = true
      · rw [if_pos hrest, if_pos hrest]
      · rw [if_neg hrest, if_neg hrest]
        -- Where the rest begins is the lesser of two offsets, and both are moved.
        have hstart : ∀ consumed, min (n + l.span.start + consumed) (n + l.span.stop) =
            n + min (l.span.start + consumed) l.span.stop := by omega
        exact congrArg (fun start ↦ Node.literal ⟨_, ⟨start, _⟩⟩ :: _) (hstart _)
    have hshift : Template.shift n (.literal l :: ns) =
        .literal { l with span := l.span.shift n } :: Template.shift n ns := rfl
    rw [hshift, extract?, extract?]
    cases split? l.text.toList with
    | none => rfl
    | some parts =>
      obtain ⟨name, options, rest⟩ := parts
      exact congrArg (fun body ↦ some (FormatterHead.mk _ _ body)) (hbody rest)

theorem Format.ofTemplate_shift (n : Nat) (t : Template) (span : Span) :
    some (Format.ofTemplate (t.shift n) (span.shift n)) =
      Format.mapSpans? (Span.shift n) (some (Format.ofTemplate t span)) := by
  rw [Format.ofTemplate, FormatterHead.extract?_shift]
  rfl

namespace Cursor

/-- A place in a text that has so many bytes more in front of it and another text behind it. -/
def moved (n : Nat) (more : List Char) (k : Cursor) : Cursor := ⟨n + k.offset, k.rest ++ more⟩

variable (n : Nat) (more : List Char)

theorem Passes.moved {k next : Cursor} {text : List Char} (h : k.Passes text next) :
    (k.moved n more).Passes text (next.moved n more) := by
  constructor
  · rw [Cursor.moved, Cursor.moved, h.rest, List.append_assoc]
  · rw [Cursor.moved, Cursor.moved, h.offset, Nat.add_assoc]

theorem moved_rest {k : Cursor} {c : Char} {rest : List Char} (h : k.rest = c :: rest) :
    (k.moved n more).rest = c :: (rest ++ more) := by
  rw [moved, h, List.cons_append]

end Cursor

namespace Parser

section

variable (n : Nat) (more : List Char)

/-- What follows is a mark still, if anything follows. -/
theorem AtMark.append {cs : List Char} (h : AtMark cs) (hne : cs ≠ []) : AtMark (cs ++ more) := by
  obtain ⟨c, cs, rfl⟩ := List.exists_cons_of_ne_nil hne
  exact atMark_of_cons List.cons_append (h c rfl)

theorem ne_cons_append {cs : List Char} {c : Char} (h : ∀ rest, cs ≠ c :: rest) (hne : cs ≠ []) :
    ∀ rest, cs ++ more ≠ c :: rest := by
  obtain ⟨d, ds, rfl⟩ := List.exists_cons_of_ne_nil hne
  intro rest hrest
  obtain rfl := List.head_eq_of_cons_eq hrest
  exact h ds rfl

variable {n more}

theorem ReadsSegment.moved {leading : Bool} {k next : Cursor} {s : Selector}
    (h : ReadsSegment leading k s next) (hne : next.rest ≠ []) :
    ReadsSegment leading (k.moved n more) (s.mapSpan (Span.shift n)) (next.moved n more) := by
  obtain ⟨text, hpass, htext, hmark⟩ := h
  exact .mk text (hpass.moved n more) htext (hmark.append more hne)

theorem ReadsPath.moved {leading : Bool} {k next : Cursor} {ss : List Selector}
    (h : ReadsPath leading k ss next) (hne : next.rest ≠ []) :
    ReadsPath leading (k.moved n more) (ss.map (Selector.mapSpan (Span.shift n)))
      (next.moved n more) := by
  induction h with
  | last hs hdot => exact .last (hs.moved hne) (ne_cons_append more hdot hne)
  | @dot _ _ mid _ _ _ rest hs hrest _ ih =>
    have hmid : mid.rest ≠ [] := by
      rw [hrest]
      exact List.cons_ne_nil _ _
    exact .dot (hs.moved hmid) (Cursor.moved_rest n more hrest) (ih hne)

theorem ReadsWidth.moved {k next : Cursor} {width : Option Int32} (h : ReadsWidth k width next)
    (hne : next.rest ≠ []) : ReadsWidth (k.moved n more) width (next.moved n more) := by
  cases h with
  | none hcomma => exact .none (ne_cons_append more hcomma hne)
  | some text hpass htext hmark hwidth =>
    exact .some text (hpass.moved n more) htext (hmark.append more hne) hwidth

/-- In front of a width there is something, if there is something behind it. -/
theorem ReadsWidth.rest_ne_nil {k next : Cursor} {width : Option Int32}
    (h : ReadsWidth k width next) (hne : next.rest ≠ []) : k.rest ≠ [] := by
  obtain ⟨text, _, hpass⟩ := h.passes
  rw [hpass.rest]
  exact List.append_ne_nil_of_right_ne_nil text hne

/-- Where a backslash escapes, an opening brace is one whatever stands behind it. -/
theorem ReadsHead.moved {closes' : List Char → Bool} {k next : Cursor} {selectors : List Selector}
    {width : Option Int32} (h : ReadsHead .backslash closes' k selectors width next)
    (hne : next.rest ≠ []) :
    ReadsHead .backslash (fun _ ↦ true) (k.moved n more)
      (selectors.map (Selector.mapSpan (Span.shift n))) width (next.moved n more) := by
  obtain ⟨hfront, _, hpath, hwidth⟩ := h
  have hopen := (front_eq_opening_iff.mp hfront).1
  have hmoved := Cursor.moved_rest n more hopen
  have hfront' : front .backslash _ = _ := front_eq_opening_iff.mpr ⟨hmoved, fun h ↦ nomatch h⟩
  exact .mk hfront' rfl (hpath.moved (hwidth.rest_ne_nil hne)) (hwidth.moved hne)

variable (n more) in
/-- A placeholder that stands further behind, and in front of more text. -/
theorem placeholderAt_moved {k next : Cursor} {text : List Char} (h : k.Passes text next)
    (selectors : List Selector) (width : Option Int32) (format : Option Format) :
    placeholderAt (k.moved n more) (next.moved n more)
        (selectors.map (Selector.mapSpan (Span.shift n))) width
        (Format.mapSpans? (Span.shift n) format) =
      (placeholderAt k next selectors width format).mapSpans (Span.shift n) := by
  rw [placeholderAt, placeholderAt, (h.moved n more).upTo, h.upTo]
  rfl

/-- What was read where nothing followed is read where more follows, and the reader goes on with
that. -/
theorem Reads.moved {closes' : List Char → Bool} {scope : Scope} {k next last : Cursor}
    {ps qs : List Piece} (h : Reads .backslash closes' scope k ps next)
    (hmore : Reads .backslash (fun _ ↦ true) scope (next.moved n more) qs last) :
    Reads .backslash (fun _ ↦ true) scope (k.moved n more)
      (ps.map (Piece.mapSpan (Span.shift n)) ++ qs) last := by
  induction h generalizing qs last with
  | finish _ => exact hmore
  | close _ => exact hmore
  | char hunit hpass _ ih => exact .char hunit (hpass.moved n more) (ih hmore)
  | @bare scope k mid next rest selectors width ps hhead hclose _ ih =>
    have hmid : mid.rest ≠ [] := by
      rw [hclose]
      exact List.cons_ne_nil _ _
    obtain ⟨_, _, hpass⟩ := hhead.passes
    have hread := Reads.bare (hhead.moved hmid) (Cursor.moved_rest n more hclose) (ih hmore)
    have hp := placeholderAt_moved n more
      (hpass.trans (.mark hclose rfl)) selectors width none
    rw [List.map_cons, List.cons_append, Piece.mapSpan, ← hp]
    exact hread
  | @formatted scope k mid stop next body rest selectors width rs ps hhead hcolon hrs hclose _ ihr
      ih =>
    have hmid : mid.rest ≠ [] := by
      rw [hcolon]
      exact List.cons_ne_nil _ _
    obtain ⟨_, _, hpass⟩ := hhead.passes
    obtain ⟨_, hpass'⟩ := hrs.passes
    -- The specifier goes on with its own closing brace, whatever stands behind that.
    have hstop : Reads .backslash (fun _ ↦ true) .format (stop.moved n more) [] _ :=
      .close (front_eq_closing_iff.mpr ⟨_, Cursor.moved_rest n more hclose, fun h ↦ nomatch h⟩)
    have hspecifier := ihr hstop
    rw [List.append_nil] at hspecifier
    have hread := Reads.formatted (hhead.moved hmid) (Cursor.moved_rest n more hcolon) hspecifier
      (Cursor.moved_rest n more hclose) (ih hmore)
    have hp := placeholderAt_moved n more
      (hpass.trans ((Cursor.Passes.mark hcolon rfl).trans (hpass'.trans (.mark hclose rfl))))
      selectors width (some (.ofTemplate (Piece.gather rs) ⟨mid.offset + 1, stop.offset⟩))
    rw [List.map_cons, List.cons_append, Piece.mapSpan, ← hp, ← Format.ofTemplate_shift,
      ← Piece.gather_map_shift]
    exact hread

end

end Parser

/-- A text behind another one is read as it is read alone, if both are complete templates. -/
theorem Template.parse_append {source source' : String} {t t' : Template}
    (h : Template.parse .backslash source = .ok t)
    (h' : Template.parse .backslash source' = .ok t') :
    Template.parse .backslash (source ++ source') =
      .ok (t.join (t'.shift source.utf8ByteSize)) := by
  obtain ⟨ps, next, hps, rfl⟩ := Template.parse_eq_ok_iff.mp h
  obtain ⟨qs, last, hqs, rfl⟩ := Template.parse_eq_ok_iff.mp h'
  have hnext : next.rest = [] := hps.rest_eq_nil
  have hoffset : next.offset = source.utf8ByteSize := by
    obtain ⟨text, hpass⟩ := hps.passes
    have htext : source.toList = text := by
      rw [← List.append_nil text, ← hnext]
      exact hpass.rest
    rw [hpass.offset, ← htext, byteWidth_toList]
    exact Nat.zero_add _
  -- The second text is read from where the first one ends, and nothing follows it.
  have hend : (last.moved source.utf8ByteSize []).rest = [] := by
    rw [Cursor.moved, hqs.rest_eq_nil, List.append_nil]
  have hsecond := hqs.moved (.finish hend)
  have hseam : (Cursor.ofString source').moved source.utf8ByteSize [] =
      next.moved 0 source'.toList := by
    rw [Cursor.moved, Cursor.moved, hnext, hoffset, Cursor.ofString, List.append_nil,
      List.nil_append, Nat.zero_add, Nat.add_zero]
  have hwhole : (Cursor.ofString source).moved 0 source'.toList =
      Cursor.ofString (source ++ source') := by
    rw [Cursor.moved, Cursor.ofString, Cursor.ofString, String.toList_append, Nat.zero_add]
  rw [hseam, List.append_nil] at hsecond
  have hboth := (hps.moved hsecond).looksAhead
  rw [hwhole, Span.shift_zero, Piece.mapSpan_id, List.map_id] at hboth
  refine Template.parse_eq_ok_iff.mpr ⟨_, _, hboth, ?_⟩
  rw [Piece.gather_append, Piece.gather_map_shift]

/-! ## Rendering across the seam -/

/-- Text is written at once or in two parts. -/
theorem RenderM.emit_append (text text' : String) :
    emit (text ++ text') = (do emit text; emit text') := by
  funext out
  have hwrite : out.append (text ++ text') = (out.append text).append text' :=
    congrArg out.withText String.append_assoc.symm
  exact congrArg (Prod.mk (Except.ok ())) hwrite

namespace Renderer

variable (r : Renderer)

/-- A join is rendered one template after the other. -/
theorem renderNodes_join (inner : NestedRender) (args : List Value) (t t' : Template) :
    r.renderNodes inner (t.join t') args =
      (do r.renderNodes inner t args; r.renderNodes inner t' args) := by
  fun_induction Template.join t t' with
  | case1 ns => rw [renderNodes_nil, pure_bind]
  | case2 l m ns =>
    rw [renderNodes_literal, renderNodes_literal, renderNodes_literal, renderNodes_nil,
      RenderM.emit_append]
    simp only [bind_assoc, pure_bind]
  | case3 n ms ns _ ih =>
    cases n with
    | literal l => rw [renderNodes_literal, renderNodes_literal, ih, bind_assoc]
    | placeholder p => rw [renderNodes_placeholder, renderNodes_placeholder, ih, bind_assoc]

/-- Of two templates that are rendered to texts, the join is rendered to the texts behind one
another, wherever the second template stands. -/
theorem render_join {r : Renderer} (hf : r.formatters.IgnorePlaces) (hs : r.sources.IgnoresSpans)
    {args : List Value} {t t' : Template} {a b : String} (n : Nat)
    (ha : (r.render t args).result = .ok a) (hb : (r.render t' args).result = .ok b) :
    (r.render (t.join (t'.shift n)) args).result = .ok (a ++ b) := by
  have hsame : Template.placeless (t'.shift n) = t'.placeless :=
    t'.placeless_mapSpans (Span.shift n)
  have hnested := alike_nested hf hs r.depth
  rw [render_eq] at ha hb
  rw [render_eq, renderNodes_join, RenderM.exec_bind]
  generalize (r.renderNodes (r.nested r.depth) t args).exec {} = first at ha ⊢
  obtain ⟨result, out⟩ := first
  cases result with
  | error e => exact absurd ha nofun
  | ok _ =>
    obtain rfl : out.text = a := Except.ok.inj ha
    -- The second template adds behind the first what it adds to the empty output.
    obtain ⟨new, new', hnew, hnew', hadded, hresult⟩ :=
      addAlike_renderNodes hf hnested hs args hsame {} out
    simp only
    generalize (r.renderNodes (r.nested r.depth) t' args).exec {} = alone at hb hnew hresult
    generalize (r.renderNodes (r.nested r.depth) (t'.shift n) args).exec out = behind
      at hnew' hresult ⊢
    obtain ⟨result, out₁⟩ := alone
    obtain ⟨result', out₂⟩ := behind
    obtain rfl : out₁ = new := hnew.trans new.empty_followedBy
    obtain rfl : out₂ = out.followedBy new' := hnew'
    match result, result', hresult with
    | .ok _, .ok _, _ =>
      obtain rfl : out₁.text = b := Except.ok.inj hb
      exact congrArg (fun text ↦ Except.ok (out.text ++ text)) (Output.text_of_placeless hadded)

end Renderer

/-- An engine gives the text that the template in a text is rendered to. -/
theorem Engine.format_eq_ok_iff {e : Engine} (h : e.Faithful) {source text : String}
    {args : List Value} :
    (e.format source args).1.result = .ok text ↔
      ∃ t, Template.parse e.settings.escapeMode source = .ok t ∧
        (e.renderer.render t args).result = .ok text := by
  rw [Engine.format_eq h]
  cases Template.parse e.settings.escapeMode source with
  | error error =>
    constructor
    · intro hresult
      cases hresult
    · rintro ⟨t, hparse, _⟩
      cases hparse
  | ok t =>
    simp only [Except.ok.injEq, exists_eq_left', Engine.formatTemplate]
    cases (e.renderer.render t args).result with
    | ok text' => rw [Except.mapError, Except.ok.injEq, Except.ok.injEq]
    | error error =>
      constructor
      · intro hresult
        cases hresult
      · intro hresult
        cases hresult

/-- **Texts behind one another.** Where a backslash escapes, two texts that are templates make one
when they are written behind one another. Its nodes are those of the first text, and behind them
those of the second with every span moved by the length of the first; literals that meet are one.
Wherever the same engine gives a text for either of them, it gives the two texts behind one another
for both, and so does a call without an engine. -/
theorem Template.format_append {source source' : String} {t t' : Template}
    (h : Template.parse .backslash source = .ok t)
    (h' : Template.parse .backslash source' = .ok t') :
    Template.parse .backslash (source ++ source') =
        .ok (t.join (t'.shift source.utf8ByteSize)) ∧
      (∀ (e : Engine) (args : List Value) (a b : String), e.Faithful →
        e.settings.escapeMode = .backslash → e.sources.IgnoresSpans → e.formatters.IgnorePlaces →
          (e.format source args).1.result = .ok a → (e.format source' args).1.result = .ok b →
            (e.format (source ++ source') args).1.result = .ok (a ++ b)) ∧
      ∀ (settings : Settings) (args : List Value) (a b : String),
        settings.escapeMode = .backslash →
          format source args settings = .ok a → format source' args settings = .ok b →
            format (source ++ source') args settings = .ok (a ++ b) := by
  have hparse := parse_append h h'
  have hengine : ∀ (e : Engine) (args : List Value) (a b : String), e.Faithful →
      e.settings.escapeMode = .backslash → e.sources.IgnoresSpans → e.formatters.IgnorePlaces →
        (e.format source args).1.result = .ok a → (e.format source' args).1.result = .ok b →
          (e.format (source ++ source') args).1.result = .ok (a ++ b) := by
    intro e args a b he hmode hs hf ha hb
    rw [Engine.format_eq_ok_iff he, hmode] at ha hb ⊢
    obtain ⟨u, hu, ha⟩ := ha
    obtain ⟨u', hu', hb⟩ := hb
    obtain rfl : t = u := Except.ok.inj (h.symm.trans hu)
    obtain rfl : t' = u' := Except.ok.inj (h'.symm.trans hu')
    exact ⟨_, hparse, Renderer.render_join hf hs source.utf8ByteSize ha hb⟩
  refine ⟨hparse, hengine, ?_⟩
  intro settings args a b hmode ha hb
  exact hengine (.new { settings with cacheTemplates := false }) args a b
    (Engine.faithful_of_empty rfl) hmode SourceChain.ignoresSpans_builtin
    FormatterRegistry.ignorePlaces_initial ha hb

/-- The first text ends with an escape, and the second begins with the letter that is in it. -/
theorem Template.format_append_seamSample :
    let first : Placeholder := ⟨[.ofText "0" ⟨1, 2⟩ true], none, none, "\x7b0\x7d", ⟨0, 3⟩⟩
    let second : Placeholder := ⟨[.ofText "1" ⟨7, 8⟩ true], none, none, "\x7b1\x7d", ⟨6, 9⟩⟩
    let settings : Settings := { escapeMode := .backslash }
    Template.parse .backslash ("\x7b0\x7d\\n" ++ "n\x7b1\x7d") =
        .ok [.placeholder first, .literal ⟨"\nn", ⟨3, 6⟩⟩, .placeholder second] ∧
      format ("\x7b0\x7d\\n" ++ "n\x7b1\x7d") [.bool true, .bool false] settings =
        .ok "true\nnfalse" := by
  intro first second settings
  have h : Template.parse .backslash "\x7b0\x7d\\n" =
      .ok [.placeholder first, .literal ⟨"\n", ⟨3, 5⟩⟩] := rfl
  have h' : Template.parse .backslash "n\x7b1\x7d" = .ok [.literal ⟨"n", ⟨0, 1⟩⟩,
      .placeholder ⟨[.ofText "1" ⟨2, 3⟩ true], none, none, "\x7b1\x7d", ⟨1, 4⟩⟩] := rfl
  -- Each text is rendered from its nodes, which were read above.
  have hfaithful : (Engine.new { settings with cacheTemplates := false }).Faithful :=
    Engine.faithful_of_empty rfl
  have ha : format "\x7b0\x7d\\n" [.bool true, .bool false] settings = .ok ("" ++ "true" ++ "\n") :=
    (Engine.format_eq_ok_iff hfaithful).mpr ⟨_, h, rfl⟩
  have hb : format "n\x7b1\x7d" [.bool true, .bool false] settings = .ok ("" ++ "n" ++ "false") :=
    (Engine.format_eq_ok_iff hfaithful).mpr ⟨_, h', rfl⟩
  have htext : ("" ++ "true" ++ "\n") ++ ("" ++ "n" ++ "false") = "true\nnfalse" := rfl
  obtain ⟨hparse, _, hformat⟩ := Template.format_append h h'
  have hformatted := hformat settings _ _ _ rfl ha hb
  rw [htext] at hformatted
  exact ⟨hparse, hformatted⟩

end TextTemplate
