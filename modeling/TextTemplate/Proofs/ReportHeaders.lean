import TextTemplate.Proofs.ErrorOrigin
import TextTemplate.Proofs.Evidence
import TextTemplate.Proofs.Lines
import TextTemplate.Proofs.Numerals

/-!
# Where a report points

The header of a report gives the line and the column of an error. The error says where it begins in
bytes, and the report takes that number for a count of characters. `Report.heads_text_iff` says what
comes of this for any span of a template: the header gives the position behind so many characters,
and where the span seems to leave the template there is no header.

A character is of one byte or more, so the position that is given is never in front of the right one.
It is the right one exactly if all characters in front of the error are of one byte.

## Reading a header

That a report has a header is said of its text, `Report.Heads`, so it has to be shown that the text
can have one header only. The name of the template may hold any characters, but it is known; a line and
a column are digits, and what stands behind them is not.
-/

namespace TextTemplate.Report

/-! ## Headers -/

/-- A report of a message begins with the message and a header, which holds the name of the template,
a line and a column. -/
def Heads (report message name : String) (line column : Nat) : Prop :=
  ∃ indent rest, report = "Error: " ++ message ++ "\n" ++ times indent " " ++ "╭─[" ++ name ++ ":" ++
    line.repr ++ ":" ++ column.repr ++ "]\n" ++ rest

/-- The first mark of a kind parts a text in one way only. -/
theorem eq_of_append_mark_eq {mark : Char} {text text' rest rest' : List Char} (h : mark ∉ text)
    (h' : mark ∉ text') (heq : text ++ mark :: rest = text' ++ mark :: rest') :
    text = text' ∧ rest = rest' := by
  induction text generalizing text' with
  | nil =>
    cases text' with
    | nil => exact ⟨rfl, (List.cons.inj heq).2⟩
    | cons c text' =>
      obtain rfl := (List.cons.inj heq).1
      exact absurd List.mem_cons_self h'
  | cons c text ih =>
    cases text' with
    | nil =>
      obtain rfl := (List.cons.inj heq).1
      exact absurd List.mem_cons_self h
    | cons c' text' =>
      obtain ⟨rfl, htail⟩ := List.cons.inj heq
      obtain ⟨rfl, hrest⟩ :=
        ih (List.not_mem_of_not_mem_cons h) (List.not_mem_of_not_mem_cons h') htail
      exact ⟨rfl, hrest⟩

/-- A report has one header at most. -/
theorem Heads.eq {report message name : String} {line column line' column' : Nat}
    (h : Heads report message name line column) (h' : Heads report message name line' column') :
    line = line' ∧ column = column' := by
  obtain ⟨indent, rest, rfl⟩ := h
  obtain ⟨indent', rest', h'⟩ := h'
  have htimes : ∀ n, (times n " ").toList = List.replicate n ' ' := fun n ↦ by
    simp [times, String.toList_join, List.flatMap_replicate]
  have hframe : "╭─[".toList = ['╭', '─', '['] := rfl
  have hcolon : ":".toList = [':'] := rfl
  have hclose : "]\n".toList = [']', '\n'] := rfl
  have h := congrArg String.toList h'
  simp only [String.toList_append, htimes, hframe, hcolon, hclose, List.append_assoc,
    List.append_cancel_left_eq, List.cons_append, List.nil_append] at h
  -- The blanks end at the frame, the line at the colon and the column at the bracket.
  have hblank : ∀ n, '╭' ∉ List.replicate n ' ' := by simp
  have hdigits : ∀ {c : Char} {n : Nat}, c.isDigit = false → c ∉ n.repr.toList := fun hc hmem ↦ by
    simp [Numeral.isDigit_of_mem_repr hmem] at hc
  obtain ⟨-, h⟩ := eq_of_append_mark_eq (hblank _) (hblank _) h
  simp only [List.cons.injEq, List.append_cancel_left_eq, true_and] at h
  obtain ⟨hline, h⟩ := eq_of_append_mark_eq (hdigits rfl) (hdigits rfl) h
  obtain ⟨hcolumn, -⟩ := eq_of_append_mark_eq (hdigits rfl) (hdigits rfl) h
  exact ⟨Numeral.eq_of_toList_repr_eq hline, Numeral.eq_of_toList_repr_eq hcolumn⟩

/-! ## The header of a span -/

section

variable {template name message label : String} {span : Span} {line column : Nat}

theorem text_eq (template name : String) (span : Span) (message label : String) :
    text template name span message label = "Error: " ++ message ++ "\n" ++
      String.join ((drawing template name span label).map (· ++ "\n")) := by
  rw [text, List.map_cons, String.join_cons]

/-- The ends of a span that is not empty and lies in the template are taken as they are. -/
theorem clamped_eq (hspan : span.start < span.stop) (hstop : span.stop ≤ template.utf8ByteSize) :
    max (min span.stop template.utf8ByteSize) span.start = span.stop ∧
      min span.start span.stop = span.start := by
  omega

theorem toList_ne_nil_of_span (hspan : span.start < span.stop)
    (hstop : span.stop ≤ template.utf8ByteSize) : template.toList ≠ [] := by
  intro hnil
  rw [← byteWidth_toList, hnil, byteWidth_nil] at hstop
  omega

theorem drawing_of_position (name label : String) (hspan : span.start < span.stop)
    (hstop : span.stop ≤ template.utf8ByteSize) (hlength : span.stop ≤ template.length + 1)
    {before : List Char} (hbefore : before.length = span.start)
    (hposition : Position template.toList before line column) :
    ∃ indent rows, drawing template name span label = (times indent " " ++ "╭─[" ++
      (name ++ ":" ++ line.repr ++ ":" ++ column.repr) ++ "]") :: rows := by
  have hlast : span.stop - 1 ≤ template.toList.length := by
    rw [String.length_toList]
    omega
  obtain ⟨first, hfirst, rfl, rfl⟩ := hposition.lineAt?
  obtain ⟨last, hlast⟩ := exists_lineAt? (toList_ne_nil_of_span hspan hstop) hlast
  obtain ⟨hmax, hmin⟩ := clamped_eq hspan hstop
  rw [hbefore] at hfirst ⊢
  simp only [drawing, hmax, hmin, if_neg (Nat.ne_of_lt hspan), hfirst, hlast]
  exact ⟨_, _, rfl⟩

theorem drawing_eq_nil (hspan : span.start < span.stop)
    (hstop : span.stop ≤ template.utf8ByteSize) (hlength : template.length + 1 < span.stop) :
    drawing template name span label = [] := by
  have hlast : lineAt? (linesOf template.toList) template.toList.length (span.stop - 1) = none := by
    refine if_pos ?_
    rw [String.length_toList]
    omega
  obtain ⟨hmax, hmin⟩ := clamped_eq hspan hstop
  simp only [drawing, hmax, hmin, if_neg (Nat.ne_of_lt hspan), hlast]
  cases lineAt? (linesOf template.toList) template.toList.length span.start <;> rfl

theorem not_heads_of_drawing_eq_nil (h : drawing template name span label = []) :
    ¬ Heads (text template name span message label) message name line column := by
  rintro ⟨indent, rest, htext⟩
  rw [text_eq, h] at htext
  have hlength := congrArg String.length htext
  simp only [List.map_nil, String.join_nil, String.length_append] at hlength
  have hframe : "╭─[".length = 3 := rfl
  have hempty : "".length = 0 := rfl
  omega

theorem heads_of_position (hspan : span.start < span.stop)
    (hstop : span.stop ≤ template.utf8ByteSize) (hlength : span.stop ≤ template.length + 1)
    {before : List Char} (hbefore : before.length = span.start)
    (hposition : Position template.toList before line column) :
    Heads (text template name span message label) message name line column := by
  obtain ⟨indent, rows, hdrawing⟩ :=
    drawing_of_position name label hspan hstop hlength hbefore hposition
  refine ⟨indent, String.join (rows.map (· ++ "\n")), ?_⟩
  rw [text_eq, hdrawing, List.map_cons, String.join_cons]
  simp only [String.append_assoc]
  rfl

/-- **What a header says.** A span that is not empty and lies in the template has a header unless its
last byte is further on than there are characters. The header gives the position behind as many
characters as there are bytes in front of the span. -/
theorem heads_text_iff (hspan : span.start < span.stop)
    (hstop : span.stop ≤ template.utf8ByteSize) :
    Heads (text template name span message label) message name line column ↔
      span.stop ≤ template.length + 1 ∧
        ∃ before, before.length = span.start ∧ Position template.toList before line column := by
  constructor
  · intro h
    by_cases hlength : span.stop ≤ template.length + 1
    · have htake : (template.toList.take span.start).length = span.start :=
        List.length_take_of_le (by rw [String.length_toList]; omega)
      obtain ⟨line', column', hposition⟩ := exists_position (toList_ne_nil_of_span hspan hstop)
        (List.take_append_drop span.start template.toList).symm
      obtain ⟨rfl, rfl⟩ := h.eq (heads_of_position hspan hstop hlength htake hposition)
      exact ⟨hlength, _, htake, hposition⟩
    · exact absurd h (not_heads_of_drawing_eq_nil (drawing_eq_nil hspan hstop (by omega)))
  · rintro ⟨hlength, before, hbefore, hposition⟩
    exact heads_of_position hspan hstop hlength hbefore hposition

end

/-! ## Bytes taken for characters -/

/-- What the report of a message says of where a span begins. -/
structure Locates (template name : String) (span : Span) (message report : String) : Prop where
  /-- A character begins where the span does. The header gives its position exactly if every
  character in front of it is of one byte and the last byte of the span is not further on than there
  are characters. -/
  character : ∃ before c behind line column, template.toList = before ++ c :: behind ∧
    byteWidth before = span.start ∧ Position template.toList before line column ∧
    (Heads report message name line column ↔
      (∀ d ∈ before, d.utf8Size = 1) ∧ span.stop ≤ template.length + 1)
  /-- Whatever the header gives is the position behind as many characters as there are bytes in front
  of the span. -/
  counted : ∀ line column, Heads report message name line column ↔
    span.stop ≤ template.length + 1 ∧
      ∃ before, before.length = span.start ∧ Position template.toList before line column

theorem locates_of_slice {template : String} {span : Span} {slice : List Char}
    (hslice : span.slice? template.toList = some slice) (hne : slice ≠ [])
    (name message label : String) :
    Locates template name span message (text template name span message label) := by
  obtain ⟨before, behind, htemplate, hstart, hstop⟩ := Span.slice?_eq_some_iff.mp hslice
  obtain ⟨c, cs, rfl⟩ := List.exists_cons_of_ne_nil hne
  have hsize : span.start < span.stop ∧ span.stop ≤ template.utf8ByteSize := by
    have hpos := c.utf8Size_pos
    rw [← byteWidth_toList, htemplate]
    simp only [byteWidth_append, byteWidth_cons] at hstop ⊢
    omega
  have hcounted : ∀ line column,
      Heads (text template name span message label) message name line column ↔
        span.stop ≤ template.length + 1 ∧
          ∃ before, before.length = span.start ∧ Position template.toList before line column :=
    fun _ _ ↦ heads_text_iff hsize.1 hsize.2
  obtain ⟨line, column, hposition⟩ :=
    exists_position (toList_ne_nil_of_span hsize.1 hsize.2) htemplate
  refine ⟨⟨before, c, cs ++ behind, line, column, htemplate, hstart.symm, hposition, ?_⟩, hcounted⟩
  rw [hcounted line column, ← length_eq_byteWidth_iff, ← hstart, and_comm]
  refine and_congr_left fun _ ↦ ⟨?_, fun hlength ↦ ⟨before, hlength, hposition⟩⟩
  rintro ⟨before', hlength, hposition'⟩
  rwa [hposition.eq hposition']

/-- **Where reports point.** Let a text be read with an error, or be read and rendered with
formatters that relay. The report of the error, and of each error that the render ends with or
recovers from, gives the position of the character at which the error begins exactly if every
character in front of it is of one byte and the last byte of the error is not further on than there
are characters. -/
theorem locates_errors {mode : EscapeMode} {source : String} (name : String) :
    (∀ e, Template.parse mode source = .error e →
      Locates source name e.span e.message (e.report source name)) ∧
    ∀ (r : Renderer) (t : Template), Template.parse mode source = .ok t →
      r.formatters.All Formatter.Relays → ∀ (args : List Value) e,
      ((r.render t args).result = .error e ∨ e ∈ (r.render t args).recovered) →
      Locates source name e.span e.message (e.report source name) := by
  constructor
  · intro e hparse
    obtain ⟨⟨slice, hslice, hshown⟩, _⟩ :=
      (Template.refuses_of_parse hparse).evident (Cursor.within_ofString source)
    exact locates_of_slice hslice hshown.ne_nil name e.message e.kind.message
  · intro r t hparse hformatters args e he
    obtain ⟨p, hp, hspan⟩ := Renderer.concerns_of_render r.blames_span hformatters t args he
    have hslice := Template.slice?_of_parse hparse hp
    rw [← hspan] at hslice
    have hraw : p.raw.toList ≠ [] := by
      obtain ⟨selectors, width, format, raw, span⟩ := p
      obtain ⟨_, _, _, _, _, _, hraw⟩ := hp.rebuilds_source hparse
      rw [hraw]
      exact List.cons_ne_nil _ _
    exact locates_of_slice hslice hraw name e.message _

/-- On the second line of a text, a name without a value and a brace without a match. -/
theorem locates_errors_secondLineSample :
    let t : Template := [.literal ⟨"a\n", ⟨0, 2⟩⟩,
      .placeholder ⟨[.ofText "b" ⟨3, 4⟩ true], none, none, "\x7bb\x7d", ⟨2, 5⟩⟩]
    let missing : ResolutionError := ⟨.notFound, "\x7bb\x7d", ⟨2, 5⟩, "b", 0, []⟩
    let unmatched : SyntaxError := ⟨.unexpectedClose, ⟨5, 6⟩⟩
    Template.parse .doubledBrace "a\n\x7bb\x7d\x7d" = .error unmatched ∧
      Heads (unmatched.report "a\n\x7bb\x7d\x7d" "t") unmatched.message "t" 2 4 ∧
      Template.parse .doubledBrace "a\n\x7bb\x7d" = .ok t ∧
      Renderer.stocked.formatters.All Formatter.Relays ∧
      (Renderer.stocked.render t []).result = .error missing ∧
      Heads (missing.report "a\n\x7bb\x7d" "t") missing.message "t" 2 1 := by
  intro t missing unmatched
  have hmalformed : Template.parse .doubledBrace "a\n\x7bb\x7d\x7d" = .error unmatched := rfl
  have hparse : Template.parse .doubledBrace "a\n\x7bb\x7d" = .ok t := rfl
  have hformatters : Renderer.stocked.formatters.All Formatter.Relays :=
    (FormatterRegistry.assembled_initial.addAll Formatter.assembled_stock).imp fun _ h ↦ h.relays
  have hresult : (Renderer.stocked.render t []).result = .error missing := rfl
  have hunmatched := (locates_errors "t").1 unmatched hmalformed
  have hmissing := (locates_errors "t").2 Renderer.stocked t hparse hformatters [] missing
    (Or.inl hresult)
  refine ⟨hmalformed, ?_, hparse, hformatters, hresult, ?_⟩
  · refine (hunmatched.counted 2 4).mpr ⟨by decide, ['a', '\n', '\x7b', 'b', '\x7d'], rfl, ?_⟩
    exact ⟨[['a', '\n']], ['\x7b', 'b', '\x7d'], ['\x7d'], [], rfl, nofun, rfl, rfl, rfl⟩
  · refine (hmissing.counted 2 1).mpr ⟨by decide, ['a', '\n'], rfl, ?_⟩
    exact ⟨[['a', '\n']], [], ['\x7b', 'b', '\x7d'], [], rfl, nofun, rfl, rfl, rfl⟩

/-- Behind a letter of two bytes, a brace without a match is one column further on for its report. -/
theorem report_shiftedSample :
    let e : SyntaxError := ⟨.unexpectedClose, ⟨2, 3⟩⟩
    Template.parse .doubledBrace "é\x7d!" = .error e ∧
      byteWidth ['é'] = e.offset ∧ Position "é\x7d!".toList ['é'] 1 2 ∧
      Heads (e.report "é\x7d!" "t") e.message "t" 1 3 ∧
      ¬ Heads (e.report "é\x7d!" "t") e.message "t" 1 2 := by
  intro e
  have hposition : Position "é\x7d!".toList ['é', '\x7d'] 1 3 :=
    ⟨[], ['é', '\x7d'], ['!'], [], rfl, nofun, rfl, rfl, rfl⟩
  have hheads : Heads (e.report "é\x7d!" "t") e.message "t" 1 3 :=
    heads_of_position (by decide) (by decide) (by decide) rfl hposition
  refine ⟨rfl, rfl, ⟨[], ['é'], ['\x7d', '!'], [], rfl, nofun, rfl, rfl, rfl⟩, hheads, fun h ↦ ?_⟩
  exact absurd (hheads.eq h).2 (by decide)

end TextTemplate.Report
