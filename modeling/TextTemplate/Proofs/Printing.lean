import TextTemplate.Proofs.LookAhead
import TextTemplate.Proofs.Numerals

/-!
# Printing templates

Under backslash escapes every template that can be read is the reading of a text that is easy to
write down: a backslash goes before each brace and each backslash of literal text, and a placeholder
is written part by part. `Template.WellFormed` singles out the templates that reading yields. It is
decided by the template alone, and it is exact: printing a well-formed template and reading the text
gives the template back, and nothing else is ever read.

A template that was never read has no places, so two templates are compared by `Template.content`,
which is a template without its spans and without the text that its placeholders were read from.
-/

namespace TextTemplate

/-! ## Well-formed templates -/

/-- A segment that reading yields, at the front of a path or behind it. -/
structure Selector.WellFormed (leading : Bool) (s : Selector) : Prop where
  ne_empty : s.text ≠ ""
  chars : ∀ c ∈ s.text.toList, Parser.isSelectorChar c = true
  kind : s.kind = (Selector.ofText s.text s.span leading).kind

/-- A path that reading yields. -/
def Selector.WellFormedPath : List Selector → Prop
  | [] => False
  | s :: ss => s.WellFormed true ∧ ∀ s' ∈ ss, s'.WellFormed false

theorem Selector.WellFormedPath.ne_nil {selectors : List Selector} (h : WellFormedPath selectors) :
    selectors ≠ [] := by
  rintro rfl
  exact h

mutual

/-- Literals are not empty and have no literal behind them, and placeholders are well formed. -/
def Template.WellFormed : List Node → Prop
  | [] => True
  | .literal l :: ns =>
    l.text ≠ "" ∧ Template.startsLiteral ns = false ∧ Template.WellFormed ns
  | .placeholder p :: ns => Placeholder.WellFormed p ∧ Template.WellFormed ns

/-- The path and the specifier are well formed; the width may be any. -/
def Placeholder.WellFormed : Placeholder → Prop
  | ⟨selectors, _, format, _, _⟩ =>
    Selector.WellFormedPath selectors ∧ Format.WellFormed? format

/-- The specifier, if there is one, is well formed, and its head is the one that it begins with. -/
def Format.WellFormed? : Option Format → Prop
  | none => True
  | some ⟨template, head, _⟩ =>
    Template.WellFormed template ∧ head = FormatterHead.extract? template

end

/-! ## Templates without places -/

/-- A segment without its place. -/
def Selector.content (s : Selector) : Selector := { s with span := default }

mutual

/-- A template without the places in it. -/
def Template.content : List Node → List Node
  | [] => []
  | .literal l :: ns => .literal { l with span := default } :: Template.content ns
  | .placeholder p :: ns => .placeholder (Placeholder.content p) :: Template.content ns

/-- A placeholder without the places in it. -/
def Placeholder.content : Placeholder → Placeholder
  | ⟨selectors, width, format, _, _⟩ =>
    ⟨selectors.map Selector.content, width, Format.content? format, "", default⟩

/-- A format, if there is one, without the places in it. -/
def Format.content? : Option Format → Option Format
  | none => none
  | some ⟨template, head, _⟩ =>
    some ⟨Template.content template, FormatterHead.content? head, default⟩

/-- A head, if there is one, without the places in it. -/
def FormatterHead.content? : Option FormatterHead → Option FormatterHead
  | none => none
  | some ⟨name, options, body⟩ => some ⟨name, options, Template.content body⟩

end

/-! ## Printing -/

/-- A character of literal text, with a backslash before it if it would not stand for itself. -/
def escaped (c : Char) : List Char :=
  if c = '{' ∨ c = '}' ∨ c = '\\' then ['\\', c] else [c]

/-- A width behind a comma. -/
def widthText : Option Int32 → List Char
  | none => []
  | some n => ',' :: (Numeral.decimal n.toInt).toList

mutual

/-- The characters of a template, in the order in which they are written. -/
def Template.chars : List Node → List Char
  | [] => []
  | .literal l :: ns => l.text.toList.flatMap escaped ++ Template.chars ns
  | .placeholder p :: ns => Placeholder.chars p ++ Template.chars ns

/-- A placeholder in braces. -/
def Placeholder.chars : Placeholder → List Char
  | ⟨selectors, width, format, _, _⟩ =>
    '{' :: (Parser.pathText selectors ++ (widthText width ++ (Format.chars? format ++ ['}'])))

/-- A specifier behind a colon. -/
def Format.chars? : Option Format → List Char
  | none => []
  | some ⟨template, _, _⟩ => ':' :: Template.chars template

end

/-- The text of a template. -/
def Template.print (t : Template) : String := String.ofList (Template.chars t)

/-! ## Contents -/

@[simp] theorem Template.content_consChar (c : Char) (span : Span) (t : Template) :
    Template.content (Template.consChar c span t) =
      Template.consChar c default (Template.content t) := by
  cases t with
  | nil => rfl
  | cons n ns =>
    cases n with
    | literal l => rfl
    | placeholder p => rfl

/-- A head is read off the text of the opening literal, whose place does not matter. -/
theorem FormatterHead.content_extract? {t t' : Template}
    (h : Template.content t = Template.content t') :
    FormatterHead.content? (FormatterHead.extract? t) =
      FormatterHead.content? (FormatterHead.extract? t') := by
  match t, t', h with
  | [], [], _ => rfl
  | [], n :: ns, h => cases n <;> exact absurd h.symm (List.cons_ne_nil _ _)
  | n :: ns, [], h => cases n <;> exact absurd h (List.cons_ne_nil _ _)
  | .placeholder p :: ns, .placeholder p' :: ns', _ => rfl
  | .placeholder p :: ns, .literal l :: ns', h =>
    exact absurd (List.head_eq_of_cons_eq h) nofun
  | .literal l :: ns, .placeholder p :: ns', h =>
    exact absurd (List.head_eq_of_cons_eq h) nofun
  | .literal ⟨text, span⟩ :: ns, .literal ⟨text', span'⟩ :: ns', h =>
    -- The texts agree, so the heads split off at the same place; the tails agree but for places.
    obtain ⟨hl, hns⟩ := List.cons.inj h
    obtain rfl : text = text' := congrArg Literal.text (Node.literal.inj hl)
    rw [FormatterHead.extract?, FormatterHead.extract?]
    cases hsplit : FormatterHead.split? text.toList with
    | none => rfl
    | some parts =>
      obtain ⟨name, options, rest⟩ := parts
      have hbody : Template.content (FormatterHead.bodyOf ⟨text, span⟩ rest ns) =
          Template.content (FormatterHead.bodyOf ⟨text, span'⟩ rest ns') := by
        unfold FormatterHead.bodyOf
        split
        · exact hns
        · simp only [Template.content, hns]
      simp only [Option.map_some, FormatterHead.content?, hbody]

/-! ## Reading what was printed -/

namespace Parser

theorem spelling_escaped (c : Char) : Spelling .backslash (escaped c) c := by
  unfold escaped
  split
  · rename_i hc
    rcases hc with rfl | rfl | rfl <;> exact .escaped rfl
  · rename_i hc
    rw [not_or, not_or] at hc
    exact .plain (isBrace_eq_false_iff.mpr ⟨hc.1, hc.2.1⟩) fun _ ↦ hc.2.2

/-- Whether reading may come to an end here. -/
def Ends (scope : Scope) (k : Cursor) : Prop :=
  k.rest = [] ∨ scope = .format ∧ ∃ rest, k.rest = '}' :: rest

/-- Reading without looking ahead: the scan is vacuous here, and `Reads.looksAhead` puts it back. -/
abbrev ReadsFreely (scope : Scope) (k : Cursor) (ps : List Piece) (next : Cursor) : Prop :=
  Reads .backslash (fun _ ↦ true) scope k ps next

theorem reads_end {scope : Scope} {k : Cursor} (h : Ends scope k) : ReadsFreely scope k [] k := by
  rcases h with h | ⟨rfl, rest, h⟩
  · exact .finish h
  · exact .close (front_eq_closing_iff.mpr ⟨rest, h, nofun⟩)

/-- Literal text is read back wherever its characters are spelled. -/
theorem reads_literal {mode : EscapeMode} {closes : List Char → Bool} {spell : Char → List Char}
    (hspell : ∀ c, Spelling mode (spell c) c) {scope : Scope} {k mid next : Cursor}
    {ps : List Piece} (cs : List Char) (hcs : k.Passes (cs.flatMap spell) mid)
    (h : Reads mode closes scope mid ps next) :
    ∃ qs, Reads mode closes scope k qs next ∧ Template.content (Piece.gather qs) =
      cs.foldr (Template.consChar · default) (Template.content (Piece.gather ps)) := by
  induction cs generalizing k with
  | nil =>
    obtain rfl := hcs.eq_of_nil
    exact ⟨ps, h, rfl⟩
  | cons c cs ih =>
    rw [List.flatMap_cons] at hcs
    obtain ⟨k', hc, hcs⟩ := hcs.split
    obtain ⟨qs, hqs, hcontent⟩ := ih hcs
    refine ⟨_, .char (hspell c) hc hqs, ?_⟩
    rw [Piece.gather_char, Template.content_consChar, hcontent, List.foldr_cons]

theorem reads_segment {leading : Bool} {k next : Cursor} {s : Selector} (hs : s.WellFormed leading)
    (hpass : k.Passes s.text.toList next) (hnext : AtMark next.rest) :
    ∃ s', ReadsSegment leading k s' next ∧ s'.content = s.content := by
  have hne : s.text.toList ≠ [] := by
    intro h
    exact hs.ne_empty (String.toList_eq_nil_iff.mp h)
  refine ⟨_, .mk s.text.toList hpass ⟨hne, hs.chars⟩ hnext, ?_⟩
  obtain ⟨text, kind, span⟩ := s
  have hkind : kind = (Selector.ofText text span leading).kind := hs.kind
  rw [String.ofList_toList, hkind]
  rfl

theorem reads_path {leading : Bool} {k next : Cursor} {s : Selector} {ss : List Selector}
    (hs : s.WellFormed leading) (hss : ∀ s' ∈ ss, s'.WellFormed false)
    (hpass : k.Passes (pathText (s :: ss)) next) (hnext : AtMark next.rest)
    (hdot : ∀ rest, next.rest ≠ '.' :: rest) :
    ∃ ss', ReadsPath leading k ss' next ∧
      ss'.map Selector.content = (s :: ss).map Selector.content := by
  induction ss generalizing leading k s with
  | nil =>
    obtain ⟨s', hs', hcontent⟩ := reads_segment hs hpass hnext
    refine ⟨[s'], .last hs' hdot, ?_⟩
    rw [List.map_singleton, List.map_singleton, hcontent]
  | cons s₂ ss ih =>
    rw [pathText_cons (List.cons_ne_nil s₂ ss)] at hpass
    obtain ⟨mid, hfirst, hpass⟩ := hpass.split
    have hmid : mid.rest = '.' :: (pathText (s₂ :: ss) ++ next.rest) := hpass.rest
    obtain ⟨s', hs', hcontent⟩ := reads_segment hs hfirst (atMark_of_cons hmid rfl)
    have htail := hpass.tail hmid rfl
    obtain ⟨ss', hss', hcontents⟩ :=
      ih (hss s₂ List.mem_cons_self) (fun s' h ↦ hss s' (List.mem_cons_of_mem s₂ h)) htail
    refine ⟨s' :: ss', .dot hs' hmid hss', ?_⟩
    rw [List.map_cons, hcontent, hcontents]
    rfl

theorem isMark_decimal {n : Int} {c : Char} (hc : c ∈ (Numeral.decimal n).toList) :
    isMark c = false := by
  rcases Numeral.mem_decimal hc with rfl | hc
  · rfl
  · by_contra hmark
    rw [Bool.not_eq_false] at hmark
    have hall : ['{', '}', ':', '.', ',', '\\'].all (!Char.isDigit ·) = true := rfl
    have hdigit := List.all_eq_true.mp hall c (mem_of_isMark hmark)
    rw [hc] at hdigit
    exact Bool.noConfusion hdigit

theorem isWidth_decimal (n : Int32) : IsWidth (Numeral.decimal n.toInt).toList n := by
  rw [IsWidth, Numeral.signed?_decimal]
  exact Numeral.int32?_toInt n

theorem reads_width {k next : Cursor} {width : Option Int32}
    (hpass : k.Passes (widthText width) next) (hnext : AtMark next.rest)
    (hcomma : ∀ rest, next.rest ≠ ',' :: rest) :
    ReadsWidth k width next := by
  cases width with
  | none =>
    obtain rfl := hpass.eq_of_nil
    exact .none hcomma
  | some n => exact .some _ hpass (fun c hc ↦ isMark_decimal hc) hnext (isWidth_decimal n)

/-- Characters of literal text in front of a template that has none in front make one literal. -/
theorem foldr_consChar {cs : List Char} (hcs : cs ≠ []) {t : Template}
    (ht : t.startsLiteral = false) :
    cs.foldr (Template.consChar · default) t = .literal ⟨String.ofList cs, default⟩ :: t := by
  induction cs with
  | nil => exact absurd rfl hcs
  | cons c cs ih =>
    rw [List.foldr_cons]
    cases cs with
    | nil =>
      cases t with
      | nil => rfl
      | cons n ns =>
        cases n with
        | literal l => exact Bool.noConfusion ht
        | placeholder p => rfl
    | cons d ds =>
      rw [ih (List.cons_ne_nil d ds), Template.consChar, ← String.ofList_cons]
      rfl

theorem startsLiteral_content (t : Template) :
    Template.startsLiteral (Template.content t) = t.startsLiteral := by
  cases t with
  | nil => rfl
  | cons n ns => cases n <;> rfl

/-- A path and a width are read up to the colon or the brace behind them. -/
theorem reads_path_width {k mid : Cursor} {selectors : List Selector} {width : Option Int32}
    {c : Char} {tail : List Char} (hpath : Selector.WellFormedPath selectors)
    (hpass : k.Passes (pathText selectors ++ widthText width) mid) (hmid : mid.rest = c :: tail)
    (hc : c = ':' ∨ c = '}') :
    ∃ selectors' stop, ReadsPath true k selectors' stop ∧ ReadsWidth stop width mid ∧
      selectors'.map Selector.content = selectors.map Selector.content := by
  have hmark : isMark c = true ∧ c ≠ '.' ∧ c ≠ ',' := by rcases hc with rfl | rfl <;> decide
  obtain ⟨hmark, hdot, hcomma⟩ := hmark
  obtain ⟨stop, hselectors, hwidth⟩ := hpass.split
  have hstop : AtMark stop.rest ∧ ∀ rest, stop.rest ≠ '.' :: rest := by
    cases width with
    | none =>
      obtain rfl := hwidth.eq_of_nil
      refine ⟨atMark_of_cons hmid hmark, fun rest h ↦ hdot ?_⟩
      exact List.head_eq_of_cons_eq (hmid.symm.trans h)
    | some n =>
      refine ⟨atMark_of_cons hwidth.rest rfl, fun rest h ↦ ?_⟩
      exact absurd (List.head_eq_of_cons_eq (hwidth.rest.symm.trans h)) (by decide)
  have hcommas : ∀ rest, mid.rest ≠ ',' :: rest := fun rest h ↦
    hcomma (List.head_eq_of_cons_eq (hmid.symm.trans h))
  cases selectors with
  | nil => exact hpath.elim
  | cons s ss =>
    obtain ⟨selectors', hread, hcontent⟩ :=
      reads_path hpath.1 hpath.2 hselectors hstop.1 hstop.2
    have hwidth := reads_width hwidth (atMark_of_cons hmid hmark) hcommas
    exact ⟨selectors', stop, hread, hwidth, hcontent⟩

/-- What follows a path and a width is a colon or a closing brace. -/
theorem format_front (format : Option Format) (rest : List Char) :
    ∃ c tail, Format.chars? format ++ '}' :: rest = c :: tail ∧ (c = ':' ∨ c = '}') := by
  match format with
  | none => exact ⟨'}', _, rfl, Or.inr rfl⟩
  | some ⟨template, head, span⟩ => exact ⟨':', _, rfl, Or.inl rfl⟩

/-- A placeholder is read up to its format. -/
theorem reads_head {k mid : Cursor} {selectors : List Selector} {width : Option Int32}
    {format : Option Format} {rest : List Char} (hpath : Selector.WellFormedPath selectors)
    (hpass : k.Passes ('{' :: (pathText selectors ++ widthText width)) mid)
    (hmid : mid.rest = Format.chars? format ++ '}' :: rest) :
    ∃ selectors', ReadsHead .backslash (fun _ ↦ true) k selectors' width mid ∧
      selectors'.map Selector.content = selectors.map Selector.content := by
  obtain ⟨c, tail, hfront, hc⟩ := format_front format rest
  have hopen : k.rest = '{' :: (pathText selectors ++ widthText width ++ mid.rest) := hpass.rest
  obtain ⟨selectors', stop, hread, hwidth, hcontent⟩ :=
    reads_path_width hpath (hpass.tail hopen rfl) (hmid.trans hfront) hc
  exact ⟨selectors', .mk (front_eq_opening_iff.mpr ⟨hopen, nofun⟩) rfl hread hwidth, hcontent⟩

mutual

/-- What was printed of a well-formed template reads as pieces of the same content. -/
theorem reads_chars : ∀ (ns : List Node) {scope : Scope} {k next : Cursor},
    Template.WellFormed ns → k.Passes (Template.chars ns) next → Ends scope next →
      ∃ ps, ReadsFreely scope k ps next ∧
        Template.content (Piece.gather ps) = Template.content ns
  | [], scope, k, next, _, hpass, hend => by
    obtain rfl := hpass.eq_of_nil
    exact ⟨[], reads_end hend, rfl⟩
  | .literal l :: ns, scope, k, next, hwf, hpass, hend => by
    obtain ⟨hne, hseparate, hns⟩ := hwf
    obtain ⟨mid, hliteral, hpass⟩ := hpass.split
    obtain ⟨ps, hps, hcontent⟩ := reads_chars ns hns hpass hend
    obtain ⟨qs, hqs, hgather⟩ := reads_literal spelling_escaped l.text.toList hliteral hps
    refine ⟨qs, hqs, ?_⟩
    -- No literal follows, so nothing else is gathered into this one.
    rw [hgather, hcontent, foldr_consChar, String.ofList_toList]
    · rfl
    · exact fun h ↦ hne (String.toList_eq_nil_iff.mp h)
    · rw [startsLiteral_content, hseparate]
  | .placeholder p :: ns, scope, k, next, hwf, hpass, hend => by
    obtain ⟨mid, hplaceholder, hpass⟩ := hpass.split
    obtain ⟨ps, hps, hcontent⟩ := reads_chars ns hwf.2 hpass hend
    obtain ⟨p', hread, hp'⟩ := reads_placeholder p hwf.1 hplaceholder
    refine ⟨_, hread hps, ?_⟩
    rw [Piece.gather_placeholder, Template.content, Template.content, hp', hcontent]

theorem reads_placeholder : ∀ (p : Placeholder) {k mid : Cursor},
    Placeholder.WellFormed p → k.Passes (Placeholder.chars p) mid →
      ∃ p', (∀ {scope : Scope} {next : Cursor} {ps : List Piece}, ReadsFreely scope mid ps next →
          ReadsFreely scope k (.placeholder p' :: ps) next) ∧
        Placeholder.content p' = Placeholder.content p
  | ⟨selectors, width, none, raw, span⟩, k, ⟨offset, rest⟩, hwf, hpass => by
    rw [Placeholder.chars, ← List.append_assoc, ← List.cons_append] at hpass
    obtain ⟨stop, hhead, hclose⟩ := hpass.split
    have hstop : stop.rest = Format.chars? none ++ '}' :: rest := hclose.rest
    obtain ⟨selectors', hread, hcontent⟩ := reads_head hwf.1 hhead hstop
    obtain rfl : offset = stop.offset + 1 := hclose.offset
    refine ⟨_, fun hps ↦ .bare hread hstop hps, ?_⟩
    simp only [placeholderAt, Placeholder.content, Format.content?, hcontent]
  | ⟨selectors, width, some ⟨template, head, place⟩, raw, span⟩, k, ⟨offset, rest⟩, hwf, hpass => by
    obtain ⟨hpath, htemplate, rfl⟩ := hwf
    rw [Placeholder.chars, ← List.append_assoc, ← List.cons_append] at hpass
    obtain ⟨mid, hhead, hpass⟩ := hpass.split
    have hmid : mid.rest =
        Format.chars? (some ⟨template, FormatterHead.extract? template, place⟩) ++ '}' :: rest := by
      rw [hpass.rest, List.append_assoc]
      rfl
    obtain ⟨selectors', hread, hcontent⟩ := reads_head hpath hhead hmid
    obtain ⟨stop, hspecifier, hclose⟩ := hpass.split
    have hcolon : mid.rest = ':' :: (Template.chars template ++ stop.rest) := hspecifier.rest
    have hstop : stop.rest = '}' :: rest := hclose.rest
    obtain rfl : offset = stop.offset + 1 := hclose.offset
    obtain ⟨qs, hqs, hbody⟩ := reads_chars template htemplate (hspecifier.tail hcolon rfl)
      (Or.inr ⟨rfl, rest, hstop⟩)
    refine ⟨_, fun hps ↦ .formatted hread hcolon hqs hstop hps, ?_⟩
    simp only [placeholderAt, Format.ofTemplate, Placeholder.content, Format.content?, hcontent,
      hbody, FormatterHead.content_extract? hbody]

end

/-! ## What reading yields -/

theorem ReadsSegment.wellFormed {leading : Bool} {k next : Cursor} {s : Selector}
    (h : ReadsSegment leading k s next) : s.WellFormed leading := by
  cases h with
  | mk text _ htext _ =>
    refine ⟨fun hempty ↦ htext.ne_nil ?_, fun c hc ↦ htext.chars c ?_, rfl⟩
    · exact String.ofList_eq_empty_iff.mp hempty
    · rwa [Selector.ofText, String.toList_ofList] at hc

theorem ReadsPath.wellFormed {leading : Bool} {k next : Cursor} {ss : List Selector}
    (h : ReadsPath leading k ss next) :
    ∃ s tail, ss = s :: tail ∧ s.WellFormed leading ∧ ∀ s' ∈ tail, s'.WellFormed false := by
  induction h with
  | @last _ _ _ s hs _ => exact ⟨s, [], rfl, hs.wellFormed, nofun⟩
  | @dot _ _ _ _ s _ _ hs _ _ ih =>
    obtain ⟨s', tail, rfl, hs', htail⟩ := ih
    exact ⟨s, s' :: tail, rfl, hs.wellFormed, List.forall_mem_cons.mpr ⟨hs', htail⟩⟩

theorem ReadsHead.wellFormed {mode : EscapeMode} {closes : List Char → Bool} {k next : Cursor}
    {selectors : List Selector} {width : Option Int32}
    (h : ReadsHead mode closes k selectors width next) : Selector.WellFormedPath selectors := by
  obtain ⟨_, _, hpath, _⟩ := h
  obtain ⟨s, tail, rfl, hs, htail⟩ := hpath.wellFormed
  exact ⟨hs, htail⟩

theorem wellFormed_consChar {c : Char} {span : Span} {t : Template} (h : Template.WellFormed t) :
    Template.WellFormed (Template.consChar c span t) := by
  match t, h with
  | [], _ => exact ⟨String.singleton_ne_empty, rfl, trivial⟩
  | .literal l :: ns, h => exact ⟨Template.singleton_append_ne_empty c l.text, h.2⟩
  | .placeholder p :: ns, h => exact ⟨String.singleton_ne_empty, rfl, h⟩

/-- Whatever is read is well formed, in either mode and at any depth. -/
theorem Reads.wellFormed {mode : EscapeMode} {closes : List Char → Bool} {scope : Scope}
    {k next : Cursor} {ps : List Piece} (h : Reads mode closes scope k ps next) :
    Template.WellFormed (Piece.gather ps) := by
  induction h with
  | finish _ => exact trivial
  | close _ => exact trivial
  | char _ _ _ ih =>
    rw [Piece.gather_char]
    exact wellFormed_consChar ih
  | bare hhead _ _ ih => exact ⟨⟨hhead.wellFormed, trivial⟩, ih⟩
  | formatted hhead _ _ _ _ ihq ih => exact ⟨⟨hhead.wellFormed, ihq, rfl⟩, ih⟩

end Parser

/-- **Printing and reading.** A well-formed template is read back from its text, and no other
template is ever read. -/
theorem Template.parse_print :
    (∀ t, WellFormed t → ∃ t', parse .backslash (print t) = .ok t' ∧ content t' = content t) ∧
      ∀ source t, parse .backslash source = .ok t → WellFormed t := by
  constructor
  · intro t ht
    have hpass : (Cursor.ofString (print t)).Passes (chars t) ⟨byteWidth (chars t), []⟩ := by
      constructor
      · rw [Cursor.ofString, print, String.toList_ofList, List.append_nil]
      · exact (Nat.zero_add _).symm
    obtain ⟨ps, hps, hcontent⟩ := Parser.reads_chars t ht hpass (Or.inl rfl)
    exact ⟨_, parse_eq_ok_iff.mpr ⟨ps, _, hps.looksAhead, rfl⟩, hcontent⟩
  · intro source t h
    obtain ⟨ps, _, hps, rfl⟩ := parse_eq_ok_iff.mp h
    exact hps.wellFormed

/-- A placeholder that follows a literal, with a width and a placeholder in its specifier. -/
def Template.nestedSample : Template :=
  let inner : Placeholder := ⟨[.ofText "0" default true], none, none, "", default⟩
  let specifier : Template := [.literal ⟨"list:", default⟩, .placeholder inner]
  let path : List Selector := [.ofText "user" default true, .ofText "1" default false]
  [.literal ⟨"a \x7bb\x7d ", default⟩,
    .placeholder ⟨path, some (-8), some (.ofTemplate specifier default), "", default⟩]

theorem Template.wellFormed_nestedSample : WellFormed nestedSample := by
  have hall : ["0", "user", "1"].all (fun text ↦
      text != "" && text.toList.all Parser.isSelectorChar) = true := by decide +kernel
  have hpart : ∀ leading text, text ∈ ["0", "user", "1"] →
      (Selector.ofText text default leading).WellFormed leading := by
    intro leading text h
    have htext := List.all_eq_true.mp hall text h
    rw [Bool.and_eq_true, bne_iff_ne, List.all_eq_true] at htext
    exact ⟨htext.1, htext.2, rfl⟩
  have hinner : Selector.WellFormedPath [.ofText "0" default true] :=
    ⟨hpart true "0" (by simp), nofun⟩
  have hpath : Selector.WellFormedPath [.ofText "user" default true, .ofText "1" default false] :=
    ⟨hpart true "user" (by simp), List.forall_mem_singleton.mpr (hpart false "1" (by simp))⟩
  exact ⟨by decide, rfl, ⟨hpath, ⟨by decide, rfl, ⟨hinner, trivial⟩, trivial⟩, rfl⟩, trivial⟩

/-- The sample is read back from its text. -/
theorem Template.parse_print_nestedSample :
    WellFormed nestedSample ∧ ∃ t', parse .backslash (print nestedSample) = .ok t' ∧
      content t' = content nestedSample ∧ WellFormed t' := by
  obtain ⟨t', hread, hcontent⟩ := parse_print.1 nestedSample wellFormed_nestedSample
  exact ⟨wellFormed_nestedSample, t', hread, hcontent, parse_print.2 _ t' hread⟩

end TextTemplate
