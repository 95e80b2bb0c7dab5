import TextTemplate.Proofs.Declining
import TextTemplate.Proofs.DoubledBraces
import TextTemplate.Proofs.Heads

/-!
# Escaped colons in front of specifiers

A specifier is decoded while it is read, and its head is looked for afterwards, in the decoded text.
So two spellings of one text make the same format, and it cannot be told from the text whether a
colon was escaped: an escaped colon ends the name of a formatter just as a bare one does. What a
placeholder with such a specifier comes to depends on whether there is a formatter of that name.
-/

namespace TextTemplate

namespace Parser

/-! ## Texts that are spelled in a specifier -/

section

variable {mode : EscapeMode} {cs cs' ds ds' : List Char}

theorem Spells.append (h : Spells mode cs ds) (h' : Spells mode cs' ds') :
    Spells mode (cs ++ cs') (ds ++ ds') := by
  induction h with
  | nil => exact h'
  | cons hunit _ ih =>
    rw [List.append_assoc, List.cons_append]
    exact .cons hunit ih

/-- A text that needs no escapes spells itself. -/
theorem spells_of_isPlain (h : IsPlain cs) : Spells .backslash cs cs := by
  induction cs with
  | nil => exact .nil
  | cons c cs ih =>
    obtain ⟨hopen, hclose, hback⟩ := h c List.mem_cons_self
    have hc : Spelling .backslash [c] c :=
      .plain (isBrace_eq_false_iff.mpr ⟨hopen, hclose⟩) fun _ ↦ hback
    exact .cons hc (ih fun d hd ↦ h d (List.mem_cons_of_mem c hd))

/-- The spelled text is read in front of whatever is read behind it. -/
theorem Spells.reads_before {closes : List Char → Bool} {scope : Scope} {k mid next : Cursor}
    {ps : List Piece} (h : Spells mode cs ds) (hcs : k.Passes cs mid)
    (hps : Reads mode closes scope mid ps next) :
    ∃ qs, Reads mode closes scope k qs next ∧ Template.content (Piece.gather qs) =
      ds.foldr (Template.consChar · default) (Template.content (Piece.gather ps)) := by
  induction h generalizing k with
  | nil =>
    obtain rfl := hcs.eq_of_nil
    exact ⟨ps, hps, rfl⟩
  | cons hunit _ ih =>
    obtain ⟨k', hc, hcs⟩ := hcs.split
    obtain ⟨qs, hqs, hcontent⟩ := ih hcs
    refine ⟨_, .char hunit hc hqs, ?_⟩
    rw [Piece.gather_char, Template.content_consChar, hcontent, List.foldr_cons]

end

end Parser

namespace FormatterHead

theorem isPlain_of_isIdentifier {name : List Char} (h : IsIdentifier name) :
    Parser.IsPlain name := by
  intro c hc
  have hcontinues := h.continues c hc
  refine ⟨?_, ?_, ?_⟩ <;> rintro rfl <;> exact absurd hcontinues (by decide)

/-- A colon behind an identifier ends a name, and the text goes on behind it. -/
theorem opens_colon {name : List Char} (h : IsIdentifier name) (rest : List Char) :
    Opens (name ++ ':' :: rest) name none true rest where
  isName := by
    refine isLongestIdentifier_append_iff.mpr ⟨h, fun c hc ↦ ?_⟩
    cases hc
    rfl
  isOptions := nofun
  isColon := nofun
  eq := (chars_colon_append name rest).symm

end FormatterHead

/-! ## Placeholders with a specifier that is text -/

namespace Template

theorem eq_literal_of_content {t : Template} {text : String}
    (h : content t = [.literal ⟨text, default⟩]) : ∃ span, t = [.literal ⟨text, span⟩] := by
  match t with
  | [] => exact absurd h nofun
  | .placeholder p :: ns => exact absurd h nofun
  | .literal l :: n :: ns =>
    cases n <;> exact absurd h nofun
  | [.literal l] =>
    obtain rfl : l.text = text := congrArg Literal.text (Node.literal.inj (List.cons.inj h).1)
    exact ⟨l.span, rfl⟩

/-- The text of a placeholder without a width, with this path and this specifier. -/
def formatted (selectors : List Selector) (specifier : List Char) : String :=
  String.ofList ('{' :: Parser.pathText selectors ++ (':' :: specifier ++ ['}']))

end Template

namespace Parser

theorem passes_formatted (selectors : List Selector) (specifier : List Char) :
    (Cursor.ofString (Template.formatted selectors specifier)).Passes
      ('{' :: (pathText selectors ++ widthText none) ++ (':' :: specifier ++ ['}']))
      ⟨byteWidth ('{' :: (pathText selectors ++ widthText none) ++ (':' :: specifier ++ ['}'])),
        []⟩ := by
  constructor
  · rw [Cursor.ofString, Template.formatted, String.toList_ofList, widthText, List.append_nil,
      List.append_nil]
  · exact (Nat.zero_add _).symm

/-- A specifier is the text that it spells. -/
theorem parse_formatted {selectors : List Selector} (hpath : Selector.WellFormedPath selectors)
    {cs ds : List Char} (hspells : Spells .backslash cs ds) (hds : ds ≠ []) :
    ∃ p span place,
      Template.parse .backslash (Template.formatted selectors cs) = .ok [.placeholder p] ∧
      p.selectors.map Selector.content = selectors.map Selector.content ∧ p.alignment = none ∧
      p.format = some (.ofTemplate [.literal ⟨String.ofList ds, span⟩] place) := by
  obtain ⟨mid, hhead, hpass⟩ := (passes_formatted selectors cs).split
  obtain ⟨stop, hspecifier, hclose⟩ := hpass.split
  have hopen := hhead.rest
  have hcolon : mid.rest = ':' :: (cs ++ stop.rest) := hspecifier.rest
  have hstop : stop.rest = ['}'] := hclose.rest
  obtain ⟨selectors', behind, hread, hwidth, hcontent⟩ :=
    reads_path_width hpath (hhead.tail hopen rfl) hcolon (Or.inl rfl)
  obtain ⟨qs, hqs, hbody⟩ := hspells.reads_before (hspecifier.tail hcolon rfl)
    (reads_end (Or.inr ⟨rfl, [], hstop⟩))
  obtain ⟨span, hspan⟩ := Template.eq_literal_of_content (hbody.trans (foldr_consChar hds rfl))
  have hopens : ReadsHead .backslash (fun _ ↦ true) (.ofString (Template.formatted selectors cs))
      selectors' none mid := .mk (front_eq_opening_iff.mpr ⟨hopen, nofun⟩) rfl hread hwidth
  have hreads : ReadsFreely .root _ _ _ := .formatted hopens hcolon hqs hstop (.finish rfl)
  rw [hspan] at hreads
  exact ⟨_, span, _, Template.parse_eq_ok_iff.mpr ⟨_, _, hreads.looksAhead, rfl⟩, hcontent, rfl,
    rfl⟩

end Parser

/-! ## Names in front of an escaped colon -/

namespace Renderer

variable {r : Renderer} {inner : NestedRender} {fail : String → String → ResolutionError}
  {v : Value} {template : Template} {head : FormatterHead} {span : Span}

/-- A specifier that is text goes to the default formatter where its head names no other one. -/
theorem renderFormat_unnamed (htext : template.hasPlaceholders = false)
    (hnone : r.formatters.named.get? head.name = none) :
    r.renderFormat inner fail v (some ⟨template, some head, span⟩) =
      r.runDefault inner fail ⟨v, none, some template⟩ := by
  rw [renderFormat, runHead, hnone, htext]
  rfl

/-- Where its head names another one, that formatter is asked first. -/
theorem renderFormat_named (htext : template.hasPlaceholders = false) {g : Formatter}
    (hnamed : r.formatters.named.get? head.name = some g) :
    r.renderFormat inner fail v (some ⟨template, some head, span⟩) = (do
      let taken ← g.run (fail head.name) ⟨v, head.options, some head.body⟩ inner
      if taken then pure () else r.runDefault inner fail ⟨v, none, some template⟩) := by
  rw [renderFormat, runHead, hnamed, htext]
  rfl

end Renderer

theorem Placeholder.content_eq_of_formats {p q : Placeholder} {t t' : Template}
    {place place' : Span}
    (hselectors : q.selectors.map Selector.content = p.selectors.map Selector.content)
    (halignment : q.alignment = p.alignment) (hp : p.format = some (.ofTemplate t place))
    (hq : q.format = some (.ofTemplate t' place')) (ht : Template.content t' = Template.content t) :
    q.content = p.content := by
  obtain ⟨selectors, width, format, raw, span⟩ := p
  obtain ⟨selectors', width', format', raw', span'⟩ := q
  obtain rfl : width' = width := halignment
  obtain rfl : format = some (.ofTemplate t place) := hp
  obtain rfl : format' = some (.ofTemplate t' place') := hq
  have hselectors : selectors'.map Selector.content = selectors.map Selector.content := hselectors
  simp only [Placeholder.content, Format.ofTemplate, Format.content?, hselectors, ht,
    FormatterHead.content_extract? ht]

/-- The head of a literal that begins with an identifier and a colon. -/
theorem FormatterHead.extract?_colon {name : List Char} (h : IsIdentifier name) (u : List Char)
    (span : Span) :
    extract? [.literal ⟨String.ofList (name ++ ':' :: u), span⟩] = some ⟨String.ofList name, none,
      restOf ⟨String.ofList (name ++ ':' :: u), span⟩ (name ++ [':']) u⟩ := by
  refine extract?_literal_eq_some_iff.mpr ⟨true, u, ?_, ?_⟩
  · simp only [String.toList_ofList, Option.map_none]
    exact opens_colon h u
  · rw [List.append_nil, String.toList_ofList, Option.map_none]
    simp [chars, colonText]

/-- **Escaped colons.** Let a specifier begin with an identifier and a colon that is written with a
backslash, and go on with a text that needs no escapes. It is read as if the colon were bare: the
identifier is the name of a head, and the text behind the colon is its body. So a value goes to the
default formatter with the whole specifier if no formatter has that name, and otherwise only if the
formatter of that name declines the value. -/
theorem Renderer.renderPlaceholder_escapedColon {selectors : List Selector}
    (hpath : Selector.WellFormedPath selectors) {name u : List Char}
    (hname : FormatterHead.IsIdentifier name) (hu : Parser.IsPlain u) :
    ∃ p q span place, let specifier : Literal := ⟨String.ofList (name ++ ':' :: u), span⟩
      let head : FormatterHead :=
        ⟨String.ofList name, none, FormatterHead.restOf specifier (name ++ [':']) u⟩
      Template.parse .backslash (Template.formatted selectors (name ++ '\\' :: ':' :: u)) =
          .ok [.placeholder p] ∧
        p.selectors.map Selector.content = selectors.map Selector.content ∧ p.alignment = none ∧
        p.format = some ⟨[.literal specifier], some head, place⟩ ∧
        Template.parse .backslash (Template.formatted selectors (name ++ ':' :: u)) =
          .ok [.placeholder q] ∧
        q.content = p.content ∧
        ∀ (r : Renderer) (inner : NestedRender) (args : List Value) (t : Trail),
          r.resolve args p.selectors = .ok t →
            let fail := p.formatterError t
            let byDefault := r.runDefault inner fail ⟨t.current, none, some [.literal specifier]⟩
            r.renderPlaceholder inner p args =
              match r.formatters.named.get? head.name with
              | none => byDefault
              | some g => (do
                let taken ← g.run (fail head.name) ⟨t.current, none, some head.body⟩ inner
                if taken then pure () else byDefault) := by
  have hcolon : Parser.Spells .backslash (':' :: u) (':' :: u) :=
    Parser.spells_of_isPlain (.cons (by decide) hu)
  have hescaped : Parser.Spells .backslash ('\\' :: ':' :: u) (':' :: u) :=
    .cons (.escaped rfl) (Parser.spells_of_isPlain hu)
  have hidentifier := Parser.spells_of_isPlain (FormatterHead.isPlain_of_isIdentifier hname)
  have hne : name ++ ':' :: u ≠ [] := List.append_ne_nil_of_right_ne_nil name (List.cons_ne_nil _ _)
  obtain ⟨p, span, place, hparse, hselectors, halignment, hformat⟩ :=
    Parser.parse_formatted hpath (hidentifier.append hescaped) hne
  obtain ⟨q, span', place', hparse', hselectors', halignment', hformat'⟩ :=
    Parser.parse_formatted hpath (hidentifier.append hcolon) hne
  refine ⟨p, q, span, place, hparse, hselectors, halignment, ?_, hparse', ?_, ?_⟩
  · rw [hformat, Format.ofTemplate, FormatterHead.extract?_colon hname]
  · exact Placeholder.content_eq_of_formats (hselectors'.trans hselectors.symm)
      (halignment'.trans halignment.symm) hformat hformat' rfl
  · intro r inner args t ht fail byDefault
    rw [renderPlaceholder_of_ok ht, hformat, Format.ofTemplate, FormatterHead.extract?_colon hname]
    cases hget : r.formatters.named.get? (String.ofList name) with
    | none => exact renderFormat_unnamed rfl hget
    | some g => exact renderFormat_named rfl hget

/-- A placeholder in whose specifier a colon was written with a backslash. -/
def escapedColonSample : Placeholder :=
  ⟨[.ofText "0" ⟨1, 2⟩ true], none, some (.ofTemplate [.literal ⟨"nest:x", ⟨3, 10⟩⟩] ⟨3, 10⟩),
    "\x7b0:nest\\:x\x7d", ⟨0, 11⟩⟩

theorem parse_escapedColonSample : Template.parse .backslash "\x7b0:nest\\:x\x7d" =
    .ok [.placeholder escapedColonSample] := rfl

/-- Where the name is that of a formatter, the formatter is asked with the text behind the colon. -/
theorem Renderer.renderPlaceholder_escapedColon_nestSample :
    let inner := stocked.nested stocked.depth
    let fail := escapedColonSample.formatterError ⟨.str "v", 1, ["0"]⟩
    Selector.WellFormedPath [.ofText "0" default true] ∧
      FormatterHead.IsIdentifier "nest".toList ∧ Parser.IsPlain "x".toList ∧
      stocked.resolve [.str "v"] escapedColonSample.selectors = .ok ⟨.str "v", 1, ["0"]⟩ ∧
      ∃ specifier body, escapedColonSample.format.map Format.template = some specifier ∧
        escapedColonSample.format.bind Format.head = some ⟨"nest", none, body⟩ ∧
        stocked.renderPlaceholder inner escapedColonSample [.str "v"] = (do
          let taken ← Formatter.nest.run (fail "nest") ⟨.str "v", none, some body⟩ inner
          if taken then pure ()
          else stocked.runDefault inner fail ⟨.str "v", none, some specifier⟩) := by
  intro inner fail
  have hpath : Selector.WellFormedPath [.ofText "0" default true] :=
    ⟨⟨by decide, List.all_eq_true.mp rfl, rfl⟩, nofun⟩
  have hname : FormatterHead.IsIdentifier "nest".toList := .mk rfl (List.all_eq_true.mp rfl)
  have hplain : Parser.IsPlain "x".toList := by
    intro c hc
    obtain rfl := List.mem_singleton.mp hc
    decide
  have hresolve : stocked.resolve [.str "v"] escapedColonSample.selectors =
    .ok ⟨.str "v", 1, ["0"]⟩ := rfl
  obtain ⟨p, q, span, place, hparse, -, -, hformat, -, -, hrender⟩ :=
    renderPlaceholder_escapedColon hpath hname hplain
  obtain rfl : p = escapedColonSample :=
    Node.placeholder.inj (List.cons.inj (Except.ok.inj
      (hparse.symm.trans parse_escapedColonSample))).1
  refine ⟨hpath, hname, hplain, hresolve, _, _, congrArg (Option.map Format.template) hformat,
    congrArg (·.bind Format.head) hformat, ?_⟩
  exact hrender stocked inner [.str "v"] _ hresolve

/-- With a formatter of that name, the value is not rendered by the default one. -/
theorem Engine.format_escapedColonSample :
    let e := (Engine.new { escapeMode := .backslash }).addFormatter "nest" .nest
    Template.parse .backslash "\x7b0:nest\\:x\x7d" = .ok [.placeholder escapedColonSample] ∧
      escapedColonSample.format.bind Format.head =
        some ⟨"nest", none, [.literal ⟨"x", ⟨8, 10⟩⟩]⟩ ∧
      Value.textWithHint (.str "v") "nest:x" = "v" ∧
      (e.format "\x7b0:nest\\:x\x7d" [.str "v"]).1.result.toOption = some "<x>" := by
  intro e
  exact ⟨parse_escapedColonSample, rfl, rfl, by decide +kernel⟩

end TextTemplate
