import TextTemplate.Proofs.LiteralTemplates
import TextTemplate.Proofs.Printing

/-!
# Printing templates with doubled braces

Where a doubled brace is a literal one, a specifier cannot be written with braces of its own, but a
template whose specifiers are plain text can be printed: every brace of literal text is doubled, and
placeholders are written part by part. It is read back unless a specifier is followed by a literal
brace that closes. Closing braces are read in pairs from the left, so behind a specifier the first
of them, which should end the placeholder, is taken for the first half of a pair. `Template.absorb`
says what becomes of the template then.
-/

namespace TextTemplate

/-! ## Specifiers that are text -/

/-- A template that is text, or nothing. -/
def Template.ofText (text : List Char) : Template :=
  if text = [] then [] else [.literal ⟨String.ofList text, default⟩]

/-- A specifier that is text, or nothing. -/
def Format.ofText (text : List Char) : Format := .ofTemplate (Template.ofText text) default

/-- A specifier is plain if it is text without braces. -/
structure Format.IsPlain (f : Format) : Prop where
  literal : Template.hasPlaceholders f.template = false
  chars : ∀ c ∈ (Template.literalText f.template).toList, Parser.isBrace c = false

/-- All specifiers at the top level of a template are plain. -/
def Template.PlainFormats (t : Template) : Prop :=
  ∀ p, .placeholder p ∈ t → ∀ f ∈ p.format, f.IsPlain

theorem Template.PlainFormats.tail {n : Node} {ns : Template} (h : PlainFormats (n :: ns)) :
    PlainFormats ns := fun p hp ↦ h p (List.mem_cons_of_mem n hp)

theorem Template.literalText_content (t : Template) :
    literalText (content t) = t.literalText := by
  induction t with
  | nil => rfl
  | cons n ns ih =>
    cases n <;> rw [content, literalText_cons, literalText_cons, ih] <;> rfl

theorem Template.literalText_literal (l : Literal) : literalText [.literal l] = l.text := by
  rw [literalText_cons, literalText, List.map_nil, String.join_nil, String.append_empty]
  rfl

theorem Template.literalText_ofText (text : List Char) :
    (ofText text).literalText = String.ofList text := by
  unfold ofText
  split
  · rename_i htext
    rw [htext]
    rfl
  · exact literalText_literal _

/-- A well-formed template without placeholders is one literal, or nothing. -/
theorem Template.content_ofText {t : Template} (hwf : WellFormed t)
    (ht : t.hasPlaceholders = false) : content (ofText t.literalText.toList) = content t := by
  match t, hwf with
  | [], _ => rfl
  | [.literal l], ⟨hne, _, _⟩ =>
    have htext : l.text.toList ≠ [] := fun h ↦ hne (String.toList_eq_nil_iff.mp h)
    rw [literalText_literal, ofText, if_neg htext, String.ofList_toList]
    rfl
  | .literal l :: .literal l' :: ns, ⟨_, hseparate, _⟩ => exact Bool.noConfusion hseparate
  | .literal l :: .placeholder p :: ns, _ => exact Bool.noConfusion ht
  | .placeholder p :: ns, _ => exact Bool.noConfusion ht

theorem Format.content_ofText {f : Format} (hwf : WellFormed? (some f)) (hf : f.IsPlain) :
    content? (some (ofText (Template.literalText f.template).toList)) = content? (some f) := by
  obtain ⟨template, head, span⟩ := f
  obtain ⟨htemplate, rfl⟩ := hwf
  have hcontent := Template.content_ofText htemplate hf.literal
  simp only [Format.ofText, Format.ofTemplate, content?, hcontent,
    FormatterHead.content_extract? hcontent]

/-! ## Printing -/

/-- A plain specifier behind a colon. -/
def Format.plainChars? : Option Format → List Char
  | none => []
  | some f => ':' :: (Template.literalText f.template).toList

/-- A placeholder with a plain specifier, in braces. -/
def Placeholder.plainChars (p : Placeholder) : List Char :=
  '{' :: (Parser.pathText p.selectors ++ (widthText p.alignment ++
    (Format.plainChars? p.format ++ ['}'])))

/-- The characters of a template, with the braces of its literals doubled. -/
def Template.doubledChars : Template → List Char
  | [] => []
  | .literal l :: ns => l.text.toList.flatMap Parser.doubleBrace ++ doubledChars ns
  | .placeholder p :: ns => p.plainChars ++ doubledChars ns

/-- The text of a template where doubled braces are literal ones. -/
def Template.printDoubled (t : Template) : String := String.ofList t.doubledChars

/-! ## What is read instead -/

/-- The closing braces at the front of a text. -/
def closingBraces (text : List Char) : List Char := text.takeWhile (· == '}')

/-- A text without the closing braces at its front. -/
def behindClosingBraces (text : List Char) : List Char := text.dropWhile (· == '}')

/-- The template in which every specifier has taken the closing braces that stand behind its
placeholder. -/
def Template.absorb : Template → Template
  | [] => []
  | .placeholder ⟨selectors, width, some f, raw, span⟩ :: .literal l :: ns =>
    .placeholder ⟨selectors, width,
        some (.ofText ((literalText f.template).toList ++ closingBraces l.text.toList)),
        raw, span⟩ ::
      (ofText (behindClosingBraces l.text.toList) ++ absorb ns)
  | n :: ns => n :: absorb ns

/-- A literal brace that closes stands directly behind a placeholder with a specifier. -/
def Template.Clashes (t : Template) : Prop :=
  ∃ p l, [.placeholder p, .literal l] <:+: t ∧ p.format.isSome = true ∧
    l.text.toList.head? = some '}'

theorem eq_of_mem_closingBraces {text : List Char} {c : Char} (h : c ∈ closingBraces text) :
    c = '}' := eq_of_beq (List.mem_takeWhile_imp (p := (· == '}')) h)

theorem closingBraces_append (text : List Char) :
    closingBraces text ++ behindClosingBraces text = text := List.takeWhile_append_dropWhile

theorem behindClosingBraces_ne (text : List Char) (rest : List Char) :
    behindClosingBraces text ≠ '}' :: rest := by
  intro h
  have hhead := List.head?_dropWhile_not (· == '}') text
  rw [show text.dropWhile (· == '}') = '}' :: rest from h] at hhead
  exact Bool.noConfusion hhead

theorem closingBraces_eq_nil_iff {text : List Char} :
    closingBraces text = [] ↔ text.head? ≠ some '}' := by
  cases text with
  | nil => exact ⟨fun _ ↦ nofun, fun _ ↦ rfl⟩
  | cons c cs =>
    rw [List.head?_cons, ne_eq, Option.some_inj, closingBraces, List.takeWhile_cons]
    by_cases hc : c = '}'
    · simp [hc]
    · simp [hc]

namespace Template

/-- A template clashes in front or behind. -/
theorem clashes_cons_iff {n : Node} {ns : Template} :
    Clashes (n :: ns) ↔
      (∃ p l, [.placeholder p, .literal l] <+: n :: ns ∧ p.format.isSome = true ∧
        l.text.toList.head? = some '}') ∨ Clashes ns := by
  constructor
  · rintro ⟨p, l, hinfix, hp, hl⟩
    rcases List.infix_cons_iff.mp hinfix with hprefix | hinfix
    · exact Or.inl ⟨p, l, hprefix, hp, hl⟩
    · exact Or.inr ⟨p, l, hinfix, hp, hl⟩
  · rintro (⟨p, l, hprefix, hp, hl⟩ | ⟨p, l, hinfix, hp, hl⟩)
    · exact ⟨p, l, hprefix.isInfix, hp, hl⟩
    · exact ⟨p, l, List.infix_cons_iff.mpr (Or.inr hinfix), hp, hl⟩

/-- A specifier followed by a literal clashes with it exactly if it takes something of it. -/
theorem clashes_formatted_iff {selectors : List Selector} {width : Option Int32} {f : Format}
    {raw : String} {span : Span} {l : Literal} {ns : Template} :
    Clashes (.placeholder ⟨selectors, width, some f, raw, span⟩ :: .literal l :: ns) ↔
      closingBraces l.text.toList ≠ [] ∨ Clashes ns := by
  have hliteral : Clashes (.literal l :: ns) ↔ Clashes ns := by
    refine clashes_cons_iff.trans ⟨?_, Or.inr⟩
    rintro (⟨p, l', hprefix, _⟩ | hns)
    · exact absurd (List.cons_prefix_cons.mp hprefix).1 nofun
    · exact hns
  rw [clashes_cons_iff, hliteral, Ne, closingBraces_eq_nil_iff, not_not]
  refine or_congr_left ⟨?_, fun hl ↦ ⟨_, l, ⟨ns, rfl⟩, rfl, hl⟩⟩
  rintro ⟨p, l', hprefix, _, hl⟩
  obtain ⟨-, hprefix⟩ := List.cons_prefix_cons.mp hprefix
  obtain ⟨hl', -⟩ := List.cons_prefix_cons.mp hprefix
  rwa [← Node.literal.inj hl']

/-- Any other node clashes with nothing behind it. -/
theorem clashes_cons_iff_of_ne {n : Node} {ns : Template}
    (h : ∀ selectors width f raw span l ns',
      n = .placeholder ⟨selectors, width, some f, raw, span⟩ → ns = .literal l :: ns' → False) :
    Clashes (n :: ns) ↔ Clashes ns := by
  refine clashes_cons_iff.trans ⟨?_, Or.inr⟩
  rintro (⟨⟨selectors, width, format, raw, span⟩, l, ⟨ns', hprefix⟩, hp, hl⟩ | hns)
  · obtain ⟨hn, hns⟩ := List.cons.inj hprefix
    obtain ⟨f, rfl⟩ := Option.isSome_iff_exists.mp hp
    exact (h _ _ _ _ _ _ _ hn.symm hns.symm).elim
  · exact hns

theorem not_clashes_nil : ¬ Clashes [] := by
  rintro ⟨p, l, hinfix, _⟩
  exact absurd (List.infix_nil.mp hinfix) nofun

theorem content_append (t t' : Template) : content (t ++ t') = content t ++ content t' := by
  induction t with
  | nil => rfl
  | cons n ns ih =>
    cases n <;> rw [List.cons_append, content, content, ih, List.cons_append]

theorem content_cons_eq_iff {n n' : Node} {ns ns' : Template} :
    content (n :: ns) = content (n' :: ns') ↔
      content [n] = content [n'] ∧ content ns = content ns' := by
  rw [← List.singleton_append, content_append, ← List.singleton_append (l := ns'), content_append]
  have hlength : (content [n]).length = (content [n']).length := by cases n <;> cases n' <;> rfl
  exact ⟨fun h ↦ List.append_inj h hlength, fun ⟨h, h'⟩ ↦ h ▸ h' ▸ rfl⟩

theorem WellFormed.tail {n : Node} {ns : Template} (h : WellFormed (n :: ns)) : WellFormed ns := by
  cases n with
  | literal l => exact h.2.2
  | placeholder p => exact h.2

/-- A specifier that takes something has another text afterwards. -/
theorem content_formatted_eq_iff {selectors : List Selector} {width : Option Int32} {f : Format}
    {raw : String} {span : Span} (hwf : Format.WellFormed? (some f)) (hf : f.IsPlain)
    (taken : List Char) :
    content [.placeholder ⟨selectors, width,
          some (.ofText ((literalText f.template).toList ++ taken)), raw, span⟩] =
        content [.placeholder ⟨selectors, width, some f, raw, span⟩] ↔ taken = [] := by
  constructor
  · intro h
    obtain ⟨template, head, place⟩ := f
    have hplaceholder := Node.placeholder.inj (List.cons.inj h).1
    have hformat : Format.content? (some (.ofText ((literalText template).toList ++ taken))) =
      Format.content? (some ⟨template, head, place⟩) := congrArg Placeholder.format hplaceholder
    have htext := congrArg (literalText ∘ Format.template) (Option.some.inj hformat)
    simp only [Function.comp_apply, literalText_content, literalText_ofText] at htext
    have hlist := congrArg String.toList htext
    rw [String.toList_ofList] at hlist
    exact List.append_cancel_left (hlist.trans (List.append_nil _).symm)
  · rintro rfl
    have hcontent := Format.content_ofText hwf hf
    simp only [content, Placeholder.content, List.append_nil, hcontent]

/-- Nothing is absorbed exactly if nothing clashes. -/
theorem content_absorb_iff {t : Template} (hwf : WellFormed t) (hplain : t.PlainFormats) :
    content t.absorb = content t ↔ ¬ t.Clashes := by
  fun_induction absorb t with
  | case1 => exact iff_of_true rfl not_clashes_nil
  | case2 selectors width f raw span l ns ih =>
    obtain ⟨⟨-, hf⟩, hne, -, hns⟩ := hwf
    rw [content_cons_eq_iff, content_formatted_eq_iff hf (hplain _ List.mem_cons_self f rfl),
      clashes_formatted_iff, not_or, not_not]
    refine and_congr_right fun hclosing ↦ ?_
    -- The literal was left as it is.
    have hbehind : behindClosingBraces l.text.toList = l.text.toList := by
      have happend := closingBraces_append l.text.toList
      rwa [hclosing] at happend
    have htext : l.text.toList ≠ [] := fun h ↦ hne (String.toList_eq_nil_iff.mp h)
    rw [hbehind, ofText, if_neg htext, String.ofList_toList, List.singleton_append,
      content_cons_eq_iff, ← ih hns hplain.tail.tail]
    exact and_iff_right rfl
  | case3 n ns hother ih =>
    rw [content_cons_eq_iff, clashes_cons_iff_of_ne hother, ← ih hwf.tail hplain.tail]
    exact and_iff_right rfl

/-- Characters of literal text in front of a template that has none in front. -/
theorem foldr_consChar_content {t : Template} (ht : t.startsLiteral = false) (cs : List Char) :
    cs.foldr (consChar · default) (content t) = content (ofText cs ++ t) := by
  by_cases hcs : cs = []
  · subst hcs
    rfl
  · rw [Parser.foldr_consChar hcs ((Parser.startsLiteral_content t).trans ht), ofText, if_neg hcs]
    rfl

theorem startsLiteral_absorb (t : Template) : t.absorb.startsLiteral = t.startsLiteral := by
  fun_cases absorb t with
  | case1 => rfl
  | case2 => rfl
  | case3 n ns => cases n <;> rfl

/-- Where no literal comes first, no closing brace does. -/
theorem doubledChars_ne {t : Template} (ht : t.startsLiteral = false) (rest : List Char) :
    t.doubledChars ≠ '}' :: rest := by
  match t, ht with
  | [], _ => exact nofun
  | .placeholder p :: ns, _ => exact fun h ↦ absurd (List.cons.inj h).1 (by decide)

end Template

/-! ## Reading what was printed -/

namespace Parser

/-- Reading where a doubled brace is a literal one. -/
abbrev ReadsDoubled (scope : Scope) (k : Cursor) (ps : List Piece) (next : Cursor) : Prop :=
  Reads .doubledBrace (closes .doubledBrace) scope k ps next

theorem spelling_doubleBrace (c : Char) : Spelling .doubledBrace (doubleBrace c) c := by
  unfold doubleBrace
  split
  · rename_i hc
    exact .doubled hc
  · rename_i hc
    exact .plain (Bool.eq_false_iff.mpr hc) nofun

theorem flatMap_doubleBrace {text : List Char} (h : ∀ c ∈ text, isBrace c = false) :
    text.flatMap doubleBrace = text := by
  induction text with
  | nil => rfl
  | cons c text ih =>
    obtain ⟨hc, htext⟩ := List.forall_mem_cons.mp h
    have hdouble : doubleBrace c = [c] := by simp [doubleBrace, hc]
    rw [List.flatMap_cons, hdouble, ih htext, List.singleton_append]

/-- Among closing braces it does not matter which of them comes first. -/
theorem cons_flatMap_doubleBrace {text : List Char} (h : ∀ c ∈ text, c = '}') :
    '}' :: text.flatMap doubleBrace = text.flatMap doubleBrace ++ ['}'] := by
  induction text with
  | nil => rfl
  | cons c text ih =>
    obtain ⟨rfl, htext⟩ := List.forall_mem_cons.mp h
    rw [List.flatMap_cons, List.append_assoc, ← ih htext]
    rfl

theorem flatMap_doubleBrace_append_ne {text tail : List Char}
    (htext : ∀ rest, text ≠ '}' :: rest) (htail : ∀ rest, tail ≠ '}' :: rest) (rest : List Char) :
    text.flatMap doubleBrace ++ tail ≠ '}' :: rest := by
  cases text with
  | nil => exact htail rest
  | cons c text =>
    intro h
    have hc : c = '}' := by
      rw [List.flatMap_cons] at h
      unfold doubleBrace at h
      split at h <;> exact (List.cons.inj h).1
    exact htext text (hc ▸ rfl)

theorem closesDoubled_append {text rest : List Char} {depth : Nat}
    (h : ∀ c ∈ text, isBrace c = false) :
    closesDoubled depth (text ++ rest) = closesDoubled depth rest := by
  induction text with
  | nil => rfl
  | cons c text ih =>
    obtain ⟨hc, htext⟩ := List.forall_mem_cons.mp h
    obtain ⟨hopen, hclose⟩ := isBrace_eq_false_iff.mp hc
    have hstep : closesDoubled depth (c :: (text ++ rest)) =
        closesDoubled depth (text ++ rest) := by
      cases depth <;> simp [closesDoubled, hclose]
    rw [List.cons_append, hstep]
    exact ih htext

theorem IsPlain.isBrace {text : List Char} (h : IsPlain text) : ∀ c ∈ text, isBrace c = false :=
  fun c hc ↦ isBrace_eq_false_iff.mpr ⟨(h c hc).1, (h c hc).2.1⟩

theorem ReadsPath.rest_ne {leading : Bool} {k next : Cursor} {ss : List Selector}
    (h : ReadsPath leading k ss next) (tail : List Char) : k.rest ≠ '{' :: tail := by
  have hsegment : ∀ {mid s}, ReadsSegment leading k s mid → k.rest ≠ '{' :: tail := by
    rintro mid s ⟨text, hpass, ⟨hne, hchars⟩, _⟩ hrest
    obtain ⟨c, text, rfl⟩ := List.exists_cons_of_ne_nil hne
    obtain rfl : c = '{' := (List.cons.inj (hpass.rest.symm.trans hrest)).1
    have hopen : isSelectorChar '{' = false := isSelectorChar_eq_false_of_mem List.mem_cons_self
    exact Bool.false_ne_true (hopen.symm.trans (hchars '{' List.mem_cons_self))
  cases h with
  | last hs _ => exact hsegment hs
  | dot hs _ _ => exact hsegment hs

/-- A placeholder is read up to its specifier if a closing brace comes behind. -/
theorem readsDoubled_head {k mid : Cursor} {selectors : List Selector} {width : Option Int32}
    {c : Char} {tail : List Char} (hpath : Selector.WellFormedPath selectors)
    (hpass : k.Passes ('{' :: (pathText selectors ++ widthText width)) mid)
    (hmid : mid.rest = c :: tail) (hc : c = ':' ∨ c = '}')
    (hcloses : closesDoubled 0 mid.rest = true) :
    ∃ selectors', ReadsHead .doubledBrace (closes .doubledBrace) k selectors' width mid ∧
      selectors'.map Selector.content = selectors.map Selector.content := by
  have hopen : k.rest = '{' :: (pathText selectors ++ widthText width ++ mid.rest) := hpass.rest
  obtain ⟨selectors', stop, hread, hwidth, hcontent⟩ :=
    reads_path_width hpath (hpass.tail hopen rfl) hmid hc
  obtain ⟨text, htext, hstop⟩ := hwidth.passes_plain
  have hrest : pathText selectors ++ widthText width ++ mid.rest =
      pathText selectors' ++ text ++ mid.rest := (hread.passes.trans hstop).rest
  have hscan : closesDoubled 0 (pathText selectors ++ widthText width ++ mid.rest) = true := by
    rw [hrest, closesDoubled_append (hread.isPlain.append htext).isBrace]
    exact hcloses
  have hfront : front .doubledBrace k.rest = .opening _ :=
    front_eq_opening_iff.mpr ⟨hopen, fun _ ↦ hread.rest_ne⟩
  exact ⟨selectors', .mk hfront hscan hread hwidth, hcontent⟩

theorem readsDoubled_bare {k mid : Cursor} {selectors : List Selector} {width : Option Int32}
    (hpath : Selector.WellFormedPath selectors)
    (hpass : k.Passes ('{' :: (pathText selectors ++ (widthText width ++ ['}']))) mid) :
    ∃ p, (∀ {ps next}, ReadsDoubled .root mid ps next →
        ReadsDoubled .root k (.placeholder p :: ps) next) ∧
      p.content = ⟨selectors.map Selector.content, width, none, "", default⟩ := by
  obtain ⟨offset, rest⟩ := mid
  rw [← List.append_assoc, ← List.cons_append] at hpass
  obtain ⟨stop, hhead, hclose⟩ := hpass.split
  have hstop : stop.rest = '}' :: rest := hclose.rest
  have hcloses : closesDoubled 0 stop.rest = true := by rw [hstop]; rfl
  obtain ⟨selectors', hread, hcontent⟩ :=
    readsDoubled_head hpath hhead hstop (Or.inr rfl) hcloses
  obtain rfl : offset = stop.offset + 1 := hclose.offset
  refine ⟨_, fun hps ↦ .bare hread hstop hps, ?_⟩
  simp only [placeholderAt, Placeholder.content, Format.content?, hcontent]

/-- The closing braces behind a placeholder with a specifier are read as a part of the latter. -/
theorem readsDoubled_formatted {k mid : Cursor} {selectors : List Selector} {width : Option Int32}
    {text closing : List Char} (hpath : Selector.WellFormedPath selectors)
    (htext : ∀ c ∈ text, isBrace c = false) (hclosing : ∀ c ∈ closing, c = '}')
    (hpass : k.Passes ('{' :: (pathText selectors ++ (widthText width ++ (':' :: text ++ ['}']))) ++
      closing.flatMap doubleBrace) mid)
    (hmid : ∀ rest, mid.rest ≠ '}' :: rest) :
    ∃ p, (∀ {ps next}, ReadsDoubled .root mid ps next →
        ReadsDoubled .root k (.placeholder p :: ps) next) ∧
      p.content = ⟨selectors.map Selector.content, width,
        Format.content? (some (.ofText (text ++ closing))), "", default⟩ := by
  -- The brace that should have ended the placeholder changes places with the others.
  have hchars : '{' :: (pathText selectors ++ (widthText width ++ (':' :: text ++ ['}']))) ++
      closing.flatMap doubleBrace = '{' :: (pathText selectors ++ widthText width) ++
        (':' :: (text ++ closing).flatMap doubleBrace ++ ['}']) := by
    rw [List.flatMap_append, flatMap_doubleBrace htext]
    have hswap := cons_flatMap_doubleBrace hclosing
    simp only [List.cons_append, List.append_assoc, List.nil_append, ← hswap]
  rw [hchars] at hpass
  obtain ⟨offset, rest⟩ := mid
  obtain ⟨colon, hhead, hpass⟩ := hpass.split
  obtain ⟨stop, hspecifier, hclose⟩ := hpass.split
  have hcolon : colon.rest = ':' :: ((text ++ closing).flatMap doubleBrace ++ stop.rest) :=
    hspecifier.rest
  have hstop : stop.rest = '}' :: rest := hclose.rest
  have hcloses : closesDoubled 0 colon.rest = true := by
    have hplain : ∀ c ∈ ':' :: text, isBrace c = false := List.forall_mem_cons.mpr ⟨rfl, htext⟩
    have hscanned : colon.rest = (':' :: text) ++ '}' :: (closing.flatMap doubleBrace ++ rest) := by
      rw [hcolon, hstop, List.flatMap_append, flatMap_doubleBrace htext, List.append_assoc,
        List.append_cons, ← cons_flatMap_doubleBrace hclosing]
      rfl
    rw [hscanned, closesDoubled_append hplain]
    rfl
  obtain ⟨selectors', hread, hcontent⟩ :=
    readsDoubled_head hpath hhead hcolon (Or.inl rfl) hcloses
  have hend : ReadsDoubled .format stop [] stop :=
    .close (front_eq_closing_iff.mpr ⟨rest, hstop, fun _ ↦ hmid⟩)
  obtain ⟨qs, hqs, hbody⟩ :=
    reads_literal spelling_doubleBrace (text ++ closing) (hspecifier.tail hcolon rfl) hend
  have hspecified : Template.content (Piece.gather qs) =
      Template.content (Template.ofText (text ++ closing)) := by
    have hfold := Template.foldr_consChar_content (t := []) rfl (text ++ closing)
    rw [hbody, ← List.append_nil (Template.ofText _), ← hfold]
    rfl
  obtain rfl : offset = stop.offset + 1 := hclose.offset
  refine ⟨_, fun hps ↦ .formatted hread hcolon hqs hstop hps, ?_⟩
  simp only [placeholderAt, Format.ofText, Format.ofTemplate, Placeholder.content, Format.content?,
    hcontent, hspecified, FormatterHead.content_extract? hspecified]

theorem readsDoubled_chars {t : Template} {k next : Cursor} (hwf : Template.WellFormed t)
    (hplain : t.PlainFormats) (hpass : k.Passes t.doubledChars next) (hnext : next.rest = []) :
    ∃ ps, ReadsDoubled .root k ps next ∧
      Template.content (Piece.gather ps) = Template.content t.absorb := by
  fun_induction Template.absorb t generalizing k with
  | case1 =>
    obtain rfl := hpass.eq_of_nil
    exact ⟨[], .finish hnext, rfl⟩
  | case2 selectors width f raw span l ns ih =>
    obtain ⟨⟨hpath, -⟩, -, hseparate, hns⟩ := hwf
    have hf := hplain _ List.mem_cons_self f rfl
    have hchars : Template.doubledChars
        (.placeholder ⟨selectors, width, some f, raw, span⟩ :: .literal l :: ns) =
          (Placeholder.plainChars ⟨selectors, width, some f, raw, span⟩ ++
              (closingBraces l.text.toList).flatMap doubleBrace) ++
            ((behindClosingBraces l.text.toList).flatMap doubleBrace ++
              Template.doubledChars ns) := by
      rw [Template.doubledChars, Template.doubledChars, List.append_assoc, ← List.append_assoc
        (List.flatMap _ _), ← List.flatMap_append, closingBraces_append]
    rw [hchars] at hpass
    obtain ⟨mid, hplaceholder, hpass⟩ := hpass.split
    obtain ⟨behind, hliteral, hrest⟩ := hpass.split
    obtain ⟨ps, hps, hcontent⟩ := ih hns hplain.tail.tail hrest
    obtain ⟨qs, hqs, hgather⟩ := reads_literal spelling_doubleBrace _ hliteral hps
    have hmid : ∀ rest, mid.rest ≠ '}' :: rest := by
      rw [hpass.rest, hnext, List.append_nil]
      exact flatMap_doubleBrace_append_ne (behindClosingBraces_ne _)
        (Template.doubledChars_ne hseparate)
    obtain ⟨p, hread, hp⟩ := readsDoubled_formatted hpath hf.chars
      (fun _ ↦ eq_of_mem_closingBraces) hplaceholder hmid
    have htail := (Template.startsLiteral_absorb ns).trans hseparate
    refine ⟨_, hread hqs, ?_⟩
    rw [Piece.gather_placeholder, Template.content, Template.content, hp, hgather, hcontent,
      Template.foldr_consChar_content htail]
    rfl
  | case3 n ns hother ih =>
    obtain ⟨mid, hnode, hrest⟩ : ∃ mid, k.Passes (Template.doubledChars [n]) mid ∧
        mid.Passes (Template.doubledChars ns) next := by
      refine Cursor.Passes.split ?_
      cases n <;> simpa only [Template.doubledChars, List.append_nil] using hpass
    obtain ⟨ps, hps, hcontent⟩ := ih hwf.tail hplain.tail hrest
    match n, hwf, hnode with
    | .literal l, ⟨hne, hseparate, _⟩, hnode =>
      rw [Template.doubledChars, Template.doubledChars, List.append_nil] at hnode
      obtain ⟨qs, hqs, hgather⟩ := reads_literal spelling_doubleBrace _ hnode hps
      have htail := (Template.startsLiteral_absorb ns).trans hseparate
      have htext : l.text.toList ≠ [] := fun h ↦ hne (String.toList_eq_nil_iff.mp h)
      refine ⟨qs, hqs, ?_⟩
      rw [hgather, hcontent, Template.foldr_consChar_content htail, Template.ofText, if_neg htext,
        String.ofList_toList]
      rfl
    | .placeholder ⟨selectors, width, none, raw, span⟩, ⟨⟨hpath, _⟩, _⟩, hnode =>
      rw [Template.doubledChars, Template.doubledChars, List.append_nil] at hnode
      obtain ⟨p, hread, hp⟩ := readsDoubled_bare hpath hnode
      refine ⟨_, hread hps, ?_⟩
      rw [Piece.gather_placeholder, Template.content, Template.content, hp, hcontent]
      rfl
    | .placeholder ⟨selectors, width, some f, raw, span⟩, ⟨⟨hpath, hspecifier⟩, _⟩, hnode =>
      have hf := hplain _ List.mem_cons_self f rfl
      have hseparate : Template.startsLiteral ns = false := by
        match ns, hother with
        | [], _ => rfl
        | .placeholder p :: ns, _ => rfl
        | .literal l :: ns, hother => exact (hother _ _ _ _ _ _ _ rfl rfl).elim
      have hmid : ∀ rest, mid.rest ≠ '}' :: rest := by
        rw [hrest.rest, hnext, List.append_nil]
        exact Template.doubledChars_ne hseparate
      obtain ⟨p, hread, hp⟩ := readsDoubled_formatted hpath hf.chars
        (List.forall_mem_nil (· = '}')) hnode hmid
      refine ⟨_, hread hps, ?_⟩
      rw [List.append_nil, Format.content_ofText hspecifier hf] at hp
      rw [Piece.gather_placeholder, Template.content, Template.content, hp, hcontent]
      rfl

end Parser

/-- **Printing with doubled braces.** A well-formed template whose specifiers are plain is read back
from its text exactly if no literal brace that closes stands directly behind a placeholder with a
specifier. If one does, the text is a template still: the specifier has taken it, with those that
follow it. -/
theorem Template.parse_printDoubled {t : Template} (hwf : WellFormed t) (hplain : t.PlainFormats) :
    ∃ t', parse .doubledBrace t.printDoubled = .ok t' ∧ content t' = content t.absorb ∧
      (content t' = content t ↔ ¬ t.Clashes) := by
  have hpass : (Cursor.ofString t.printDoubled).Passes t.doubledChars
      ⟨byteWidth t.doubledChars, []⟩ := by
    constructor
    · rw [Cursor.ofString, printDoubled, String.toList_ofList, List.append_nil]
    · exact (Nat.zero_add _).symm
  obtain ⟨ps, hps, hcontent⟩ := Parser.readsDoubled_chars hwf hplain hpass rfl
  refine ⟨_, parse_eq_ok_iff.mpr ⟨ps, _, hps, rfl⟩, hcontent, ?_⟩
  rw [hcontent]
  exact content_absorb_iff hwf hplain

/-- A placeholder with a specifier, and a literal behind it. -/
def Template.doubledSample (text : String) : Template :=
  let path : List Selector := [.ofText "a" default true]
  let specifier : Format := .ofTemplate [.literal ⟨"b", default⟩] default
  [.placeholder ⟨path, none, some specifier, "", default⟩, .literal ⟨text, default⟩]

theorem Template.wellFormed_doubledSample (text : String) (h : text ≠ "") :
    WellFormed (doubledSample text) := by
  have hchars : "a".toList.all Parser.isSelectorChar = true := by decide +kernel
  have hpart : (Selector.ofText "a" default true).WellFormed true :=
    ⟨by decide, List.all_eq_true.mp hchars, rfl⟩
  exact ⟨⟨⟨hpart, nofun⟩, ⟨by decide, rfl, trivial⟩, rfl⟩, h, rfl, trivial⟩

theorem Template.plainFormats_doubledSample (text : String) :
    (doubledSample text).PlainFormats := by
  intro p hp f hf
  have hmem : p = ⟨[.ofText "a" default true], none,
      some (.ofTemplate [.literal ⟨"b", default⟩] default), "", default⟩ := by
    simpa [doubledSample] using hp
  subst hmem
  obtain rfl := Option.some.inj hf
  have hchars : "b".toList.all (!Parser.isBrace ·) = true := rfl
  exact ⟨rfl, fun c hc ↦ (Bool.not_eq_true' _).mp (List.all_eq_true.mp hchars c hc)⟩

/-- A literal that begins with an opening brace is kept apart from the specifier before it. -/
theorem Template.parse_printDoubled_openingSample :
    WellFormed (doubledSample "\x7b\x7d") ∧ (doubledSample "\x7b\x7d").PlainFormats ∧
      ∃ t', parse .doubledBrace "\x7ba:b\x7d\x7b\x7b\x7d\x7d" = .ok t' ∧
        content t' = content (doubledSample "\x7b\x7d") := by
  have hwf := wellFormed_doubledSample "\x7b\x7d" (by decide)
  have hplain := plainFormats_doubledSample "\x7b\x7d"
  have hclash : ¬ (doubledSample "\x7b\x7d").Clashes := by
    rw [doubledSample, clashes_formatted_iff]
    exact not_or.mpr ⟨fun h ↦ h rfl, not_clashes_nil⟩
  obtain ⟨t', hparse, _, hcontent⟩ := parse_printDoubled hwf hplain
  exact ⟨hwf, hplain, t', hparse, hcontent.mpr hclash⟩

/-- A literal that begins with a closing brace is not. -/
theorem Template.parse_printDoubled_closingSample :
    WellFormed (doubledSample "\x7d") ∧ (doubledSample "\x7d").PlainFormats ∧
      ¬ ∃ t', parse .doubledBrace (doubledSample "\x7d").printDoubled = .ok t' ∧
        content t' = content (doubledSample "\x7d") := by
  refine ⟨wellFormed_doubledSample _ (by decide), plainFormats_doubledSample _, ?_⟩
  rintro ⟨t', hparse, hcontent⟩
  have hread : ∃ p, parse .doubledBrace (doubledSample "\x7d").printDoubled =
      .ok [.placeholder p] := ⟨_, rfl⟩
  obtain ⟨p, hread⟩ := hread
  obtain rfl := Except.ok.inj (hread.symm.trans hparse)
  exact absurd (List.cons.inj hcontent).2 nofun

end TextTemplate
